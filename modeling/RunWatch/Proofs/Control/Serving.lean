import RunWatch.Control.Roster
import RunWatch.Proofs.Control.Guards
import RunWatch.Proofs.Control.Showing

/-!
# What handles give

The handle of a closed controller refuses every command from then on. The handle of an open one
that waits for nothing has each command answered, at once or when the server answers the request.
A controller that is done gives what it showed last when it is shut down.
-/

namespace RunWatch

namespace Controller

/-! ### Commands -/

/-- A command is answered at once, and not as by a closed controller, or its request is out. -/
inductive Responds (cmd : Command) (c c' : Controller) : Prop where
  | atOnce (result : Except ClientFailure Unit) (open_ : result ≠ .error .closed)
      (said : c'.answers = c.answers ++ [result])
  | later (waits : c'.awaiting = some cmd.kind) (silent : c'.answers = c.answers)

variable {c d : Controller} {cmd : Command}

theorem responds_reply {result : Except ClientFailure Unit} (open_ : result ≠ .error .closed)
    (silent : d.answers = c.answers) : Responds cmd c (d.reply result) :=
  .atOnce result open_ (by rw [answers_reply, silent])

theorem responds_command (cmd : Command) (c : Controller) : Responds cmd c (c.command cmd) := by
  cases cmd with
  | start workflow inputs =>
    simp only [command, start]
    split
    · exact responds_reply (by simp) rfl
    · split
      · exact responds_reply (by simp) rfl
      · refine .later rfl ?_
        rw [answers_openStream]
        exact (eases_stopWatchdog c).answers
  | pause =>
    simp only [command, pause]
    split
    · exact responds_reply (by simp) rfl
    · split
      · exact responds_reply (by simp) rfl
      · exact .later rfl (answers_request _ _ c)
  | resume =>
    simp only [command, resume]
    split
    · exact .later rfl (answers_openStream _ _ c)
    · exact responds_reply (by simp) rfl
  | cancel =>
    simp only [command, cancel]
    split
    · exact responds_reply (by simp) rfl
    · split
      · exact responds_reply (by simp) (eases_settle _ c).answers
      · exact .later rfl (answers_request _ _ c)

end Controller

namespace Operation

variable {o : Operation}

/-! ### Open controllers -/

/-- Each command is answered, whatever the server answers to its request, and unlike by a closed
controller, unless the server says just that. -/
def Serves (o : Operation) : Prop :=
  o.controller.closed = false ∧
    ∀ cmd e, e.answers cmd.kind = true →
      ∃ result, o.answer? cmd [e] = some result ∧
        (result = .error .closed → e.result? = some (.error .closed))

theorem serves_of_open (unclosed : o.controller.closed = false)
    (idle : o.controller.awaiting = none) (sent : o.controller.outbox = []) : o.Serves := by
  refine ⟨unclosed, fun cmd e answers => ?_⟩
  have nothing : o.controller.answers = [] := by rw [Controller.answers, sent]; rfl
  have replies := replies_command unclosed idle cmd
  rw [answer?, unclosed, if_neg Bool.false_ne_true]
  cases Controller.responds_command cmd o.controller with
  | atOnce result open_ said =>
    rw [said, nothing, List.nil_append] at replies
    exact ⟨result, by rw [outcome?, replies]; rfl, fun shut => absurd shut open_⟩
  | later waits silent =>
    rw [silent, nothing] at replies
    have taken : (o.step (.command cmd)).controller =
        { o.controller.command cmd with outbox := [] } := by
      rw [controller_of_input rfl]
      simp only [Controller.step, unclosed, idle, Bool.false_eq_true, if_false]
    have answered : (o.step (.command cmd)).replies e = e.result?.toList := by
      refine replies_of_answer (by rw [taken]; exact waits) ?_ (by rw [taken]) answers
      rw [taken]
      exact (Controller.closed_command cmd o.controller).trans unclosed
    cases said : e.result? with
    | none => exact absurd said (result_of_answers answers)
    | some result =>
      rw [said] at answered
      refine ⟨result, ?_, fun shut => by rw [shut]⟩
      simp only [outcome?, replies, answered, Option.toList, Option.map_some]

/-! ### Closed controllers -/

theorem closed_step (closed : o.controller.closed = true) (e : Event) :
    (o.step e).controller.closed = true := by
  cases takes : o.input? e with
  | none =>
    rw [controller_of_no_input takes]
    exact closed
  | some input =>
    rw [controller_of_input takes, Controller.step_of_closed closed]
    exact closed

theorem closed_run (events : List Event) (closed : o.controller.closed = true) :
    (events.foldl step o).controller.closed = true := by
  induction events generalizing o with
  | nil => exact closed
  | cons e events ih => exact ih (closed_step closed e)

/-- The controller is closed, and whatever happens, its handles say so to every command. -/
def Gone (o : Operation) : Prop :=
  o.controller.closed = true ∧
    ∀ (later : List Event) cmd more,
      (later.foldl step o).answer? cmd more = some (.error .closed)

theorem gone_of_closed (closed : o.controller.closed = true) : o.Gone := by
  refine ⟨closed, fun later cmd more => ?_⟩
  rw [answer?, closed_run later closed, if_pos rfl]

/-! ### Shutting down -/

theorem controller_shutDown (o : Operation) :
    (o.step .shutDown).controller = { o.controller.step 0 .shutDown with outbox := [] } := by
  -- A shutdown does not look at the clock.
  have timeless : o.controller.step o.now .shutDown = o.controller.step 0 .shutDown := by
    unfold Controller.step
    cases o.controller.awaiting <;> rfl
  rw [controller_of_input (e := .shutDown) rfl, timeless]

theorem gone_of_shutDown (idle : o.controller.awaiting = none) : (o.step .shutDown).Gone := by
  refine gone_of_closed ?_
  rw [controller_shutDown]
  cases closed : o.controller.closed with
  | true =>
    rw [Controller.step_of_closed closed]
    exact closed
  | false =>
    simp only [Controller.step, closed, idle, Bool.false_eq_true, if_false]
    rfl

theorem lastWord_of_idle (idle : o.controller.awaiting = none) :
    o.lastWord = o.controller.lastState := by
  unfold lastWord shutdown? Controller.lastState
  rw [controller_shutDown]
  cases closed : o.controller.closed with
  | true => rfl
  | false => simp only [Controller.step, closed, idle, Bool.false_eq_true, if_false]; rfl

/-- A controller that is done shows nothing new in the end, and its last word is what it showed. -/
theorem lastWord_of_finished {times : WatchTimes} {events : List Event}
    (idle : (after times events).controller.awaiting = none)
    (finished : (after times events).controller.finished = true) :
    (after times events).lastWord = (after times events).controller.view.state ∧
      ((after times events).step .shutDown).controller.view =
        (after times events).controller.view := by
  have orderly := orderly_after times events
  have shown := shown_after times events
  generalize after times events = o at *
  cases closed : o.controller.closed with
  | true =>
    refine ⟨by simp only [lastWord, shutdown?, closed, if_true, Option.getD_none], ?_⟩
    rw [controller_shutDown, Controller.step_of_closed closed]
  | false =>
    rw [Controller.finished, closed, Bool.or_false] at finished
    have rested : o.controller.Over := .of_coherent (orderly.coherent closed).1 shown idle finished
    obtain ⟨-, state, view⟩ := over_step rested (e := .shutDown) nofun
    refine ⟨?_, view⟩
    simp only [lastWord, shutdown?, closed, Bool.false_eq_true, if_false, Option.getD_some, state,
      rested.state_eq]

end Operation

end RunWatch
