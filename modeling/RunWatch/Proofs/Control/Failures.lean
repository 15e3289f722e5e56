import RunWatch.Proofs.Control.Refusals
import RunWatch.Proofs.Control.Views

/-!
# Commands that fail

A command that is refused, or whose request fails, leaves the run as it was. While a request is out
nothing but its answer moves the controller, so the answer finds the run as the command left it.
`failed_commands_leave_the_run` collects what a failed command of each kind comes to.
-/

namespace RunWatch

namespace Controller

variable {c : Controller}

/-! ### Answers to requests -/

theorem answers_opened (asked : Operation.awaitsStream c = true) (now : Nat)
    (result : Except StreamFailure Unit) :
    (c.opened now result).answers = c.answers ++ [result.mapError .stream] := by
  have begun (d : Controller) (same : d.answers = c.answers) :
      (d.armWatchdog.reply (.ok ())).answers = c.answers ++ [.ok ()] := by
    rw [answers_reply, answers_armWatchdog, same]
  unfold Operation.awaitsStream at asked
  unfold opened
  cases waiting : c.awaiting with
  | none => rw [waiting] at asked; cases asked
  | some kind =>
    cases kind with
    | start =>
      cases result with
      | ok => exact begun _ rfl
      | error failure => exact answers_reply _ _
    | resume =>
      cases result with
      | ok => exact begun _ (eases_settle _ (c.install now)).answers
      | error failure => exact answers_reply _ _
    | pause | cancel => rw [waiting] at asked; cases asked

theorem answers_acknowledged (asked : c.awaiting = some .pause ∨ c.awaiting = some .cancel)
    (result : Except ClientFailure Unit) :
    (c.acknowledged result).answers = c.answers ++ [result] := by
  have settled (x : RunState × Transition) :
      ((c.settle x).reply (.ok ())).answers = c.answers ++ [.ok ()] := by
    rw [answers_reply, (eases_settle x c).answers]
  unfold acknowledged
  rcases asked with waiting | waiting
  all_goals
    rw [waiting]
    cases result with
    | ok => exact settled _
    | error failure => exact answers_reply _ _

/-! ### Commands that are taken up -/

/-- Nothing is left to give up where a start is allowed. -/
theorem Coherent.still_of_canStart (h : Coherent c) (allowed : c.canStart = true) :
    c.streaming = false ∧ c.armed = false ∧ c.fetching = false := by
  simp only [canStart, RunState.canStart, Bool.and_eq_true, Bool.or_eq_true, decide_eq_true_eq,
    Bool.not_eq_true'] at allowed
  obtain ⟨phase, streaming⟩ := allowed
  rcases phase with pending | ends
  · rcases h.pending pending with ⟨open_, -⟩ | still
    · exact absurd (streaming.symm.trans open_) (by decide)
    · exact still
  · exact h.terminal ends

theorem start_of_allowed (allowed : c.canStart = true) {workflow : WorkflowId}
    (named : Text.blank workflow.text = false) (inputs : Option Json.Value) :
    c.command (.start workflow inputs) =
      ({ c.stopWatchdog with state := RunState.placeholder workflow } : Controller).openStream
        .start (.start workflow inputs) := by
  simp only [command, start, allowed, named, Bool.true_eq_false, Bool.false_eq_true, if_false]

theorem pause_of_allowed (allowed : c.state.canPause = true) {run : RunId}
    (id : c.state.id = some run) : c.command .pause = c.request .pause run := by
  simp only [command, pause, allowed, id, Bool.true_eq_false, if_false]

theorem pause_of_unconfirmed (allowed : c.state.canPause = true) (id : c.state.id = none) :
    c.command .pause = c.reply (.error (.command .unconfirmed)) := by
  simp only [command, pause, allowed, id, Bool.true_eq_false, if_false]

theorem resume_of_allowed (allowed : c.state.canResume = true) :
    ∃ workflow run, c.state.workflowId = some workflow ∧ c.state.id = some run ∧
      c.command .resume = c.openStream .resume (.resume workflow run) := by
  have known := allowed
  simp only [RunState.canResume, Bool.and_eq_true, Option.isSome_iff_exists] at known
  obtain ⟨⟨-, run, id⟩, workflow, named⟩ := known
  refine ⟨workflow, run, named, id, ?_⟩
  simp only [command, resume, allowed, named, id]

theorem cancel_of_allowed (allowed : c.allows .cancel = true) {run : RunId}
    (id : c.state.id = some run) : c.command .cancel = c.request .cancel run := by
  have live : ¬(c.state.isTerminal || (!c.streaming && c.state.id.isNone)) = true :=
    Bool.eq_false_iff.1 (Bool.not_eq_eq_eq_not.1 allowed)
  rw [command, cancel, if_neg live]
  simp only [id]

theorem cancel_of_unconfirmed (allowed : c.allows .cancel = true) (id : c.state.id = none) :
    c.command .cancel = (c.settle c.state.cancel).reply (.ok ()) := by
  have live : ¬(c.state.isTerminal || (!c.streaming && c.state.id.isNone)) = true :=
    Bool.eq_false_iff.1 (Bool.not_eq_eq_eq_not.1 allowed)
  rw [command, cancel, if_neg live]
  simp only [id]

end Controller

namespace Operation

/-- The event answers a request of this kind. -/
def Event.answers (kind : RunCommand) : Event → Bool
  | .streamAnswer _ => kind = .start || kind = .resume
  | .commandAnswer _ => kind = .pause || kind = .cancel
  | _ => false

/-- What a command comes to by the answer to its request. -/
def Event.result? : Event → Option (Except ClientFailure Unit)
  | .streamAnswer (.ok ()) => some (.ok ())
  | .streamAnswer (.error failure) => some (.error (.stream failure))
  | .commandAnswer result => some result
  | _ => none

variable {o o' : Operation}

/-! ### While a request is out -/

theorem take_of_still {input : Controller.Input}
    (still : o.controller.step o.now input = o.controller) (sent : o.controller.outbox = []) :
    o.take input = o := by
  have emptied : { o.controller with outbox := [] } = o.controller := by rw [← sent]
  simp only [take, Controller.takeOutbox, still, emptied, sent]
  rfl

theorem step_of_waiting {kind : RunCommand} (waiting : o.controller.awaiting = some kind)
    (sent : o.controller.outbox = []) {e : Event} (other : e.answers kind = false) :
    (o.step e).controller = o.controller ∧ (o.step e).activity = o.activity ∧
      o.effects e = [] := by
  have still (input : Controller.Input)
      (h : o.controller.step o.now input = o.controller) :
      (o.take input).controller = o.controller ∧ (o.take input).activity = o.activity ∧
        (o.controller.step o.now input).outbox = [] := by
    rw [take_of_still h sent, h]
    exact ⟨rfl, rfl, sent⟩
  cases e with
  | command cmd =>
    refine still _ ?_
    simp only [Controller.step, waiting, ite_self]
  | shutDown =>
    refine still _ ?_
    simp only [Controller.step, waiting, ite_self]
  | streamAnswer result =>
    have unasked : awaitsStream o.controller = false := by
      rw [awaitsStream, waiting]
      cases kind with
      | start | resume => cases other
      | pause | cancel => rfl
    simp [step, answerStream, effects, input?, unasked]
  | commandAnswer result =>
    refine still _ ?_
    simp only [Controller.step, waiting]
    cases kind with
    | start | resume => simp only [Controller.acknowledged, waiting, ite_self]
    | pause | cancel => cases other
  | signal | tick | fetched =>
    simp only [step, send, effects, input?]
    split <;> simp
  | deliver place => simp [step, deliver, effects, input?, waiting]
  | wait => exact ⟨rfl, rfl, rfl⟩

/-- The answer to a request is answered on. -/
theorem replies_of_answer {kind : RunCommand} (waiting : o.controller.awaiting = some kind)
    (unclosed : o.controller.closed = false) (sent : o.controller.outbox = []) {e : Event}
    (answers : e.answers kind = true) : o.replies e = e.result?.toList := by
  have nothing : o.controller.answers = [] := by rw [Controller.answers, sent]; rfl
  cases e with
  | streamAnswer result =>
    have asked : awaitsStream o.controller = true := by
      rw [awaitsStream, waiting]
      cases kind with
      | start | resume => rfl
      | pause | cancel => cases answers
    have taken : o.replies (.streamAnswer result) =
        (o.controller.opened o.now result).answers := by
      simp only [replies, effects, input?, asked, if_true, Controller.step, unclosed, waiting,
        Bool.false_eq_true, if_false]
      rfl
    rw [taken, Controller.answers_opened asked, nothing]
    cases result <;> rfl
  | commandAnswer result =>
    have asked : o.controller.awaiting = some .pause ∨ o.controller.awaiting = some .cancel := by
      rw [waiting]
      cases kind with
      | pause => exact .inl rfl
      | cancel => exact .inr rfl
      | start | resume => cases answers
    have taken : o.replies (.commandAnswer result) =
        (o.controller.acknowledged result).answers := by
      simp only [replies, effects, input?, Controller.step, unclosed, waiting,
        Bool.false_eq_true, if_false]
      rfl
    rw [taken, Controller.answers_acknowledged asked, nothing]
    rfl
  | _ => cases answers

theorem result_of_answers {kind : RunCommand} {e : Event} (answers : e.answers kind = true) :
    e.result? ≠ none := by
  cases e with
  | streamAnswer result => cases result <;> exact Option.some_ne_none _
  | commandAnswer result => exact Option.some_ne_none _
  | _ => cases answers

/-- A command that has to wait is answered when its request is, and until then nothing moves. -/
theorem exists_answer {kind : RunCommand} {events : List Event}
    {result : Except ClientFailure Unit} (waiting : o.controller.awaiting = some kind)
    (unclosed : o.controller.closed = false) (sent : o.controller.outbox = [])
    (h : o.outcome? events = some (result, o')) :
    ∃ (o₁ : Operation) (e : Event), o₁.controller = o.controller ∧ o₁.activity = o.activity ∧
      e.answers kind = true ∧ e.result? = some result ∧ o' = o₁.step e := by
  induction events generalizing o with
  | nil => cases h
  | cons e events ih =>
    cases answers : e.answers kind with
    | true =>
      refine ⟨o, e, rfl, rfl, answers, ?_⟩
      rw [outcome?, replies_of_answer waiting unclosed sent answers] at h
      cases said : e.result? with
      | none => exact absurd said (result_of_answers answers)
      | some r =>
        rw [said] at h
        cases h
        exact ⟨rfl, rfl⟩
    | false =>
      obtain ⟨controller, activity, silent⟩ := step_of_waiting waiting sent answers
      have unanswered : o.replies e = [] := by rw [replies, silent]; rfl
      simp only [outcome?, unanswered] at h
      rw [← controller] at waiting unclosed sent
      obtain ⟨o₁, e', same, same', rest⟩ := ih waiting unclosed sent h
      exact ⟨o₁, e', same.trans controller, same'.trans activity, rest⟩

/-! ### Failed commands -/

/-- An open controller between two inputs. -/
structure Ready (o : Operation) : Prop where
  unclosed : o.controller.closed = false
  idle : o.controller.awaiting = none
  sent : o.controller.outbox = []
  shown : o.controller.view = o.controller.present
  coherent : o.controller.Coherent

theorem ready_after {times : WatchTimes} {events : List Event}
    (unclosed : (after times events).controller.closed = false)
    (idle : (after times events).controller.awaiting = none) : Ready (after times events) where
  unclosed := unclosed
  idle := idle
  sent := (orderly_after times events).sent
  shown := shown_after times events idle
  coherent := ((orderly_after times events).coherent unclosed).1

/-- At most the number of the next stream has changed, and the same timer runs. -/
structure LeavesRun (o o' : Operation) : Prop where
  controller : ∃ stream, o'.controller = { o.controller with stream }
  timer : o'.activity.armed? = o.activity.armed?

theorem leavesRun_refl (o : Operation) : LeavesRun o o :=
  ⟨⟨_, rfl⟩, rfl⟩

/-- A start that was rejected leaves its placeholder with the reason, and nothing that runs. -/
structure RejectedStart (workflow : WorkflowId) (failure : StreamFailure) (c : Controller) :
    Prop where
  state : c.state = { RunState.placeholder workflow with error := some failure.message }
  streaming : c.streaming = false
  armed : c.armed = false
  fetching : c.fetching = false
  canStart : c.canStart = true
  shown : c.view = c.present

theorem step_command (h : Ready o) (cmd : Command) :
    o.controller.step o.now (.command cmd) = o.controller.command cmd := by
  simp only [Controller.step, h.unclosed, h.idle, Bool.false_eq_true, if_false]

theorem step_of_reply (h : Ready o) {cmd : Command} {result : Except ClientFailure Unit}
    (replies : o.controller.command cmd = o.controller.reply result) :
    o.step (.command cmd) = o ∧ o.effects (.command cmd) = [.reply result] := by
  have answered : o.controller.step o.now (.command cmd) =
      { o.controller with outbox := [.reply result] } := by
    rw [step_command h, replies, Controller.reply_of_shown h.shown, h.sent, ← h.idle]
    rfl
  refine ⟨?_, ?_⟩
  · have emptied : { o.controller with outbox := [] } = o.controller := by rw [← h.sent]
    simp only [step, take, answered, Controller.takeOutbox, emptied]
    rfl
  · simp only [effects, input?, answered]

theorem outcome_of_reply (h : Ready o) {cmd : Command} {result : Except ClientFailure Unit}
    (replies : o.controller.command cmd = o.controller.reply result) (more : List Event) :
    o.outcome? (.command cmd :: more) = some (result, o) := by
  obtain ⟨same, effects⟩ := step_of_reply h replies
  have replied : o.replies (.command cmd) = [result] := by rw [Operation.replies, effects]; rfl
  rw [outcome?, replied, same]

/-- A failed request gives the controller back as the command found it. -/
theorem step_of_failed {kind : RunCommand} (waiting : o.controller.awaiting = some kind)
    (unclosed : o.controller.closed = false) (sent : o.controller.outbox = [])
    (shown : o.controller.view = o.controller.present) (other : kind ≠ .start) {e : Event}
    (answers : e.answers kind = true) {failure : ClientFailure}
    (failed : e.result? = some (.error failure)) :
    (o.step e).controller = { o.controller with awaiting := none } ∧
      (o.step e).activity = o.activity := by
  have taken (input : Controller.Input)
      (h : o.controller.step o.now input = o.controller.reply (.error failure)) :
      (o.take input).controller = { o.controller with awaiting := none } ∧
        (o.take input).activity = o.activity := by
    rw [Controller.reply_of_shown shown, sent] at h
    simp only [take, h, Controller.takeOutbox]
    refine ⟨?_, rfl⟩
    rw [← sent]
  cases e with
  | streamAnswer result =>
    cases kind with
    | resume =>
      cases result with
      | ok => cases failed
      | error f =>
        cases failed
        have asked : awaitsStream o.controller = true := by rw [awaitsStream, waiting]; rfl
        simp only [step, answerStream, asked, if_true]
        refine taken _ ?_
        simp only [Controller.step, Controller.opened, unclosed, waiting, Bool.false_eq_true, if_false]
    | start => exact absurd rfl other
    | pause | cancel => cases answers
  | commandAnswer result =>
    cases failed
    refine taken _ ?_
    cases kind with
    | pause | cancel =>
      simp only [Controller.step, Controller.acknowledged, unclosed, waiting, Bool.false_eq_true,
        if_false]
    | start | resume => cases answers
  | _ => cases answers

/-- A command whose request fails leaves the run. -/
theorem leavesRun_of_request (h : Ready o) {cmd : Command} (kind : RunCommand)
    (other : kind ≠ .start) (stream : Nat) (effect : Effect) (aside : effect.reply? = none)
    (timer : (o.activity.perform effect).armed? = o.activity.armed?)
    (asks : o.controller.command cmd =
      { o.controller with awaiting := some kind, stream, outbox := [effect] })
    {more : List Event} {failure : ClientFailure}
    (fails : o.outcome? (.command cmd :: more) = some (.error failure, o')) : LeavesRun o o' := by
  have unanswered : o.replies (.command cmd) = [] := by
    simp only [replies, effects, input?, step_command h, asks, List.filterMap_cons, aside,
      List.filterMap_nil]
  have asked : (o.step (.command cmd)).controller =
      { o.controller with awaiting := some kind, stream } := by
    simp only [step, take, step_command h, asks, Controller.takeOutbox, ← h.sent]
  have timer' : (o.step (.command cmd)).activity.armed? = o.activity.armed? := by
    simp only [step, take, step_command h, asks, Controller.takeOutbox, Activity.performAll,
      List.foldl_cons, List.foldl_nil, timer]
  have waiting : (o.step (.command cmd)).controller.awaiting = some kind := by rw [asked]
  simp only [outcome?, unanswered] at fails
  obtain ⟨o₁, e, controller, activity, answers, failed, rfl⟩ :=
    exists_answer waiting (by rw [asked]; exact h.unclosed) (by rw [asked]; exact h.sent) fails
  have waiting₁ : o₁.controller.awaiting = some kind := by rw [controller, waiting]
  rw [asked] at controller
  obtain ⟨back, still⟩ := step_of_failed waiting₁ (by rw [controller]; exact h.unclosed)
    (by rw [controller]; exact h.sent) (by rw [controller]; exact h.shown) other answers failed
  refine ⟨⟨stream, ?_⟩, ?_⟩
  · rw [back, controller, ← h.idle]
  · rw [still, activity, timer']

theorem leavesRun_of_failure (h : Ready o) {cmd : Command} (other : cmd.kind ≠ .start)
    {more : List Event} {failure : ClientFailure}
    (fails : o.outcome? (.command cmd :: more) = some (.error failure, o')) : LeavesRun o o' := by
  have atOnce {result : Except ClientFailure Unit}
      (replies : o.controller.command cmd = o.controller.reply result) : LeavesRun o o' := by
    rw [outcome_of_reply h replies] at fails
    cases fails
    exact leavesRun_refl o
  cases allowed : o.controller.allows cmd.kind with
  | false => exact atOnce (Controller.command_of_not_allowed allowed)
  | true =>
    cases cmd with
    | start => exact absurd rfl other
    | pause =>
      cases id : o.controller.state.id with
      | none => exact atOnce (Controller.pause_of_unconfirmed allowed id)
      | some run =>
        refine leavesRun_of_request h .pause (by decide) o.controller.stream (.send .pause run) rfl
          rfl ?_ fails
        rw [Controller.pause_of_allowed allowed id, Controller.request, Controller.emit, h.sent]
        rfl
    | resume =>
      have paused : o.controller.state.phase = .paused := by
        have allowed : o.controller.state.canResume = true := allowed
        simp only [RunState.canResume, Bool.and_eq_true, decide_eq_true_eq] at allowed
        exact allowed.1.1
      -- A paused run has no stream, so closing it only uses up its number.
      have streaming := (h.coherent.paused paused).1
      obtain ⟨workflow, run, -, -, asks⟩ := Controller.resume_of_allowed allowed
      refine leavesRun_of_request h .resume (by decide) (o.controller.stream + 1)
        (.openStream (o.controller.stream + 1) (.resume workflow run)) rfl rfl ?_ fails
      rw [asks, Controller.openStream, Controller.closeStream_eq, streaming]
      simp [Controller.emit, h.sent, streaming]
    | cancel =>
      cases id : o.controller.state.id with
      | none =>
        -- Without an id the run is cancelled here, which does not fail.
        have replied : o.replies (.command .cancel) = [.ok ()] := by
          have taken : o.replies (.command .cancel) = (o.controller.command .cancel).answers := by
            rw [replies, effects, input?, ← step_command h]
            rfl
          rw [taken, Controller.cancel_of_unconfirmed allowed id, Controller.answers_reply,
            (Controller.eases_settle _ _).answers, Controller.answers, h.sent]
          rfl
        rw [outcome?, replied] at fails
        cases fails
      | some run =>
        refine leavesRun_of_request h .cancel (by decide) o.controller.stream (.send .cancel run) rfl
          rfl ?_ fails
        rw [Controller.cancel_of_allowed allowed id, Controller.request, Controller.emit, h.sent]
        rfl

/-- The controller while a start waits for its stream. -/
def starting (workflow : WorkflowId) (c : Controller) : Controller :=
  { c with
    state := RunState.placeholder workflow
    streaming := false
    stream := c.stream + 1
    armed := false
    fetching := false
    watchdog := c.watchdog + 1
    awaiting := some .start }

theorem step_start (h : Ready o) (allowed : o.controller.canStart = true)
    {workflow : WorkflowId} (named : Text.blank workflow.text = false)
    (inputs : Option Json.Value) :
    (o.step (.command (.start workflow inputs))).controller = starting workflow o.controller ∧
      o.replies (.command (.start workflow inputs)) = [] := by
  have asks := Controller.start_of_allowed allowed named inputs
  refine ⟨?_, ?_⟩
  · have taken : (o.step (.command (.start workflow inputs))).controller =
        { o.controller.command (.start workflow inputs) with outbox := [] } := by
      rw [← step_command h]
      rfl
    rw [taken, asks, Controller.openStream, Controller.closeStream_eq, Controller.stopWatchdog_eq,
      starting, h.sent]
    rfl
  · have taken : o.replies (.command (.start workflow inputs)) =
        (o.controller.command (.start workflow inputs)).answers := by
      rw [replies, effects, input?, ← step_command h]
      rfl
    rw [taken, asks, Controller.answers_openStream]
    refine (Controller.eases_stopWatchdog o.controller).answers.trans ?_
    rw [Controller.answers, h.sent]
    rfl

/-- All that goes out with a start is the request for its stream. -/
theorem outbox_start (h : Ready o) (allowed : o.controller.canStart = true) {workflow : WorkflowId}
    (named : Text.blank workflow.text = false) (inputs : Option Json.Value) :
    (o.controller.step o.now (.command (.start workflow inputs))).outbox =
      [.openStream (o.controller.stream + 1) (.start workflow inputs)] := by
  obtain ⟨streaming, armed, fetching⟩ := h.coherent.still_of_canStart allowed
  rw [step_command h, Controller.start_of_allowed allowed named, Controller.openStream,
    Controller.closeStream_eq, Controller.stopWatchdog_eq]
  simp [Controller.emit, streaming, armed, fetching, h.sent]

theorem rejectedStart_of_failure (h : Ready o) (allowed : o.controller.canStart = true)
    {workflow : WorkflowId} (named : Text.blank workflow.text = false)
    {inputs : Option Json.Value} {more : List Event} {failure : ClientFailure}
    (fails : o.outcome? (.command (.start workflow inputs) :: more) = some (.error failure, o')) :
    ∃ f, failure = .stream f ∧ RejectedStart workflow f o'.controller := by
  obtain ⟨asked, unanswered⟩ := step_start h allowed named inputs
  have waiting : (o.step (.command (.start workflow inputs))).controller.awaiting = some .start := by
    rw [asked]
    rfl
  simp only [outcome?, unanswered] at fails
  obtain ⟨o₁, e, controller, -, answers, failed, rfl⟩ :=
    exists_answer waiting (by rw [asked]; exact h.unclosed) (by rw [asked]; exact h.sent) fails
  rw [asked] at controller
  cases e with
  | streamAnswer result =>
    cases result with
    | ok => cases failed
    | error f =>
      cases failed
      refine ⟨f, rfl, ?_⟩
      have awaited : awaitsStream o₁.controller = true := by rw [controller]; rfl
      have taken : o₁.controller.step o₁.now (.opened (.error f)) =
          ({ starting workflow o.controller with
            state := (RunState.placeholder workflow).noteError f.message } : Controller).reply
              (.error (.stream f)) := by
        rw [controller]
        simp only [Controller.step, Controller.opened, starting, h.unclosed, Bool.false_eq_true,
          if_false]
      simp only [step, answerStream, awaited, if_true, take, taken, Controller.takeOutbox,
        Controller.reply, Controller.publish_eq]
      exact ⟨rfl, rfl, rfl, rfl, rfl, rfl⟩
  | commandAnswer => cases answers
  | _ => cases answers

/-- Commands that fail leave the run alone. A command that is not allowed, and a start without a
workflow, do nothing and call nothing; a request that fails gives the controller back as it was;
a rejected start leaves its placeholder with the reason. -/
theorem failed_commands_leave_the_run (times : WatchTimes) (events : List Event)
    (unclosed : (after times events).controller.closed = false)
    (idle : (after times events).controller.awaiting = none) :
    (∀ cmd, (after times events).controller.refuses (after times events).now cmd = true →
      (after times events).step (.command cmd) = after times events ∧
        (after times events).calls (.command cmd) = []) ∧
    (∀ workflow inputs, Text.blank workflow.text = true →
      (after times events).step (.command (.start workflow inputs)) = after times events ∧
        (after times events).calls (.command (.start workflow inputs)) = []) ∧
    (∀ cmd more failure o', cmd.kind ≠ .start →
      (after times events).outcome? (.command cmd :: more) = some (.error failure, o') →
        LeavesRun (after times events) o') ∧
    ∀ workflow inputs more failure o', (after times events).controller.canStart = true →
      Text.blank workflow.text = false →
      (after times events).outcome? (.command (.start workflow inputs) :: more) =
        some (.error failure, o') →
      ∃ f, failure = .stream f ∧ RejectedStart workflow f o'.controller := by
  have ready := ready_after unclosed idle
  generalize after times events = o at ready
  have still {cmd : Command} {failure : ClientFailure}
      (replies : o.controller.command cmd = o.controller.reply (.error failure)) :
      o.step (.command cmd) = o ∧ o.calls (.command cmd) = [] := by
    obtain ⟨same, effects⟩ := step_of_reply ready replies
    exact ⟨same, by rw [calls, effects]; rfl⟩
  refine ⟨fun cmd refused => ?_, fun workflow inputs blank => ?_, ?_, ?_⟩
  · rw [Controller.refuses_eq ready.unclosed ready.idle ready.sent] at refused
    exact still (Controller.command_of_not_allowed (Bool.not_eq_eq_eq_not.1 refused))
  · cases allowed : o.controller.canStart with
    | false =>
      have denied : o.controller.allows (Command.start workflow inputs).kind = false := allowed
      exact still (Controller.command_of_not_allowed denied)
    | true =>
      have refused : o.controller.command (.start workflow inputs) =
          o.controller.reply (.error (.input .blankWorkflow)) := by
        simp only [Controller.command, Controller.start, allowed, blank, Bool.true_eq_false,
          if_false, if_true]
      exact still refused
  · exact fun cmd more failure o' other fails => leavesRun_of_failure ready other fails
  · exact fun workflow inputs more failure o' allowed named fails =>
      rejectedStart_of_failure ready allowed named fails

/-- A run that has been paused. -/
def pausedNamed : List Event :=
  [.command (.start ⟨"build"⟩ none), .streamAnswer (.ok ()),
    .signal 0 (.frame ⟨"start", .object [("run_id", .text "r1")]⟩), .deliver 0,
    .command .pause, .commandAnswer (.ok ())]

/-- The server cannot be reached when the run is to go on, and a tick comes while the stream is
awaited. A first run is turned away. -/
theorem failed_requests_leave_the_run :
    ((after ⟨2, 1⟩ pausedNamed).controller.closed = false ∧
      (after ⟨2, 1⟩ pausedNamed).controller.awaiting = none ∧
      (after ⟨2, 1⟩ pausedNamed).controller.state.phase = .paused ∧
      ∃ o', (after ⟨2, 1⟩ pausedNamed).outcome?
          [.command .resume, .tick 0, .deliver 0, .streamAnswer (.error (.connect "refused"))] =
          some (.error (.stream (.connect "refused")), o') ∧
        LeavesRun (after ⟨2, 1⟩ pausedNamed) o') ∧
    ((after ⟨2, 1⟩ []).controller.closed = false ∧
      (after ⟨2, 1⟩ []).controller.awaiting = none ∧
      (after ⟨2, 1⟩ []).controller.canStart = true ∧
      ∃ o', (after ⟨2, 1⟩ []).outcome?
          [.command (.start ⟨"build"⟩ none), .streamAnswer (.error (.rejected 503 "busy"))] =
          some (.error (.stream (.rejected 503 "busy")), o') ∧
        o'.controller.state =
          { workflowId := some ⟨"build"⟩, error := some "stream rejected (503): busy" } ∧
        o'.controller.canStart = true) := by
  constructor
  · have unclosed : (after ⟨2, 1⟩ pausedNamed).controller.closed = false := by decide +kernel
    have idle : (after ⟨2, 1⟩ pausedNamed).controller.awaiting = none := by decide +kernel
    have failed : ((after ⟨2, 1⟩ pausedNamed).outcome?
        [.command .resume, .tick 0, .deliver 0, .streamAnswer (.error (.connect "refused"))]).map
          Prod.fst = some (.error (.stream (.connect "refused"))) := by decide +kernel
    obtain ⟨⟨result, o'⟩, fails, rfl⟩ := Option.map_eq_some_iff.1 failed
    obtain ⟨-, -, leaves, -⟩ := failed_commands_leave_the_run _ _ unclosed idle
    exact ⟨unclosed, idle, by decide +kernel, o', fails, leaves .resume _ _ _ nofun fails⟩
  · have failed : ((after ⟨2, 1⟩ []).outcome?
        [.command (.start ⟨"build"⟩ none), .streamAnswer (.error (.rejected 503 "busy"))]).map
          Prod.fst = some (.error (.stream (.rejected 503 "busy"))) := by decide +kernel
    obtain ⟨⟨result, o'⟩, fails, rfl⟩ := Option.map_eq_some_iff.1 failed
    obtain ⟨-, -, -, rejects⟩ := failed_commands_leave_the_run ⟨2, 1⟩ [] rfl rfl
    obtain ⟨f, same, rejected⟩ := rejects _ _ _ _ _ rfl (by decide) fails
    cases same
    exact ⟨rfl, rfl, rfl, o', fails, rejected.state.trans (by decide), rejected.canStart⟩

end Operation

end RunWatch
