import RunWatch.Proofs.Control.Numbers

/-!
# Controllers in operation

Whatever a controller has set going, and in whatever order messages arrive, its phase agrees with
its resources, and letters from the past do nothing.
-/

namespace RunWatch.Operation

/-- What holds of a controller and all that it has set going. -/
structure Orderly (o : Operation) : Prop where
  sent : o.controller.outbox = []
  agrees : Agrees o.activity o.controller
  genuine : ∀ l ∈ o.mail, o.activity.Genuine l
  coherent : o.controller.closed = false →
    o.controller.Coherent ∧ o.controller.Asking

theorem orderly_initial (times : WatchTimes) : Orderly { controller := { times } } where
  sent := rfl
  agrees :=
    ⟨.of_past (List.forall_mem_nil _), .of_past (List.forall_mem_nil _) (List.forall_mem_nil _)⟩
  genuine := List.forall_mem_nil _
  coherent _ := ⟨Controller.coherent_initial times, .of_none rfl⟩

theorem closed_of_step {c : Controller} {now : Nat} {input : Controller.Input}
    (unclosed : (c.step now input).closed = false) : c.closed = false := by
  cases closed : c.closed with
  | false => rfl
  | true =>
    have same : c.step now input = c := by
      unfold Controller.step
      exact if_pos closed
    rw [same] at unclosed
    exact absurd (closed.symm.trans unclosed) nofun

namespace Orderly

variable {o : Operation}

/-- An input that the controller takes in agreement leaves all in order. -/
theorem take (h : Orderly o) {input : Controller.Input} {a : Activity}
    (grows : o.activity.Grows a) {mail : List Letter} (known : ∀ l ∈ mail, l ∈ o.mail)
    (agrees : Agrees a (o.controller.step o.now input))
    (expects : Controller.Expects o.controller input) :
    Orderly (Operation.take input { o with activity := a, mail }) where
  sent := rfl
  agrees := ⟨⟨agrees.streams.bounded, agrees.streams.opened, agrees.streams.asked⟩,
    ⟨agrees.watch.timers, agrees.watch.armed, agrees.watch.fetches, agrees.watch.current⟩⟩
  genuine l posted :=
    (h.genuine l (known l posted)).grows (grows.trans (Activity.grows_performAll _ a))
  coherent unclosed := by
    obtain ⟨coherent, asking⟩ := h.coherent (closed_of_step unclosed)
    obtain ⟨coherent', asking'⟩ :=
      Controller.coherent_step coherent asking o.now input expects unclosed
    exact ⟨coherent'.of_eq rfl rfl rfl rfl rfl, asking'⟩

/-- An input that opens no stream, taken from outside the mail. -/
theorem take_other (h : Orderly o) {input : Controller.Input} (other : input ≠ .opened (.ok ()))
    (expects : Controller.Expects o.controller input) : Orderly (o.take input) :=
  h.take (.refl _) (fun _ kept => kept) (h.agrees.step o.now other) expects

theorem answerStream (h : Orderly o) (result : Except StreamFailure Unit) :
    Orderly (o.answerStream result) := by
  unfold Operation.answerStream
  split
  · rename_i asks
    cases result with
    | ok =>
      exact h.take (Activity.grows_accept _) (fun _ kept => kept)
        (h.agrees.step_opened_ok h.sent asks o.now) trivial
    | error failure => exact h.take_other nofun trivial
  · exact h

theorem send (h : Orderly o) (sender : Nat) (message? : Option Message)
    (genuine : ∀ m, message? = some m → o.activity.Genuine ⟨sender, m⟩) :
    Orderly (o.send sender message?) := by
  unfold Operation.send
  split
  · rename_i m
    refine ⟨h.sent, h.agrees, fun l posted => ?_, h.coherent⟩
    rcases List.mem_append.1 posted with before | here
    · exact h.genuine l before
    · rw [List.mem_singleton.1 here]
      exact genuine m rfl
  · exact h

theorem deliver (h : Orderly o) (place : Nat) : Orderly (o.deliver place) := by
  unfold Operation.deliver
  split
  · rename_i l _ at_
    exact h.take (.refl _) (fun _ kept => List.mem_of_mem_eraseIdx kept) (h.agrees.step o.now nofun)
      (h.agrees.expects h.sent (h.genuine l (List.mem_of_getElem? at_)))
  · exact h

theorem step (h : Orderly o) (e : Event) : Orderly (o.step e) := by
  cases e with
  | command c => exact h.take_other nofun trivial
  | shutDown => exact h.take_other nofun trivial
  | streamAnswer result => exact h.answerStream result
  | commandAnswer result => exact h.take_other nofun trivial
  | signal place s =>
    refine h.send place _ fun m sent => ?_
    obtain ⟨n, at_, rfl⟩ := Option.map_eq_some_iff.1 sent
    exact at_
  | tick place =>
    refine h.send place _ fun m sent => ?_
    obtain ⟨n, at_, rfl⟩ := Option.map_eq_some_iff.1 sent
    exact at_
  | fetched place result =>
    refine h.send place _ fun m sent => ?_
    obtain ⟨f, at_, rfl⟩ := Option.map_eq_some_iff.1 sent
    exact ⟨f, at_, rfl⟩
  | deliver place => exact h.deliver place
  | wait duration => exact ⟨h.sent, h.agrees, h.genuine, h.coherent⟩

end Orderly

theorem orderly_run (events : List Event) {o : Operation} (h : Orderly o) :
    Orderly (events.foldl step o) := by
  induction events generalizing o with
  | nil => exact h
  | cons e events ih => exact ih (h.step e)

theorem orderly_after (times : WatchTimes) (events : List Event) :
    Orderly (after times events) :=
  orderly_run events (orderly_initial times)

theorem step_of_not_concerns {c : Controller} {m : Message} (h : c.concerns m = false)
    (now : Nat) : c.step now (.message m) = c := by
  unfold Controller.step
  split
  · rfl
  · cases c.awaiting with
    | none => exact if_pos h
    | some command => rfl

/-- In every operation, the phase of a controller that has not shut down agrees with its stream, its
watchdog and its fetch. -/
theorem phase_agrees_with_resources (times : WatchTimes) (events : List Event)
    (unclosed : (after times events).controller.closed = false) :
    (after times events).controller.Coherent :=
  ((orderly_after times events).coherent unclosed).1

/-- A run that is paused and resumed while its first stream and its first fetch are still on their
way. -/
def pausedAndResumed : List Event :=
  [.command (.start ⟨"build"⟩ none), .streamAnswer (.ok ()),
    .signal 0 (.frame ⟨"start", .object [("run_id", .text "r1")]⟩), .deliver 0,
    .command .pause, .commandAnswer (.ok ()), .tick 0, .deliver 0,
    .command .resume, .streamAnswer (.ok ()),
    .signal 0 .closed, .fetched 0 (.ok { status := .failed }),
    .wait 2, .tick 1, .deliver 2, .fetched 1 (.ok { status := .running })]

theorem phase_agrees_when_resumed :
    (after ⟨2, 1⟩ pausedAndResumed).controller.closed = false ∧
      (after ⟨2, 1⟩ pausedAndResumed).controller.Coherent :=
  ⟨by decide +kernel, phase_agrees_with_resources _ _ (by decide +kernel)⟩

theorem Orderly.not_concerns_of_past {o : Operation} (h : Orderly o) {l : Letter} (posted : l ∈ o.mail)
    (past : o.activity.isPast l = true) : o.controller.concerns l.message = false := by
  have genuine := h.genuine l posted
  obtain ⟨streams, watch⟩ := h.agrees.of_sent h.sent
  refine Bool.eq_false_iff.2 fun concerned => ?_
  unfold Activity.Genuine at genuine
  unfold Activity.isPast at past
  cases message : l.message with
  | signal n s =>
    simp only [message, Controller.concerns, Bool.and_eq_true, beq_iff_eq, bne_iff_ne]
      at genuine past concerned
    obtain ⟨rfl, streaming⟩ := concerned
    exact past (streams.opened streaming l.sender genuine)
  | tick n =>
    simp only [message, Controller.concerns, Bool.and_eq_true, beq_iff_eq, bne_iff_ne]
      at genuine past concerned
    obtain ⟨rfl, armed⟩ := concerned
    exact past (watch.armed armed l.sender genuine)
  | polled n result =>
    simp only [message, Controller.concerns, beq_iff_eq] at genuine past concerned
    obtain ⟨f, at_, number⟩ := genuine
    -- The fetch began in the present turn, so it is not from the past.
    obtain ⟨-, -, turn⟩ :=
      watch.current f (List.mem_of_getElem? at_) (number.trans concerned)
    rw [at_, Option.all_some, decide_eq_true_eq, turn] at past
    exact Nat.lt_irrefl _ past

theorem Orderly.deliver_past {o : Operation} (h : Orderly o) {place : Nat} {l : Letter}
    (at_ : o.mail[place]? = some l) (past : o.activity.isPast l = true) :
    ∃ mail, o.deliver place = { o with mail } := by
  have idle : o.controller.step o.now (.message l.message) = o.controller :=
    step_of_not_concerns (h.not_concerns_of_past (List.mem_of_getElem? at_) past) o.now
  have emptied : { o.controller with outbox := [] } = o.controller := by rw [← h.sent]
  unfold Operation.deliver
  rw [at_]
  split
  · rename_i e
    cases e
    refine ⟨o.mail.eraseIdx place, ?_⟩
    simp only [Operation.take, Controller.takeOutbox, idle, emptied, h.sent]
    rfl
  · exact ⟨o.mail, rfl⟩

/-- In every operation, a letter from the past changes nothing when it arrives, and a snapshot that
is taken comes from a fetch for the run at hand. -/
theorem past_letters_do_nothing (times : WatchTimes) (events : List Event) (place : Nat)
    (l : Letter) (at_ : (after times events).mail[place]? = some l) :
    ((after times events).activity.isPast l = true →
      ∃ mail, (after times events).deliver place = { after times events with mail }) ∧
    ∀ n snapshot, l.message = .polled n (.ok snapshot) →
      (after times events).controller.concerns l.message = true →
        ∃ f, (after times events).activity.fetches[l.sender]? = some f ∧
          (after times events).controller.state.id = some f.run := by
  have h := orderly_after times events
  refine ⟨h.deliver_past at_, fun n snapshot message concerned => ?_⟩
  have genuine := h.genuine l (List.mem_of_getElem? at_)
  rw [Activity.Genuine, message] at genuine
  obtain ⟨f, began, number⟩ := genuine
  rw [message, Controller.concerns, beq_iff_eq] at concerned
  obtain ⟨-, id, -⟩ :=
    (h.agrees.of_sent h.sent).2.current f (List.mem_of_getElem? began) (number.trans concerned)
  exact ⟨f, began, id⟩

/-- After the run has been resumed, the result of the first fetch is lost, and that of the second
one is for the run at hand. -/
theorem past_fetch_does_nothing :
    (∃ l mail, (after ⟨2, 1⟩ pausedAndResumed).mail[1]? = some l ∧
      (after ⟨2, 1⟩ pausedAndResumed).activity.isPast l = true ∧
      (after ⟨2, 1⟩ pausedAndResumed).deliver 1 =
        { after ⟨2, 1⟩ pausedAndResumed with mail }) ∧
    ∃ l f, (after ⟨2, 1⟩ pausedAndResumed).mail[2]? = some l ∧
      (after ⟨2, 1⟩ pausedAndResumed).controller.concerns l.message = true ∧
      (after ⟨2, 1⟩ pausedAndResumed).activity.fetches[l.sender]? = some f ∧
      (after ⟨2, 1⟩ pausedAndResumed).controller.state.id = some f.run := by
  have lost : (after ⟨2, 1⟩ pausedAndResumed).mail[1]? =
      some ⟨0, .polled 2 (.ok { status := .failed })⟩ := by decide +kernel
  have taken : (after ⟨2, 1⟩ pausedAndResumed).mail[2]? =
      some ⟨1, .polled 3 (.ok { status := .running })⟩ := by decide +kernel
  have past : (after ⟨2, 1⟩ pausedAndResumed).activity.isPast
      ⟨0, .polled 2 (.ok { status := .failed })⟩ = true := by decide +kernel
  have present : (after ⟨2, 1⟩ pausedAndResumed).controller.concerns
      (.polled 3 (.ok { status := .running })) = true := by decide +kernel
  obtain ⟨mail, same⟩ := (past_letters_do_nothing _ _ 1 _ lost).1 past
  obtain ⟨f, began, run⟩ := (past_letters_do_nothing _ _ 2 _ taken).2 _ _ rfl present
  exact ⟨⟨_, mail, lost, past, same⟩, _, f, taken, present, began, run⟩

end RunWatch.Operation
