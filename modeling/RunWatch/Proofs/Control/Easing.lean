import RunWatch.Control.Traffic

/-!
# Giving up

Much of what a controller does starts nothing: it shuts its stream, stops its watchdog or shows
itself. `Eases` says this of each such operation, and so none of them answers a command.
-/

namespace RunWatch

/-- The effect starts nothing. -/
def Effect.givesUp : Effect → Bool
  | .cancelStream _ | .stopTimer _ | .abortFetch _ | .publish _ => true
  | .openStream .. | .send .. | .armTimer _ | .fetch .. | .reply _ => false

theorem Activity.performAll_givesUp {effects : List Effect} (gives : ∀ e ∈ effects, e.givesUp = true)
    (a : Activity) : (a.performAll effects).streams = a.streams ∧
      (a.performAll effects).timers = a.timers ∧ (a.performAll effects).fetches = a.fetches := by
  induction effects generalizing a with
  | nil => exact ⟨rfl, rfl, rfl⟩
  | cons e effects ih =>
    have same : (a.perform e).streams = a.streams ∧ (a.perform e).timers = a.timers ∧
        (a.perform e).fetches = a.fetches := by
      have first := gives e List.mem_cons_self
      cases e with
      | cancelStream | stopTimer | abortFetch | publish => exact ⟨rfl, rfl, rfl⟩
      | openStream | send | armTimer | fetch | reply => cases first
    obtain ⟨streams, timers, fetches⟩ :=
      ih (fun e later => gives e (List.mem_cons_of_mem _ later)) (a.perform e)
    exact ⟨streams.trans same.1, timers.trans same.2.1, fetches.trans same.2.2⟩

namespace Controller

/-- A controller starts nothing and at most gives up what it has. -/
structure Eases (c c' : Controller) : Prop where
  awaiting : c'.awaiting = c.awaiting
  closed : c'.closed = c.closed
  watchdog : c.watchdog ≤ c'.watchdog
  /-- A stream that is still open is the one from before. -/
  stream : c'.streaming = true → c.streaming = true ∧ c'.stream = c.stream
  outbox : ∃ more, c'.outbox = c.outbox ++ more ∧ ∀ e ∈ more, e.givesUp = true

theorem eases_of_eq {c c' : Controller} (awaiting : c'.awaiting = c.awaiting)
    (closed : c'.closed = c.closed) (watchdog : c'.watchdog = c.watchdog)
    (streaming : c'.streaming = c.streaming) (stream : c'.stream = c.stream)
    (outbox : c'.outbox = c.outbox) : Eases c c' where
  awaiting := awaiting
  closed := closed
  watchdog := Nat.le_of_eq watchdog.symm
  stream open_ := ⟨streaming.symm.trans open_, stream⟩
  outbox := ⟨[], by rw [outbox, List.append_nil], List.forall_mem_nil _⟩

theorem eases_refl (c : Controller) : Eases c c :=
  eases_of_eq rfl rfl rfl rfl rfl rfl

theorem Eases.trans {c d e : Controller} (h : Eases c d) (h' : Eases d e) : Eases c e where
  awaiting := h'.awaiting.trans h.awaiting
  closed := h'.closed.trans h.closed
  watchdog := Nat.le_trans h.watchdog h'.watchdog
  stream open_ := by
    obtain ⟨streaming, second⟩ := h'.stream open_
    obtain ⟨before, first⟩ := h.stream streaming
    exact ⟨before, second.trans first⟩
  outbox := by
    obtain ⟨xs, first, gives⟩ := h.outbox
    obtain ⟨ys, second, gives'⟩ := h'.outbox
    refine ⟨xs ++ ys, by rw [second, first, List.append_assoc], fun e member => ?_⟩
    rcases List.mem_append.1 member with here | there
    · exact gives e here
    · exact gives' e there

theorem eases_emit {e : Effect} (gives : e.givesUp = true) (c : Controller) : Eases c (c.emit e) where
  awaiting := rfl
  closed := rfl
  watchdog := Nat.le_refl _
  stream open_ := ⟨open_, rfl⟩
  outbox := ⟨[e], rfl, fun e' member => by rw [List.mem_singleton.1 member, gives]⟩

theorem eases_closeStream (c : Controller) : Eases c c.closeStream := by
  have cut : Eases c (if c.streaming then c.emit (.cancelStream c.stream) else c) := by
    split
    · exact eases_emit rfl c
    · exact eases_refl c
  exact ⟨cut.awaiting, cut.closed, cut.watchdog, nofun, cut.outbox⟩

theorem eases_stopWatchdog (c : Controller) : Eases c c.stopWatchdog := by
  have stopped (d : Controller) : Eases d (if d.armed then d.emit (.stopTimer d.watchdog) else d) := by
    split
    · exact eases_emit rfl d
    · exact eases_refl d
  have aborted (d : Controller) :
      Eases d (if d.fetching then d.emit (.abortFetch d.watchdog) else d) := by
    split
    · exact eases_emit rfl d
    · exact eases_refl d
  have both := (stopped c).trans (aborted _)
  exact ⟨both.awaiting, both.closed, Nat.le_succ_of_le both.watchdog, both.stream, both.outbox⟩

theorem eases_publish (c : Controller) : Eases c c.publish := by
  unfold publish
  split
  · exact eases_refl c
  · have shown : Eases c { c with view := c.present } := eases_of_eq rfl rfl rfl rfl rfl rfl
    exact shown.trans (eases_emit rfl _)

theorem eases_settle (x : RunState × Transition) (c : Controller) : Eases c (c.settle x) := by
  have changed : Eases c { c with state := x.1 } := eases_of_eq rfl rfl rfl rfl rfl rfl
  have shut (d : Controller) : Eases d (if x.2.closeStream then d.closeStream else d) := by
    split
    · exact eases_closeStream d
    · exact eases_refl d
  have ended (d : Controller) :
      Eases d (if x.2.changed && x.1.isTerminal then d.closeStream.stopWatchdog else d) := by
    split
    · exact (eases_closeStream d).trans (eases_stopWatchdog _)
    · exact eases_refl d
  exact (changed.trans (shut _)).trans (ended _)

theorem eases_failUnconfirmed (message : String) (c : Controller) :
    Eases c (c.failUnconfirmed message) := by
  unfold failUnconfirmed
  split
  · exact eases_refl c
  · exact (eases_stopWatchdog c).trans (eases_settle _ _)

theorem eases_signal (now : Nat) (x : StreamSignal) (c : Controller) : Eases c (c.signal now x) := by
  cases x with
  | frame f =>
    have noted : Eases c { c with lastFrame := now } := eases_of_eq rfl rfl rfl rfl rfl rfl
    simp only [signal]
    split
    · exact noted.trans (eases_settle _ _)
    · exact noted
  | closed => exact (eases_closeStream c).trans (eases_failUnconfirmed _ _)
  | failed failure => exact (eases_closeStream c).trans (eases_failUnconfirmed _ _)

/-! ### Steps that are taken -/

theorem step_message {c : Controller} (unclosed : c.closed = false) (idle : c.awaiting = none)
    (now : Nat) (m : Message) : c.step now (.message m) = c.message now m := by
  simp only [step, unclosed, idle, Bool.false_eq_true, if_false]

/-- An accepted request begins with the new stream and ends with an answer. -/
theorem step_accepted {c : Controller} (asked : Operation.awaitsStream c = true)
    (unclosed : c.closed = false) (now : Nat) :
    c.step now (.opened (.ok ())) = (c.install now).armWatchdog.reply (.ok ()) ∨
      c.step now (.opened (.ok ())) =
        ((c.install now).settle c.state.markResumed).armWatchdog.reply (.ok ()) := by
  unfold Operation.awaitsStream at asked
  cases waiting : c.awaiting with
  | none => rw [waiting] at asked; cases asked
  | some kind =>
    have taken : c.step now (.opened (.ok ())) = c.opened now (.ok ()) := by
      simp only [step, unclosed, waiting, Bool.false_eq_true, if_false]
    rw [taken]
    cases kind with
    | start => exact .inl (by simp only [opened, waiting])
    | resume => exact .inr (by simp only [opened, waiting])
    | pause | cancel => rw [waiting] at asked; cases asked

/-! ### What is read off the effects -/

section

variable {α : Type} {f : Effect → Option α}

theorem filterMap_emit (f : Effect → Option α) (e : Effect) (c : Controller) :
    (c.emit e).outbox.filterMap f = c.outbox.filterMap f ++ (f e).toList := by
  simp only [emit, List.filterMap_append, List.filterMap_cons, List.filterMap_nil]
  cases f e <;> rfl

/-- What is read off the effects that start something stays. -/
theorem Eases.filterMap {c c' : Controller} (h : Eases c c')
    (silent : ∀ e : Effect, e.givesUp = true → f e = none) :
    c'.outbox.filterMap f = c.outbox.filterMap f := by
  obtain ⟨more, outbox, gives⟩ := h.outbox
  have nothing : more.filterMap f = [] :=
    List.filterMap_eq_nil_iff.2 fun e member => silent e (gives e member)
  rw [outbox, List.filterMap_append, nothing, List.append_nil]

theorem filterMap_reply (silent : ∀ e : Effect, e.givesUp = true → f e = none)
    (result : Except ClientFailure Unit) (c : Controller) :
    (c.reply result).outbox.filterMap f =
      c.outbox.filterMap f ++ (f (.reply result)).toList := by
  rw [reply, (eases_publish _).filterMap silent, filterMap_emit]

theorem filterMap_armWatchdog (silent : ∀ e : Effect, e.givesUp = true → f e = none)
    (c : Controller) :
    c.armWatchdog.outbox.filterMap f =
      c.outbox.filterMap f ++ (f (.armTimer c.stopWatchdog.watchdog)).toList := by
  rw [armWatchdog, filterMap_emit, ← (eases_stopWatchdog c).filterMap silent]

theorem filterMap_openStream (silent : ∀ e : Effect, e.givesUp = true → f e = none)
    (command : RunCommand) (request : StreamRequest) (c : Controller) :
    (c.openStream command request).outbox.filterMap f =
      c.outbox.filterMap f ++ (f (.openStream c.closeStream.stream request)).toList := by
  rw [openStream, filterMap_emit, ← (eases_closeStream c).filterMap silent]

end

/-! ### Answers -/

def answers (c : Controller) : List (Except ClientFailure Unit) :=
  c.outbox.filterMap Effect.reply?

theorem reply?_of_givesUp (e : Effect) (gives : e.givesUp = true) : e.reply? = none := by
  cases e with
  | cancelStream | stopTimer | abortFetch | publish => rfl
  | openStream | send | armTimer | fetch | reply => cases gives

/-- What starts nothing answers nothing either. -/
theorem Eases.answers {c c' : Controller} (h : Eases c c') : c'.answers = c.answers :=
  h.filterMap reply?_of_givesUp

theorem answers_reply (result : Except ClientFailure Unit) (c : Controller) :
    (c.reply result).answers = c.answers ++ [result] :=
  filterMap_reply reply?_of_givesUp result c

theorem answers_armWatchdog (c : Controller) : c.armWatchdog.answers = c.answers :=
  (filterMap_armWatchdog reply?_of_givesUp c).trans (List.append_nil _)

theorem answers_openStream (command : RunCommand) (request : StreamRequest) (c : Controller) :
    (c.openStream command request).answers = c.answers :=
  (filterMap_openStream reply?_of_givesUp command request c).trans (List.append_nil _)

theorem answers_request (command : RunCommand) (run : RunId) (c : Controller) :
    (c.request command run).answers = c.answers :=
  (filterMap_emit Effect.reply? (.send command run) c).trans (List.append_nil _)

end Controller

end RunWatch
