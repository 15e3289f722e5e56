import RunWatch.Proofs.Control.Custody
import RunWatch.Proofs.Control.Refusals
import RunWatch.Proofs.Run.Updates

/-!
# What a controller shows

Each input makes a controller show at most one view, which is then its last: `shows_step`. Once
it shows a run that is over, it shows nothing more until it is asked to start again:
`Over.step`.
-/

namespace RunWatch

namespace Effect

/-- The view that an effect shows. -/
def shown? : Effect → Option RunView
  | .publish view => some view
  | _ => none

end Effect

namespace Controller

/-- The views that are about to be shown. -/
def announced (c : Controller) : List RunView :=
  c.outbox.filterMap Effect.shown?

/-- A controller changes and shows nothing of it. -/
structure Hushed (c c' : Controller) : Prop where
  view : c'.view = c.view
  announced : c'.announced = c.announced

namespace Hushed

variable {c d e : Controller}

theorem of_eq (view : d.view = c.view) (outbox : d.outbox = c.outbox) : Hushed c d :=
  ⟨view, congrArg (·.filterMap Effect.shown?) outbox⟩

theorem refl (c : Controller) : Hushed c c :=
  of_eq rfl rfl

theorem trans (h : Hushed c d) (h' : Hushed d e) : Hushed c e :=
  ⟨h'.view.trans h.view, h'.announced.trans h.announced⟩

end Hushed

theorem hushed_emit {e : Effect} (silent : e.shown? = none) (c : Controller) :
    Hushed c (c.emit e) :=
  ⟨rfl, by rw [announced, filterMap_emit, silent]; exact List.append_nil _⟩

theorem hushed_closeStream (c : Controller) : Hushed c c.closeStream := by
  have cut : Hushed c (if c.streaming then c.emit (.cancelStream c.stream) else c) := by
    split
    · exact hushed_emit rfl c
    · exact .refl c
  exact ⟨cut.view, cut.announced⟩

theorem hushed_stopWatchdog (c : Controller) : Hushed c c.stopWatchdog := by
  have stopped (d : Controller) :
      Hushed d (if d.armed then d.emit (.stopTimer d.watchdog) else d) := by
    split
    · exact hushed_emit rfl d
    · exact .refl d
  have aborted (d : Controller) :
      Hushed d (if d.fetching then d.emit (.abortFetch d.watchdog) else d) := by
    split
    · exact hushed_emit rfl d
    · exact .refl d
  have both := (stopped c).trans (aborted _)
  exact ⟨both.view, both.announced⟩

theorem hushed_armWatchdog (c : Controller) : Hushed c c.armWatchdog := by
  have armed : Hushed c.stopWatchdog { c.stopWatchdog with armed := true } := .of_eq rfl rfl
  exact ((hushed_stopWatchdog c).trans armed).trans (hushed_emit rfl _)

theorem hushed_openStream (command : RunCommand) (request : StreamRequest) (c : Controller) :
    Hushed c (c.openStream command request) := by
  have asks : Hushed c.closeStream { c.closeStream with awaiting := some command } := .of_eq rfl rfl
  exact ((hushed_closeStream c).trans asks).trans (hushed_emit rfl _)

theorem hushed_request (command : RunCommand) (run : RunId) (c : Controller) :
    Hushed c (c.request command run) := by
  have asks : Hushed c { c with awaiting := some command } := .of_eq rfl rfl
  exact asks.trans (hushed_emit rfl _)

theorem hushed_settle (x : RunState × Transition) (c : Controller) : Hushed c (c.settle x) := by
  have changed : Hushed c { c with state := x.1 } := .of_eq rfl rfl
  have shut (d : Controller) : Hushed d (if x.2.closeStream then d.closeStream else d) := by
    split
    · exact hushed_closeStream d
    · exact .refl d
  have ended (d : Controller) :
      Hushed d (if x.2.changed && x.1.isTerminal then d.closeStream.stopWatchdog else d) := by
    split
    · exact (hushed_closeStream d).trans (hushed_stopWatchdog _)
    · exact .refl d
  exact (changed.trans (shut _)).trans (ended _)

theorem hushed_failUnconfirmed (message : String) (c : Controller) :
    Hushed c (c.failUnconfirmed message) := by
  unfold failUnconfirmed
  split
  · exact .refl c
  · exact (hushed_stopWatchdog c).trans (hushed_settle _ _)

theorem hushed_signal (now : Nat) (s : StreamSignal) (c : Controller) :
    Hushed c (c.signal now s) := by
  cases s with
  | frame f =>
    have noted : Hushed c { c with lastFrame := now } := .of_eq rfl rfl
    simp only [signal]
    split
    · exact noted.trans (hushed_settle _ _)
    · exact noted
  | closed => exact (hushed_closeStream c).trans (hushed_failUnconfirmed _ _)
  | failed failure => exact (hushed_closeStream c).trans (hushed_failUnconfirmed _ _)

theorem hushed_tick (now : Nat) (c : Controller) : Hushed c (c.tick now) := by
  unfold tick
  split
  · exact hushed_stopWatchdog c
  · split
    · exact .refl c
    · split
      · exact .refl c
      · have fetches : Hushed c { c with fetching := true } := .of_eq rfl rfl
        exact fetches.trans (hushed_emit rfl _)

theorem hushed_polled (result : Except PollFailure RunSnapshot) (c : Controller) :
    Hushed c (c.polled result) := by
  have back : Hushed c { c with fetching := false } := .of_eq rfl rfl
  simp only [polled]
  split
  · exact back.trans (hushed_settle _ _)
  · exact (back.trans (hushed_stopWatchdog _)).trans (hushed_settle _ _)
  · exact back

/-! ### Steps -/

/-- What a controller shows on the way to another one is the view that it has there, if that is
new, and a controller that then waits for an answer shows nothing. -/
structure Shows (c c' : Controller) : Prop where
  announced : c'.announced = c.announced ++ if c'.view = c.view then [] else [c'.view]
  idle : c'.view ≠ c.view → c'.awaiting = none

theorem Hushed.shows {c c' : Controller} (h : Hushed c c') : Shows c c' where
  announced := by rw [h.announced, if_pos h.view, List.append_nil]
  idle other := absurd h.view other

theorem Hushed.publish {c d : Controller} (h : Hushed c d) (idle : d.publish.awaiting = none) :
    Shows c d.publish := by
  refine ⟨?_, fun _ => idle⟩
  rw [publish_eq]
  have before : d.outbox.filterMap Effect.shown? = c.announced := h.announced
  simp only [Controller.announced, List.filterMap_append, before, ← h.view]
  by_cases same : d.view = d.present
  · rw [if_pos same, if_pos same.symm]
    rfl
  · rw [if_neg same, if_neg (Ne.symm same)]
    rfl

theorem Hushed.reply {c d : Controller} (h : Hushed c d) (result : Except ClientFailure Unit) :
    Shows c (d.reply result) := by
  have answered : Hushed d { d with awaiting := none } := .of_eq rfl rfl
  exact ((h.trans answered).trans (hushed_emit rfl _)).publish (reply_awaiting result d)

theorem shows_command (cmd : Command) (c : Controller) : Shows c (c.command cmd) := by
  cases cmd with
  | start workflow inputs =>
    simp only [command, start]
    split
    · exact (Hushed.refl c).reply _
    · split
      · exact (Hushed.refl c).reply _
      · have placed : Hushed c.stopWatchdog
          { c.stopWatchdog with state := RunState.placeholder workflow } := .of_eq rfl rfl
        exact (((hushed_stopWatchdog c).trans placed).trans (hushed_openStream _ _ _)).shows
  | pause =>
    simp only [command, pause]
    split
    · exact (Hushed.refl c).reply _
    · split
      · exact (Hushed.refl c).reply _
      · exact (hushed_request _ _ c).shows
  | resume =>
    simp only [command, resume]
    split
    · exact (hushed_openStream _ _ c).shows
    · exact (Hushed.refl c).reply _
  | cancel =>
    simp only [command, cancel]
    split
    · exact (Hushed.refl c).reply _
    · split
      · exact (hushed_settle _ c).reply _
      · exact (hushed_request _ _ c).shows

theorem shows_opened (now : Nat) (result : Except StreamFailure Unit) (c : Controller) :
    Shows c (c.opened now result) := by
  have begun : Hushed c (c.install now) := .of_eq rfl rfl
  unfold opened
  split
  · exact (begun.trans (hushed_armWatchdog _)).reply _
  · rename_i failure _
    have noted : Hushed c { c with state := c.state.noteError failure.message } := .of_eq rfl rfl
    exact noted.reply _
  · exact ((begun.trans (hushed_settle _ _)).trans (hushed_armWatchdog _)).reply _
  · exact (Hushed.refl c).reply _
  · exact (Hushed.refl c).shows

theorem shows_acknowledged (result : Except ClientFailure Unit) (c : Controller) :
    Shows c (c.acknowledged result) := by
  unfold acknowledged
  split
  · exact (hushed_settle _ c).reply _
  · exact (hushed_settle _ c).reply _
  · exact (Hushed.refl c).reply _
  · exact (Hushed.refl c).reply _
  · exact (Hushed.refl c).shows

theorem shows_message (now : Nat) (m : Message) {c : Controller} (idle : c.awaiting = none) :
    Shows c (c.message now m) := by
  have still := (message_awaiting now m c).trans idle
  unfold message at still ⊢
  cases concerned : c.concerns m with
  | false =>
    rw [if_pos rfl]
    exact (Hushed.refl c).shows
  | true =>
    simp only [concerned, Bool.true_eq_false, if_false] at still ⊢
    cases m with
    | signal stream s => exact (hushed_signal now s c).publish still
    | tick watchdog => exact (hushed_tick now c).publish still
    | polled watchdog result => exact (hushed_polled result c).publish still

theorem shows_shutDown {c : Controller} (idle : c.awaiting = none) : Shows c c.shutDown := by
  have given := (hushed_closeStream c).trans (hushed_stopWatchdog _)
  have shown := given.publish (rests_shutDown idle).awaiting
  exact ⟨shown.announced, shown.idle⟩

/-- An input makes a controller show one view at most, its own from then on. -/
theorem shows_step (now : Nat) (c : Controller) (input : Input) : Shows c (c.step now input) := by
  unfold step
  split
  · exact (Hushed.refl c).shows
  · split
    · exact shows_command _ c
    · rename_i idle
      exact shows_message now _ idle
    · rename_i idle
      exact shows_shutDown idle
    · exact shows_opened now _ c
    · exact shows_acknowledged _ c
    · exact (Hushed.refl c).shows

/-! ### Runs that are over -/

/-- A controller that shows that its run is over, and has nothing left to do. -/
structure Over (c : Controller) : Prop where
  ended : c.state.phase.isTerminal = true
  shown : c.view = c.present
  rests : c.Rests

namespace Over

variable {c : Controller}

theorem of_coherent (coherent : c.Coherent) (shown : c.Shown) (idle : c.awaiting = none)
    (ended : c.view.state.phase.isTerminal = true) : c.Over := by
  rw [shown idle] at ended
  obtain ⟨streaming, armed, fetching⟩ := coherent.terminal ended
  exact ⟨ended, shown idle, ⟨idle, streaming, armed, fetching⟩⟩

theorem state_eq (h : c.Over) : c.view.state = c.state := by
  rw [h.shown]
  rfl

/-- Such a controller stays as it is, as far as it can be seen. -/
structure Stays (c c' : Controller) : Prop where
  still : c'.Over
  state : c'.state = c.state
  view : c'.view = c.view

theorem present_eq (h : c.Over) {d : Controller} (state : d.state = c.state) (rests : d.Rests) :
    d.present = c.present := by
  simp only [present, canStart, state, rests.streaming, rests.armed, h.rests.streaming,
    h.rests.armed]

theorem stays_of_rests (h : c.Over) {d : Controller} (state : d.state = c.state)
    (view : d.view = c.view) (rests : d.Rests) : Stays c d where
  still := {
    ended := state ▸ h.ended
    shown := view.trans (h.shown.trans (h.present_eq state rests).symm)
    rests }
  state := state
  view := view

theorem stays_self (h : c.Over) : Stays c c :=
  h.stays_of_rests rfl rfl h.rests

theorem stays_publish (h : c.Over) {d : Controller} (state : d.state = c.state)
    (view : d.view = c.view) (rests : d.Rests) : Stays c d.publish := by
  rw [publish_of_shown (view.trans (h.shown.trans (h.present_eq state rests).symm))]
  exact h.stays_of_rests state view rests

theorem command (h : c.Over) {cmd : Command} (other : cmd.kind ≠ .start) :
    Stays c (c.command cmd) := by
  have not_live {p : RunPhase} (live : p.isTerminal = false) : c.state.phase ≠ p := fun same => by
    rw [← same, h.ended] at live
    cases live
  have refused : c.allows cmd.kind = false := by
    cases cmd with
    | start => exact absurd rfl other
    | pause => exact decide_eq_false (not_live rfl)
    | resume =>
      change (decide (c.state.phase = .paused) && _ && _) = false
      rw [decide_eq_false (not_live rfl)]
      rfl
    | cancel =>
      change (!(c.state.phase.isTerminal || _)) = false
      rw [h.ended]
      rfl
  rw [command_of_not_allowed refused, refuse, reply_of_shown h.shown]
  exact h.stays_of_rests rfl rfl ⟨rfl, h.rests.streaming, h.rests.armed, h.rests.fetching⟩

theorem stays_stopWatchdog (h : c.Over) : Stays c c.stopWatchdog := by
  rw [stopWatchdog_eq]
  exact h.stays_of_rests rfl rfl ⟨h.rests.awaiting, h.rests.streaming, rfl, rfl⟩

theorem polled (h : c.Over) (result : Except PollFailure RunSnapshot) :
    Stays c (c.polled result).publish := by
  have back : ({ c with fetching := false } : Controller) = c := by rw [← h.rests.fetching]
  -- The run takes nothing more, so nothing is settled.
  obtain ⟨still, state, view⟩ : Stays c (c.polled result) := by
    simp only [Controller.polled, back]
    split
    · rename_i snapshot
      have same : c.state.applySnapshot snapshot = (c.state, {}) :=
        RunState.change_of_terminal h.ended (.snapshot snapshot)
      rw [same]
      exact h.stays_self
    · have stopped := h.stays_stopWatchdog
      have same : c.stopWatchdog.state.fail goneRecord = (c.stopWatchdog.state, {}) :=
        RunState.change_of_terminal stopped.still.ended (.failed goneRecord)
      rw [same]
      exact stopped
    · exact h.stays_self
  exact h.stays_publish state view still.rests

theorem message (h : c.Over) (now : Nat) (m : Message) : Stays c (c.message now m) := by
  unfold Controller.message
  split
  · exact h.stays_self
  · rename_i concerned
    cases m with
    | signal stream s =>
      rw [concerns, h.rests.streaming, Bool.and_false] at concerned
      exact absurd rfl concerned
    | tick watchdog =>
      rw [concerns, h.rests.armed, Bool.and_false] at concerned
      exact absurd rfl concerned
    | polled watchdog result => exact h.polled result

theorem shutDown (h : c.Over) : Stays c c.shutDown := by
  have rests : c.closeStream.stopWatchdog.Rests := by
    rw [stopWatchdog_eq, closeStream_eq]
    exact ⟨h.rests.awaiting, rfl, rfl, rfl⟩
  obtain ⟨-, state, view⟩ := h.stays_publish (d := c.closeStream.stopWatchdog)
    (by rw [stopWatchdog_eq, closeStream_eq]) (by rw [stopWatchdog_eq, closeStream_eq]) rests
  exact h.stays_of_rests state view (rests_shutDown h.rests.awaiting)

theorem step (h : c.Over) (now : Nat) {input : Input}
    (other : ∀ cmd, input = .command cmd → cmd.kind ≠ .start) : Stays c (c.step now input) := by
  unfold Controller.step
  split
  · exact h.stays_self
  · split
    · exact h.command (other _ rfl)
    · exact h.message now _
    · exact h.shutDown
    · rename_i waits
      rw [h.rests.awaiting] at waits
      cases waits
    · rename_i waits
      rw [h.rests.awaiting] at waits
      cases waits
    · exact h.stays_self

end Over

end Controller

namespace Operation

variable {o : Operation} {e : Event}

/-! ### Operations -/

theorem controller_of_input {input : Controller.Input} (takes : o.input? e = some input) :
    (o.step e).controller = { o.controller.step o.now input with outbox := [] } := by
  cases e with
  | command | shutDown | commandAnswer => cases takes; rfl
  | streamAnswer result =>
    simp only [input?] at takes
    split at takes
    · rename_i asked
      cases takes
      simp only [step, answerStream, asked, if_true]
      cases result <;> rfl
    · cases takes
  | deliver place =>
    simp only [input?] at takes
    split at takes
    · rename_i l idle at_
      cases takes
      simp only [step, deliver, idle, at_]
      rfl
    · cases takes
  | signal | tick | fetched | wait => cases takes

theorem controller_of_no_input (takes : o.input? e = none) :
    (o.step e).controller = o.controller := by
  have posted (sender : Nat) (message? : Option Message) :
      (o.send sender message?).controller = o.controller := by
    unfold Operation.send
    split <;> rfl
  cases e with
  | command | shutDown | commandAnswer => cases takes
  | streamAnswer result =>
    simp only [input?] at takes
    split at takes
    · cases takes
    · rename_i unasked
      simp only [step, answerStream, unasked, Bool.false_eq_true, if_false]
  | deliver place =>
    simp only [input?] at takes
    simp only [step, deliver]
    split
    · rename_i l idle at_
      simp only [idle, at_] at takes
      cases takes
    · rfl
  | signal | tick | fetched => exact posted _ _
  | wait => rfl

/-- What an operation shows on an event is what its controller shows from then on, if it is new. -/
theorem shown_on_event (sent : o.controller.outbox = []) (e : Event) :
    (o.effects e).filterMap Effect.shown? =
        (if (o.step e).controller.view = o.controller.view then []
        else [(o.step e).controller.view]) ∧
      ((o.step e).controller.view ≠ o.controller.view → (o.step e).controller.awaiting = none) := by
  cases takes : o.input? e with
  | none =>
    rw [controller_of_no_input takes, effects, takes]
    exact ⟨by rw [if_pos rfl]; rfl, fun other => absurd rfl other⟩
  | some input =>
    rw [controller_of_input takes, effects, takes]
    obtain ⟨announced, idle⟩ := Controller.shows_step o.now o.controller input
    have nothing : o.controller.announced = [] := by rw [Controller.announced, sent]; rfl
    rw [nothing, List.nil_append] at announced
    exact ⟨announced, idle⟩

theorem event_of_command {cmd : Command} (takes : o.input? e = some (.command cmd)) :
    e = .command cmd := by
  cases e with
  | command c => cases takes; rfl
  | shutDown | commandAnswer | signal | tick | fetched | wait => cases takes
  | streamAnswer result => simp only [input?] at takes; split at takes <;> cases takes
  | deliver place => simp only [input?] at takes; split at takes <;> cases takes

theorem unclosed_step (orderly : Orderly o) (unclosed : o.controller.closed = false)
    (open_ : e ≠ .shutDown) : (o.step e).controller.closed = false := by
  refine Bool.eq_false_iff.2 fun closed => ?_
  rcases step_cases orderly e with ⟨same, -⟩ | ⟨input, a, mail, taken, -, -, shutsDown⟩
  · rw [same, unclosed] at closed
    cases closed
  · rw [taken] at closed
    exact open_ (shutsDown (Controller.step_closes unclosed closed).1)

/-- A run that is over stays so, in every event but a new start. -/
theorem over_step (ended : o.controller.Over)
    (other : ∀ cmd, e = .command cmd → cmd.kind ≠ .start) :
    Controller.Over.Stays o.controller (o.step e).controller := by
  cases takes : o.input? e with
  | none =>
    rw [controller_of_no_input takes]
    exact ended.stays_self
  | some input =>
    have unstarted : ∀ cmd, input = .command cmd → cmd.kind ≠ .start := fun cmd asked =>
      other cmd (event_of_command (asked ▸ takes))
    obtain ⟨still, state, view⟩ := ended.step o.now unstarted
    rw [controller_of_input takes]
    exact ended.stays_of_rests state view
      ⟨still.rests.awaiting, still.rests.streaming, still.rests.armed, still.rests.fetching⟩

end Operation

end RunWatch
