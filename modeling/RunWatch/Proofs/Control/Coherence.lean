import RunWatch.Control.Controller
import RunWatch.Proofs.Run.Moves

/-!
# Phase and resources

A controller is coherent if its phase agrees with its stream, its watchdog and its fetch.
`coherent_step` states that every input keeps it so, as long as results of fetches reach only a
controller that is watching a confirmed run.
-/

namespace RunWatch.Controller

/-! ### Operations in closed form -/

theorem closeStream_eq (c : Controller) :
    c.closeStream =
      { c with
        streaming := false
        stream := c.stream + 1
        outbox := c.outbox ++ if c.streaming then [.cancelStream c.stream] else [] } := by
  unfold closeStream emit
  cases c.streaming <;> simp

theorem stopWatchdog_eq (c : Controller) :
    c.stopWatchdog =
      { c with
        armed := false
        fetching := false
        watchdog := c.watchdog + 1
        outbox := c.outbox ++ (if c.armed then [.stopTimer c.watchdog] else []) ++
          if c.fetching then [.abortFetch c.watchdog] else [] } := by
  obtain ⟨times, state, streaming, stream, armed, watchdog, fetching, lastFrame, awaiting, closed,
    view, outbox⟩ := c
  cases armed <;> cases fetching <;> simp [stopWatchdog, emit]

theorem armWatchdog_eq (c : Controller) :
    c.armWatchdog =
      { c with
        armed := true
        fetching := false
        watchdog := c.watchdog + 1
        outbox := c.stopWatchdog.outbox ++ [.armTimer (c.watchdog + 1)] } := by
  rw [armWatchdog, stopWatchdog_eq]
  rfl

theorem publish_eq (c : Controller) :
    c.publish =
      { c with
        view := c.present
        outbox := c.outbox ++ if c.view = c.present then [] else [.publish c.present] } := by
  unfold publish emit
  split
  · rename_i same
    simp [← same]
  · rfl

theorem settle_state (x : RunState × Transition) (c : Controller) :
    (c.settle x).state = x.1 := by
  simp only [settle, closeStream_eq, stopWatchdog_eq]
  split <;> split <;> rfl

theorem settle_awaiting (x : RunState × Transition) (c : Controller) :
    (c.settle x).awaiting = c.awaiting := by
  simp only [settle, closeStream_eq, stopWatchdog_eq]
  split <;> split <;> rfl

/-! ### Coherence -/

/-- The phase of a controller agrees with what it has running. -/
structure Coherent (c : Controller) : Prop where
  /-- A run that is over has nothing left. -/
  terminal : c.state.phase.isTerminal = true →
    c.streaming = false ∧ c.armed = false ∧ c.fetching = false
  paused : c.state.phase = .paused → c.streaming = false ∧ c.armed = true
  running : c.state.phase = .running → c.armed = true
  /-- A run that is not confirmed is watched along with its stream, or not at all. -/
  pending : c.state.phase = .pending →
    (c.streaming = true ∧ c.armed = true) ∨
      (c.streaming = false ∧ c.armed = false ∧ c.fetching = false)
  fetching : c.fetching = true → c.armed = true ∧ c.state.id.isSome = true
  unnamed : c.state.phase = .pending → c.state.id = none

theorem coherent_initial (times : WatchTimes) : Coherent { times } where
  terminal h := nomatch h
  paused h := nomatch h
  running h := nomatch h
  pending _ := .inr ⟨rfl, rfl, rfl⟩
  fetching h := nomatch h
  unnamed _ := rfl

theorem coherent_of_idle {c : Controller} (streaming : c.streaming = false)
    (armed : c.armed = false) (fetching : c.fetching = false)
    (phase : c.state.phase.isTerminal = true ∨ c.state.phase = .pending ∧ c.state.id = none) :
    Coherent c where
  terminal _ := ⟨streaming, armed, fetching⟩
  paused h := by rcases phase with phase | ⟨phase, -⟩ <;> rw [h] at phase <;> cases phase
  running h := by rcases phase with phase | ⟨phase, -⟩ <;> rw [h] at phase <;> cases phase
  pending _ := .inr ⟨streaming, armed, fetching⟩
  fetching h := absurd (fetching.symm.trans h) nofun
  unnamed h := by
    rcases phase with phase | ⟨-, id⟩
    · rw [h] at phase; cases phase
    · exact id

theorem coherent_of_running {c : Controller} (phase : c.state.phase = .running)
    (armed : c.armed = true) (fetching : c.fetching = false) : Coherent c where
  terminal h := by rw [phase] at h; cases h
  paused h := absurd (phase.symm.trans h) nofun
  running _ := armed
  pending h := absurd (phase.symm.trans h) nofun
  fetching h := absurd (fetching.symm.trans h) nofun
  unnamed h := absurd (phase.symm.trans h) nofun

namespace Coherent

variable {c : Controller}

theorem of_eq {c' : Controller} (h : Coherent c) (phase : c'.state.phase = c.state.phase)
    (id : c'.state.id = c.state.id) (streaming : c'.streaming = c.streaming)
    (armed : c'.armed = c.armed) (fetching : c'.fetching = c.fetching) : Coherent c' where
  terminal := by rw [phase, streaming, armed, fetching]; exact h.terminal
  paused := by rw [phase, streaming, armed]; exact h.paused
  running := by rw [phase, armed]; exact h.running
  pending := by rw [phase, streaming, armed, fetching]; exact h.pending
  fetching := by rw [fetching, armed, id]; exact h.fetching
  unnamed := by rw [phase, id]; exact h.unnamed

theorem live_of_armed (h : Coherent c) (armed : c.armed = true) :
    c.state.phase.isTerminal = false := by
  cases ends : c.state.phase.isTerminal with
  | false => rfl
  | true => exact absurd ((h.terminal ends).2.1.symm.trans armed) nofun

theorem confirmed_of_id (h : Coherent c) (id : c.state.id.isSome = true) :
    c.state.phase ≠ .pending := by
  intro phase
  rw [h.unnamed phase] at id
  cases id

/-- A run that has a stream or a known id, and is not over, is watched. -/
theorem armed_of_live (h : Coherent c) (live : c.state.phase.isTerminal = false)
    (known : c.streaming = true ∨ c.state.id.isSome = true) : c.armed = true := by
  cases phase : c.state.phase with
  | pending =>
    rcases h.pending phase with ⟨-, armed⟩ | ⟨streaming, -⟩
    · exact armed
    · rcases known with open_ | id
      · exact absurd (streaming.symm.trans open_) nofun
      · exact absurd phase (h.confirmed_of_id id)
  | running => exact h.running phase
  | paused => exact (h.paused phase).2
  | succeeded | failed | cancelled => rw [phase] at live; cases live

theorem live_of_streaming (h : Coherent c) (streaming : c.streaming = true) :
    c.state.phase.isTerminal = false := by
  cases ends : c.state.phase.isTerminal with
  | false => rfl
  | true => exact absurd ((h.terminal ends).1.symm.trans streaming) nofun

theorem publish (h : Coherent c) : Coherent c.publish := by
  rw [publish_eq]
  exact h.of_eq rfl rfl rfl rfl rfl

theorem reply (h : Coherent c) (result : Except ClientFailure Unit) :
    Coherent (c.reply result) :=
  publish (h.of_eq rfl rfl rfl rfl rfl)

theorem closeStream (h : Coherent c) (confirmed : c.state.phase ≠ .pending) :
    Coherent c.closeStream := by
  rw [closeStream_eq]
  exact {
    terminal := fun ends => ⟨rfl, (h.terminal ends).2⟩
    paused := fun phase => ⟨rfl, (h.paused phase).2⟩
    running := h.running
    pending := fun phase => absurd phase confirmed
    fetching := h.fetching
    unnamed := h.unnamed }

end Coherent

theorem settle_ended {x : RunState × Transition} (c : Controller)
    (changed : x.2.changed = true) (ends : x.1.phase.isTerminal = true) :
    Coherent (c.settle x) := by
  have all : (x.2.changed && x.1.isTerminal) = true := by
    rw [changed, RunState.isTerminal, ends]; rfl
  refine coherent_of_idle ?_ ?_ ?_ (.inl ?_)
  · simp only [settle, all, if_true, closeStream_eq, stopWatchdog_eq]
  · simp only [settle, all, if_true, closeStream_eq, stopWatchdog_eq]
  · simp only [settle, all, if_true, closeStream_eq, stopWatchdog_eq]
  · rw [settle_state]; exact ends

/-- A change of the state of a watched run, with its consequences. -/
theorem Coherent.settle {c : Controller} (h : Coherent c) (armed : c.armed = true)
    {x : RunState × Transition} (advances : c.state.Advances x)
    (unnamed : x.1.phase = .pending → x.1.id = none) : Coherent (c.settle x) := by
  have live := h.live_of_armed armed
  cases ends : x.1.phase.isTerminal with
  | true =>
    -- A watched run was not over before, so the transition tells of the change.
    have moved : x.1.phase ≠ c.state.phase := fun same => by rw [same, live] at ends; cases ends
    exact settle_ended c (advances.changed moved) ends
  | false =>
    have known : c.fetching = true → x.1.id.isSome = true := by
      intro fetching
      obtain ⟨r, id⟩ := Option.isSome_iff_exists.1 (h.fetching fetching).2
      rw [advances.id r id]; rfl
    have goesOn : (x.2.changed && x.1.isTerminal) = false := by
      rw [RunState.isTerminal, ends, Bool.and_false]
    cases closes : x.2.closeStream with
    | true =>
      -- Of the phases that end a stream, only this one lets the run go on.
      have paused : x.1.phase = .paused := by
        simpa [RunPhase.endsStream, ends] using (advances.closes.1 closes).2
      have e : c.settle x = Controller.closeStream { c with state := x.1 } := by
        simp only [Controller.settle, closes, goesOn, if_true, Bool.false_eq_true, if_false]
      rw [e, closeStream_eq]
      exact {
        terminal := fun ended => absurd (ends.symm.trans ended) (by decide)
        paused := fun _ => ⟨rfl, armed⟩
        running := fun _ => armed
        pending := fun phase => absurd (paused.symm.trans phase) (by decide)
        fetching := fun fetching => ⟨armed, known fetching⟩
        unnamed := unnamed }
    | false =>
      have e : c.settle x = { c with state := x.1 } := by
        simp only [Controller.settle, closes, goesOn, Bool.false_eq_true, if_false]
      have same := advances.of_keepsStream closes
      rw [e]
      exact {
        terminal := fun ended => absurd (ends.symm.trans ended) (by decide)
        paused := fun phase => by
          rcases same with same | running
          · exact h.paused (same.symm.trans phase)
          · exact absurd (running.symm.trans phase) (by decide)
        running := fun _ => armed
        pending := fun phase => by
          rcases same with same | running
          · exact h.pending (same.symm.trans phase)
          · exact absurd (running.symm.trans phase) (by decide)
        fetching := fun fetching => ⟨armed, known fetching⟩
        unnamed := unnamed }

/-! ### Steps -/

/-- What the request that is out says of the controller. -/
def Asking (c : Controller) : Prop :=
  match c.awaiting with
  | none => True
  | some .start => c.state.phase = .pending ∧ c.streaming = false
  | some .resume => c.state.phase = .paused
  | some .pause | some .cancel => c.armed = true

theorem Asking.of_none {c : Controller} (h : c.awaiting = none) : Asking c := by
  rw [Asking, h]
  trivial

theorem reply_awaiting (result : Except ClientFailure Unit) (c : Controller) :
    (c.reply result).awaiting = none := by
  rw [reply, publish_eq]
  rfl

theorem asking_reply (result : Except ClientFailure Unit) (c : Controller) :
    Asking (c.reply result) :=
  .of_none (reply_awaiting result c)

variable {c : Controller}

theorem coherent_command (h : Coherent c) (cmd : Command) :
    Coherent (c.command cmd) ∧ Asking (c.command cmd) := by
  cases cmd with
  | start workflow inputs =>
    simp only [command, start]
    split
    · exact ⟨h.reply _, asking_reply _ c⟩
    · split
      · exact ⟨h.reply _, asking_reply _ c⟩
      · rw [openStream, closeStream_eq, stopWatchdog_eq]
        exact ⟨coherent_of_idle rfl rfl rfl (.inr ⟨rfl, rfl⟩), rfl, rfl⟩
  | pause =>
    simp only [command, pause]
    split
    · exact ⟨h.reply _, asking_reply _ c⟩
    · rename_i allowed
      split
      · exact ⟨h.reply _, asking_reply _ c⟩
      · have running : c.state.phase = .running := by simpa [RunState.canPause] using allowed
        exact ⟨h.of_eq rfl rfl rfl rfl rfl, h.running running⟩
  | resume =>
    simp only [command, resume]
    split
    · rename_i workflow run allowed _ _
      have paused : c.state.phase = .paused := by
        simp only [RunState.canResume, Bool.and_eq_true, decide_eq_true_eq] at allowed
        exact allowed.1.1
      have unwatched := h.closeStream fun pending => nomatch paused.symm.trans pending
      refine ⟨unwatched.of_eq rfl rfl rfl rfl rfl, ?_⟩
      rw [openStream, closeStream_eq]
      exact paused
    · exact ⟨h.reply _, asking_reply _ c⟩
  | cancel =>
    simp only [command, cancel]
    split
    · exact ⟨h.reply _, asking_reply _ c⟩
    · rename_i allowed
      simp only [Bool.or_eq_true, Bool.and_eq_true, Bool.not_eq_true', Option.isNone_iff_eq_none,
        not_or, not_and] at allowed
      obtain ⟨live, known⟩ := allowed
      replace live : c.state.phase.isTerminal = false := Bool.eq_false_iff.2 live
      split
      · rename_i unnamed
        -- Without an id and without a stream the command is refused.
        have streaming : c.streaming = true := by
          cases streaming : c.streaming with
          | true => rfl
          | false => exact absurd unnamed (known streaming)
        have armed := h.armed_of_live live (.inl streaming)
        refine ⟨(h.settle armed c.state.advances_cancel fun pending => ?_).reply _,
          asking_reply _ _⟩
        rw [RunState.cancel, if_neg (by rw [live]; nofun), RunState.id_setPhase]
        exact unnamed
      · rename_i run id
        exact ⟨h.of_eq rfl rfl rfl rfl rfl, h.armed_of_live live (.inr (by rw [id]; rfl))⟩

theorem coherent_opened (h : Coherent c) (asking : Asking c) (now : Nat)
    (result : Except StreamFailure Unit) :
    Coherent (c.opened now result) ∧ Asking (c.opened now result) := by
  unfold opened
  split
  · rename_i command
    rw [Asking, command] at asking
    obtain ⟨pending, streaming⟩ := asking
    refine ⟨Coherent.reply ?_ _, asking_reply _ _⟩
    rw [armWatchdog_eq]
    exact {
      terminal := fun ends => by rw [install, pending] at ends; cases ends
      paused := fun phase => absurd (pending.symm.trans phase) (by decide)
      running := fun _ => rfl
      pending := fun _ => .inl ⟨rfl, rfl⟩
      fetching := (absurd · Bool.false_ne_true)
      unnamed := h.unnamed }
  · refine ⟨Coherent.reply ?_ _, asking_reply _ _⟩
    exact h.of_eq rfl rfl rfl rfl rfl
  · rename_i command
    rw [Asking, command] at asking
    refine ⟨Coherent.reply ?_ _, asking_reply _ _⟩
    rw [armWatchdog_eq]
    refine coherent_of_running ?_ rfl rfl
    simp only [settle_state, RunState.markResumed, RunState.moveFrom, RunState.setPhase, install,
      if_pos asking]
    rw [asking, if_neg (by decide)]
  · exact ⟨h.reply _, asking_reply _ c⟩
  · exact ⟨h, asking⟩

theorem Coherent.applyEvent (h : Coherent c) (armed : c.armed = true) (e : RunEvent) :
    Coherent (c.settle (c.state.applyEvent e)) := by
  have advances := c.state.advances_applyEvent e
  refine h.settle armed advances fun pending => ?_
  rw [RunState.id_applyEvent_of_pending pending]
  exact h.unnamed (advances.of_pending pending)

theorem coherent_acknowledged (h : Coherent c) (asking : Asking c)
    (result : Except ClientFailure Unit) :
    Coherent (c.acknowledged result) ∧ Asking (c.acknowledged result) := by
  unfold acknowledged
  split
  · rename_i command
    rw [Asking, command] at asking
    exact ⟨(h.applyEvent asking .paused).reply _, asking_reply _ _⟩
  · rename_i command
    rw [Asking, command] at asking
    exact ⟨(h.applyEvent asking .cancelled).reply _, asking_reply _ _⟩
  · exact ⟨h.reply _, asking_reply _ c⟩
  · exact ⟨h.reply _, asking_reply _ c⟩
  · exact ⟨h, asking⟩

theorem coherent_fail (live : c.state.phase.isTerminal = false) (message : String)
    (d : Controller) : Coherent (d.settle (c.state.fail message)) := by
  rw [RunState.fail_eq live]
  exact settle_ended d rfl rfl

/-- A run that has lost its stream before it got an id has failed. -/
theorem Coherent.lose (h : Coherent c) (streaming : c.streaming = true) (message : String) :
    Coherent (c.closeStream.failUnconfirmed message) := by
  have live := h.live_of_streaming streaming
  have state : c.closeStream.state = c.state := by rw [closeStream_eq]
  unfold failUnconfirmed
  rw [RunState.isTerminal, state, live, Bool.or_false]
  split
  · rename_i id
    exact h.closeStream (h.confirmed_of_id id)
  · rw [stopWatchdog_eq, state]
    exact coherent_fail live message _

theorem Coherent.signal (h : Coherent c) (streaming : c.streaming = true) (now : Nat)
    (s : StreamSignal) : Coherent (c.signal now s) := by
  cases s with
  | frame f =>
    simp only [Controller.signal]
    split
    · rename_i e _
      have armed := h.armed_of_live (h.live_of_streaming streaming) (.inl streaming)
      exact Coherent.applyEvent (c := { c with lastFrame := now })
        (h.of_eq rfl rfl rfl rfl rfl) armed e
    · exact h.of_eq rfl rfl rfl rfl rfl
  | closed => exact h.lose streaming _
  | failed failure => exact h.lose streaming _

theorem Coherent.tick (h : Coherent c) (armed : c.armed = true) (now : Nat) :
    Coherent (c.tick now) := by
  have live := h.live_of_armed armed
  unfold Controller.tick
  rw [RunState.isTerminal, live, if_neg nofun]
  split
  · exact h
  · split
    · exact h
    · rename_i run id
      exact {
        terminal := fun ends => absurd (live.symm.trans ends) nofun
        paused := h.paused
        running := h.running
        pending := fun phase => absurd phase (h.confirmed_of_id (by rw [id]; rfl))
        fetching := fun _ => ⟨armed, by rw [emit, id]; rfl⟩
        unnamed := h.unnamed }

theorem Coherent.polled (h : Coherent c) (armed : c.armed = true)
    (id : c.state.id.isSome = true) (result : Except PollFailure RunSnapshot) :
    Coherent (c.polled result) := by
  have confirmed := h.confirmed_of_id id
  have taken : Coherent { c with fetching := false } := {
    terminal := fun ends => absurd ((h.live_of_armed armed).symm.trans ends) nofun
    paused := h.paused
    running := h.running
    pending := fun phase => absurd phase confirmed
    fetching := fun fetching => nomatch fetching
    unnamed := h.unnamed }
  unfold Controller.polled
  split
  · rename_i snapshot
    have advances := c.state.advances_applySnapshot snapshot
    refine taken.settle armed advances fun pending => ?_
    exact absurd (advances.of_pending pending) confirmed
  · simp only [stopWatchdog_eq]
    exact coherent_fail (h.live_of_armed armed) goneRecord _
  · exact taken

theorem message_awaiting (now : Nat) (m : Message) (c : Controller) :
    (c.message now m).awaiting = c.awaiting := by
  unfold message
  split
  · rfl
  · rw [publish_eq]
    cases m with
    | signal stream s =>
      cases s with
      | frame f =>
        simp only [signal]
        split
        · exact settle_awaiting _ _
        · rfl
      | closed | failed failure =>
        simp only [signal, failUnconfirmed, closeStream_eq, stopWatchdog_eq]
        split
        · rfl
        · exact settle_awaiting _ _
    | tick watchdog =>
      simp only [tick, stopWatchdog_eq]
      split
      · rfl
      · split
        · rfl
        · split <;> rfl
    | polled watchdog result =>
      simp only [polled, stopWatchdog_eq]
      split
      · exact settle_awaiting _ _
      · exact settle_awaiting _ _
      · rfl

/-- A result with the present number reaches only a watched run with an id. -/
def Expects (c : Controller) : Input → Prop
  | .message (.polled watchdog _) =>
    watchdog = c.watchdog → c.armed = true ∧ c.state.id.isSome = true
  | _ => True

theorem Coherent.message (h : Coherent c) (now : Nat) (m : Message)
    (expects : Expects c (.message m)) : Coherent (c.message now m) := by
  unfold Controller.message
  split
  · exact h
  · rename_i concerned
    refine Coherent.publish ?_
    cases m with
    | signal stream s =>
      simp only [concerns, Bool.and_eq_true, beq_iff_eq, Bool.not_eq_false] at concerned
      exact h.signal concerned.2 now s
    | tick watchdog =>
      simp only [concerns, Bool.and_eq_true, beq_iff_eq, Bool.not_eq_false] at concerned
      exact h.tick concerned.2 now
    | polled watchdog result =>
      simp only [concerns, beq_iff_eq, Bool.not_eq_false] at concerned
      obtain ⟨armed, id⟩ := expects concerned
      exact h.polled armed id result

/-- Every input keeps a controller coherent for as long as it is open. -/
theorem coherent_step (h : Coherent c) (asking : Asking c) (now : Nat) (input : Input)
    (expects : Expects c input) (unclosed : (c.step now input).closed = false) :
    Coherent (c.step now input) ∧ Asking (c.step now input) := by
  unfold step at unclosed ⊢
  split
  · exact ⟨h, asking⟩
  · rename_i opened
    rw [if_neg opened] at unclosed
    split
    · rename_i cmd _
      exact coherent_command h cmd
    · rename_i m idle
      exact ⟨h.message now m expects, .of_none ((message_awaiting now m c).trans idle)⟩
    · rename_i idle
      rw [idle] at unclosed
      cases unclosed
    · rename_i result _
      exact coherent_opened h asking now result
    · rename_i result _
      exact coherent_acknowledged h asking result
    · exact ⟨h, asking⟩

end RunWatch.Controller
