import RunWatch.Proofs.Control.Coherence
import RunWatch.Proofs.Control.Listening
import RunWatch.Proofs.Stream.Heard

/-!
# What a stream makes of a run

A controller takes the signals of its stream one by one, and acts on its stream along the way. For
the run this is a plain fold over the signals, `attend`, and over the bytes of a body it is
`watched`: the events of the frames in order, up to the first one that ends the stream.
-/

namespace RunWatch

theorem RunPhase.isTerminal_of_not_endsStream {p : RunPhase} (open_ : p.endsStream = false) :
    p.isTerminal = false := by
  cases p with
  | pending | running | paused => rfl
  | succeeded | failed | cancelled => cases open_

namespace RunState

/-- Takes events up to the first one that ends the stream, and says whether there was one. -/
def follow (s : RunState) : List RunEvent → RunState × Bool
  | [] => (s, false)
  | e :: events =>
    let t := (s.applyEvent e).1
    if t.phase.endsStream then (t, true) else t.follow events

/-- What the bytes of a body make of a run that was just started. -/
def watched (workflow : WorkflowId) (bytes : List UInt8) : RunState × Bool :=
  (placeholder workflow).follow ((({} : Frame.Decoder).feed bytes).2.filterMap RunEvent.ofFrame?)

/-- The stream is lost. Without an id the run fails. -/
def lose (message : String) (s : RunState) : RunState :=
  if s.id.isSome || s.isTerminal then s else (s.fail message).1

theorem lose_of_named {s : RunState} (named : s.id.isSome = true) (message : String) :
    s.lose message = s := by
  rw [lose, named]
  rfl

theorem lose_of_unnamed {s : RunState} (unnamed : s.id = none) (live : s.phase.isTerminal = false)
    (message : String) : s.lose message = (s.fail message).1 := by
  rw [lose, unnamed, isTerminal, live]
  rfl

theorem endsStream_of_follow (events : List RunEvent) {s : RunState}
    (open_ : s.phase.endsStream = false) :
    (s.follow events).1.phase.endsStream = (s.follow events).2 := by
  induction events generalizing s with
  | nil => exact open_
  | cons e events ih =>
    rw [follow]
    cases ends : (s.applyEvent e).1.phase.endsStream with
    | true => exact ends
    | false => exact ih ends

/-- The run goes on if no event has ended the stream. -/
theorem watched_live {workflow : WorkflowId} {bytes : List UInt8}
    (goes : (watched workflow bytes).2 = false) :
    (watched workflow bytes).1.phase.isTerminal = false :=
  RunPhase.isTerminal_of_not_endsStream ((endsStream_of_follow _ rfl).trans goes)

end RunState

/-- A run and whether its stream is open, after one more signal of the stream. -/
def attend : RunState × Bool → StreamSignal → RunState × Bool
  | (s, false), _ => (s, false)
  | (s, true), .frame f =>
    match RunEvent.ofFrame? f with
    | some e => ((s.applyEvent e).1, !(s.applyEvent e).1.phase.endsStream)
    | none => (s, true)
  | (s, true), .closed => (s.lose Controller.endedUnconfirmed, false)
  | (s, true), .failed failure => (s.lose (Controller.failedUnconfirmed failure), false)

theorem foldl_attend_closed (signals : List StreamSignal) (s : RunState) :
    signals.foldl attend (s, false) = (s, false) := by
  induction signals with
  | nil => rfl
  | cons x signals ih => exact ih

theorem foldl_attend_prefix {xs ys : List StreamSignal} (h : xs <+: ys) {start : RunState × Bool}
    {s : RunState} (closed : xs.foldl attend start = (s, false)) :
    ys.foldl attend start = (s, false) := by
  obtain ⟨more, rfl⟩ := h
  rw [List.foldl_append, closed, foldl_attend_closed]

theorem foldl_attend_frames (frames : List Frame) (s : RunState) :
    (frames.map StreamSignal.frame).foldl attend (s, true) =
      ((s.follow (frames.filterMap RunEvent.ofFrame?)).1,
        !(s.follow (frames.filterMap RunEvent.ofFrame?)).2) := by
  induction frames generalizing s with
  | nil => rfl
  | cons f frames ih =>
    rw [List.map_cons, List.foldl_cons, List.filterMap_cons, attend]
    cases RunEvent.ofFrame? f with
    | none => exact ih s
    | some e =>
      dsimp only
      rw [RunState.follow]
      cases ends : (s.applyEvent e).1.phase.endsStream with
      | true => exact foldl_attend_closed _ _
      | false => exact ih _

/-! ### Controllers -/

namespace Controller

theorem settle_streaming (x : RunState × Transition) (c : Controller) :
    (c.settle x).streaming =
      (c.streaming && !x.2.closeStream && !(x.2.changed && x.1.isTerminal)) := by
  simp only [settle, closeStream_eq, stopWatchdog_eq]
  cases x.2.closeStream <;> cases x.2.changed && x.1.isTerminal <;> simp

namespace Coherent

variable {c : Controller}

theorem open_of_streaming (h : Coherent c) (streaming : c.streaming = true) :
    c.state.phase.endsStream = false := by
  have live := h.live_of_streaming streaming
  cases phase : c.state.phase with
  | pending | running => rfl
  | paused => exact absurd ((h.paused phase).1.symm.trans streaming) nofun
  | succeeded | failed | cancelled => rw [phase] at live; cases live

theorem settle_attends (h : Coherent c) (streaming : c.streaming = true)
    {x : RunState × Transition} (advances : c.state.Advances x) :
    (c.settle x).streaming = !x.1.phase.endsStream := by
  have before := h.open_of_streaming streaming
  rw [settle_streaming, streaming, RunState.isTerminal]
  cases ends : x.1.phase.endsStream with
  | true =>
    have moved : x.1.phase ≠ c.state.phase := fun same => by
      rw [same, before] at ends
      cases ends
    rw [advances.closes.2 ⟨moved, ends⟩]
    rfl
  | false =>
    have keeps : x.2.closeStream = false := by
      refine Bool.eq_false_iff.2 fun closes => ?_
      exact absurd (ends.symm.trans (advances.closes.1 closes).2) (by decide)
    have live := RunPhase.isTerminal_of_not_endsStream ends
    rw [keeps, live, Bool.and_false]
    rfl

/-- A signal of the open stream does to the run what `attend` says. -/
theorem signal_attends (h : Coherent c) (streaming : c.streaming = true) (now : Nat)
    (x : StreamSignal) :
    ((c.signal now x).state, (c.signal now x).streaming) = attend (c.state, true) x := by
  have lost (message : String) :
      ((c.closeStream.failUnconfirmed message).state,
        (c.closeStream.failUnconfirmed message).streaming) = (c.state.lose message, false) := by
    have state : c.closeStream.state = c.state := by rw [closeStream_eq]
    unfold failUnconfirmed RunState.lose
    rw [state]
    split
    · rw [closeStream_eq]
    · rw [settle_streaming, settle_state, stopWatchdog_eq, closeStream_eq]
      rfl
  cases x with
  | frame f =>
    simp only [Controller.signal, attend]
    cases RunEvent.ofFrame? f with
    | none => exact congrArg (Prod.mk c.state) streaming
    | some e =>
      have noted : Coherent { c with lastFrame := now } := h.of_eq rfl rfl rfl rfl rfl
      dsimp only
      rw [settle_state, noted.settle_attends streaming (c.state.advances_applyEvent e)]
  | closed => exact lost _
  | failed failure => exact lost _

end Coherent

end Controller

end RunWatch
