import RunWatch.Proofs.Control.Acts
import RunWatch.Proofs.Control.Failures

/-!
# Views and guards

What a controller shows tells which commands it refuses. While a request is out the view is the one
from before it, so what fits together in a view does so at all times: `Told`.
-/

namespace RunWatch

namespace RunView

/-- What the view tells of commands of a kind. Of cancelling it tells nothing. -/
def permits? (v : RunView) : RunCommand → Option Bool
  | .start => some v.canStart
  | .pause => some v.canPause
  | .resume => some v.canResume
  | .cancel => none

/-- A run can be started if it is not watched, and a stream is watched. -/
structure Consistent (v : RunView) : Prop where
  canStart : v.canStart = !v.polling
  streaming : v.streaming = true → v.polling = true

end RunView

namespace Controller

variable {c : Controller}

theorem permits?_present {kind : RunCommand} {permitted : Bool}
    (tells : c.present.permits? kind = some permitted) : c.allows kind = permitted := by
  cases kind with
  | start | pause | resume => exact Option.some.inj tells
  | cancel => cases tells

/-! ### Views of coherent controllers -/

theorem Coherent.armed_of_streaming (h : Coherent c) (streaming : c.streaming = true) :
    c.armed = true :=
  h.armed_of_live (h.live_of_streaming streaming) (.inl streaming)

theorem Coherent.canStart_of_unarmed (h : Coherent c) (unarmed : c.armed = false) :
    c.canStart = true := by
  have silent : c.streaming = false := by
    refine Bool.eq_false_iff.2 fun streaming => ?_
    exact absurd (unarmed.symm.trans (h.armed_of_streaming streaming)) Bool.false_ne_true
  rw [canStart, silent, RunState.canStart]
  cases phase : c.state.phase with
  | running => exact absurd (unarmed.symm.trans (h.running phase)) Bool.false_ne_true
  | paused => exact absurd (unarmed.symm.trans (h.paused phase).2) Bool.false_ne_true
  | pending | succeeded | failed | cancelled => rfl

theorem Coherent.consistent_present (h : Coherent c) : c.present.Consistent where
  canStart := by
    change c.canStart = !c.armed
    cases armed : c.armed with
    | false => exact h.canStart_of_unarmed armed
    | true =>
      refine Bool.eq_false_iff.2 fun allowed => ?_
      exact absurd ((h.still_of_canStart allowed).2.1.symm.trans armed) Bool.false_ne_true
  streaming := h.armed_of_streaming

/-! ### Views while a request is out -/

/-- The view is the one from before if a request is out now. -/
def Overdue (c c' : Controller) : Prop :=
  c'.awaiting = none ∨ c'.view = c.view

theorem overdue_reply (result : Except ClientFailure Unit) (c d : Controller) :
    Overdue d (c.reply result) :=
  .inl (reply_awaiting result c)

theorem overdue_command (cmd : Command) (c : Controller) : Overdue c (c.command cmd) := by
  cases cmd with
  | start workflow inputs =>
    simp only [command, start]
    split
    · exact overdue_reply _ _ _
    · split
      · exact overdue_reply _ _ _
      · rw [openStream, closeStream_eq, stopWatchdog_eq]
        exact .inr rfl
  | pause =>
    simp only [command, pause]
    split
    · exact overdue_reply _ _ _
    · split
      · exact overdue_reply _ _ _
      · exact .inr rfl
  | resume =>
    simp only [command, resume]
    split
    · rw [openStream, closeStream_eq]
      exact .inr rfl
    · exact overdue_reply _ _ _
  | cancel =>
    simp only [command, cancel]
    split
    · exact overdue_reply _ _ _
    · split
      · exact overdue_reply _ _ _
      · exact .inr rfl

theorem overdue_step (now : Nat) (c : Controller) (input : Input) :
    Overdue c (c.step now input) := by
  unfold step
  split
  · exact .inr rfl
  · split
    · exact overdue_command _ c
    · rename_i idle
      exact .inl ((message_awaiting now _ c).trans idle)
    · rename_i idle
      rw [shutDown, publish_eq, stopWatchdog_eq, closeStream_eq]
      exact .inl idle
    · unfold opened
      split
      · exact overdue_reply _ _ _
      · exact overdue_reply _ _ _
      · exact overdue_reply _ _ _
      · exact overdue_reply _ _ _
      · exact .inr rfl
    · unfold acknowledged
      split
      · exact overdue_reply _ _ _
      · exact overdue_reply _ _ _
      · exact overdue_reply _ _ _
      · exact overdue_reply _ _ _
      · exact .inr rfl
    · exact .inr rfl

end Controller

namespace Operation

variable {o : Operation}

/-- The view of an open controller is consistent, however old it is. -/
def Told (o : Operation) : Prop :=
  o.controller.closed = false → o.controller.view.Consistent

theorem Told.step (told : Told o) (orderly : Orderly o) (shown : o.controller.Shown) (e : Event) :
    Told (o.step e) := by
  intro unclosed
  have fresh (idle : (o.step e).controller.awaiting = none) :
      (o.step e).controller.view.Consistent := by
    rw [shown_operation_step shown e idle]
    exact ((orderly.step e).coherent unclosed).1.consistent_present
  rcases step_cases orderly e with ⟨same, -⟩ | ⟨input, a, mail, taken, -⟩
  · rw [same] at unclosed ⊢
    exact told unclosed
  · rw [taken] at unclosed fresh ⊢
    rcases Controller.overdue_step o.now o.controller input with idle | old
    · exact fresh idle
    · have before : (Operation.take input { o with activity := a, mail }).controller.view =
          o.controller.view := old
      rw [before]
      exact told (closed_of_step unclosed)

theorem told_after (times : WatchTimes) (events : List Event) : Told (after times events) := by
  have both := run_of_step (p := fun o => Told o ∧ o.controller.Shown) events
    (fun o e _ orderly h => ⟨h.1.step orderly h.2 e, shown_operation_step h.2 e⟩)
    (orderly_initial times) ⟨fun _ => ⟨rfl, nofun⟩, fun _ => rfl⟩
  exact both.1

/-! ### Refusals -/

theorem replies_command (unclosed : o.controller.closed = false)
    (idle : o.controller.awaiting = none) (cmd : Command) :
    o.replies (.command cmd) = (o.controller.command cmd).answers := by
  have taken : o.controller.step o.now (.command cmd) = o.controller.command cmd := by
    simp only [Controller.step, unclosed, idle, Bool.false_eq_true, if_false]
  simp only [replies, effects, input?, taken]
  rfl

theorem replies_of_not_allowed (sent : o.controller.outbox = [])
    (unclosed : o.controller.closed = false) (idle : o.controller.awaiting = none) {cmd : Command}
    (denied : o.controller.allows cmd.kind = false) :
    o.replies (.command cmd) = [.error (.refused cmd.kind o.controller.state.phase)] := by
  rw [replies_command unclosed idle, Controller.command_of_not_allowed denied, Controller.refuse,
    Controller.answers_reply, Controller.answers, sent]
  rfl

theorem not_allowed_of_refused (sent : o.controller.outbox = [])
    (unclosed : o.controller.closed = false) (idle : o.controller.awaiting = none) {cmd : Command}
    {kind : RunCommand} {phase : RunPhase}
    (refused : .error (.refused kind phase) ∈ o.replies (.command cmd)) :
    o.controller.allows cmd.kind = false := by
  refine Bool.eq_false_iff.2 fun allowed => ?_
  have none_before : o.controller.refused = false := by
    rw [Controller.refused, sent]
    rfl
  have none_after := (Controller.refused_command allowed).trans none_before
  rw [Controller.refused_eq, ← replies_command unclosed idle, List.any_eq_false] at none_after
  exact none_after _ refused rfl

/-- In every operation a controller that waits for nothing shows what it is, and refuses exactly
the commands that the view tells it will. What an open controller shows is consistent also while it
waits. -/
theorem view_tells_refusals (times : WatchTimes) (events : List Event) :
    let o := after times events
    (o.controller.awaiting = none → o.controller.view = o.controller.present) ∧
      (o.controller.closed = false → o.controller.view.Consistent) ∧
      (o.controller.closed = false → o.controller.awaiting = none →
        ∀ cmd permitted, o.controller.view.permits? cmd.kind = some permitted →
          (o.replies (.command cmd) = [.error (.refused cmd.kind o.controller.state.phase)] ↔
            permitted = false) ∧
          ∀ kind phase, .error (.refused kind phase) ∈ o.replies (.command cmd) →
            permitted = false) := by
  intro o
  have sent := (orderly_after times events).sent
  have shown := shown_after times events
  refine ⟨shown, told_after times events, fun unclosed idle cmd permitted tells => ?_⟩
  rw [shown idle] at tells
  have allows := Controller.permits?_present tells
  have denied (kind : RunCommand) (phase : RunPhase)
      (refused : .error (.refused kind phase) ∈ o.replies (.command cmd)) : permitted = false :=
    allows.symm.trans (not_allowed_of_refused sent unclosed idle refused)
  refine ⟨⟨fun refused => ?_, fun never => ?_⟩, denied⟩
  · refine denied cmd.kind o.controller.state.phase ?_
    rw [refused]
    exact List.mem_singleton_self _
  · exact replies_of_not_allowed sent unclosed idle (allows.trans never)

/-- A resumed run is watched and cannot be started, and a start is refused. -/
theorem view_tells_refusals_when_resumed :
    let o := after ⟨2, 1⟩ pausedAndResumed
    o.controller.closed = false ∧ o.controller.awaiting = none ∧
      o.controller.view.permits? .start = some false ∧ o.controller.view.polling = true ∧
      o.replies (.command (.start ⟨"deploy"⟩ none)) = [.error (.refused .start .running)] := by
  intro o
  have unclosed : o.controller.closed = false := by decide +kernel
  have idle : o.controller.awaiting = none := by decide +kernel
  have tells : o.controller.view.permits? .start = some false := by decide +kernel
  have watched : o.controller.view.polling = true := by decide +kernel
  have phase : o.controller.state.phase = .running := by decide +kernel
  have told := (view_tells_refusals ⟨2, 1⟩ pausedAndResumed).2.2 unclosed idle
    (.start ⟨"deploy"⟩ none) false tells
  exact ⟨unclosed, idle, tells, watched, phase ▸ told.1.2 rfl⟩

end Operation

end RunWatch
