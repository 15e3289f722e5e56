import RunWatch.Proofs.Control.Coherence
import RunWatch.Proofs.Control.Easing

/-!
# Refusals

A command is refused if the phase and the resources of the controller do not allow commands of its
kind, and only then. A coherent controller refuses all of them only if its run is stranded: paused
before it had an id.
-/

namespace RunWatch

def Command.kind : Command → RunCommand
  | .start .. => .start
  | .pause => .pause
  | .resume => .resume
  | .cancel => .cancel

/-- The run was paused before the server gave it an id. -/
structure RunState.Stranded (s : RunState) : Prop where
  paused : s.phase = .paused
  unnamed : s.id = none

/-- The effect answers that the phase does not allow the command. -/
def Effect.isRefusal : Effect → Bool
  | .reply (.error (.refused ..)) => true
  | _ => false

namespace Controller

/-- A controller that waits for nothing answers the command with a refusal. -/
def refuses (now : Nat) (cmd : Command) (c : Controller) : Bool :=
  (c.step now (.command cmd)).outbox.any Effect.isRefusal

/-- The phase and the resources are such that commands of this kind are taken up. -/
def allows (c : Controller) : RunCommand → Bool
  | .start => c.canStart
  | .pause => c.state.canPause
  | .resume => c.state.canResume
  | .cancel => !(c.state.isTerminal || (!c.streaming && c.state.id.isNone))

/-- The outbox holds a refusal. -/
def refused (c : Controller) : Bool :=
  c.outbox.any Effect.isRefusal

variable {c : Controller}

/-! ### Refusals in the outbox -/

theorem refused_eq (c : Controller) :
    c.refused = c.answers.any fun result => (Effect.reply result).isRefusal := by
  rw [refused, answers, List.any_filterMap]
  congr 1
  funext e
  cases e <;> rfl

theorem refused_of_answers {c c' : Controller} (same : c'.answers = c.answers) :
    c'.refused = c.refused := by
  rw [refused_eq, refused_eq, same]

theorem refused_reply (result : Except ClientFailure Unit) (c : Controller) :
    (c.reply result).refused = (c.refused || (Effect.reply result).isRefusal) := by
  rw [refused_eq, refused_eq, answers_reply, List.any_append, List.any_cons, List.any_nil,
    Bool.or_false]

/-! ### Commands -/

theorem command_of_not_allowed {cmd : Command} (h : c.allows cmd.kind = false) :
    c.command cmd = c.refuse cmd.kind := by
  cases cmd with
  | start workflow inputs => exact if_pos h
  | pause => exact if_pos h
  | resume =>
    have never : c.state.canResume = false := h
    simp only [command, resume, never]
    rfl
  | cancel => exact if_pos (Bool.not_eq_eq_eq_not.1 h)

theorem refused_command {cmd : Command} (h : c.allows cmd.kind = true) :
    (c.command cmd).refused = c.refused := by
  cases cmd with
  | start workflow inputs =>
    have allowed : ¬c.canStart = false := by rw [show c.canStart = true from h]; nofun
    simp only [command, start, if_neg allowed]
    split
    · exact (refused_reply _ c).trans (Bool.or_false _)
    · refine refused_of_answers ((answers_openStream _ _ _).trans ?_)
      exact (eases_stopWatchdog c).answers
  | pause =>
    have allowed : ¬c.state.canPause = false := by rw [show c.state.canPause = true from h]; nofun
    simp only [command, pause, if_neg allowed]
    split
    · exact (refused_reply _ c).trans (Bool.or_false _)
    · exact refused_of_answers (answers_request _ _ c)
  | resume =>
    have allowed : c.state.canResume = true := h
    simp only [command, resume]
    split
    · exact refused_of_answers (answers_openStream _ _ c)
    · rename_i never
      simp only [RunState.canResume, Bool.and_eq_true, Option.isSome_iff_exists] at allowed
      obtain ⟨⟨-, run, id⟩, workflow, named⟩ := allowed
      exact (never workflow run h named id).elim
  | cancel =>
    have allowed : (c.state.isTerminal || (!c.streaming && c.state.id.isNone)) = false :=
      Bool.not_eq_eq_eq_not.1 h
    simp only [command, cancel, allowed, Bool.false_eq_true, if_false]
    split
    · rw [refused_reply, refused_of_answers (eases_settle _ _).answers]
      exact Bool.or_false _
    · exact refused_of_answers (answers_request _ _ c)

theorem refuses_eq (unclosed : c.closed = false) (idle : c.awaiting = none) (sent : c.outbox = [])
    (now : Nat) (cmd : Command) : c.refuses now cmd = !c.allows cmd.kind := by
  have taken : c.step now (.command cmd) = c.command cmd := by
    simp only [step, unclosed, idle, Bool.false_eq_true, if_false]
  have before : c.refused = false := by rw [refused, sent]; rfl
  rw [refuses, taken]
  cases allowed : c.allows cmd.kind with
  | false => rw [command_of_not_allowed allowed]; exact (refused_reply _ c).trans (Bool.or_true _)
  | true => exact (refused_command allowed).trans before

/-! ### Stranded runs -/

theorem Coherent.allows_of_stranded (coherent : Coherent c) (h : c.state.Stranded)
    (kind : RunCommand) : c.allows kind = false := by
  have streaming := (coherent.paused h.paused).1
  cases kind with
  | start => simp [Controller.allows, canStart, RunState.canStart, h.paused, RunPhase.isTerminal]
  | pause => simp [Controller.allows, RunState.canPause, h.paused]
  | resume => simp [Controller.allows, RunState.canResume, h.unnamed]
  | cancel => simp [Controller.allows, streaming, h.unnamed]

theorem Coherent.exists_allowed (h : Coherent c) (unstranded : ¬c.state.Stranded) :
    ∃ kind, c.allows kind = true := by
  cases phase : c.state.phase with
  | pending =>
    rcases h.pending phase with ⟨streaming, -⟩ | ⟨streaming, -⟩
    · refine ⟨.cancel, ?_⟩
      simp [Controller.allows, RunState.isTerminal, phase, streaming, RunPhase.isTerminal]
    · refine ⟨.start, ?_⟩
      simp [Controller.allows, canStart, RunState.canStart, phase, streaming]
  | running => exact ⟨.pause, by simp [Controller.allows, RunState.canPause, phase]⟩
  | paused =>
    have named : c.state.id.isSome = true :=
      Option.isSome_iff_ne_none.2 fun unnamed => unstranded ⟨phase, unnamed⟩
    refine ⟨.cancel, ?_⟩
    simp [Controller.allows, RunState.isTerminal, phase, named, RunPhase.isTerminal]
  | succeeded | failed | cancelled =>
    have ends : c.state.phase.isTerminal = true := by rw [phase]; rfl
    refine ⟨.start, ?_⟩
    simp [Controller.allows, canStart, RunState.canStart, ends, (h.terminal ends).1]

end Controller

end RunWatch
