import RunWatch.Run.State

/-!
# Moves of a run

What a change does to the phase and the run id. Changes of the ledger and of single fields are
quiet: they leave both alone. Every event, every snapshot and every change by the client advances
the run: the phase stays or makes one of its moves, the transition tells which, and a run id that
is known stays.
-/

namespace RunWatch

/-! ### Quiet changes -/

/-- The phase and the run id stay, and so does the stream. -/
structure RunState.Rests (s : RunState) (x : RunState × Transition) : Prop where
  phase : x.1.phase = s.phase
  id : x.1.id = s.id
  keepsStream : x.2.closeStream = false

/-- A change that leaves the phase and the run id alone. -/
def Change.Quiet (f : Change) : Prop :=
  ∀ s : RunState, s.Rests (f s)

namespace Change

theorem andThen_apply (f g : Change) (s : RunState) :
    f.andThen g s = ((g (f s).1).1, (f s).2.join (g (f s).1).2) := rfl

theorem andThen_assoc (f g h : Change) : (f.andThen g).andThen h = f.andThen (g.andThen h) := by
  funext s
  simp only [andThen_apply, Transition.join, Bool.or_assoc]

theorem Quiet.andThen {f g : Change} (hf : f.Quiet) (hg : g.Quiet) : (f.andThen g).Quiet := by
  intro s
  have first := hf s
  have second := hg (f s).1
  refine ⟨second.phase.trans first.phase, second.id.trans first.id, ?_⟩
  rw [andThen_apply, Transition.join, first.keepsStream, second.keepsStream, Bool.or_false]

theorem quiet_skip : skip.Quiet :=
  fun _ => ⟨rfl, rfl, rfl⟩

theorem quiet_whenSome {α : Type} {f : α → Change} (hf : ∀ a, (f a).Quiet) (a : Option α) :
    (whenSome a f).Quiet := by
  cases a with
  | none => exact quiet_skip
  | some a => exact hf a

end Change

namespace RunState

open Change

theorem quiet_adoptWorkflowId (id : Option WorkflowId) : (adoptWorkflowId id).Quiet := by
  intro s
  unfold adoptWorkflowId
  split
  · exact ⟨rfl, rfl, rfl⟩
  · exact quiet_skip s

theorem quiet_setProgress (x : Option Float) : (setProgress x).Quiet := by
  intro s
  unfold setProgress
  split
  · split
    · exact quiet_skip s
    · split
      · exact quiet_skip s
      · exact ⟨rfl, rfl, rfl⟩
  · exact quiet_skip s

theorem quiet_setError (e : String) : (setError e).Quiet := by
  intro s
  unfold setError
  split
  · exact quiet_skip s
  · exact ⟨rfl, rfl, rfl⟩

theorem quiet_setCurrentStep (node : String) : (setCurrentStep node).Quiet := by
  intro s
  unfold setCurrentStep
  split
  · exact quiet_skip s
  · exact ⟨rfl, rfl, rfl⟩

theorem quiet_openStep (node : String) (status : StepStatus) (origin : StepOrigin) :
    (openStep node status origin).Quiet := by
  intro s
  unfold openStep
  split
  · exact quiet_skip s
  · exact ⟨rfl, rfl, rfl⟩

theorem quiet_enterStep (origin : StepOrigin) (node : String) : (enterStep origin node).Quiet :=
  (quiet_setCurrentStep node).andThen (quiet_openStep node .running origin)

theorem quiet_completeStep (node : String) (output : Option Json.Value) :
    (completeStep node output).Quiet := by
  intro s
  unfold completeStep
  split
  · split
    · exact quiet_skip s
    · exact ⟨rfl, rfl, rfl⟩
  · exact ⟨rfl, rfl, rfl⟩

theorem quiet_failStep (error node : String) : (failStep error node).Quiet := by
  intro s
  unfold failStep
  split
  · split
    · exact quiet_skip s
    · exact ⟨rfl, rfl, rfl⟩
  · exact ⟨rfl, rfl, rfl⟩

theorem quiet_recordError (node : Option String) (error : String) :
    (recordError node error).Quiet :=
  (quiet_whenSome (quiet_failStep error) node).andThen (quiet_setError error)

/-! ### Changes that may move the phase -/

/-- The phase stays or makes a move, the transition tells a move and whether it ends the stream, and
a known run id stays. -/
structure Advances (s : RunState) (x : RunState × Transition) : Prop where
  moves : x.1.phase = s.phase ∨ s.phase.Moves x.1.phase
  id : ∀ r, s.id = some r → x.1.id = some r
  closes : x.2.closeStream = true ↔ x.1.phase ≠ s.phase ∧ x.1.phase.endsStream = true
  changed : x.1.phase ≠ s.phase → x.2.changed = true

theorem Rests.advances {s : RunState} {x : RunState × Transition} (h : s.Rests x) :
    s.Advances x where
  moves := .inl h.phase
  id _ known := h.id.trans known
  closes := by simp [h.keepsStream, h.phase]
  changed moved := absurd h.phase moved

/-- A change that may keep its stream either leaves the phase alone or lets the run go on. -/
theorem Advances.of_keepsStream {s : RunState} {x : RunState × Transition} (h : s.Advances x)
    (keeps : x.2.closeStream = false) : x.1.phase = s.phase ∨ x.1.phase = .running := by
  by_cases same : x.1.phase = s.phase
  · exact .inl same
  · have goesOn : x.1.phase.endsStream = false :=
      Bool.eq_false_iff.2 fun ends => absurd (keeps.symm.trans (h.closes.2 ⟨same, ends⟩)) nofun
    have move := h.moves.resolve_left same
    generalize x.1.phase = p at move goesOn ⊢
    generalize s.phase = q at move
    cases move with
    | begin | resume => exact .inr rfl
    | pause => cases goesOn
    | finish _ ends => simp [RunPhase.endsStream, ends] at goesOn

theorem Advances.of_pending {s : RunState} {x : RunState × Transition} (h : s.Advances x)
    (pending : x.1.phase = .pending) : s.phase = .pending := by
  rcases h.moves with same | move
  · exact same.symm.trans pending
  · rw [pending] at move
    generalize s.phase = q at move
    cases move with
    | finish _ ends => cases ends

theorem advances_quiet_andThen {f g : Change} {s : RunState} (hf : f.Quiet)
    (hg : (f s).1.Advances (g (f s).1)) : s.Advances (f.andThen g s) := by
  obtain ⟨phase, id, keepsStream⟩ := hf s
  obtain ⟨moves, id', closes, changed⟩ := hg
  rw [phase] at moves closes changed
  refine ⟨moves, fun r known => id' r (id.trans known), ?_, fun moved => ?_⟩
  · rw [Change.andThen_apply, Transition.join, keepsStream, Bool.false_or]; exact closes
  · rw [Change.andThen_apply, Transition.join, changed moved, Bool.or_true]

theorem advances_andThen_quiet {f g : Change} {s : RunState} (hf : s.Advances (f s))
    (hg : g.Quiet) : s.Advances (f.andThen g s) := by
  obtain ⟨moves, id, closes, changed⟩ := hf
  obtain ⟨phase, id', keepsStream⟩ := hg (f s).1
  refine ⟨?_, fun r known => id'.trans (id r known), ?_, fun moved => ?_⟩
  · rw [Change.andThen_apply, phase]; exact moves
  · rw [Change.andThen_apply, Transition.join, keepsStream, Bool.or_false, phase]; exact closes
  · rw [Change.andThen_apply, phase] at moved
    rw [Change.andThen_apply, Transition.join, changed moved, Bool.true_or]

theorem phase_adoptRunId (id : Option RunId) (s : RunState) :
    (adoptRunId id s).1.phase = s.phase := by
  unfold adoptRunId
  split <;> rfl

theorem advances_adoptRunId_andThen {g : Change} {id : Option RunId} {s : RunState}
    (hg : (adoptRunId id s).1.Advances (g (adoptRunId id s).1)) :
    s.Advances ((adoptRunId id).andThen g s) := by
  obtain ⟨moves, id', closes, changed⟩ := hg
  rw [phase_adoptRunId] at moves closes changed
  refine ⟨moves, fun r known => id' r ?_, ?_, fun moved => ?_⟩
  · simp only [adoptRunId, known]
  · have keepsStream : (adoptRunId id s).2.closeStream = false := by
      unfold adoptRunId
      split <;> rfl
    rw [Change.andThen_apply, Transition.join, keepsStream, Bool.false_or]
    exact closes
  · rw [Change.andThen_apply, Transition.join, changed moved, Bool.or_true]

theorem advances_setPhase {p : RunPhase} {s : RunState} (h : s.phase = p ∨ s.phase.Moves p) :
    s.Advances (setPhase p s) := by
  unfold setPhase
  split
  · exact (quiet_skip s).advances
  · rename_i other
    exact {
      moves := .inr (h.resolve_left other)
      id := fun _ h => h
      closes := ⟨fun e => ⟨Ne.symm other, e⟩, fun e => e.2⟩
      changed := fun _ => rfl }

theorem advances_moveFrom {p q : RunPhase} (h : p.Moves q) (s : RunState) :
    s.Advances (moveFrom p q s) := by
  unfold moveFrom
  split
  · rename_i here
    exact advances_setPhase (.inr (here ▸ h))
  · exact (quiet_skip s).advances

theorem Advances.of_eq {s s' : RunState} {x : RunState × Transition} (h : s'.Advances x)
    (phase : s'.phase = s.phase) (id : s'.id = s.id) : s.Advances x where
  moves := phase ▸ h.moves
  id := id ▸ h.id
  closes := phase ▸ h.closes
  changed := phase ▸ h.changed

theorem advances_end {p : RunPhase} {s : RunState} (h : s.phase.isTerminal = false)
    (hp : p.isTerminal = true) : s.Advances (setPhase p s) :=
  advances_setPhase (.inr (.finish h hp))

theorem finishedPhase_terminal (s : RunState) : s.finishedPhase.isTerminal = true := by
  unfold finishedPhase
  split <;> rfl

theorem advances_settle {s : RunState} (h : s.phase.isTerminal = false) :
    s.Advances (settle s) :=
  advances_end h s.finishedPhase_terminal

/-! ### Events, snapshots and changes by the client -/

theorem eventChange_finished (status : Option String) (s : RunState) :
    ∃ p, p.isTerminal = true ∧ eventChange (.finished status) s = setPhase p s := by
  simp only [eventChange]
  cases status.map RunStatus.ofText with
  | none => exact ⟨_, s.finishedPhase_terminal, rfl⟩
  | some outcome =>
    cases outcome with
    | failed => exact ⟨.failed, rfl, rfl⟩
    | cancelled => exact ⟨.cancelled, rfl, rfl⟩
    | pending | running | paused | succeeded | other =>
      exact ⟨_, s.finishedPhase_terminal, rfl⟩

theorem advances_eventChange (e : RunEvent) {s : RunState} (h : s.phase.isTerminal = false) :
    s.Advances (eventChange e s) := by
  cases e with
  | start id node =>
    exact advances_andThen_quiet (advances_adoptRunId_andThen (advances_moveFrom .begin _))
      (quiet_whenSome (quiet_enterStep .live) node)
  | progress p node =>
    exact ((quiet_setProgress p).andThen
      (quiet_whenSome (quiet_enterStep .inferred) node) s).advances
  | complete node output => exact (quiet_completeStep node output s).advances
  | error node error => exact (quiet_recordError node error s).advances
  | finished status =>
    obtain ⟨p, ends, e⟩ := eventChange_finished status s
    exact e ▸ advances_end h ends
  | paused => exact advances_moveFrom .pause s
  | cancelled => exact advances_end (p := .cancelled) h rfl
  | unknown => exact (quiet_skip s).advances

theorem advances_applyEvent (e : RunEvent) (s : RunState) : s.Advances (applyEvent e s) := by
  unfold applyEvent
  split
  · exact (quiet_skip s).advances
  · rename_i live
    split
    · exact (quiet_skip s).advances
    · exact advances_eventChange e (Bool.eq_false_iff.2 live)

theorem advances_statusChange (status : RunStatus) {s : RunState}
    (h : s.phase.isTerminal = false) : s.Advances (statusChange status s) := by
  cases status with
  | pending | other => exact (quiet_skip s).advances
  | running => exact advances_moveFrom .begin s
  | paused => exact advances_moveFrom .pause s
  | succeeded => exact advances_settle h
  | failed =>
    by_cases reason : s.error = none
    · -- The reason is noted before the run ends, which is one change of the original state.
      simp only [statusChange, reason, if_true]
      have ended : RunState.Advances { s with error := some failedWithoutReason } _ :=
        advances_end (p := .failed) h rfl
      exact ended.of_eq rfl rfl
    · simp only [statusChange, reason, if_false]
      exact advances_end h rfl
  | cancelled => exact advances_end (p := .cancelled) h rfl

/-- What a snapshot says beside the run id and the status. -/
def reportChange (p : RunSnapshot) : Change :=
  (((adoptWorkflowId p.workflowId).andThen (setProgress p.progress)).andThen
    (whenSome p.currentNode (enterStep .inferred))).andThen (whenSome p.error setError)

theorem quiet_reportChange (p : RunSnapshot) : (reportChange p).Quiet :=
  (((quiet_adoptWorkflowId p.workflowId).andThen (quiet_setProgress p.progress)).andThen
    (quiet_whenSome (quiet_enterStep .inferred) p.currentNode)).andThen
    (quiet_whenSome quiet_setError p.error)

theorem snapshotChange_eq (p : RunSnapshot) :
    snapshotChange p =
      (adoptRunId p.runId).andThen ((reportChange p).andThen (statusChange p.status)) := by
  simp only [snapshotChange, reportChange, andThen_assoc]

theorem advances_applySnapshot (p : RunSnapshot) (s : RunState) :
    s.Advances (applySnapshot p s) := by
  unfold applySnapshot
  split
  · exact (quiet_skip s).advances
  · rename_i live
    split
    · exact (quiet_skip s).advances
    · rw [snapshotChange_eq]
      refine advances_adoptRunId_andThen (advances_quiet_andThen (quiet_reportChange p)
        (advances_statusChange p.status ?_))
      rw [(quiet_reportChange p _).phase, phase_adoptRunId]
      exact Bool.eq_false_iff.2 live

theorem advances_markResumed (s : RunState) : s.Advances (markResumed s) :=
  advances_moveFrom .resume s

theorem fail_eq {s : RunState} (h : s.phase.isTerminal = false) (message : String) :
    fail message s =
      ({ s with phase := .failed, error := some message },
        { changed := true, closeStream := true }) := by
  have other : s.phase ≠ .failed := fun failed => by rw [failed] at h; cases h
  rw [fail, if_neg (by rw [h]; nofun), setPhase, if_neg other]
  rfl

theorem advances_fail (message : String) (s : RunState) : s.Advances (fail message s) := by
  unfold fail
  split
  · exact (quiet_skip s).advances
  · rename_i live
    have ended : RunState.Advances { s with error := some message } _ :=
      advances_end (p := .failed) (Bool.eq_false_iff.2 live) rfl
    exact ended.of_eq rfl rfl

theorem advances_cancel (s : RunState) : s.Advances (cancel s) := by
  unfold cancel
  split
  · exact (quiet_skip s).advances
  · rename_i live
    exact advances_end (Bool.eq_false_iff.2 live) rfl

/-! ### Runs that are not confirmed -/

theorem phase_moveFrom_ne {p q : RunPhase} (h : q ≠ p) (s : RunState) :
    (moveFrom p q s).1.phase ≠ p := by
  unfold moveFrom
  split
  · unfold setPhase
    split
    · rename_i here same
      exact absurd (same.symm.trans here) h
    · exact h
  · assumption

theorem id_setPhase (p : RunPhase) (s : RunState) : (setPhase p s).1.id = s.id := by
  unfold setPhase
  split <;> rfl

/-- A run that is still pending after an event has not been named by it. -/
theorem id_applyEvent_of_pending {e : RunEvent} {s : RunState}
    (h : (applyEvent e s).1.phase = .pending) : (applyEvent e s).1.id = s.id := by
  unfold applyEvent at h ⊢
  split
  · rfl
  · split
    · rfl
    · rename_i live unpaused
      rw [if_neg live, if_neg unpaused] at h
      cases e with
      | start id node =>
        refine absurd h ?_
        simp only [eventChange, andThen_apply, (quiet_whenSome (quiet_enterStep .live) node _).phase]
        exact phase_moveFrom_ne (show RunPhase.running ≠ .pending from nofun) _
      | progress p node =>
        exact ((quiet_setProgress p).andThen
          (quiet_whenSome (quiet_enterStep .inferred) node) s).id
      | complete node output => exact (quiet_completeStep node output s).id
      | error node error => exact (quiet_recordError node error s).id
      | finished status =>
        obtain ⟨p, -, e⟩ := eventChange_finished status s
        exact e ▸ id_setPhase p s
      | paused =>
        simp only [eventChange, moveFrom]
        split
        · exact id_setPhase _ s
        · rfl
      | cancelled => exact id_setPhase _ s
      | unknown => rfl

end RunState

end RunWatch
