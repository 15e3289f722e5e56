import RunWatch.Proofs.Run.Updates

/-!
# Snapshots as events

A running run takes a snapshot as it takes the events that tell the same, one after the other: its
id, the progress, the error, and then what the status says. All that the events do not bring is a
reason for a failure that came without one.
-/

namespace RunWatch

namespace RunSnapshot

/-- The events that say of a running run what a status says. A failure may be spelled in any way. -/
def verdict (failure : String) : RunStatus → List RunEvent
  | .pending | .running | .other _ => []
  | .paused => [.paused]
  | .cancelled => [.cancelled]
  | .succeeded => [.finished none]
  | .failed => [.finished (some failure)]

/-- The events that tell the same as a snapshot. -/
def events (failure : String) (p : RunSnapshot) : List RunEvent :=
  .start p.runId none :: .progress p.progress p.currentNode ::
    (p.error.toList.map (.error none) ++ verdict failure p.status)

end RunSnapshot

namespace Change

theorem skip_andThen (f : Change) : skip.andThen f = f := by
  funext s
  simp only [andThen_apply, skip, Transition.join, Bool.false_or]

theorem andThen_skip (f : Change) : f.andThen skip = f := by
  funext s
  simp only [andThen_apply, skip, Transition.join, Bool.or_false]

theorem andThen_congr {f f' g g' : Change} {s : RunState} (first : f s = f' s)
    (second : g (f' s).1 = g' (f' s).1) : f.andThen g s = f'.andThen g' s := by
  rw [andThen_apply, andThen_apply, first, second]

theorem andThen_idle {f g : Change} {s : RunState} (idle : g (f s).1 = ((f s).1, {})) :
    f.andThen g s = f s :=
  (andThen_congr rfl idle).trans (congrFun (andThen_skip f) s)

end Change

namespace RunState

open Change

variable {s : RunState} {p : RunSnapshot} {failure : String}

/-- Takes some events in their order. -/
def applyEvents : List RunEvent → Change
  | [] => skip
  | e :: es => (applyEvent e).andThen (applyEvents es)

/-- Gives a failed run a reason, if it has none. -/
def explain (status : RunStatus) (s : RunState) : RunState :=
  if status = .failed ∧ s.error = none then { s with error := some failedWithoutReason } else s

/-- What a snapshot tells a run of which the workflow is known, its status aside. -/
def tellingChange (p : RunSnapshot) : Change :=
  (adoptRunId p.runId).andThen
    (((setProgress p.progress).andThen (whenSome p.currentNode (enterStep .inferred))).andThen
      (whenSome p.error setError))

theorem phase_tellingChange (p : RunSnapshot) (s : RunState) :
    (tellingChange p s).1.phase = s.phase := by
  have told := ((quiet_setProgress p.progress).andThen
    (quiet_whenSome (quiet_enterStep .inferred) p.currentNode)).andThen
    (quiet_whenSome quiet_setError p.error)
  rw [tellingChange, andThen_apply, (told _).phase, phase_adoptRunId]

/-! ### The side of the snapshot -/

theorem adoptWorkflowId_of_known {id : Option WorkflowId}
    (known : id = none ∨ s.workflowId.isSome = true) : adoptWorkflowId id s = (s, {}) := by
  unfold adoptWorkflowId
  split
  · rename_i unnamed
    rcases known with none_ | known
    · cases none_
    · rw [unnamed] at known
      cases known
  · rfl

theorem workflowId_adoptRunId (id : Option RunId) (s : RunState) :
    (adoptRunId id s).1.workflowId = s.workflowId := by
  unfold adoptRunId
  split <;> rfl

theorem applySnapshot_of_running (running : s.phase = .running)
    (known : p.workflowId = none ∨ s.workflowId.isSome = true) :
    applySnapshot p s = (tellingChange p).andThen (statusChange p.status) s := by
  have taken : applySnapshot p s = snapshotChange p s := by
    rw [applySnapshot, if_neg (by simp [running, RunPhase.isTerminal]), if_neg (by simp [running])]
  have named : (adoptRunId p.runId).andThen (adoptWorkflowId p.workflowId) s =
      adoptRunId p.runId s :=
    andThen_idle (adoptWorkflowId_of_known (by rw [workflowId_adoptRunId]; exact known))
  rw [taken, snapshotChange_eq, reportChange, tellingChange]
  simp only [andThen_assoc]
  rw [← andThen_assoc]
  exact andThen_congr named rfl

/-! ### The side of the events -/

theorem applyEvent_of_running (running : s.phase = .running) (e : RunEvent) :
    applyEvent e s = eventChange e s := by
  rw [applyEvent, if_neg (by simp [running, RunPhase.isTerminal]), if_neg (by simp [running])]

theorem moveFrom_of_running (running : s.phase = .running) (q : RunPhase) :
    moveFrom .pending q s = (s, {}) :=
  if_neg (by rw [running]; nofun)

theorem applyEvents_append (es fs : List RunEvent) :
    applyEvents (es ++ fs) = (applyEvents es).andThen (applyEvents fs) := by
  induction es with
  | nil => exact (skip_andThen _).symm
  | cons e es ih => rw [List.cons_append, applyEvents, ih, applyEvents, andThen_assoc]

theorem applyEvents_singleton (e : RunEvent) : applyEvents [e] = applyEvent e :=
  andThen_skip _

theorem applyEvent_start (running : s.phase = .running) (id : Option RunId) :
    applyEvent (.start id none) s = adoptRunId id s := by
  have still : (adoptRunId id s).1.phase = .running := (phase_adoptRunId id s).trans running
  rw [applyEvent_of_running running, eventChange, whenSome, andThen_skip]
  exact andThen_idle (moveFrom_of_running still _)

theorem applyEvents_error (running : s.phase = .running) (error : Option String) :
    applyEvents (error.toList.map (.error none)) s = whenSome error setError s := by
  cases error with
  | none => rfl
  | some e =>
    have told : eventChange (.error none e) = setError e := skip_andThen _
    rw [Option.toList_some, List.map_cons, List.map_nil, applyEvents_singleton,
      applyEvent_of_running running, told]
    rfl

theorem applyEvents_of_running (running : s.phase = .running) :
    applyEvents (p.events failure) s =
      (tellingChange p).andThen (applyEvents (RunSnapshot.verdict failure p.status)) s := by
  rw [RunSnapshot.events, applyEvents, applyEvents, applyEvents_append, tellingChange]
  simp only [andThen_assoc]
  refine andThen_congr (applyEvent_start running p.runId) ?_
  have named : (adoptRunId p.runId s).1.phase = .running :=
    (phase_adoptRunId p.runId s).trans running
  rw [← andThen_assoc (setProgress _)]
  refine andThen_congr (applyEvent_of_running named _) ?_
  have along := (quiet_eventChange (e := .progress p.progress p.currentNode) rfl _).phase.trans named
  exact andThen_congr (applyEvents_error along p.error) rfl

/-! ### The status -/

theorem explained_of_ne {status : RunStatus} {x y : RunState × Transition} (same : x = y)
    (other : status ≠ .failed) : x = (explain status y.1, y.2) := by
  rw [explain, if_neg fun h => other h.1]
  exact same

theorem setPhase_failed (running : s.phase = .running) :
    setPhase .failed s =
      ({ s with phase := .failed }, { changed := true, closeStream := true }) :=
  if_neg (by rw [running]; nofun)

theorem statusChange_of_running (running : s.phase = .running)
    (fails : RunStatus.ofText failure = .failed) (status : RunStatus) :
    statusChange status s =
      (explain status (applyEvents (RunSnapshot.verdict failure status) s).1,
        (applyEvents (RunSnapshot.verdict failure status) s).2) := by
  cases status with
  | pending | other => exact explained_of_ne rfl nofun
  | running => exact explained_of_ne (moveFrom_of_running running _) nofun
  | paused | succeeded | cancelled =>
    refine explained_of_ne ?_ nofun
    rw [RunSnapshot.verdict, applyEvents_singleton, applyEvent_of_running running]
    rfl
  | failed =>
    have told : eventChange (.finished (some failure)) s = setPhase .failed s := by
      rw [eventChange, Option.map_some, fails]
    rw [RunSnapshot.verdict, applyEvents_singleton, applyEvent_of_running running, told,
      setPhase_failed running]
    simp only [statusChange, explain]
    by_cases reason : s.error = none
    · rw [if_pos reason, if_pos ⟨trivial, reason⟩]
      exact setPhase_failed running
    · rw [if_neg reason, if_neg fun h => reason h.2]
      exact setPhase_failed running

/-- A running run takes a snapshot as it takes the events that tell the same, and asks for the same.
A workflow that is not known yet is told by no event, and a reason is given to a failure that has
none. -/
theorem snapshot_acts_as_its_events (running : s.phase = .running)
    (known : p.workflowId = none ∨ s.workflowId.isSome = true)
    (fails : RunStatus.ofText failure = .failed) :
    (applySnapshot p s).1 = explain p.status (applyEvents (p.events failure) s).1 ∧
      (applySnapshot p s).2 = (applyEvents (p.events failure) s).2 := by
  have still := (phase_tellingChange p s).trans running
  rw [applySnapshot_of_running running known, applyEvents_of_running running, andThen_apply,
    andThen_apply, statusChange_of_running still fails]
  exact ⟨rfl, rfl⟩

/-- A failure without a reason, at a new step and under another id. -/
theorem failed_snapshot_acts_as_its_events :
    let s : RunState := { phase := .running, id := some ⟨"r1"⟩, workflowId := some ⟨"build"⟩ }
    let p : RunSnapshot := {
      status := .failed, progress := some 140, currentNode := some "b", runId := some ⟨"r2"⟩
      workflowId := some ⟨"deploy"⟩ }
    s.phase = .running ∧ s.workflowId.isSome = true ∧ RunStatus.ofText " FAILURE" = .failed ∧
      (applySnapshot p s).1 = explain .failed (applyEvents (p.events " FAILURE") s).1 ∧
      (applySnapshot p s).2 = (applyEvents (p.events " FAILURE") s).2 ∧
      (applySnapshot p s).1.error = some failedWithoutReason ∧
      (applySnapshot p s).1.id = some ⟨"r1"⟩ := by
  intro s p
  have fails : RunStatus.ofText " FAILURE" = .failed := by decide +kernel
  obtain ⟨state, asks⟩ := snapshot_acts_as_its_events (s := s) (p := p) rfl (.inr rfl) fails
  exact ⟨rfl, rfl, fails, state, asks, by decide +kernel, by decide +kernel⟩

end RunState

end RunWatch
