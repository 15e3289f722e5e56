import RunWatch.Proofs.Run.Updates

/-!
# Errors of a run

Errors reach a run through events and through snapshots, and are kept in two places, with the run
and with its steps. A step that failed may still complete, but the error of the run stays, and so a
run with an error does not succeed.
-/

namespace RunWatch

namespace RunState

/-! ### Failed steps -/

/-- A failed step has an error of its own, and the run has one as well. -/
structure Accounted (s : RunState) : Prop where
  own : ∀ r ∈ s.steps, r.status = .failed → r.error.isSome = true
  run : ∀ r ∈ s.steps, r.status = .failed → s.error.isSome = true

theorem Accounted.hasError_eq {s : RunState} (h : s.Accounted) : s.hasError = s.error.isSome := by
  cases known : s.error.isSome with
  | true => rw [hasError, known, Bool.true_or]
  | false =>
    rw [hasError, known, Bool.false_or, List.any_eq_false]
    intro r member failed
    have counted := h.run r member (by simpa using failed)
    exact absurd (known.symm.trans counted) nofun

/-- No step has newly failed. -/
theorem accounted_of_failed {s t : RunState} (h : s.Accounted)
    (steps : ∀ r ∈ t.steps, r.status = .failed → r ∈ s.steps)
    (error : s.error.isSome = true → t.error.isSome = true) : t.Accounted where
  own r member failed := h.own r (steps r member failed) failed
  run r member failed := error (h.run r (steps r member failed) failed)

theorem accounted_of_eq {s t : RunState} (h : s.Accounted) (steps : t.steps = s.steps)
    (error : s.error.isSome = true → t.error.isSome = true) : t.Accounted :=
  accounted_of_failed h (fun _ member _ => steps ▸ member) error

theorem mem_updateStep {node : String} {f : StepRecord → StepRecord} {steps : List StepRecord}
    {r : StepRecord} (h : r ∈ updateStep node f steps) : r ∈ steps ∨ ∃ r' ∈ steps, r = f r' := by
  induction steps with
  | nil => cases h
  | cons head rest ih =>
    rw [updateStep] at h
    split at h
    · rcases List.mem_cons.1 h with here | later
      · exact .inr ⟨head, List.mem_cons_self, here⟩
      · exact .inl (List.mem_cons_of_mem _ later)
    · rcases List.mem_cons.1 h with here | later
      · exact .inl (here ▸ List.mem_cons_self)
      · rcases ih later with kept | ⟨r', member, updated⟩
        · exact .inl (List.mem_cons_of_mem _ kept)
        · exact .inr ⟨r', List.mem_cons_of_mem _ member, updated⟩

end RunState

/-! ### Changes that keep errors -/

/-- Failed steps stay accounted for, and the error of the run is not cleared. -/
structure Change.KeepsErrors (f : Change) : Prop where
  accounted : ∀ s : RunState, s.Accounted → (f s).1.Accounted
  error : ∀ s : RunState, s.error.isSome = true → (f s).1.error.isSome = true

namespace Change

theorem KeepsErrors.andThen {f g : Change} (hf : f.KeepsErrors) (hg : g.KeepsErrors) :
    (f.andThen g).KeepsErrors where
  accounted s h := hg.accounted _ (hf.accounted s h)
  error s h := hg.error _ (hf.error s h)

theorem keepsErrors_skip : skip.KeepsErrors :=
  ⟨fun _ h => h, fun _ h => h⟩

theorem keepsErrors_whenSome {α : Type} {f : α → Change} (hf : ∀ a, (f a).KeepsErrors)
    (a : Option α) : (whenSome a f).KeepsErrors := by
  cases a with
  | none => exact keepsErrors_skip
  | some a => exact hf a

theorem keepsErrors_of_eq {f : Change} (steps : ∀ s, (f s).1.steps = s.steps)
    (error : ∀ s, (f s).1.error = s.error) : f.KeepsErrors where
  accounted s h := RunState.accounted_of_eq h (steps s) fun known => by rw [error s]; exact known
  error s known := by rw [error s]; exact known

theorem keepsErrors_ite {p : RunState → Prop} [DecidablePred p] {f : Change} (hf : f.KeepsErrors) :
    Change.KeepsErrors fun s => if p s then (s, {}) else f s where
  accounted s h := by
    split
    · exact h
    · exact hf.accounted s h
  error s known := by
    split
    · exact known
    · exact hf.error s known

end Change

namespace RunState

open Change

theorem keepsErrors_setPhase (p : RunPhase) : (setPhase p).KeepsErrors := by
  refine keepsErrors_of_eq (fun s => ?_) (fun s => ?_)
  all_goals
    unfold setPhase
    split <;> rfl

theorem keepsErrors_moveFrom (p q : RunPhase) : (moveFrom p q).KeepsErrors := by
  refine keepsErrors_of_eq (fun s => ?_) (fun s => ?_)
  all_goals
    unfold moveFrom setPhase
    split
    · split <;> rfl
    · rfl

theorem keepsErrors_settle : settle.KeepsErrors where
  accounted s := (keepsErrors_setPhase s.finishedPhase).accounted s
  error s := (keepsErrors_setPhase s.finishedPhase).error s

theorem keepsErrors_adoptRunId (id : Option RunId) : (adoptRunId id).KeepsErrors := by
  refine keepsErrors_of_eq (fun s => ?_) (fun s => ?_)
  all_goals
    unfold adoptRunId
    split <;> rfl

theorem keepsErrors_adoptWorkflowId (id : Option WorkflowId) :
    (adoptWorkflowId id).KeepsErrors := by
  refine keepsErrors_of_eq (fun s => ?_) (fun s => ?_)
  all_goals
    unfold adoptWorkflowId
    split <;> rfl

theorem keepsErrors_setProgress (x : Option Float) : (setProgress x).KeepsErrors := by
  refine keepsErrors_of_eq (fun s => ?_) (fun s => ?_)
  all_goals
    unfold setProgress
    split
    · split
      · rfl
      · split <;> rfl
    · rfl

theorem keepsErrors_setCurrentStep (node : String) : (setCurrentStep node).KeepsErrors := by
  refine keepsErrors_of_eq (fun s => ?_) (fun s => ?_)
  all_goals
    unfold setCurrentStep
    split <;> rfl

theorem error_setError (e : String) (s : RunState) : (setError e s).1.error = some e := by
  unfold setError
  split
  · assumption
  · rfl

theorem steps_setError (e : String) (s : RunState) : (setError e s).1.steps = s.steps := by
  unfold setError
  split <;> rfl

theorem keepsErrors_setError (e : String) : (setError e).KeepsErrors where
  accounted s h := accounted_of_eq h (steps_setError e s) fun _ => by rw [error_setError]; rfl
  error s _ := by rw [error_setError]; rfl

theorem keepsErrors_openStep (node : String) {status : StepStatus} (live : status ≠ .failed)
    (origin : StepOrigin) : (openStep node status origin).KeepsErrors where
  accounted s h := by
    unfold openStep
    split
    · exact h
    · refine accounted_of_failed h (fun r member failed => ?_) fun known => known
      rcases List.mem_append.1 member with before | new
      · exact before
      · rw [List.mem_singleton.1 new] at failed
        exact absurd failed live
  error s known := by
    unfold openStep
    split <;> exact known

theorem keepsErrors_enterStep (origin : StepOrigin) (node : String) :
    (enterStep origin node).KeepsErrors := by
  have live : StepStatus.running ≠ .failed := by decide
  exact (keepsErrors_setCurrentStep node).andThen (keepsErrors_openStep node live origin)

/-- A failed step that completes keeps its error, and so does the run. -/
theorem keepsErrors_completeStep (node : String) (output : Option Json.Value) :
    (completeStep node output).KeepsErrors where
  accounted s h := by
    unfold completeStep
    split
    · split
      · exact h
      · refine accounted_of_failed h (fun r member failed => ?_) fun known => known
        rcases mem_updateStep member with kept | ⟨r', -, rfl⟩
        · exact kept
        · cases failed
    · refine accounted_of_failed h (fun r member failed => ?_) fun known => known
      rcases List.mem_append.1 member with before | new
      · exact before
      · rw [List.mem_singleton.1 new] at failed
        cases failed
  error s known := by
    unfold completeStep
    split
    · split <;> exact known
    · exact known

/-- A step that fails has an error from then on, before the run has. -/
theorem own_failStep {s : RunState} (h : s.Accounted) (e node : String) :
    ∀ r ∈ (failStep e node s).1.steps, r.status = .failed → r.error.isSome = true := by
  unfold failStep
  intro r member failed
  split at member
  · split at member
    · exact h.own r member failed
    · rcases mem_updateStep member with kept | ⟨r', -, rfl⟩
      · exact h.own r kept failed
      · rfl
  · rcases List.mem_append.1 member with before | new
    · exact h.own r before failed
    · rw [List.mem_singleton.1 new]
      rfl

theorem error_recordError (node : Option String) (e : String) (s : RunState) :
    (recordError node e s).1.error = some e :=
  error_setError e _

theorem keepsErrors_recordError (node : Option String) (e : String) :
    (recordError node e).KeepsErrors where
  accounted s h := by
    have known : (recordError node e s).1.error.isSome = true := by rw [error_recordError]; rfl
    refine ⟨?_, fun _ _ _ => known⟩
    rw [recordError, andThen_apply, steps_setError]
    cases node with
    | none => exact h.own
    | some node => exact own_failStep h e node
  error s _ := by rw [error_recordError]; rfl

/-! ### Updates keep errors -/

theorem keepsErrors_eventChange (e : RunEvent) : (eventChange e).KeepsErrors := by
  cases e with
  | start id node =>
    exact ((keepsErrors_adoptRunId id).andThen (keepsErrors_moveFrom _ _)).andThen
      (keepsErrors_whenSome (keepsErrors_enterStep .live) node)
  | progress p node =>
    exact (keepsErrors_setProgress p).andThen
      (keepsErrors_whenSome (keepsErrors_enterStep .inferred) node)
  | complete node output => exact keepsErrors_completeStep node output
  | error node error => exact keepsErrors_recordError node error
  | finished status =>
    simp only [eventChange]
    split
    · exact keepsErrors_setPhase _
    · exact keepsErrors_setPhase _
    · exact keepsErrors_settle
  | paused => exact keepsErrors_moveFrom _ _
  | cancelled => exact keepsErrors_setPhase _
  | unknown => exact keepsErrors_skip

theorem keepsErrors_statusChange (status : RunStatus) : (statusChange status).KeepsErrors := by
  cases status with
  | pending | other => exact keepsErrors_skip
  | running | paused => exact keepsErrors_moveFrom _ _
  | succeeded => exact keepsErrors_settle
  | failed =>
    refine ⟨fun s h => (keepsErrors_setPhase _).accounted _ ?_,
      fun s known => (keepsErrors_setPhase _).error _ ?_⟩
    · split
      · exact accounted_of_eq h rfl fun _ => rfl
      · exact h
    · split
      · rfl
      · exact known
  | cancelled => exact keepsErrors_setPhase _

theorem keepsErrors_reportChange (p : RunSnapshot) : (reportChange p).KeepsErrors :=
  (((keepsErrors_adoptWorkflowId p.workflowId).andThen
    (keepsErrors_setProgress p.progress)).andThen
    (keepsErrors_whenSome (keepsErrors_enterStep .inferred) p.currentNode)).andThen
    (keepsErrors_whenSome keepsErrors_setError p.error)

theorem keepsErrors_snapshotChange (p : RunSnapshot) : (snapshotChange p).KeepsErrors := by
  rw [snapshotChange_eq]
  exact (keepsErrors_adoptRunId p.runId).andThen
    ((keepsErrors_reportChange p).andThen (keepsErrors_statusChange p.status))

theorem keepsErrors_change (u : Update) : u.change.KeepsErrors := by
  cases u with
  | event e => exact keepsErrors_ite (keepsErrors_ite (keepsErrors_eventChange e))
  | snapshot p => exact keepsErrors_ite (keepsErrors_ite (keepsErrors_snapshotChange p))
  | resumed => exact keepsErrors_moveFrom _ _
  | failed message =>
    refine keepsErrors_ite ⟨fun s h => (keepsErrors_setPhase _).accounted _ ?_,
      fun s known => (keepsErrors_setPhase _).error _ rfl⟩
    exact accounted_of_eq h rfl fun _ => rfl
  | cancelled => exact keepsErrors_ite (keepsErrors_setPhase _)

theorem accounted_after {s : RunState} (h : s.Accounted) (us : List Update) :
    (s.after us).Accounted :=
  after_of_change (fun s u => (keepsErrors_change u).accounted s) h us

theorem error_after {s : RunState} (known : s.error.isSome = true) (us : List Update) :
    (s.after us).error.isSome = true :=
  after_of_change (p := fun s => s.error.isSome = true)
    (fun s u => (keepsErrors_change u).error s) known us

/-! ### Verdicts -/

/-- The run ended by itself, and its errors tell how. -/
def Update.finishes : Update → Bool
  | .event (.finished status) =>
    match status.map RunStatus.ofText with
    | some .failed | some .cancelled => false
    | _ => true
  | .snapshot p => p.status = .succeeded
  | _ => false

/-- An error comes with the update. -/
def Update.bringsError : Update → Bool
  | .event (.error ..) => true
  | .snapshot p => p.error.isSome
  | _ => false

theorem finishedPhase_settle (s : RunState) : (settle s).1.finishedPhase = s.finishedPhase := by
  unfold settle setPhase
  split <;> rfl

theorem phase_settle (s : RunState) : (settle s).1.phase = (settle s).1.finishedPhase := by
  rw [finishedPhase_settle, settle, phase_setPhase]

theorem finishedPhase_eq (s : RunState) :
    s.finishedPhase = if s.hasError then .failed else .succeeded := rfl

theorem eventChange_finished_eq_settle {status : Option String}
    (finishes : Update.finishes (.event (.finished status)) = true) :
    eventChange (.finished status) = settle := by
  simp only [Update.finishes] at finishes
  simp only [eventChange]
  cases outcome : status.map RunStatus.ofText with
  | none => rfl
  | some outcome' =>
    rw [outcome] at finishes
    cases outcome' with
    | failed | cancelled => cases finishes
    | pending | running | paused | succeeded | other => rfl

/-- A run that ends by itself ends as its errors say, those of the last update included. -/
theorem phase_change_of_finishes {s : RunState} (live : s.phase.isTerminal = false) {u : Update}
    (finishes : u.finishes = true) : (u.change s).1.phase = (u.change s).1.finishedPhase := by
  have open_ : ¬s.phase.isTerminal = true := by rw [live]; decide
  cases u with
  | event e =>
    cases e with
    | finished status =>
      rw [Update.change, applyEvent, if_neg open_, if_neg fun h => Bool.false_ne_true h.2.symm,
        eventChange_finished_eq_settle finishes]
      exact phase_settle s
    | start | progress | complete | error | paused | cancelled | unknown => cases finishes
  | snapshot p =>
    have status : p.status = .succeeded := by simpa [Update.finishes] using finishes
    have unpaused : ¬(s.phase = .paused ∧ p.status.isTerminal = false) := by
      rw [status]
      exact not_and_of_not_right _ (by decide)
    rw [Update.change, applySnapshot, if_neg open_, if_neg unpaused, snapshotChange_eq, status]
    exact phase_settle _
  | resumed | failed | cancelled => cases finishes

theorem eventChange_of_not_finishes {status : Option String}
    (other : Update.finishes (.event (.finished status)) = false) (s : RunState) :
    (eventChange (.finished status) s).1.phase ≠ .succeeded := by
  simp only [Update.finishes] at other
  simp only [eventChange]
  cases outcome : status.map RunStatus.ofText with
  | none => rw [outcome] at other; cases other
  | some outcome' =>
    rw [outcome] at other
    cases outcome' with
    | failed | cancelled => rw [phase_setPhase]; decide
    | pending | running | paused | succeeded | other => cases other

theorem finishes_of_succeeded {s : RunState} (live : s.phase.isTerminal = false) {u : Update}
    (succeeded : (u.change s).1.phase = .succeeded) : u.finishes = true := by
  have open_ : ¬s.phase.isTerminal = true := by rw [live]; decide
  have ends : u.goesOn = false := by
    refine Bool.eq_false_iff.2 fun goesOn => ?_
    have goes := change_live goesOn live
    rw [succeeded] at goes
    cases goes
  refine Bool.of_not_eq_false fun other => ?_
  cases u with
  | event e =>
    have signal : e.isTerminal = true := by simpa [Update.goesOn] using ends
    have unpaused : ¬(s.phase = .paused ∧ e.isTerminal = false) := by simp [signal]
    rw [Update.change, applyEvent, if_neg open_, if_neg unpaused] at succeeded
    cases e with
    | finished status => exact eventChange_of_not_finishes other s succeeded
    | cancelled => rw [eventChange, phase_setPhase] at succeeded; cases succeeded
    | start | progress | complete | error | paused | unknown => cases signal
  | snapshot p =>
    have status : p.status.isTerminal = true := by simpa [Update.goesOn] using ends
    have unpaused : ¬(s.phase = .paused ∧ p.status.isTerminal = false) := by simp [status]
    rw [Update.change, applySnapshot, if_neg open_, if_neg unpaused, snapshotChange_eq] at succeeded
    simp only [andThen_apply] at succeeded
    cases outcome : p.status with
    | succeeded => simp [Update.finishes, outcome] at other
    | failed => rw [outcome, statusChange, phase_setPhase] at succeeded; cases succeeded
    | cancelled => rw [outcome, statusChange, phase_setPhase] at succeeded; cases succeeded
    | pending | running | paused | other => rw [outcome] at status; cases status
  | resumed =>
    rw [Update.change, markResumed, phase_moveFrom] at succeeded
    split at succeeded
    · cases succeeded
    · rw [succeeded] at live; cases live
  | failed message => rw [Update.change, fail_eq live] at succeeded; cases succeeded
  | cancelled =>
    rw [Update.change, RunState.cancel, if_neg open_, phase_setPhase] at succeeded
    cases succeeded

/-! ### Runs with errors -/

/-- A run that has succeeded has no error. -/
theorem clean_change {s : RunState} (clean : s.phase = .succeeded → s.hasError = false)
    (u : Update) : (u.change s).1.phase = .succeeded → (u.change s).1.hasError = false := by
  intro succeeded
  cases ends : s.phase.isTerminal with
  | true =>
    rw [change_of_terminal ends] at succeeded ⊢
    exact clean succeeded
  | false =>
    have verdict := phase_change_of_finishes ends (finishes_of_succeeded ends succeeded)
    rw [succeeded, finishedPhase_eq] at verdict
    refine Bool.eq_false_iff.2 fun known => ?_
    rw [if_pos known] at verdict
    cases verdict

theorem clean_after {s : RunState} (clean : s.phase = .succeeded → s.hasError = false)
    (us : List Update) : (s.after us).phase = .succeeded → (s.after us).hasError = false :=
  after_of_change (p := fun s => s.phase = .succeeded → s.hasError = false)
    (fun _ u clean => clean_change clean u) clean us

theorem error_reportChange {p : RunSnapshot} (given : p.error.isSome = true) (s : RunState) :
    (reportChange p s).1.error.isSome = true := by
  obtain ⟨text, said⟩ := Option.isSome_iff_exists.1 given
  simp only [reportChange, andThen_apply, said, whenSome, error_setError, Option.isSome_some]

theorem error_change_of_bringsError {s : RunState}
    (takes : s.phase = .pending ∨ s.phase = .running) {u : Update} (brings : u.bringsError = true) :
    (u.change s).1.error.isSome = true := by
  have open_ : ¬s.phase.isTerminal = true := by rcases takes with h | h <;> rw [h] <;> nofun
  have unpaused : s.phase ≠ .paused := by rcases takes with h | h <;> rw [h] <;> nofun
  cases u with
  | event e =>
    cases e with
    | error node text =>
      rw [Update.change, applyEvent, if_neg open_, if_neg (fun h => unpaused h.1), eventChange,
        error_recordError]
      rfl
    | start | progress | complete | finished | paused | cancelled | unknown => cases brings
  | snapshot p =>
    rw [Update.change, applySnapshot, if_neg open_, if_neg (fun h => unpaused h.1),
      snapshotChange_eq]
    exact (keepsErrors_statusChange p.status).error _ (error_reportChange brings _)
  | resumed | failed | cancelled => cases brings

/-- How the errors of a run count. -/
structure ErrorsCount (s : RunState) : Prop where
  stay : ∀ u : Update, s.hasError = true → (u.change s).1.hasError = true
  steps : ∀ r ∈ s.steps, r.status = .failed → r.error.isSome = true ∧ s.error.isSome = true
  succeeded : s.phase = .succeeded → s.error = none ∧ ∀ r ∈ s.steps, r.status ≠ .failed
  /-- A run that ends by itself succeeds if it has no error, those of the last update included. -/
  verdict : ∀ u : Update, s.phase.isTerminal = false → u.finishes = true →
    (u.change s).1.phase = if (u.change s).1.hasError then .failed else .succeeded
  spoil : ∀ (u : Update) (vs : List Update), s.phase = .pending ∨ s.phase = .running →
    u.bringsError = true →
      ((u.change s).1.after vs).hasError = true ∧ ((u.change s).1.after vs).phase ≠ .succeeded

theorem Accounted.errorsCount {s : RunState} (h : s.Accounted)
    (clean : s.phase = .succeeded → s.hasError = false) : s.ErrorsCount where
  stay u known := by
    rw [((keepsErrors_change u).accounted s h).hasError_eq]
    rw [h.hasError_eq] at known
    exact (keepsErrors_change u).error s known
  steps r member failed := ⟨h.own r member failed, h.run r member failed⟩
  succeeded succeeded := by
    have unknown := clean succeeded
    rw [h.hasError_eq, Option.isSome_eq_false_iff, Option.isNone_iff_eq_none] at unknown
    refine ⟨unknown, fun r member failed => ?_⟩
    have counted := h.run r member failed
    rw [unknown] at counted
    cases counted
  verdict u live finishes := phase_change_of_finishes live finishes
  spoil u vs takes brings := by
    have known := error_after (error_change_of_bringsError takes brings) vs
    have counted : ((u.change s).1.after vs).hasError = true := by
      rw [(accounted_after ((keepsErrors_change u).accounted s h) vs).hasError_eq]
      exact known
    refine ⟨counted, fun succeeded => ?_⟩
    have unknown := clean_after (clean_change clean u) vs succeeded
    exact absurd (counted.symm.trans unknown) nofun

/-- Whatever happens to a run that begins without errors, its errors stay and count. -/
theorem no_success_with_errors {s : RunState}
    (fresh : s = RunState.idle ∨ ∃ w, s = RunState.placeholder w) (us : List Update) :
    (s.after us).ErrorsCount := by
  have begins : s.Accounted ∧ (s.phase = .succeeded → s.hasError = false) := by
    rcases fresh with rfl | ⟨w, rfl⟩ <;> exact ⟨⟨nofun, nofun⟩, nofun⟩
  exact (accounted_after begins.1 us).errorsCount (clean_after begins.2 us)

/-- A step fails and then completes, and the server says that the run has succeeded. -/
theorem failed_step_spoils_the_run :
    let us : List Update := [.event (.start (some ⟨"r1"⟩) (some "a"))]
    let boom : Update := .event (.error (some "a") "boom")
    let vs : List Update :=
      [.event (.complete "a" none), .snapshot { status := .running }, .snapshot { status := .succeeded }]
    (RunState.placeholder ⟨"build"⟩ = RunState.idle ∨
      ∃ w, RunState.placeholder ⟨"build"⟩ = RunState.placeholder w) ∧
    ((RunState.placeholder ⟨"build"⟩).after us).phase = .running ∧ boom.bringsError = true ∧
    ((boom.change ((RunState.placeholder ⟨"build"⟩).after us)).1.after vs).phase ≠ .succeeded := by
  intro us boom vs
  have fresh : ∃ w, RunState.placeholder ⟨"build"⟩ = RunState.placeholder w := ⟨_, rfl⟩
  refine ⟨.inr fresh, rfl, rfl, ?_⟩
  exact ((no_success_with_errors (.inr fresh) us).spoil boom vs (.inr rfl) rfl).2

end RunState

end RunWatch
