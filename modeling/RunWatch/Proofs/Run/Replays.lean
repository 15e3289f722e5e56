import RunWatch.Proofs.Run.Updates

/-!
# Replays

Events and snapshots may come more than once. A change settles a condition if it brings the
condition about and does nothing where it holds. Each part of an event or of a snapshot settles what
it tells, and the parts after it keep that, so the second time nothing is left to do.
-/

namespace RunWatch

namespace Change

/-- The change brings a condition about, and does nothing where the condition holds. -/
structure Settles (f : Change) (settled : RunState → Prop) : Prop where
  reached : ∀ s, settled (f s).1
  idle : ∀ s, settled s → f s = (s, {})

/-- The change does not undo a condition. -/
def Keeps (f : Change) (p : RunState → Prop) : Prop :=
  ∀ s, p s → p (f s).1

variable {f g : Change} {p q : RunState → Prop}

theorem Settles.again (h : f.Settles p) (s : RunState) : f (f s).1 = ((f s).1, {}) :=
  h.idle _ (h.reached s)

theorem Settles.andThen (hf : f.Settles p) (hg : g.Settles q) (kept : g.Keeps p) :
    (f.andThen g).Settles fun s => p s ∧ q s where
  reached s := ⟨kept _ (hf.reached s), hg.reached _⟩
  idle s h := by
    rw [andThen_apply, hf.idle s h.1, hg.idle s h.2]
    rfl

theorem settles_skip : skip.Settles fun _ => True :=
  ⟨fun _ => trivial, fun _ _ => rfl⟩

theorem settles_whenSome {α : Type} {f : α → Change} {p : α → RunState → Prop}
    (hf : ∀ a, (f a).Settles (p a)) (a? : Option α) :
    (whenSome a? f).Settles fun s => ∀ a, a? = some a → p a s := by
  cases a? with
  | none => exact ⟨fun _ _ => nofun, fun _ _ => rfl⟩
  | some a =>
    refine ⟨fun s b same => ?_, fun s h => (hf a).idle s (h a rfl)⟩
    cases same
    exact (hf a).reached s

theorem Keeps.andThen (hf : f.Keeps p) (hg : g.Keeps p) : (f.andThen g).Keeps p :=
  fun s h => hg _ (hf s h)

theorem keeps_whenSome {α : Type} {f : α → Change} (hf : ∀ a, (f a).Keeps p) (a? : Option α) :
    (whenSome a? f).Keeps p := by
  cases a? with
  | none => exact fun _ h => h
  | some a => exact hf a

end Change

namespace RunState

open Change

/-! ### Conditions that changes keep -/

section

variable {p : RunState → Prop}

theorem keeps_adoptWorkflowId (blind : ∀ s w, p s → p { s with workflowId := w })
    (id : Option WorkflowId) : (adoptWorkflowId id).Keeps p := by
  intro s h
  unfold adoptWorkflowId
  split
  · exact blind s _ h
  · exact h

theorem keeps_setProgress (blind : ∀ s x, p s → p { s with progress := x }) (x : Option Float) :
    (setProgress x).Keeps p := by
  intro s h
  unfold setProgress
  split
  · split
    · exact h
    · split
      · exact h
      · exact blind s _ h
  · exact h

theorem keeps_setError (blind : ∀ s e, p s → p { s with error := e }) (e : String) :
    (setError e).Keeps p := by
  intro s h
  unfold setError
  split
  · exact h
  · exact blind s _ h

theorem keeps_openStep (blind : ∀ s steps, p s → p { s with steps := steps }) (node : String)
    (status : StepStatus) (origin : StepOrigin) : (openStep node status origin).Keeps p := by
  intro s h
  unfold openStep
  split
  · exact h
  · exact blind s _ h

theorem keeps_enterStep (step : ∀ s node, p s → p { s with currentStep := node })
    (ledger : ∀ s steps, p s → p { s with steps := steps }) (origin : StepOrigin) (node : String) :
    (enterStep origin node).Keeps p := by
  refine Keeps.andThen (fun s h => ?_) (keeps_openStep ledger node .running origin)
  unfold setCurrentStep
  split
  · exact h
  · exact step s _ h

theorem keeps_moveFrom (blind : ∀ s q, p s → p { s with phase := q }) (from_ to_ : RunPhase) :
    (moveFrom from_ to_).Keeps p := by
  intro s h
  unfold moveFrom setPhase
  split
  · split
    · exact h
    · exact blind s _ h
  · exact h

end

/-! ### Conditions that changes settle -/

theorem settles_adoptRunId (id : Option RunId) :
    (adoptRunId id).Settles fun s => id.isSome = true → s.id.isSome = true := by
  refine ⟨fun s given => ?_, fun s known => ?_⟩
  · unfold adoptRunId
    split
    · rfl
    · rename_i other
      obtain ⟨r, rfl⟩ := Option.isSome_iff_exists.1 given
      exact Option.isSome_iff_ne_none.2 fun unnamed => other r rfl unnamed
  · unfold adoptRunId
    split
    · rename_i unnamed
      exact absurd (known rfl) (by rw [unnamed]; nofun)
    · rfl

theorem settles_adoptWorkflowId (id : Option WorkflowId) :
    (adoptWorkflowId id).Settles fun s => id.isSome = true → s.workflowId.isSome = true := by
  refine ⟨fun s given => ?_, fun s known => ?_⟩
  · unfold adoptWorkflowId
    split
    · rfl
    · rename_i other
      obtain ⟨w, rfl⟩ := Option.isSome_iff_exists.1 given
      exact Option.isSome_iff_ne_none.2 fun unnamed => other w rfl unnamed
  · unfold adoptWorkflowId
    split
    · rename_i unnamed
      exact absurd (known rfl) (by rw [unnamed]; nofun)
    · rfl

theorem beq_self_of_isFinite {x : Float} (finite : x.isFinite = true) : (x == x) = true := by
  change x.toModel.unpack.isFinite = true at finite
  change (x.toModel.unpack.compare x.toModel.unpack == some .eq) = true
  cases unpacked : x.toModel.unpack with
  | notANumber | infinity sign => rw [unpacked] at finite; cases finite
  | zero sign => rfl
  | finite sign mantissa exponent =>
    have same : (compare exponent exponent).then (compare mantissa mantissa) = .eq := by
      rw [Std.compare_self, Std.compare_self]
      rfl
    cases sign with
    | positive => exact congrArg (fun order => some order == some .eq) same
    | negative => exact congrArg (fun order : Ordering => some order.swap == some .eq) same

theorem percent_beq_self {x : Float} (finite : x.isFinite = true) :
    (percent x == percent x) = true := by
  have cut {y : Float} (same : (y == y) = true) :
      ((if 100 < y then 100 else y) == if 100 < y then 100 else y) = true := by
    split
    · decide
    · exact same
  unfold percent
  split
  · exact cut (by decide)
  · exact cut (beq_self_of_isFinite finite)

theorem settles_setProgress (x : Option Float) :
    (setProgress x).Settles fun s =>
      ∀ y, x = some y → y.isFinite = true → s.progress.any (· == percent y) = true := by
  refine ⟨fun s y given finite => ?_, fun s told => ?_⟩
  · subst given
    simp only [setProgress, finite, Bool.true_eq_false, if_false]
    split
    · assumption
    · exact percent_beq_self finite
  · unfold setProgress
    split
    · rename_i y
      split
      · rfl
      · rename_i finite
        exact if_pos (told y rfl (Bool.not_eq_false _ ▸ finite))
    · rfl

theorem settles_setError (e : String) : (setError e).Settles fun s => s.error = some e := by
  refine ⟨fun s => ?_, fun s told => if_pos told⟩
  unfold setError
  split
  · assumption
  · rfl

theorem settles_setCurrentStep (node : String) :
    (setCurrentStep node).Settles fun s => s.currentStep = some node := by
  refine ⟨fun s => ?_, fun s told => if_pos told⟩
  unfold setCurrentStep
  split
  · assumption
  · rfl

theorem settles_moveFrom {p q : RunPhase} (h : q ≠ p) :
    (moveFrom p q).Settles fun s => s.phase ≠ p :=
  ⟨phase_moveFrom_ne h, fun _ moved => if_neg moved⟩

/-! ### The ledger -/

theorem step?_append {s : RunState} {node : String} (new : s.step? node = none) (r : StepRecord)
    (named : r.node = node) : RunState.step? { s with steps := s.steps ++ [r] } node = some r := by
  unfold step? at new ⊢
  rw [List.find?_append, new, List.find?_singleton, decide_eq_true named]
  rfl

theorem step?_updateStep {s : RunState} {node : String} {r : StepRecord}
    (known : s.step? node = some r) {f : StepRecord → StepRecord} (named : (f r).node = r.node) :
    RunState.step? { s with steps := updateStep node f s.steps } node = some (f r) := by
  unfold step? at known ⊢
  generalize s.steps = steps at known
  induction steps with
  | nil => cases known
  | cons head rest ih =>
    rw [List.find?_cons] at known
    change (updateStep node f (head :: rest)).find? _ = _
    rw [updateStep]
    by_cases here : head.node = node
    · simp only [here, decide_true, Option.some.injEq] at known
      subst known
      rw [if_pos here, List.find?_cons, decide_eq_true (named.trans here)]
    · simp only [here, decide_false] at known
      rw [if_neg here, List.find?_cons, decide_eq_false here]
      exact ih known

theorem settles_openStep (node : String) (status : StepStatus) (origin : StepOrigin) :
    (openStep node status origin).Settles fun s => (s.step? node).isSome = true := by
  refine ⟨fun s => ?_, fun s known => ?_⟩
  · unfold openStep
    split
    · rename_i known
      rw [known]
      rfl
    · rename_i new
      rw [step?_append new _ rfl]
      rfl
  · obtain ⟨r, known⟩ := Option.isSome_iff_exists.1 known
    simp only [openStep, known]

theorem settles_enterStep (origin : StepOrigin) (node : String) :
    (enterStep origin node).Settles fun s =>
      s.currentStep = some node ∧ (s.step? node).isSome = true :=
  (settles_setCurrentStep node).andThen (settles_openStep node .running origin)
    (keeps_openStep (fun _ _ h => h) node .running origin)

theorem settles_completeStep (node : String) (output : Option Json.Value) :
    (completeStep node output).Settles fun s =>
      ∃ r, s.step? node = some r ∧ r.status = .completed := by
  refine ⟨fun s => ?_, fun s ⟨r, known, complete⟩ => ?_⟩
  · unfold completeStep
    split
    · rename_i r known
      split
      · exact ⟨r, known, by assumption⟩
      · exact ⟨_, step?_updateStep known rfl, rfl⟩
    · rename_i new
      exact ⟨_, step?_append new _ rfl, rfl⟩
  · simp only [completeStep, known, complete, if_true]

theorem settles_failStep (error node : String) :
    (failStep error node).Settles fun s =>
      ∃ r, s.step? node = some r ∧ r.status = .failed ∧ r.error = some error := by
  refine ⟨fun s => ?_, fun s ⟨r, known, failed⟩ => ?_⟩
  · unfold failStep
    split
    · rename_i r known
      split
      · exact ⟨r, known, by assumption⟩
      · exact ⟨_, step?_updateStep known rfl, rfl, rfl⟩
    · rename_i new
      exact ⟨_, step?_append new _ rfl, rfl, rfl⟩
  · simp only [failStep, known, failed, and_self, if_true]

/-! ### Events and snapshots -/

/-- An event that does not end the run is taken in at once. -/
theorem settles_eventChange {e : RunEvent} (goesOn : e.isTerminal = false) :
    ∃ settled, (eventChange e).Settles settled := by
  cases e with
  | start id node =>
    have confirmed := (settles_adoptRunId id).andThen
      (settles_moveFrom (p := .pending) (q := .running) nofun)
      (keeps_moveFrom (fun _ _ h => h) _ _)
    exact ⟨_, confirmed.andThen (settles_whenSome (settles_enterStep .live) node)
      (keeps_whenSome (keeps_enterStep (fun _ _ h => h) (fun _ _ h => h) .live) node)⟩
  | progress x node =>
    exact ⟨_, (settles_setProgress x).andThen (settles_whenSome (settles_enterStep .inferred) node)
      (keeps_whenSome (keeps_enterStep (fun _ _ h => h) (fun _ _ h => h) .inferred) node)⟩
  | complete node output => exact ⟨_, settles_completeStep node output⟩
  | error node error =>
    exact ⟨_, (settles_whenSome (settles_failStep error) node).andThen (settles_setError error)
      (keeps_setError (fun _ _ h => h) error)⟩
  | paused => exact ⟨_, settles_moveFrom nofun⟩
  | unknown => exact ⟨_, settles_skip⟩
  | finished | cancelled => cases goesOn

/-- What the status of a snapshot asks for beside the end of the run. -/
theorem settles_statusChange {status : RunStatus} (goesOn : status.isTerminal = false) :
    ∃ settled, (statusChange status).Settles settled := by
  cases status with
  | pending | other => exact ⟨_, settles_skip⟩
  | running | paused => exact ⟨_, settles_moveFrom nofun⟩
  | succeeded | failed | cancelled => cases goesOn

theorem keeps_statusChange {p : RunState → Prop} (blind : ∀ s q, p s → p { s with phase := q })
    {status : RunStatus} (goesOn : status.isTerminal = false) : (statusChange status).Keeps p := by
  cases status with
  | pending | other => exact fun _ h => h
  | running | paused => exact keeps_moveFrom blind _ _
  | succeeded | failed | cancelled => cases goesOn

/-- A snapshot of a run that goes on is taken in at once. -/
theorem settles_snapshotChange {p : RunSnapshot} (goesOn : p.status.isTerminal = false) :
    ∃ settled, (snapshotChange p).Settles settled := by
  obtain ⟨settled, status⟩ := settles_statusChange goesOn
  have named := (settles_adoptRunId p.runId).andThen (settles_adoptWorkflowId p.workflowId)
    (keeps_adoptWorkflowId (fun _ _ h => h) _)
  have along := named.andThen (settles_setProgress p.progress)
    (keeps_setProgress (fun _ _ h => h) _)
  have entered := along.andThen (settles_whenSome (settles_enterStep .inferred) p.currentNode)
    (keeps_whenSome (keeps_enterStep (fun _ _ h => h) (fun _ _ h => h) .inferred) _)
  have noted := entered.andThen (settles_whenSome settles_setError p.error)
    (keeps_whenSome (keeps_setError fun _ _ h => h) _)
  exact ⟨_, noted.andThen status (keeps_statusChange (fun _ _ h => h) goesOn)⟩

/-- A change that a run takes as it takes events and snapshots: not when it is over, and while it is
paused only if the change ends it. -/
def taken (ends : Bool) (f : Change) : Change := fun s =>
  if s.phase.isTerminal then (s, {})
  else if s.phase = .paused ∧ ends = false then (s, {})
  else f s

/-- A change that ends the run is not taken again. Any other one has been settled if it was taken,
and is left aside once more if it was not. -/
theorem taken_again {ends : Bool} {f : Change}
    (ended : ends = true → ∀ s, (taken ends f s).1.phase.isTerminal = true)
    (settles : ends = false → ∃ settled, f.Settles settled) (s : RunState) :
    taken ends f (taken ends f s).1 = ((taken ends f s).1, {}) := by
  cases ends with
  | true => exact if_pos (ended rfl s)
  | false =>
    obtain ⟨settled, settles⟩ := settles rfl
    by_cases aside : s.phase.isTerminal = true ∨ s.phase = .paused
    · have same : taken false f s = (s, {}) := by
        unfold taken
        rcases aside with done | paused
        · exact if_pos done
        · rw [paused]
          rfl
      rw [same]
      exact same
    · rw [not_or] at aside
      have made : taken false f s = f s := by
        rw [taken, if_neg aside.1, if_neg fun paused => aside.2 paused.1]
      rw [made]
      unfold taken
      split
      · rfl
      · split
        · rfl
        · exact settles.again s

/-- A snapshot that is taken twice in a row, or an event, changes nothing and asks for nothing the
second time. -/
theorem replays_are_absorbed (s : RunState) :
    (∀ p, applySnapshot p (applySnapshot p s).1 =
      ((applySnapshot p s).1, { changed := false, closeStream := false })) ∧
    ∀ e, applyEvent e (applyEvent e s).1 =
      ((applyEvent e s).1, { changed := false, closeStream := false }) :=
  ⟨fun _ => taken_again applySnapshot_ends settles_snapshotChange s,
    fun _ => taken_again applyEvent_ends settles_eventChange s⟩

end RunState

end RunWatch
