import RunWatch.Proofs.Run.Replays

/-!
# The ledger of a run

The ledger has one record for each node. A record keeps its place, its node and its origin, and a
step that has ended never runs again. New records go to the end. What is once known of a run stays
known.
-/

namespace RunWatch

/-- A record at a later time. -/
structure StepRecord.Continues (r r' : StepRecord) : Prop where
  node : r'.node = r.node
  origin : r'.origin = r.origin
  ended : r.status ≠ .running → r'.status ≠ .running

theorem StepRecord.Continues.refl (r : StepRecord) : r.Continues r :=
  ⟨rfl, rfl, id⟩

theorem StepRecord.Continues.trans {r r' r'' : StepRecord} (h : r.Continues r')
    (h' : r'.Continues r'') : r.Continues r'' :=
  ⟨h'.node.trans h.node, h'.origin.trans h.origin, h'.ended ∘ h.ended⟩

namespace RunState

/-- The nodes of the ledger. -/
def nodes (s : RunState) : List String :=
  s.steps.map (·.node)

theorem step?_eq_none_iff {s : RunState} {node : String} :
    s.step? node = none ↔ node ∉ s.nodes := by
  simp [step?, nodes]

theorem step?_isSome_iff {s : RunState} {node : String} :
    (s.step? node).isSome = true ↔ node ∈ s.nodes := by
  simp [step?, nodes]

/-- No node has two records, and the current step has one. -/
structure Indexed (s : RunState) : Prop where
  distinct : s.nodes.Nodup
  current : ∀ node, s.currentStep = some node → node ∈ s.nodes

/-- The run at a later time, with at most `n` more records. -/
structure Extends (n : Nat) (s t : RunState) : Prop where
  records : ∀ (i : Nat) r, s.steps[i]? = some r → ∃ r', t.steps[i]? = some r' ∧ r.Continues r'
  opened : t.steps.length ≤ s.steps.length + n
  id : ∀ r, s.id = some r → t.id = some r
  workflowId : ∀ w, s.workflowId = some w → t.workflowId = some w
  progress : s.progress.isSome = true → t.progress.isSome = true
  currentStep : s.currentStep.isSome = true → t.currentStep.isSome = true
  error : s.error.isSome = true → t.error.isSome = true

variable {s t u : RunState} {m n : Nat}

theorem Extends.trans (h : s.Extends m t) (h' : t.Extends n u) : s.Extends (m + n) u where
  records i r known := by
    obtain ⟨r', known', continues⟩ := h.records i r known
    obtain ⟨r'', known'', continues'⟩ := h'.records i r' known'
    exact ⟨r'', known'', continues.trans continues'⟩
  opened := by
    have first := h.opened
    have second := h'.opened
    omega
  id r known := h'.id r (h.id r known)
  workflowId w known := h'.workflowId w (h.workflowId w known)
  progress known := h'.progress (h.progress known)
  currentStep known := h'.currentStep (h.currentStep known)
  error known := h'.error (h.error known)

theorem Extends.mono (h : s.Extends m t) (le : m ≤ n) : s.Extends n t :=
  { h with opened := by have := h.opened; omega }

/-- The ledger stays as it is, and nothing that is known is forgotten. -/
structure Learns (s t : RunState) : Prop where
  steps : t.steps = s.steps
  current : t.currentStep = s.currentStep
  id : ∀ r, s.id = some r → t.id = some r
  workflowId : ∀ w, s.workflowId = some w → t.workflowId = some w
  progress : s.progress.isSome = true → t.progress.isSome = true
  error : s.error.isSome = true → t.error.isSome = true

theorem Learns.refl (s : RunState) : s.Learns s :=
  ⟨rfl, rfl, fun _ known => known, fun _ known => known, fun known => known, fun known => known⟩

theorem Learns.trans (h : s.Learns t) (h' : t.Learns u) : s.Learns u where
  steps := h'.steps.trans h.steps
  current := h'.current.trans h.current
  id r known := h'.id r (h.id r known)
  workflowId w known := h'.workflowId w (h.workflowId w known)
  progress known := h'.progress (h.progress known)
  error known := h'.error (h.error known)

theorem Learns.grows (h : s.Learns t) : s.Extends 0 t where
  records i r known := ⟨r, h.steps ▸ known, .refl r⟩
  opened := by rw [h.steps]; omega
  id := h.id
  workflowId := h.workflowId
  progress := h.progress
  currentStep known := h.current ▸ known
  error := h.error

theorem Learns.indexed (h : s.Learns t) (indexed : s.Indexed) : t.Indexed := by
  have nodes : t.nodes = s.nodes := congrArg (List.map StepRecord.node) h.steps
  refine ⟨nodes ▸ indexed.distinct, fun node known => ?_⟩
  rw [nodes]
  exact indexed.current node (h.current ▸ known)

/-! ### Changes beside the ledger -/

theorem learns_setPhase (p : RunPhase) (s : RunState) : s.Learns (setPhase p s).1 := by
  unfold setPhase
  split
  · exact .refl s
  · exact { Learns.refl s with }

theorem learns_moveFrom (p q : RunPhase) (s : RunState) : s.Learns (moveFrom p q s).1 := by
  unfold moveFrom
  split
  · exact learns_setPhase q s
  · exact .refl s

theorem learns_adoptRunId (id : Option RunId) (s : RunState) : s.Learns (adoptRunId id s).1 := by
  unfold adoptRunId
  split
  · rename_i unnamed
    exact { Learns.refl s with id := fun r known => absurd (unnamed.symm.trans known) nofun }
  · exact .refl s

theorem learns_adoptWorkflowId (id : Option WorkflowId) (s : RunState) :
    s.Learns (adoptWorkflowId id s).1 := by
  unfold adoptWorkflowId
  split
  · rename_i unnamed
    exact { Learns.refl s with
      workflowId := fun w known => absurd (unnamed.symm.trans known) nofun }
  · exact .refl s

theorem learns_setProgress (x : Option Float) (s : RunState) : s.Learns (setProgress x s).1 := by
  unfold setProgress
  split
  · split
    · exact .refl s
    · split
      · exact .refl s
      · exact { Learns.refl s with progress := fun _ => rfl }
  · exact .refl s

theorem learns_noteError (message : String) (s : RunState) : s.Learns (s.noteError message) :=
  { Learns.refl s with error := fun _ => rfl }

theorem learns_setError (e : String) (s : RunState) : s.Learns (setError e s).1 := by
  unfold setError
  split
  · exact .refl s
  · exact learns_noteError e s

theorem learns_statusChange (status : RunStatus) (s : RunState) :
    s.Learns (statusChange status s).1 := by
  cases status with
  | pending | other => exact .refl s
  | running | paused => exact learns_moveFrom _ _ s
  | succeeded => exact learns_setPhase _ s
  | cancelled => exact learns_setPhase _ s
  | failed =>
    refine Learns.trans ?_ (learns_setPhase .failed _)
    split
    · exact learns_noteError failedWithoutReason s
    · exact .refl s

/-! ### Changes of the ledger -/

theorem nodes_updateStep {node : String} {f : StepRecord → StepRecord}
    (named : ∀ r, (f r).node = r.node) (steps : List StepRecord) :
    (updateStep node f steps).map (·.node) = steps.map (·.node) := by
  induction steps with
  | nil => rfl
  | cons r rest ih =>
    rw [updateStep]
    split
    · rw [List.map_cons, List.map_cons, named]
    · rw [List.map_cons, List.map_cons, ih]

theorem continues_updateStep {node : String} {f : StepRecord → StepRecord}
    (revises : ∀ r : StepRecord, r.Continues (f r)) (steps : List StepRecord) (i : Nat)
    (r : StepRecord) (known : steps[i]? = some r) :
    ∃ r', (updateStep node f steps)[i]? = some r' ∧ r.Continues r' := by
  induction steps generalizing i with
  | nil => simp at known
  | cons head rest ih =>
    rw [updateStep]
    split
    · cases i with
      | zero =>
        rw [List.getElem?_cons_zero, Option.some.injEq] at known
        subst known
        exact ⟨f head, rfl, revises head⟩
      | succ i => exact ⟨r, known, .refl r⟩
    · cases i with
      | zero => exact ⟨r, known, .refl r⟩
      | succ i => exact ih i known

/-- What may be done to the records of a node: nothing, a revision of the one that is there, or a
new one if there is none. -/
inductive Enters (node : String) (s : RunState) : RunState → Prop where
  | same : Enters node s s
  | revise (f : StepRecord → StepRecord) (revises : ∀ r : StepRecord, r.Continues (f r)) :
    Enters node s { s with steps := updateStep node f s.steps }
  | append (r : StepRecord) (named : r.node = node) (new : s.step? node = none) :
    Enters node s { s with steps := s.steps ++ [r] }

theorem enters_openStep (node : String) (status : StepStatus) (origin : StepOrigin)
    (s : RunState) : Enters node s (openStep node status origin s).1 := by
  unfold openStep
  split
  · exact .same
  · exact .append _ rfl (by assumption)

theorem enters_completeStep (node : String) (output : Option Json.Value) (s : RunState) :
    Enters node s (completeStep node output s).1 := by
  unfold completeStep
  split
  · split
    · exact .same
    · exact .revise _ fun _ => ⟨rfl, rfl, nofun⟩
  · exact .append _ rfl (by assumption)

theorem enters_failStep (error node : String) (s : RunState) :
    Enters node s (failStep error node s).1 := by
  unfold failStep
  split
  · split
    · exact .same
    · exact .revise _ fun _ => ⟨rfl, rfl, nofun⟩
  · exact .append _ rfl (by assumption)

namespace Enters

variable {node : String}

theorem records (h : Enters node s t) (i : Nat) (r : StepRecord) (known : s.steps[i]? = some r) :
    ∃ r', t.steps[i]? = some r' ∧ r.Continues r' := by
  cases h with
  | same => exact ⟨r, known, .refl r⟩
  | revise f revises => exact continues_updateStep revises s.steps i r known
  | append new named none_ =>
    obtain ⟨inside, -⟩ := List.getElem?_eq_some_iff.1 known
    exact ⟨r, (List.getElem?_append_left inside).trans known, .refl r⟩

theorem nodes_eq (h : Enters node s t) :
    t.nodes = s.nodes ∨ t.nodes = s.nodes ++ [node] ∧ node ∉ s.nodes := by
  cases h with
  | same => exact .inl rfl
  | revise f revises => exact .inl (nodes_updateStep (fun r => (revises r).node) s.steps)
  | append r named new =>
    refine .inr ⟨?_, step?_eq_none_iff.1 new⟩
    rw [nodes, List.map_append, List.map_singleton, named]
    rfl

theorem grows (h : Enters node s t) : s.Extends 1 t := by
  have records := h.records
  have opened : t.steps.length ≤ s.steps.length + 1 := by
    have counted : t.nodes.length ≤ s.nodes.length + 1 := by
      rcases h.nodes_eq with same | ⟨more, -⟩
      · rw [same]; omega
      · exact Nat.le_of_eq (by rw [more, List.length_append, List.length_singleton])
    simpa only [nodes, List.length_map] using counted
  cases h with
  | same | revise | append =>
    exact ⟨records, opened, fun _ h => h, fun _ h => h, fun h => h, fun h => h, fun h => h⟩

theorem distinct (h : Enters node s t) (distinct : s.nodes.Nodup) : t.nodes.Nodup := by
  rcases h.nodes_eq with same | ⟨more, new⟩
  · rw [same]; exact distinct
  · rw [more, List.nodup_append]
    refine ⟨distinct, List.pairwise_singleton _ node, ?_⟩
    intro a before b here same
    rw [List.mem_singleton.1 here] at same
    exact new (same ▸ before)

theorem mem_nodes (h : Enters node s t) {other : String} (known : other ∈ s.nodes) :
    other ∈ t.nodes := by
  rcases h.nodes_eq with same | ⟨more, -⟩
  · rw [same]; exact known
  · rw [more]; exact List.mem_append_left _ known

theorem current (h : Enters node s t) : t.currentStep = s.currentStep := by
  cases h <;> rfl

theorem indexed (h : Enters node s t) (indexed : s.Indexed) : t.Indexed where
  distinct := h.distinct indexed.distinct
  current other known := h.mem_nodes (indexed.current other (h.current ▸ known))

end Enters

end RunState

/-! ### Changes that only add -/

/-- A change that adds at most `n` records and loses nothing. -/
structure Change.Grows (n : Nat) (f : Change) : Prop where
  extend : ∀ s : RunState, s.Extends n (f s).1
  indexed : ∀ s : RunState, s.Indexed → (f s).1.Indexed

namespace Change

variable {f g : Change} {m n : Nat}

theorem grows_of_learns (h : ∀ s : RunState, s.Learns (f s).1) : f.Grows 0 :=
  ⟨fun s => (h s).grows, fun s => (h s).indexed⟩

theorem grows_of_enters {node : String} (h : ∀ s : RunState, s.Enters node (f s).1) : f.Grows 1 :=
  ⟨fun s => (h s).grows, fun s => (h s).indexed⟩

theorem Grows.andThen (hf : f.Grows m) (hg : g.Grows n) : (f.andThen g).Grows (m + n) :=
  ⟨fun s => (hf.extend s).trans (hg.extend _), fun s h => hg.indexed _ (hf.indexed s h)⟩

theorem Grows.mono (h : f.Grows m) (le : m ≤ n) : f.Grows n :=
  ⟨fun s => (h.extend s).mono le, h.indexed⟩

theorem grows_skip : skip.Grows 0 :=
  grows_of_learns .refl

theorem grows_whenSome {α : Type} {f : α → Change} (hf : ∀ a, (f a).Grows n) (a : Option α) :
    (whenSome a f).Grows n := by
  cases a with
  | none => exact grows_skip.mono (Nat.zero_le n)
  | some a => exact hf a

theorem grows_ite {p : RunState → Prop} [DecidablePred p] (hf : f.Grows n) :
    Change.Grows n fun s => if p s then (s, {}) else f s where
  extend s := by
    split
    · exact (grows_skip.extend s).mono (Nat.zero_le n)
    · exact hf.extend s
  indexed s h := by
    split
    · exact h
    · exact hf.indexed s h

end Change

namespace RunState

open Change

/-- The current step is noted before its record is there. -/
theorem grows_enterStep (origin : StepOrigin) (node : String) :
    (enterStep origin node).Grows 1 where
  extend s := by
    have noted : s.Extends 0 (setCurrentStep node s).1 := by
      unfold setCurrentStep
      split
      · exact (Learns.refl s).grows
      · exact { (Learns.refl s).grows with currentStep := fun _ => rfl }
    exact noted.trans (enters_openStep node .running origin _).grows
  indexed s h := by
    have nodes : (setCurrentStep node s).1.nodes = s.nodes := by
      unfold setCurrentStep
      split <;> rfl
    have opened := enters_openStep node .running origin (setCurrentStep node s).1
    refine ⟨opened.distinct (nodes ▸ h.distinct), ?_⟩
    intro other known
    obtain ⟨now, there⟩ := (settles_enterStep origin node).reached s
    obtain rfl := Option.some.inj (now.symm.trans known)
    exact step?_isSome_iff.1 there

/-- An event names one node at most. -/
theorem grows_eventChange (e : RunEvent) : (eventChange e).Grows 1 := by
  cases e with
  | start id node =>
    exact ((grows_of_learns (learns_adoptRunId id)).andThen
      (grows_of_learns (learns_moveFrom .pending .running))).andThen
      (grows_whenSome (grows_enterStep .live) node)
  | progress p node =>
    exact (grows_of_learns (learns_setProgress p)).andThen
      (grows_whenSome (grows_enterStep .inferred) node)
  | complete node output => exact grows_of_enters (enters_completeStep node output)
  | error node error =>
    exact (grows_whenSome (fun n => grows_of_enters (enters_failStep error n)) node).andThen
      (grows_of_learns (learns_setError error))
  | finished status =>
    refine (grows_of_learns fun s => ?_).mono (Nat.zero_le 1)
    obtain ⟨p, -, ends⟩ := eventChange_finished status s
    rw [ends]
    exact learns_setPhase p s
  | paused => exact (grows_of_learns (learns_moveFrom _ _)).mono (Nat.zero_le 1)
  | cancelled => exact (grows_of_learns (learns_setPhase _)).mono (Nat.zero_le 1)
  | unknown => exact grows_skip.mono (Nat.zero_le 1)

theorem grows_reportChange (p : RunSnapshot) : (reportChange p).Grows 1 :=
  (((grows_of_learns (learns_adoptWorkflowId p.workflowId)).andThen
    (grows_of_learns (learns_setProgress p.progress))).andThen
    (grows_whenSome (grows_enterStep .inferred) p.currentNode)).andThen
    (grows_whenSome (fun e => grows_of_learns (learns_setError e)) p.error)

theorem grows_snapshotChange (p : RunSnapshot) : (snapshotChange p).Grows 1 := by
  rw [snapshotChange_eq]
  exact (grows_of_learns (learns_adoptRunId p.runId)).andThen
    ((grows_reportChange p).andThen (grows_of_learns (learns_statusChange p.status)))

theorem learns_fail (message : String) (s : RunState) : s.Learns (fail message s).1 := by
  unfold fail
  split
  · exact .refl s
  · exact (learns_noteError message s).trans (learns_setPhase .failed _)

theorem learns_cancel (s : RunState) : s.Learns (RunState.cancel s).1 := by
  unfold RunState.cancel
  split
  · exact .refl s
  · exact learns_setPhase .cancelled s

theorem grows_change (u : Update) : u.change.Grows 1 := by
  cases u with
  | event e => exact grows_ite (grows_ite (grows_eventChange e))
  | snapshot p => exact grows_ite (grows_ite (grows_snapshotChange p))
  | resumed => exact (grows_of_learns (learns_moveFrom _ _)).mono (Nat.zero_le 1)
  | failed message => exact (grows_of_learns (learns_fail message)).mono (Nat.zero_le 1)
  | cancelled => exact (grows_of_learns learns_cancel).mono (Nat.zero_le 1)

/-! ### Snapshots -/

theorem prefix_openStep (node : String) (status : StepStatus) (origin : StepOrigin)
    (s : RunState) : s.steps <+: (openStep node status origin s).1.steps := by
  unfold openStep
  split
  · exact List.prefix_refl _
  · exact List.prefix_append _ _

/-- A snapshot may open a record, and changes none. -/
theorem prefix_applySnapshot (p : RunSnapshot) (s : RunState) :
    s.steps <+: (applySnapshot p s).1.steps := by
  have beside {f : Change} (learns : ∀ t : RunState, t.Learns (f t).1) :
      f.Keeps fun t => s.steps <+: t.steps := by
    intro t before
    show s.steps <+: (f t).1.steps
    rw [(learns t).steps]
    exact before
  -- The ledger is touched where the current node is entered, and nowhere else.
  have entered (node : String) : (enterStep .inferred node).Keeps fun t => s.steps <+: t.steps := by
    refine Keeps.andThen (fun t before => ?_)
      fun t before => before.trans (prefix_openStep node .running .inferred t)
    unfold setCurrentStep
    split <;> exact before
  have kept : (snapshotChange p).Keeps fun t => s.steps <+: t.steps :=
    (((((beside (learns_adoptRunId p.runId)).andThen
      (beside (learns_adoptWorkflowId p.workflowId))).andThen
      (beside (learns_setProgress p.progress))).andThen
      (keeps_whenSome entered p.currentNode)).andThen
      (keeps_whenSome (fun e => beside (learns_setError e)) p.error)).andThen
      (beside (learns_statusChange p.status))
  unfold applySnapshot
  split
  · exact List.prefix_refl _
  · split
    · exact List.prefix_refl _
    · exact kept s (List.prefix_refl _)

/-! ### Whole runs -/

/-- What a run is told: an update, or an error to be noted beside the phase. -/
inductive Report where
  | update (u : Update)
  | note (message : String)

/-- The state after a report. -/
def heed (s : RunState) : Report → RunState
  | .update u => (u.change s).1
  | .note message => s.noteError message

/-- The state after some reports. -/
def heedAll (s : RunState) (reports : List Report) : RunState :=
  reports.foldl heed s

variable {s : RunState}

theorem extends_heed (s : RunState) (r : Report) : s.Extends 1 (s.heed r) := by
  cases r with
  | update u => exact (grows_change u).extend s
  | note message => exact (learns_noteError message s).grows.mono (Nat.zero_le 1)

theorem indexed_heed (h : s.Indexed) (r : Report) : (s.heed r).Indexed := by
  cases r with
  | update u => exact (grows_change u).indexed s h
  | note message => exact (learns_noteError message s).indexed h

theorem indexed_heedAll (h : s.Indexed) (rs : List Report) : (s.heedAll rs).Indexed := by
  induction rs generalizing s with
  | nil => exact h
  | cons r rs ih => exact ih (indexed_heed h r)

theorem extends_heedAll (s : RunState) (rs : List Report) : s.Extends rs.length (s.heedAll rs) := by
  induction rs generalizing s with
  | nil => exact (Learns.refl s).grows
  | cons r rs ih =>
    have whole := (extends_heed s r).trans (ih (s.heed r))
    rw [Nat.add_comm] at whole
    exact whole

/-- After any reports the ledger is an index of the nodes. Each report then leaves the records in
their places, adds one at most and forgets nothing, and so do several. A snapshot changes no
record. -/
theorem ledger_only_grows (fresh : s = RunState.idle ∨ ∃ w, s = RunState.placeholder w)
    (rs : List Report) :
    (s.heedAll rs).Indexed ∧
    (∀ r, (s.heedAll rs).Extends 1 ((s.heedAll rs).heed r)) ∧
    (∀ p, (s.heedAll rs).steps <+: ((s.heedAll rs).heed (.update (.snapshot p))).steps) ∧
    ∀ more, (s.heedAll rs).Extends more.length ((s.heedAll rs).heedAll more) := by
  have begins : s.Indexed := by
    rcases fresh with rfl | ⟨w, rfl⟩ <;> exact ⟨List.nodup_nil, nofun⟩
  exact ⟨indexed_heedAll begins rs, extends_heed _, fun p => prefix_applySnapshot p _,
    extends_heedAll _⟩

/-- A step fails, completes, and is named again by a start and by a snapshot. -/
theorem failed_step_keeps_its_record :
    let rs : List Report := [
      .update (.event (.progress (some 40) (some "b"))),
      .update (.event (.error (some "a") "boom")),
      .update (.snapshot { status := .running, currentNode := some "a" })]
    let more : List Report := [
      .update (.event (.complete "a" none)), .note "late",
      .update (.event (.start none (some "a")))]
    let s := RunState.idle.heedAll rs
    s.steps = [⟨"b", .running, .inferred, none, none⟩,
        ⟨"a", .failed, .inferred, some "boom", none⟩] ∧
      s.nodes.Nodup ∧ s.Extends more.length (s.heedAll more) ∧
      (s.heedAll more).steps[1]? = some ⟨"a", .completed, .inferred, some "boom", none⟩ := by
  intro rs more s
  obtain ⟨indexed, -, -, onward⟩ := ledger_only_grows (.inl rfl) rs
  exact ⟨by decide +kernel, indexed.distinct, onward more, by decide +kernel⟩

end RunState

end RunWatch
