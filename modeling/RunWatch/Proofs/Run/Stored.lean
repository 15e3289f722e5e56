import RunWatch.Patch.Proposal
import RunWatch.Proofs.Json.Fields
import RunWatch.Proofs.Run.Errors
import RunWatch.Proofs.Run.Ledger
import RunWatch.Run.Stored

/-!
# Stored forms

A state of a run and a proposed patch, written as JSON values and read back. The format holds no
infinity or NaN, and does not tell an output that is `null` from none. No run comes to a state with
these by what it is told.
-/

namespace RunWatch

open Json

namespace StepRecord

/-- The record as it is read back: an output that is `null` is none. -/
def kept (r : StepRecord) : StepRecord :=
  { r with output := r.output.filter (· ≠ .null) }

theorem kept_eq_iff (r : StepRecord) : r.kept = r ↔ r.output ≠ some .null := by
  obtain ⟨node, status, origin, error, output⟩ := r
  cases output with
  | none => exact iff_of_true rfl nofun
  | some v => by_cases same : v = .null <;> simp [kept, same]

theorem read?_toValue (r : StepRecord) : read? r.toValue = some r.kept := by
  have given : fields? [
      { name := "node_id" }, { name := "status" }, { name := "origin" }, { name := "error" },
      { name := "output" }] r.toValue = some [
      ("node_id", .text r.node), ("status", .text r.status.text), ("origin", .text r.origin.text),
      ("error", orNull .text r.error), ("output", orNull id r.output)] :=
    fields?_ofMembers (by simp)
  have status : StepStatus.ofText? r.status.text = some r.status := StepStatus.ofText?_text _
  have origin : StepOrigin.ofText? r.origin.text = some r.origin := StepOrigin.ofText?_text _
  have error : nullable? string? (orNull .text r.error) = some r.error := nullable?_text _
  have output : nullable? Source.value? (orNull id r.output) =
      some (r.output.filter (· ≠ .null)) := by
    refine nullable?_orNull _ _ _ (fun v other => ⟨by simpa using other, rfl⟩) (fun v same => ?_) _
    simpa using same
  rw [read?, given]
  simp [required?, optional?, List.lookup_cons, string?, name?, Source.layer?, status, origin, error,
    output, kept]

end StepRecord

/-! ### States -/

namespace RunState

/-- The state as it is read back. -/
def kept (s : RunState) : RunState :=
  { s with progress := s.progress.filter Float.isFinite, steps := s.steps.map StepRecord.kept }

theorem read?_toValue (s : RunState) : read? s.toValue = some s.kept := by
  have given : fields? [
      { name := "id" }, { name := "workflow_id" }, { name := "phase" }, { name := "progress" },
      { name := "current_step" }, { name := "error" }, { name := "steps" }] s.toValue = some [
      ("id", orNull RunId.toValue s.id), ("workflow_id", orNull WorkflowId.toValue s.workflowId),
      ("phase", .text s.phase.text), ("progress", orNull Value.ofFloat s.progress),
      ("current_step", orNull .text s.currentStep), ("error", orNull .text s.error),
      ("steps", .array (s.steps.map StepRecord.toValue))] :=
    fields?_ofMembers (by simp)
  have id : nullable? RunId.read? (orNull RunId.toValue s.id) = some s.id :=
    nullable?_of_written RunId.read? RunId.toValue (fun _ => ⟨nofun, rfl⟩) _
  have workflow : nullable? WorkflowId.read? (orNull WorkflowId.toValue s.workflowId) =
      some s.workflowId :=
    nullable?_of_written WorkflowId.read? WorkflowId.toValue (fun _ => ⟨nofun, rfl⟩) _
  have phase : RunPhase.ofText? s.phase.text = some s.phase := RunPhase.ofText?_text _
  have progress : nullable? float? (orNull Value.ofFloat s.progress) =
      some (s.progress.filter Float.isFinite) := by
    refine nullable?_orNull _ _ _ (fun x finite => ?_) (fun x infinite => ?_) _
    · rw [Value.ofFloat, if_pos finite]
      exact ⟨nofun, rfl⟩
    · rw [Value.ofFloat, if_neg (by rw [infinite]; exact Bool.false_ne_true)]
  have step : nullable? string? (orNull .text s.currentStep) = some s.currentStep :=
    nullable?_text _
  have error : nullable? string? (orNull .text s.error) = some s.error := nullable?_text _
  have steps : each? StepRecord.read? (s.steps.map StepRecord.toValue) =
      some (s.steps.map StepRecord.kept) :=
    each?_map StepRecord.read?_toValue _
  rw [read?, given]
  simp [required?, optional?, List.lookup_cons, name?, items?, Source.layer?, id, workflow, phase,
    progress, step, error, steps, kept]

/-- The format can hold the state: its progress is no infinity or NaN, and no output of a step is
an explicit `null`. -/
structure Storable (s : RunState) : Prop where
  progress : ∀ x, s.progress = some x → x.isFinite = true
  outputs : ∀ r ∈ s.steps, r.output ≠ some .null

theorem kept_eq_iff (s : RunState) : s.kept = s ↔ s.Storable := by
  have progress : s.progress.filter Float.isFinite = s.progress ↔
      ∀ x, s.progress = some x → x.isFinite = true := by
    cases s.progress with
    | none => exact iff_of_true rfl nofun
    | some x => cases finite : x.isFinite <;> simp [finite]
  have steps : s.steps.map StepRecord.kept = s.steps ↔ ∀ r ∈ s.steps, r.output ≠ some .null := by
    have each : s.steps.map StepRecord.kept = s.steps.map (fun r => r) ↔
        ∀ r ∈ s.steps, r.kept = r :=
      List.map_inj_left
    rw [List.map_id'] at each
    simpa only [StepRecord.kept_eq_iff] using each
  constructor
  · intro same
    exact ⟨progress.1 (congrArg RunState.progress same), steps.1 (congrArg RunState.steps same)⟩
  · rintro ⟨finite, told⟩
    rw [kept, progress.2 finite, steps.2 told]

end RunState

/-! ### Patches -/

namespace PatchOp

/-- The tag is found beside the other members, and these are read as the fields. -/
theorem exists_layer (tag : String) (members : List (String × Value))
    (once : ("op" :: members.map (·.1)).Nodup) :
    ∃ layer, tagged? (Value.ofMembers (("op", .text tag) :: members)) = some (tag, layer) ∧
      given? (members.map fun m => .plain m.1) layer = some members := by
  have all : ((("op", Value.text tag) :: members).map (·.1)).Nodup := once
  obtain ⟨apart, once⟩ := List.nodup_cons.1 once
  obtain ⟨sorted, made, perm⟩ := exists_members all
  have untagged : ∀ m ∈ members, (m.1 == "op") = false := by
    intro m here
    exact beq_eq_false_iff_ne.2 fun same => apart (List.mem_map.2 ⟨m, here, same⟩)
  have mine : sorted.filter (fun m => m.1 == "op") = [("op", .text tag)] := by
    refine List.perm_singleton.1 ((perm.filter _).trans (.of_eq ?_))
    rw [List.filter_cons_of_pos (by rfl), List.filter_eq_nil_iff.2]
    intro m here
    rw [untagged m here]
    exact Bool.false_ne_true
  have rest : (sorted.filter (not ∘ fun m => m.1 == "op")).Perm members := by
    refine (perm.filter _).trans (.of_eq ?_)
    rw [List.filter_cons_of_neg (by simp), List.filter_eq_self.2]
    intro m here
    rw [Function.comp_apply, untagged m here]
    rfl
  refine ⟨.object (sorted.filter (not ∘ fun m => m.1 == "op")), ?_, ?_⟩
  · rw [made]
    simp [tagged?, Source.layer?, List.partition_eq_filter_filter, mine, string?]
  · exact pickMembers_of_mem ((rest.map _).nodup_iff.2 once) fun m here => rest.mem_iff.2 here

theorem read?_toValue (op : PatchOp) : read? op.toValue = some op := by
  cases op with
  | edit location content =>
    obtain ⟨layer, tagged, given⟩ := exists_layer "structural_edit"
      [("location", .text location), ("content", content)] (by simp)
    have fields : given? [{ name := "location" }, { name := "content" }] layer =
      some [("location", .text location), ("content", content)] := given
    rw [toValue, read?, tagged]
    simp [Source.value?, fields, required?, List.lookup_cons, string?, Source.layer?]
  | replace content =>
    obtain ⟨layer, tagged, given⟩ := exists_layer "full_replace"
      [("content", .text content)] (by simp)
    have fields : given? [{ name := "content" }] layer = some [("content", .text content)] := given
    rw [toValue, read?, tagged]
    simp [Source.value?, fields, required?, string?, Source.layer?]

end PatchOp

theorem Proposal.read?_toValue (p : Proposal) : read? p.toValue = some p := by
  have given : fields? [{ name := "base_revision" }, { name := "operations" }] p.toValue = some [
      ("base_revision", p.base.toValue),
      ("operations", .array (p.operations.map PatchOp.toValue))] :=
    fields?_ofMembers (by simp)
  have operations : each? PatchOp.read? (p.operations.map PatchOp.toValue) = some p.operations := by
    simpa using each?_map (f := id) PatchOp.read?_toValue p.operations
  have base : Revision.read? p.base.toValue = some p.base := rfl
  rw [read?, given]
  simp [required?, List.lookup_cons, items?, Source.layer?, operations, base]

/-! ### States that are reached -/

/-- No event that is read from a frame gives `null` as an output. -/
theorem RunEvent.ofFrame?_ne_complete_null (f : Frame) (node : String) :
    ofFrame? f ≠ some (.complete node (some .null)) := by
  have told (given : List (String × Value)) :
      optional? Source.value? given "output" ≠ some (some Value.null) := by
    unfold optional?
    split
    · nofun
    · rename_i v _
      by_cases same : v = .null
      · rw [same]
        nofun
      · rw [nullable?_of_ne_null same]
        simpa [Source.value?] using same
  unfold ofFrame?
  repeat' split
  · simp [readStart?, Option.bind_eq_some_iff]
  · simp [readProgress?, Option.bind_eq_some_iff]
  · simp [readComplete?, Option.bind_eq_some_iff, told]
  · simp [readError?, Option.bind_eq_some_iff]
  · simp [readFinished?, Option.bind_eq_some_iff]
  all_goals nofun

namespace RunState

open Change

variable {s t : RunState}

theorem Storable.of_eq (h : s.Storable) (progress : t.progress = s.progress)
    (steps : t.steps = s.steps) : t.Storable where
  progress x given := h.progress x (progress ▸ given)
  outputs r member := h.outputs r (steps ▸ member)

theorem Storable.concat (h : s.Storable) {r : StepRecord} (told : r.output ≠ some .null) :
    Storable { s with steps := s.steps ++ [r] } where
  progress := h.progress
  outputs r' member := by
    rcases List.mem_append.1 member with known | new
    · exact h.outputs r' known
    · rw [List.mem_singleton.1 new]
      exact told

theorem Storable.updateStep (h : s.Storable) (node : String) {f : StepRecord → StepRecord}
    (told : ∀ r, r.output ≠ some .null → (f r).output ≠ some .null) :
    Storable { s with steps := RunState.updateStep node f s.steps } where
  progress := h.progress
  outputs r member := by
    rcases mem_updateStep member with known | ⟨r', known, rfl⟩
    · exact h.outputs r known
    · exact told r' (h.outputs r' known)

theorem storable_setPhase (p : RunPhase) : (setPhase p).Keeps Storable := by
  intro s h
  unfold setPhase
  split
  · exact h
  · exact h.of_eq rfl rfl

theorem storable_moveFrom (p q : RunPhase) : (moveFrom p q).Keeps Storable :=
  keeps_moveFrom (fun _ _ h => h.of_eq rfl rfl) p q

theorem storable_settle : settle.Keeps Storable :=
  fun s h => storable_setPhase s.finishedPhase s h

theorem storable_adoptRunId (id : Option RunId) : (adoptRunId id).Keeps Storable := by
  intro s h
  unfold adoptRunId
  split
  · exact h.of_eq rfl rfl
  · exact h

theorem isFinite_percent {x : Float} (finite : x.isFinite = true) :
    (percent x).isFinite = true := by
  have cut {y : Float} (finite : y.isFinite = true) :
      (if 100 < y then 100 else y).isFinite = true := by
    split
    · decide
    · exact finite
  unfold percent
  split
  · exact cut (by decide)
  · exact cut finite

/-- A progress that is not finite is not taken, and the others are cut to a range. -/
theorem storable_setProgress (x : Option Float) : (setProgress x).Keeps Storable := by
  intro s h
  unfold setProgress
  split
  · rename_i x
    split
    · exact h
    · rename_i finite
      split
      · exact h
      · refine ⟨fun y given => ?_, h.outputs⟩
        rw [← Option.some.inj given]
        exact isFinite_percent (Bool.not_eq_false _ ▸ finite)
  · exact h

theorem storable_setError (e : String) : (setError e).Keeps Storable :=
  keeps_setError (fun _ _ h => h.of_eq rfl rfl) e

theorem storable_enterStep (origin : StepOrigin) (node : String) :
    (enterStep origin node).Keeps Storable := by
  refine Keeps.andThen (fun s h => ?_) fun s h => ?_
  · unfold setCurrentStep
    split
    · exact h
    · exact h.of_eq rfl rfl
  · unfold openStep
    split
    · exact h
    · exact h.concat nofun

theorem storable_completeStep (node : String) {output : Option Value} (told : output ≠ some .null) :
    (completeStep node output).Keeps Storable := by
  intro s h
  unfold completeStep
  split
  · split
    · exact h
    · exact h.updateStep node fun _ _ => told
  · exact h.concat told

theorem storable_failStep (error node : String) : (failStep error node).Keeps Storable := by
  intro s h
  unfold failStep
  split
  · split
    · exact h
    · exact h.updateStep node fun _ told => told
  · exact h.concat nofun

theorem storable_eventChange {e : RunEvent} (told : ∀ node, e ≠ .complete node (some .null)) :
    (eventChange e).Keeps Storable := by
  cases e with
  | start id node =>
    exact ((storable_adoptRunId id).andThen (storable_moveFrom _ _)).andThen
      (keeps_whenSome (storable_enterStep .live) node)
  | progress x node =>
    exact (storable_setProgress x).andThen (keeps_whenSome (storable_enterStep .inferred) node)
  | complete node output =>
    exact storable_completeStep node fun null => told node (congrArg (RunEvent.complete node) null)
  | error node error =>
    exact (keeps_whenSome (storable_failStep error) node).andThen (storable_setError error)
  | finished status =>
    intro s h
    obtain ⟨p, -, ends⟩ := eventChange_finished status s
    rw [ends]
    exact storable_setPhase p s h
  | paused => exact storable_moveFrom _ _
  | cancelled => exact storable_setPhase _
  | unknown => exact fun _ h => h

theorem storable_statusChange (status : RunStatus) : (statusChange status).Keeps Storable := by
  cases status with
  | pending | other => exact fun _ h => h
  | running | paused => exact storable_moveFrom _ _
  | succeeded => exact storable_settle
  | failed =>
    refine fun s h => storable_setPhase .failed _ ?_
    split
    · exact h.of_eq rfl rfl
    · exact h
  | cancelled => exact storable_setPhase _

theorem storable_snapshotChange (p : RunSnapshot) : (snapshotChange p).Keeps Storable :=
  (((((storable_adoptRunId p.runId).andThen
    (keeps_adoptWorkflowId (fun _ _ h => h.of_eq rfl rfl) p.workflowId)).andThen
    (storable_setProgress p.progress)).andThen
    (keeps_whenSome (storable_enterStep .inferred) p.currentNode)).andThen
    (keeps_whenSome storable_setError p.error)).andThen (storable_statusChange p.status)

theorem keeps_ite {p q : RunState → Prop} [DecidablePred q] {f : Change} (hf : f.Keeps p) :
    Change.Keeps (fun s => if q s then (s, {}) else f s) p := by
  intro s h
  show p (if q s then (s, {}) else f s).1
  split
  · exact h
  · exact hf s h

theorem storable_change {u : Update}
    (told : ∀ node, u ≠ .event (.complete node (some .null))) : u.change.Keeps Storable := by
  cases u with
  | event e =>
    have given : ∀ node, e ≠ .complete node (some .null) := fun node same =>
      told node (congrArg Update.event same)
    exact keeps_ite (keeps_ite (storable_eventChange given))
  | snapshot p => exact keeps_ite (keeps_ite (storable_snapshotChange p))
  | resumed => exact storable_moveFrom _ _
  | failed message =>
    exact keeps_ite fun s h => storable_setPhase .failed _ (h.of_eq rfl rfl)
  | cancelled => exact keeps_ite (storable_setPhase .cancelled)

theorem storable_heed (h : s.Storable) {r : Report}
    (told : ∀ node, r ≠ .update (.event (.complete node (some .null)))) : (s.heed r).Storable := by
  cases r with
  | note message => exact h.of_eq rfl rfl
  | update u =>
    have given : ∀ node, u ≠ .event (.complete node (some .null)) := fun node same =>
      told node (congrArg Report.update same)
    exact storable_change given s h

theorem storable_heedAll (h : s.Storable) {rs : List Report}
    (told : ∀ node, Report.update (.event (.complete node (some .null))) ∉ rs) :
    (s.heedAll rs).Storable := by
  induction rs generalizing s with
  | nil => exact h
  | cons r rs ih =>
    have first : (s.heed r).Storable := storable_heed h fun node same =>
      told node (same ▸ List.mem_cons_self)
    exact ih first fun node later => told node (List.mem_cons_of_mem r later)

end RunState

/-- A state is read back as it was just when the format can hold it, which is so after any reports
whose events came in frames. A patch is always read back as it was. -/
theorem stored_forms_read_back :
    (∀ s : RunState, RunState.read? s.toValue = some s ↔ s.Storable) ∧
    (∀ (s : RunState) (rs : List RunState.Report),
      (s = .idle ∨ ∃ w, s = .placeholder w) →
      (∀ e, .update (.event e) ∈ rs → ∃ f, RunEvent.ofFrame? f = some e) →
      (s.heedAll rs).Storable) ∧
    ∀ p : Proposal, Proposal.read? p.toValue = some p := by
  refine ⟨fun s => ?_, fun s rs fresh decoded => ?_, Proposal.read?_toValue⟩
  · rw [RunState.read?_toValue, Option.some.injEq, RunState.kept_eq_iff]
  · have begins : s.Storable := by
      rcases fresh with rfl | ⟨w, rfl⟩ <;> exact ⟨nofun, nofun⟩
    refine RunState.storable_heedAll begins fun node told => ?_
    obtain ⟨f, read⟩ := decoded _ told
    exact RunEvent.ofFrame?_ne_complete_null f node read

/-- The output of the step is sent as `null`, and kept as none. -/
theorem finished_run_is_read_back :
    let start : RunEvent := .start (some ⟨"r1"⟩) (some "a")
    let progress : RunEvent := .progress (some 40) none
    let complete : RunEvent := .complete "a" none
    let s := RunState.idle.heedAll [.update (.event start), .update (.event progress),
      .update (.event complete), .update (.snapshot { status := .succeeded })]
    s.phase = .succeeded ∧ s.steps = [⟨"a", .completed, .live, none, none⟩] ∧
      RunState.read? s.toValue = some s := by
  intro start progress complete s
  have starts : RunEvent.ofFrame?
      ⟨"start", .object [("node", .text "a"), ("run_id", .text "r1")]⟩ = some start := by decide
  have moves : RunEvent.ofFrame?
      ⟨"progress", .object [("progress", .number (.int 40))]⟩ = some progress := by decide +kernel
  have completes : RunEvent.ofFrame?
      ⟨"complete", .object [("node", .text "a"), ("output", .null)]⟩ = some complete := by decide
  refine ⟨by decide +kernel, by decide +kernel, ?_⟩
  refine (stored_forms_read_back.1 s).2 (stored_forms_read_back.2.1 _ _ (.inl rfl) fun e told => ?_)
  simp only [List.mem_cons, List.not_mem_nil, or_false, RunState.Report.update.injEq,
    RunState.Update.event.injEq, reduceCtorEq] at told
  rcases told with rfl | rfl | rfl
  · exact ⟨_, starts⟩
  · exact ⟨_, moves⟩
  · exact ⟨_, completes⟩

end RunWatch
