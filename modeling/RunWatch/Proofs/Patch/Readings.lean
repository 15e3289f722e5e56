import RunWatch.Proofs.Patch.Protocol

/-!
# Two readings of one answer

A preview and an apply each make their own of an answer that is no mismatch: a preview goes by the
checks if the answer tells of them, and an apply goes by the success alone. They disagree where the
two are told apart.
-/

namespace RunWatch

open Dialogue

namespace Verdict

/-- The answer tells of checks, and of how they went. -/
def Checked (v : Verdict) (passed : Bool) : Prop :=
  ∃ validation, v.validation = some validation ∧ validation.valid = passed

/-- What makes a preview valid. -/
def approves (v : Verdict) : Bool :=
  match v.validation with
  | some validation => validation.valid
  | none => v.success && v.error.isNone

/-- Without success, only checks that have passed make a preview valid. -/
theorem approves_of_failed {v : Verdict} (failed : v.success = false) :
    v.approves = true ↔ v.Checked true := by
  unfold approves Checked
  cases v.validation with
  | some validation => simp only [Option.some.injEq, exists_eq_left']
  | none =>
    rw [failed, Bool.false_and]
    exact ⟨nofun, fun ⟨_, told, _⟩ => nomatch told⟩

/-- With success, checks that have failed make it invalid, and so does an error without any. -/
theorem not_approves_of_success {v : Verdict} (success : v.success = true) :
    v.approves = false ↔
      v.Checked false ∨ v.validation = none ∧ v.error.isSome = true := by
  unfold approves Checked
  cases v.validation with
  | some validation =>
    simp only [Option.some.injEq, exists_eq_left', reduceCtorEq, false_and, or_false]
  | none =>
    rw [success, Bool.true_and, Option.isNone_eq_false_iff]
    exact ⟨fun told => .inr ⟨rfl, told⟩, fun | .inr ⟨_, told⟩ => told⟩

end Verdict

/-- The patch was refused for what it is, with reasons or without one. -/
def PatchFailure.Rejects (failure : PatchFailure) : Prop :=
  (∃ errors, failure = .invalid errors) ∨ failure = .protocol .noReason

namespace Proposal

variable {p : Proposal} {v : Verdict}

/-! ### What an apply makes of an answer -/

theorem conclude_eq_committed_iff {revision : Revision} {diff : Option Json.Value} :
    conclude v = .ok (.committed revision diff) ↔
      v.success = true ∧ v.newRevision = some revision ∧ v.diff = diff := by
  unfold conclude
  cases success : v.success with
  | true =>
    rw [if_pos rfl]
    cases v.newRevision with
    | some r =>
      simp only [Except.ok.injEq, Applied.committed.injEq, Option.some.injEq, true_and]
    | none => exact ⟨nofun, fun ⟨_, none_, _⟩ => nomatch none_⟩
  | false =>
    refine ⟨fun done => ?_, nofun⟩
    split at done
    · contradiction
    · split at done
      · split at done <;> cases done
      · cases done

theorem conclude_rejects_iff :
    (∃ failure, conclude v = .error failure ∧ failure.Rejects) ↔ v.success = false := by
  unfold conclude
  cases v.success with
  | true =>
    refine ⟨fun ⟨failure, refused, rejects⟩ => ?_, nofun⟩
    rw [if_pos rfl] at refused
    split at refused
    · cases refused
    · cases refused
      rcases rejects with ⟨errors, e⟩ | e <;> cases e
  | false =>
    refine ⟨fun _ => rfl, fun _ => ?_⟩
    rw [if_neg Bool.false_ne_true]
    split
    · split
      · exact ⟨_, rfl, .inl ⟨_, rfl⟩⟩
      · exact ⟨_, rfl, .inr rfl⟩
    · exact ⟨_, rfl, .inl ⟨_, rfl⟩⟩

/-! ### What comes of an answer -/

/-- An answer that is no mismatch leads nowhere. -/
theorem stays_of_taken (taken : v.isMismatch = false) (current : Revision) :
    ¬ p.MovesTo (.ok v) current := by
  rw [movesTo_iff, taken]
  rintro ⟨mismatch, -⟩
  exact Bool.false_ne_true mismatch

theorem result_of_taken {α : Type} {dryRun : Bool} {followed : Preview → α}
    {conclude : Verdict → Except PatchFailure α} (h : p.check = .ok ())
    (taken : v.isMismatch = false) (answers : List PatchAnswer) :
    ((p.exchange dryRun followed conclude).run (.ok v :: answers)).result = conclude v := by
  rw [(run_exchange_stays h (stays_of_taken taken)).2]
  exact if_neg (by rw [taken]; exact Bool.false_ne_true)

/-- A preview and an apply that get the same answer, which is no mismatch, disagree in two ways. The
preview is valid and the patch rejected exactly if the checks have passed without success. The
preview is invalid and the patch written exactly if there is success with a new revision, though the
checks have failed or, with none told of, an error stands beside it. -/
theorem readings_disagree_iff (p : Proposal) (h : p.check = .ok ()) (v : Verdict)
    (taken : v.isMismatch = false) (answers : List PatchAnswer) :
    let previewed := (p.preview.run (.ok v :: answers)).result
    let applied := (p.apply.run (.ok v :: answers)).result
    ((∃ preview, previewed = .ok preview ∧ preview.valid = true) ∧
        (∃ failure, applied = .error failure ∧ failure.Rejects) ↔
      v.success = false ∧ v.Checked true) ∧
    ((∃ preview, previewed = .ok preview ∧ preview.valid = false) ∧
        (∃ revision diff, applied = .ok (.committed revision diff)) ↔
      (v.success = true ∧ v.newRevision.isSome = true) ∧
        (v.Checked false ∨ v.validation = none ∧ v.error.isSome = true)) := by
  intro previewed applied
  have shown : previewed = .ok (Preview.ofVerdict v p.base none) := by
    simp only [previewed, preview_eq_exchange]
    exact result_of_taken h taken answers
  have written : applied = conclude v := by
    simp only [applied, apply_eq_exchange]
    exact result_of_taken h taken answers
  rw [shown, written, conclude_rejects_iff]
  constructor
  · constructor
    · rintro ⟨⟨preview, e, valid⟩, failed⟩
      cases e
      exact ⟨failed, (Verdict.approves_of_failed failed).1 valid⟩
    · rintro ⟨failed, passed⟩
      exact ⟨⟨_, rfl, (Verdict.approves_of_failed failed).2 passed⟩, failed⟩
  · constructor
    · rintro ⟨⟨preview, e, invalid⟩, revision, diff, committed⟩
      cases e
      obtain ⟨success, told, -⟩ := conclude_eq_committed_iff.1 committed
      exact ⟨⟨success, Option.isSome_of_eq_some told⟩,
        (Verdict.not_approves_of_success success).1 invalid⟩
    · rintro ⟨⟨success, told⟩, spoiled⟩
      obtain ⟨revision, told⟩ := Option.isSome_iff_exists.1 told
      refine ⟨⟨_, rfl, (Verdict.not_approves_of_success success).2 spoiled⟩, revision, v.diff, ?_⟩
      exact conclude_eq_committed_iff.2 ⟨success, told, rfl⟩

/-- Checks that have passed, without success, and an error that the preview does not count. -/
theorem locked_document_previews_as_valid :
    let p : Proposal := ⟨⟨"r1"⟩, [.replace "name: demo"]⟩
    let v : Verdict := { validation := some { valid := true }, error := some "document is locked" }
    p.check = .ok () ∧ v.isMismatch = false ∧
      (∃ preview, (p.preview.run [.ok v]).result = .ok preview ∧ preview.valid = true) ∧
      ∃ failure, (p.apply.run [.ok v]).result = .error failure ∧ failure.Rejects := by
  intro p v
  have sound : p.check = .ok () := by decide +kernel
  have taken : v.isMismatch = false := by decide +kernel
  have passed : v.Checked true := ⟨_, rfl, rfl⟩
  exact ⟨sound, taken, (readings_disagree_iff p sound v taken []).1.2 ⟨rfl, passed⟩⟩

/-- Nothing but checks that have passed: the preview is valid, and the patch fails for no reason. -/
theorem passed_checks_alone :
    let p : Proposal := ⟨⟨"r1"⟩, [.replace "name: demo"]⟩
    let body := "\x7b\"success\":false,\"validation\":\x7b\"valid\":true,\"errors\":[]\x7d\x7d"
    let v : Verdict := { validation := some { valid := true } }
    Verdict.ofBody? body = some v ∧
      (p.preview.run [.ok v]).result = .ok ⟨none, true, none, [], ⟨"r1"⟩, none⟩ ∧
      (p.apply.run [.ok v]).result = .error (.protocol .noReason) := by
  decide +kernel

end Proposal

end RunWatch
