import RunWatch.Patch.Dialogue

/-!
# The patch protocol

A preview and an apply are the same exchange with the endpoint: the patch is submitted once, and a
stale base is followed by at most one dry run on the revision that the endpoint names.
`KeepsProtocol` collects the rules that both keep, whatever the endpoint answers.
-/

namespace RunWatch

/-! ### Answers -/

namespace Dialogue

variable {α β : Type}

/-- The answer to the submission at a place. -/
def answerAt (answers : List PatchAnswer) (place : Nat) : PatchAnswer :=
  (answers[place]?).getD (.error noAnswer)

theorem run_submit (s : Submission) (next : PatchAnswer → Dialogue α)
    (answers : List PatchAnswer) :
    (submit s next).run answers =
      { (next (answerAt answers 0)).run answers.tail with
        submitted := s :: ((next (answerAt answers 0)).run answers.tail).submitted } := by
  cases answers <;> rfl

theorem answerAt_tail (answers : List PatchAnswer) (place : Nat) :
    answerAt answers.tail place = answerAt answers (place + 1) := by
  cases answers <;> rfl

theorem map_id (d : Dialogue α) : d.map id = d := by
  induction d with
  | done result => cases result <;> rfl
  | submit s next ih => rw [map, funext ih]

end Dialogue

open Dialogue

/-- The endpoint says that the base of the patch is not the current revision. -/
def PatchAnswer.Mismatch (a : PatchAnswer) : Prop :=
  ∃ v : Verdict, a = .ok v ∧ v.success = false ∧ v.error = some Verdict.staleBase

def Applied.preview? : Applied → Option Preview
  | .committed .. => none
  | .rebased preview => some preview

namespace Proposal

variable {p : Proposal}

/-- The endpoint says so, and names a current revision that the patch can be moved to. -/
def MovesTo (p : Proposal) (a : PatchAnswer) (current : Revision) : Prop :=
  ∃ v : Verdict, a = .ok v ∧ v.success = false ∧ v.error = some Verdict.staleBase ∧
    v.currentRevision = some current ∧ Text.blank current.text = false ∧ current ≠ p.base

theorem isMismatch_iff (v : Verdict) :
    v.isMismatch = true ↔ v.success = false ∧ v.error = some Verdict.staleBase := by
  simp only [Verdict.isMismatch, Bool.and_eq_true, Bool.not_eq_true', beq_iff_eq]

theorem usableRevision?_eq_some_iff (v : Verdict) (current : Revision) :
    v.usableRevision? = some current ↔
      v.currentRevision = some current ∧ Text.blank current.text = false := by
  rw [Verdict.usableRevision?, Option.filter_eq_some_iff, Bool.not_eq_true']

theorem successor_eq_ok_iff (v : Verdict) (current : Revision) :
    p.successor v = .ok current ↔
      v.currentRevision = some current ∧ Text.blank current.text = false ∧ current ≠ p.base := by
  rw [← and_assoc, ← usableRevision?_eq_some_iff]
  unfold successor
  cases v.usableRevision? with
  | none => exact ⟨nofun, nofun⟩
  | some r =>
    by_cases same : r = p.base
    · simp only [same, if_true]
      exact ⟨nofun, fun ⟨e, other⟩ => absurd (Option.some.inj e).symm other⟩
    · simp only [same, if_false, Except.ok.injEq, Option.some.injEq]
      exact ⟨fun e => ⟨e, e ▸ same⟩, fun e => e.1⟩

theorem successor_eq_error {v : Verdict} {failure : PatchFailure}
    (h : p.successor v = .error failure) : failure = .unresolved := by
  unfold successor at h
  split at h
  · split at h
    · cases h; rfl
    · cases h
  · cases h; rfl

theorem check_rebase (h : p.check = .ok ()) {current : Revision}
    (usable : Text.blank current.text = false) : (p.rebase current).check = .ok () := by
  unfold check at h ⊢
  split at h
  · cases h
  · rw [if_neg (by rw [rebase, usable]; nofun)]
    exact h

theorem movesTo_iff (v : Verdict) (current : Revision) :
    p.MovesTo (.ok v) current ↔ v.isMismatch = true ∧ p.successor v = .ok current := by
  rw [isMismatch_iff, successor_eq_ok_iff, and_assoc]
  constructor
  · rintro ⟨v, e, rest⟩
    cases e
    exact rest
  · exact fun rest => ⟨v, rfl, rest⟩

theorem MovesTo.unique {a : PatchAnswer} {r current : Revision} (h : p.MovesTo a r)
    (h' : p.MovesTo a current) : r = current := by
  obtain ⟨v, e, -, -, named, -⟩ := h
  obtain ⟨v', e', -, -, named', -⟩ := h'
  cases e.symm.trans e'
  exact Option.some.inj (named.symm.trans named')

/-! ### Exchanges -/

variable {α : Type}

/-- The common course of a preview and an apply. They differ in the first submission, in what they
make of a followed mismatch, and in what they make of any other answer. -/
def exchange (p : Proposal) (dryRun : Bool) (followed : Preview → α)
    (conclude : Verdict → Except PatchFailure α) : Dialogue α :=
  match p.check with
  | .error fault => .done (.error (.malformed fault))
  | .ok () => .submit ⟨p, dryRun⟩ fun answer =>
    match answer with
    | .error failure => .done (.error failure)
    | .ok v => if v.isMismatch then (p.follow v).map followed else .done (conclude v)

theorem preview_eq_exchange (p : Proposal) :
    p.preview = p.exchange true id fun v => .ok (Preview.ofVerdict v p.base none) := by
  simp only [exchange, map_id]
  rfl

theorem apply_eq_exchange (p : Proposal) : p.apply = p.exchange false .rebased conclude :=
  rfl

def rebasedResult (p : Proposal) (current : Revision) (answer : PatchAnswer) :
    Except PatchFailure Preview := do
  let v ← answer
  if v.isMismatch then .error .unresolved
  else .ok (Preview.ofVerdict v current (some p.base))

theorem rebasedResult_eq_ok {current : Revision} {answer : PatchAnswer} {preview : Preview}
    (h : p.rebasedResult current answer = .ok preview) :
    preview.base = current ∧ preview.rebasedFrom = some p.base := by
  cases answer with
  | error failure => cases h
  | ok v =>
    change (if v.isMismatch then _ else _) = _ at h
    split at h
    · cases h
    · cases h
      exact ⟨rfl, rfl⟩

theorem rebasedResult_of_mismatch {answer : PatchAnswer} (h : answer.Mismatch)
    (current : Revision) : p.rebasedResult current answer = .error .unresolved := by
  obtain ⟨v, rfl, mismatch⟩ := h
  exact if_pos ((isMismatch_iff v).2 mismatch)

section

variable {dryRun : Bool} {followed : Preview → α} {conclude : Verdict → Except PatchFailure α}
  {answers : List PatchAnswer}

theorem run_exchange_malformed {fault : PatchFault} (h : p.check = .error fault) :
    (p.exchange dryRun followed conclude).run answers =
      { result := .error (.malformed fault), unused := answers } := by
  rw [exchange, h]
  rfl

theorem run_exchange_moved (h : p.check = .ok ()) {current : Revision}
    (moved : p.MovesTo (answerAt answers 0) current) :
    (p.exchange dryRun followed conclude).run answers =
      { result := (p.rebasedResult current (answerAt answers 1)).map followed
        submitted := [⟨p, dryRun⟩, ⟨p.rebase current, true⟩]
        unused := answers.tail.tail } := by
  obtain ⟨v, answer, -⟩ := id moved
  rw [answer, movesTo_iff] at moved
  obtain ⟨mismatch, successor⟩ := moved
  rw [exchange, h]
  simp only [run_submit, answer, mismatch, if_true, follow, successor, previewRebased, map,
    answerAt_tail]
  rfl

theorem run_exchange_stays (h : p.check = .ok ())
    (stays : ∀ current, ¬ p.MovesTo (answerAt answers 0) current) :
    ((p.exchange dryRun followed conclude).run answers).submitted = [⟨p, dryRun⟩] ∧
      ((p.exchange dryRun followed conclude).run answers).result =
        (answerAt answers 0).bind fun v =>
          if v.isMismatch then .error .unresolved else conclude v := by
  rw [exchange, h]
  simp only [run_submit]
  cases answer : answerAt answers 0 with
  | error failure => exact ⟨rfl, rfl⟩
  | ok v =>
    cases mismatch : v.isMismatch with
    | false =>
      simp only [Except.bind, mismatch, Bool.false_eq_true, if_false]
      exact ⟨rfl, rfl⟩
    | true =>
      simp only [Except.bind, mismatch, if_true]
      cases successor : p.successor v with
      | ok current =>
        exact absurd (answer ▸ (movesTo_iff v current).2 ⟨mismatch, successor⟩) (stays current)
      | error failure =>
        cases successor_eq_error successor
        simp only [follow, successor]
        exact ⟨rfl, rfl⟩

/-! ### Rules -/

/-- The rules of an exchange over a patch that is first submitted as a dry run or as a write. -/
structure KeepsProtocol (p : Proposal) (dryRun : Bool) (answers : List PatchAnswer)
    (preview? : α → Option Preview) (t : Transcript α) : Prop where
  malformed : ∀ fault, p.check = .error fault →
    t.submitted = [] ∧ t.result = .error (.malformed fault)
  first : p.check = .ok () → t.submitted.head? = some ⟨p, dryRun⟩
  /-- A second submission is a dry run on the revision that the first answer names. -/
  second : p.check = .ok () → ∀ s, t.submitted[1]? = some s ↔
    ∃ current, p.MovesTo (answerAt answers 0) current ∧ s = ⟨p.rebase current, true⟩
  third : t.submitted.length ≤ 2
  writes : p.check = .ok () →
    t.submitted.filter (fun s => !s.dryRun) = if dryRun then [] else [⟨p, false⟩]
  checked : ∀ s ∈ t.submitted, s.patch.check = .ok ()
  /-- A preview tells which revision it was made against, and which one it left. -/
  previewed : ∀ a preview, t.result = .ok a → preview? a = some preview →
    (∃ last, t.submitted.getLast? = some last ∧ preview.base = last.patch.base) ∧
      preview.rebasedFrom = if t.submitted.length = 2 then some p.base else none
  /-- A mismatch that cannot be followed is a conflict. -/
  unresolved : p.check = .ok () → (answerAt answers 0).Mismatch →
    (∀ current, ¬ p.MovesTo (answerAt answers 0) current) → t.result = .error .unresolved
  mismatchAgain : t.submitted.length = 2 → (answerAt answers 1).Mismatch →
    t.result = .error .unresolved

variable {preview? : α → Option Preview}

theorem keepsProtocol_malformed {fault : PatchFault} (h : p.check = .error fault) :
    KeepsProtocol p dryRun answers preview?
      ((p.exchange dryRun followed conclude).run answers) := by
  have refused : p.check ≠ .ok () := by rw [h]; nofun
  rw [run_exchange_malformed h]
  exact {
    malformed := fun fault' h' => by
      cases h.symm.trans h'
      exact ⟨rfl, rfl⟩
    first := fun ok => absurd ok refused
    second := fun ok => absurd ok refused
    third := Nat.zero_le 2
    writes := fun ok => absurd ok refused
    checked := List.forall_mem_nil _
    previewed := nofun
    unresolved := fun ok => absurd ok refused
    mismatchAgain := nofun }

theorem keepsProtocol_moved (shows : ∀ preview, preview? (followed preview) = some preview)
    (h : p.check = .ok ()) {current : Revision} (moved : p.MovesTo (answerAt answers 0) current) :
    KeepsProtocol p dryRun answers preview?
      ((p.exchange dryRun followed conclude).run answers) := by
  have usable : Text.blank current.text = false := by
    obtain ⟨v, -, -, -, -, usable, -⟩ := moved
    exact usable
  rw [run_exchange_moved h moved]
  exact {
    malformed := fun fault h' => nomatch h.symm.trans h'
    first := fun _ => rfl
    second := fun _ s => by
      constructor
      · intro e
        cases e
        exact ⟨current, moved, rfl⟩
      · rintro ⟨r, moved', rfl⟩
        rw [moved'.unique moved]
        rfl
    third := Nat.le_refl 2
    writes := fun _ => by cases dryRun <;> rfl
    checked := fun s submitted => by
      rcases List.mem_cons.1 submitted with rfl | second
      · exact h
      · rw [List.mem_singleton.1 second]
        exact check_rebase h usable
    previewed := fun a preview result shown => by
      cases e : p.rebasedResult current (answerAt answers 1) with
      | error failure => rw [e] at result; cases result
      | ok r =>
        rw [e] at result
        cases result
        cases (shows r).symm.trans shown
        obtain ⟨base, rebasedFrom⟩ := rebasedResult_eq_ok e
        exact ⟨⟨_, rfl, base⟩, rebasedFrom⟩
    -- The first mismatch has been followed, so only a second one is left.
    unresolved := fun _ _ stays => absurd moved (stays current)
    mismatchAgain := fun _ mismatch => by
      rw [rebasedResult_of_mismatch mismatch]
      rfl }

theorem keepsProtocol_stays
    (concluded : ∀ v a preview, conclude v = .ok a → preview? a = some preview →
      preview.base = p.base ∧ preview.rebasedFrom = none)
    (h : p.check = .ok ()) (stays : ∀ current, ¬ p.MovesTo (answerAt answers 0) current) :
    KeepsProtocol p dryRun answers preview?
      ((p.exchange dryRun followed conclude).run answers) := by
  have last := @run_exchange_stays p α dryRun followed conclude answers h stays
  generalize (p.exchange dryRun followed conclude).run answers = t at last
  obtain ⟨submitted, result⟩ := last
  exact {
    malformed := fun fault h' => nomatch h.symm.trans h'
    first := fun _ => by rw [submitted]; rfl
    second := fun _ s => by
      rw [submitted]
      exact ⟨nofun, fun ⟨current, moved, _⟩ => absurd moved (stays current)⟩
    third := by rw [submitted]; exact Nat.le_succ 1
    writes := fun _ => by rw [submitted]; cases dryRun <;> rfl
    checked := fun s member => by
      rw [submitted] at member
      rw [List.mem_singleton.1 member]
      exact h
    previewed := fun a preview ok shown => by
      rw [submitted]
      rw [result] at ok
      cases answer : answerAt answers 0 with
      | error failure => rw [answer] at ok; cases ok
      | ok v =>
        rw [answer] at ok
        change (if v.isMismatch then _ else _) = _ at ok
        split at ok
        · cases ok
        · obtain ⟨base, rebasedFrom⟩ := concluded v a preview ok shown
          exact ⟨⟨_, rfl, base⟩, rebasedFrom⟩
    unresolved := fun _ mismatch _ => by
      obtain ⟨v, answer, mismatch⟩ := mismatch
      rw [result, answer]
      exact if_pos ((isMismatch_iff v).2 mismatch)
    mismatchAgain := fun two => by rw [submitted] at two; cases two }

theorem exchange_keepsProtocol (shows : ∀ preview, preview? (followed preview) = some preview)
    (concluded : ∀ v a preview, conclude v = .ok a → preview? a = some preview →
      preview.base = p.base ∧ preview.rebasedFrom = none) :
    KeepsProtocol p dryRun answers preview?
      ((p.exchange dryRun followed conclude).run answers) := by
  cases h : p.check with
  | error fault => exact keepsProtocol_malformed h
  | ok =>
    by_cases moves : ∃ current, p.MovesTo (answerAt answers 0) current
    · obtain ⟨current, moved⟩ := moves
      exact keepsProtocol_moved shows h moved
    · exact keepsProtocol_stays concluded h fun current moved => moves ⟨current, moved⟩

end

theorem preview?_of_conclude {v : Verdict} {outcome : Applied} (h : conclude v = .ok outcome) :
    outcome.preview? = none := by
  unfold conclude at h
  split at h
  · split at h
    · cases h; rfl
    · cases h
  · split at h
    · split at h <;> cases h
    · cases h

end Proposal

end RunWatch
