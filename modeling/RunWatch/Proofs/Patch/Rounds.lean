import RunWatch.Patch.Rounds
import RunWatch.Proofs.Patch.Editors

/-!
# Sessions follow what they are told

A session stands on the latest revision that it has been told of, unless a call was cut short: it
had followed a mismatch to another revision, and the rehearsal there failed. Such a call leaves the
session where it was, on a base that the endpoint has refused.
-/

namespace RunWatch

open Proposal Dialogue

/-! ### Reports -/

namespace Submission

variable {s : Submission}

theorem reported?_of_mismatch {v : Verdict} (mismatch : v.isMismatch = true) :
    s.reported? (.ok v) = v.usableRevision? :=
  if_pos mismatch

theorem reported?_of_dryRun {v : Verdict} (dry : s.dryRun = true) (taken : v.isMismatch = false) :
    s.reported? (.ok v) = none := by
  simp only [reported?, taken, dry, Bool.false_eq_true, if_false, Bool.not_true, Bool.and_false]

theorem reported?_of_write {v : Verdict} (real : s.dryRun = false) (taken : v.isMismatch = false) :
    s.reported? (.ok v) = if v.success then v.newRevision else none := by
  simp only [reported?, taken, real, Bool.false_eq_true, if_false, Bool.not_false, Bool.and_true]

/-- A mismatch that can be followed reports the revision that it leads to. -/
theorem reported?_of_movesTo {p : Proposal} {a : PatchAnswer} {current : Revision}
    (moves : p.MovesTo a current) : s.reported? a = some current := by
  obtain ⟨v, rfl, -⟩ := id moves
  obtain ⟨mismatch, successor⟩ := (movesTo_iff v current).1 moves
  obtain ⟨named, usable, -⟩ := (successor_eq_ok_iff v current).1 successor
  rw [reported?_of_mismatch mismatch]
  exact (usableRevision?_eq_some_iff v current).2 ⟨named, usable⟩

end Submission

theorem Revision.latest_append (opening : Revision) (xs ys : List Revision) :
    latest opening (xs ++ ys) = latest (latest opening xs) ys := by
  rw [latest, latest, latest, List.getLast?_append, Option.getD_or]

/-! ### Single calls -/

namespace Round

variable {s : EditSession} {r : Round}

/-- What the session proposes in a call. -/
def proposal (r : Round) (s : EditSession) : Proposal :=
  s.propose r.call.operations

/-- The ways that a call can go. -/
inductive Course (r : Round) (s : EditSession) : Prop where
  /-- The first answer, if there was one, named no other revision. -/
  | stays
    (answered : r.exchanges s = [] ∨ ∃ a, r.exchanges s = [(⟨r.proposal s, !r.call.writes⟩, a)] ∧
      ∀ current, ¬(r.proposal s).MovesTo a current)
    (whole : r.cutShort s = false)
    (told : (r.next s).revision = Revision.latest s.revision (r.reports s))
  | followed (current : Revision) (a : PatchAnswer) (v : Verdict)
    (answered : r.exchanges s =
      [(⟨r.proposal s, !r.call.writes⟩, a), (⟨(r.proposal s).rebase current, true⟩, .ok v)])
    (moves : (r.proposal s).MovesTo a current) (taken : v.isMismatch = false)
    (whole : r.cutShort s = false) (revision : (r.next s).revision = current)
  | cut (current : Revision) (a : PatchAnswer)
    (answered : (⟨r.proposal s, !r.call.writes⟩, a) ∈ r.exchanges s)
    (moves : (r.proposal s).MovesTo a current) (short : r.cutShort s = true)
    (same : r.next s = s)

theorem transcript_eq (r : Round) (s : EditSession) :
    r.transcript s = ((r.proposal s).exchange (!r.call.writes) r.call.followed
      (r.call.concluded s.revision)).run r.answers := by
  rw [transcript, call_eq_exchange]
  rfl

/-- An answer that is no mismatch leaves the session on the revision that it reports. -/
theorem revision_concluded (s : EditSession) (c : EditCall) {p : Proposal} {v : Verdict}
    (taken : v.isMismatch = false) :
    (s.afterCall (c.concluded s.revision v)).revision =
      Revision.latest s.revision (Submission.reported? ⟨p, !c.writes⟩ (.ok v)).toList := by
  cases c with
  | preview operations =>
    rw [Submission.reported?_of_dryRun rfl taken]
    rfl
  | apply operations =>
    rw [Submission.reported?_of_write rfl taken]
    change (s.afterCall ((conclude v).map .applied)).revision = _
    unfold conclude
    cases v.success with
    | true => cases v.newRevision <;> rfl
    | false =>
      simp only [Bool.false_eq_true, if_false]
      split
      · cases v.error <;> rfl
      · rfl

/-- A mismatch that cannot be followed reports no other revision. -/
theorem latest_of_stays {v : Verdict} {p : Proposal} {dryRun : Bool} (mismatch : v.isMismatch = true)
    (stays : ∀ current, ¬p.MovesTo (.ok v) current) :
    Revision.latest p.base (Submission.reported? ⟨p, dryRun⟩ (.ok v)).toList = p.base := by
  rw [Submission.reported?_of_mismatch mismatch]
  cases usable : v.usableRevision? with
  | none => rfl
  | some current =>
    refine Decidable.byContradiction fun other => stays current ?_
    obtain ⟨named, usable⟩ := (usableRevision?_eq_some_iff v current).1 usable
    exact (movesTo_iff v current).2 ⟨mismatch, (successor_eq_ok_iff v current).2
      ⟨named, usable, other⟩⟩

theorem course_of_malformed {fault : PatchFault} (h : (r.proposal s).check = .error fault) :
    r.Course s := by
  have run : r.transcript s = { result := .error (.malformed fault), unused := r.answers } := by
    rw [transcript_eq]
    exact run_exchange_malformed h
  have none_ : r.exchanges s = [] := by rw [exchanges, run, List.zip_nil_left]
  refine .stays (.inl none_) ?_ ?_
  · rw [cutShort, run]
    rfl
  · rw [next, reports, none_, run]
    rfl

theorem course_of_stays (h : (r.proposal s).check = .ok ())
    (stays : ∀ current, ¬(r.proposal s).MovesTo (answerAt r.answers 0) current) : r.Course s := by
  have submitted : (r.transcript s).submitted = [⟨r.proposal s, !r.call.writes⟩] := by
    rw [transcript_eq]
    exact (run_exchange_stays h stays).1
  have result : (r.transcript s).result = (answerAt r.answers 0).bind fun v =>
      if v.isMismatch then .error .unresolved else r.call.concluded s.revision v := by
    rw [transcript_eq]
    exact (run_exchange_stays h stays).2
  have whole : r.cutShort s = false := by rw [cutShort, submitted]; rfl
  cases answers : r.answers with
  | nil =>
    have none_ : r.exchanges s = [] := by rw [exchanges, answers, List.zip_nil_right]
    refine .stays (.inl none_) whole ?_
    rw [next, reports, none_, result, answers]
    rfl
  | cons a rest =>
    have one : r.exchanges s = [(⟨r.proposal s, !r.call.writes⟩, a)] := by
      rw [exchanges, submitted, answers]
      rfl
    rw [answers] at stays result
    refine .stays (.inr ⟨a, one, stays⟩) whole ?_
    rw [next, reports, one, result]
    change (s.afterCall (a.bind _)).revision =
      Revision.latest s.revision (Submission.reported? ⟨r.proposal s, !r.call.writes⟩ a).toList
    cases a with
    | error failure => rfl
    | ok v =>
      cases mismatch : v.isMismatch with
      | true =>
        simp only [Except.bind, mismatch, if_true]
        exact (latest_of_stays mismatch stays).symm
      | false =>
        simp only [Except.bind, mismatch, Bool.false_eq_true, if_false]
        exact revision_concluded s r.call mismatch

theorem answer_of_rebasedResult {p : Proposal} {current : Revision} {a : PatchAnswer}
    {preview : Preview} (h : p.rebasedResult current a = .ok preview) :
    ∃ v, a = .ok v ∧ v.isMismatch = false := by
  cases a with
  | error failure => cases h
  | ok v =>
    refine ⟨v, rfl, Bool.eq_false_iff.2 fun mismatch => ?_⟩
    have again : PatchAnswer.Mismatch (.ok v) := ⟨v, rfl, (isMismatch_iff v).1 mismatch⟩
    cases (rebasedResult_of_mismatch again current).symm.trans h

theorem course_of_moved (h : (r.proposal s).check = .ok ()) {current : Revision}
    (moves : (r.proposal s).MovesTo (answerAt r.answers 0) current) : r.Course s := by
  have run : r.transcript s = {
      result := ((r.proposal s).rebasedResult current (answerAt r.answers 1)).map r.call.followed
      submitted := [⟨r.proposal s, !r.call.writes⟩, ⟨(r.proposal s).rebase current, true⟩]
      unused := r.answers.tail.tail } := by
    rw [transcript_eq]
    exact run_exchange_moved h moves
  obtain ⟨v, first, -⟩ := id moves
  rw [first] at moves
  have exchanged : r.exchanges s =
      [⟨r.proposal s, !r.call.writes⟩, ⟨(r.proposal s).rebase current, true⟩].zip r.answers := by
    rw [exchanges, run]
  cases answers : r.answers with
  | nil => rw [answers] at first; cases first
  | cons a rest =>
    rw [answers] at first run exchanged
    cases (first : a = .ok v)
    cases rehearsed : (r.proposal s).rebasedResult current (answerAt (.ok v :: rest) 1) with
    | error failure =>
      rw [rehearsed] at run
      refine .cut current (.ok v) ?_ moves ?_ ?_
      · rw [exchanged, List.zip_cons_cons]
        exact List.mem_cons_self
      · rw [cutShort, run]
        rfl
      · rw [next, run]
        rfl
    | ok preview =>
      rw [rehearsed] at run
      obtain ⟨w, second, taken⟩ := answer_of_rebasedResult rehearsed
      cases rest with
      | nil => cases second
      | cons b rest =>
        cases (second : b = .ok w)
        refine .followed current (.ok v) w exchanged moves taken ?_ ?_
        · rw [cutShort, run]
          rfl
        · rw [next, run]
          exact (revision_followed s r.call preview).trans (rebasedResult_eq_ok rehearsed).1

theorem course (r : Round) (s : EditSession) : r.Course s := by
  cases h : (r.proposal s).check with
  | error fault => exact course_of_malformed h
  | ok =>
    by_cases moves : ∃ current, (r.proposal s).MovesTo (answerAt r.answers 0) current
    · obtain ⟨current, moves⟩ := moves
      exact course_of_moved h moves
    · exact course_of_stays h fun current moved => moves ⟨current, moved⟩

/-- A call that is not cut short leaves the session on the latest revision that it is told. -/
theorem revision_next (whole : r.cutShort s = false) :
    (r.next s).revision = Revision.latest s.revision (r.reports s) := by
  cases r.course s with
  | stays answered whole told => exact told
  | followed current a v answered moves taken whole revision =>
    have first (s : Submission) : s.reported? a = some current :=
      Submission.reported?_of_movesTo moves
    have second (p : Proposal) : Submission.reported? ⟨p, true⟩ (.ok v) = none :=
      Submission.reported?_of_dryRun rfl taken
    rw [revision, reports, answered]
    simp only [List.filterMap_cons, List.filterMap_nil, first, second]
    rfl
  | cut current a answered moves short same => cases whole.symm.trans short

theorem next_of_cutShort (short : r.cutShort s = true) : r.next s = s := by
  cases r.course s with
  | stays answered whole | followed current a v answered moves taken whole =>
    cases whole.symm.trans short
  | cut current a answered moves short same => exact same

/-- A base has been refused in favour of another revision, and the session is still on it. -/
def LeavesStale (r : Round) (s : EditSession) : Prop :=
  ∃ x ∈ r.exchanges s, ∃ current, x.1.patch.MovesTo x.2 current ∧
    ∀ operations, ((r.next s).propose operations).base = x.1.patch.base

theorem leavesStale_iff (r : Round) (s : EditSession) : r.LeavesStale s ↔ r.cutShort s = true := by
  refine ⟨fun ⟨x, answered, current, moves, stale⟩ => ?_, fun short => ?_⟩
  · have still : (r.next s).revision = x.1.patch.base := stale []
    cases r.course s with
    | stays all =>
      rcases all with none_ | ⟨a, one, stays⟩
      · rw [none_] at answered
        cases answered
      · rw [one, List.mem_singleton] at answered
        subst answered
        exact absurd moves (stays current)
    | followed current' a v both moves' taken whole revision =>
      rw [both, List.mem_cons, List.mem_singleton] at answered
      rcases answered with rfl | rfl
      · -- The session has moved to the revision that the first answer names.
        obtain ⟨-, -, -, -, -, -, other⟩ := moves'
        exact absurd (revision.symm.trans still) other
      · have mismatch := ((movesTo_iff v current).1 moves).1
        cases taken.symm.trans mismatch
    | cut current' a first moves' short => exact short
  · cases r.course s with
    | stays answered whole | followed current a v answered moves taken whole =>
      cases whole.symm.trans short
    | cut current a answered moves short same =>
      refine ⟨_, answered, current, moves, fun operations => ?_⟩
      rw [same]
      rfl

end Round

/-! ### Whole sessions -/

namespace EditSession

theorem after_cons (s : EditSession) (r : Round) (rounds : List Round) :
    s.after (r :: rounds) = (r.next s).after rounds := rfl

theorem revision_after (s : EditSession) (rounds : List Round) :
    (s.after rounds).revision = Revision.latest s.revision (s.heeded rounds) := by
  induction rounds generalizing s with
  | nil => rfl
  | cons r rounds ih =>
    rw [after_cons, ih, heeded, Revision.latest_append]
    cases short : r.cutShort s with
    | true => rw [if_pos rfl, Round.next_of_cutShort short]; rfl
    | false => rw [if_neg Bool.false_ne_true, Round.revision_next short]

theorem heeded_eq_reports {s : EditSession} {rounds : List Round}
    (whole : ∀ before r later, rounds = before ++ r :: later → r.cutShort (s.after before) = false) :
    s.heeded rounds = s.reports rounds := by
  induction rounds generalizing s with
  | nil => rfl
  | cons r rounds ih =>
    have first : r.cutShort s = false := whole [] r rounds rfl
    have rest : (r.next s).heeded rounds = (r.next s).reports rounds := by
      refine ih fun before r' later same => ?_
      exact whole (r :: before) r' later (by rw [same]; rfl)
    rw [heeded, reports, first, rest]
    rfl

/-- Whatever the endpoint answers, a session stands on the latest revision that it has been told of
in calls that were not cut short, which is the latest of all if none was. A further call leaves it
on a base that was refused in favour of another revision exactly if the call is cut short. -/
theorem session_follows_reports (s : EditSession) (rounds : List Round) :
    (s.after rounds).revision = Revision.latest s.revision (s.heeded rounds) ∧
      ((∀ before r later, rounds = before ++ r :: later →
          r.cutShort (s.after before) = false) →
        (s.after rounds).revision = Revision.latest s.revision (s.reports rounds)) ∧
      ∀ r : Round, r.LeavesStale (s.after rounds) ↔ r.cutShort (s.after rounds) = true := by
  refine ⟨revision_after s rounds, fun whole => ?_, fun r => r.leavesStale_iff _⟩
  rw [revision_after, heeded_eq_reports whole]

/-- The base is stale, and the document is now at the revision. -/
def staleAt (current : Revision) : PatchAnswer :=
  .ok { error := some Verdict.staleBase, currentRevision := some current }

/-- A preview that follows a mismatch, and a write on the revision that it led to. -/
theorem followed_then_written :
    let s : EditSession := ⟨"workflows/wf-1", ⟨"r1"⟩⟩
    let rounds : List Round := [
      ⟨.preview [.replace "name: demo"], [staleAt ⟨"r2"⟩, .ok { success := true }]⟩,
      ⟨.apply [.replace "name: demo"], [.ok { success := true, newRevision := some ⟨"r3"⟩ }]⟩]
    (∀ before r later, rounds = before ++ r :: later → r.cutShort (s.after before) = false) ∧
      s.reports rounds = [⟨"r2"⟩, ⟨"r3"⟩] ∧
      (s.after rounds).revision = Revision.latest s.revision (s.reports rounds) := by
  intro s rounds
  have whole : ∀ before r later, rounds = before ++ r :: later →
      r.cutShort (s.after before) = false := by
    rintro (_ | ⟨a, _ | ⟨b, before⟩⟩) r later same
    · obtain ⟨rfl, -⟩ := List.cons.inj same
      decide +kernel
    · obtain ⟨rfl, rest⟩ := List.cons.inj same
      obtain ⟨rfl, -⟩ := List.cons.inj rest
      decide +kernel
    · have length := congrArg List.length same
      simp [rounds] at length
  exact ⟨whole, by decide +kernel, (session_follows_reports s rounds).2.1 whole⟩

/-- The rehearsal after a mismatch fails, and the session stays on the base that was refused, though
the endpoint has told it of another revision since. -/
theorem failed_rehearsal_leaves_stale :
    let s : EditSession := ⟨"workflows/wf-1", ⟨"r1"⟩⟩
    let rounds : List Round := [
      ⟨.preview [.replace "name: demo"], [staleAt ⟨"r2"⟩, .error (.transport "reset")]⟩]
    (s.after rounds).revision = ⟨"r1"⟩ ∧
      Revision.latest s.revision (s.reports rounds) = ⟨"r2"⟩ ∧
      (s.after rounds).propose [] = ⟨⟨"r1"⟩, []⟩ := by
  decide +kernel

end EditSession

end RunWatch
