import Mathlib.Data.List.Basic
import RunWatch.Http.Client
import RunWatch.Proofs.Patch.Readings

/-!
# Patches under a status of failure

A response with a status of failure is still an answer if its body says something about the patch.
What it says is then taken as it would be from any other response, an acceptance included.
-/

namespace RunWatch

open Dialogue

/-! ### Outcomes -/

section

variable {α : Type} (preview? : α → Option Preview) (result : Except PatchFailure α)

/-- The patch has been written, or its preview is valid. -/
def Accepted : Prop :=
  ∃ a, result = .ok a ∧ ∀ preview, preview? a = some preview → preview.valid = true

/-- The endpoint did not take the patch, or could not be asked: a failure, or an invalid preview. -/
def Declined : Prop :=
  (∃ failure, result = .error failure ∧ ∀ fault, failure ≠ .malformed fault) ∨
    ∃ a preview, result = .ok a ∧ preview? a = some preview ∧ preview.valid = false

variable {preview? result}

theorem accepted_ok (a : α) :
    Accepted preview? (.ok a) ↔ ∀ preview, preview? a = some preview → preview.valid = true :=
  ⟨fun ⟨_, e, valid⟩ => Except.ok.inj e ▸ valid, fun valid => ⟨a, rfl, valid⟩⟩

theorem not_accepted_error (failure : PatchFailure) : ¬Accepted preview? (.error failure) :=
  fun ⟨_, e, _⟩ => nomatch e

theorem declined_iff (sent : ∀ fault, result ≠ .error (.malformed fault)) :
    Declined preview? result ↔ ¬Accepted preview? result := by
  cases result with
  | error failure =>
    have other : ∀ fault, failure ≠ .malformed fault := fun fault e => sent fault (e ▸ rfl)
    exact iff_of_true (.inl ⟨failure, rfl, other⟩) (not_accepted_error failure)
  | ok a =>
    rw [accepted_ok]
    constructor
    · rintro (⟨failure, e, -⟩ | ⟨b, preview, e, shown, invalid⟩) valid
      · cases e
      · cases e
        exact Bool.false_ne_true (invalid.symm.trans (valid preview shown))
    · intro refused
      obtain ⟨preview, shown, invalid⟩ :
          ∃ preview, preview? a = some preview ∧ preview.valid = false := by
        simpa using refused
      exact .inr ⟨a, preview, rfl, shown, invalid⟩

end

/-! ### The last answer of an exchange -/

namespace Proposal

variable {α : Type} {p : Proposal} {dryRun : Bool} {followed : Preview → α}
  {conclude : Verdict → Except PatchFailure α} {answers : List PatchAnswer}

/-- What an answer comes to that is not followed. -/
def settle (conclude : Verdict → Except PatchFailure α) (a : PatchAnswer) : Except PatchFailure α :=
  a.bind fun v => if v.isMismatch then .error .unresolved else conclude v

/-- The ways that an exchange can go whose submissions are all answered. -/
inductive Ends (p : Proposal) (followed : Preview → α)
    (conclude : Verdict → Except PatchFailure α) :
    List PatchAnswer → Except PatchFailure α → Prop where
  | unsent (fault : PatchFault) : Ends p followed conclude [] (.error (.malformed fault))
  | first (a : PatchAnswer) : Ends p followed conclude [a] (settle conclude a)
  | second (stale a : PatchAnswer) (current : Revision) (moved : p.MovesTo stale current) :
    Ends p followed conclude [stale, a]
      (settle (fun v => .ok (followed (Preview.ofVerdict v current (some p.base)))) a)

theorem Ends.of_last {result : Except PatchFailure α} {a : PatchAnswer}
    (ends : p.Ends followed conclude answers result) (last : answers.getLast? = some a) :
    answers.length = 1 ∧ result = settle conclude a ∨
      answers.length = 2 ∧ ∃ current, result =
        settle (fun v => .ok (followed (Preview.ofVerdict v current (some p.base)))) a := by
  cases ends with
  | unsent fault => cases last
  | first b =>
    cases last
    exact .inl ⟨rfl, rfl⟩
  | second stale b current moved =>
    cases last
    exact .inr ⟨rfl, current, rfl⟩

/-- An answer that is not the last was a mismatch, and has been followed. -/
theorem Ends.followed_earlier {result : Except PatchFailure α}
    (ends : p.Ends followed conclude answers result) {a : PatchAnswer}
    (earlier : a ∈ answers.dropLast) : ∃ current, p.MovesTo a current := by
  cases ends with
  | unsent fault => cases earlier
  | first b => cases earlier
  | second stale b current moved =>
    cases List.mem_singleton.1 earlier
    exact ⟨current, moved⟩

theorem map_rebasedResult (p : Proposal) (current : Revision) (a : PatchAnswer) :
    (p.rebasedResult current a).map followed =
      settle (fun v => .ok (followed (Preview.ofVerdict v current (some p.base)))) a := by
  cases a with
  | error failure => rfl
  | ok v =>
    change Except.map followed (if v.isMismatch then _ else _) = if v.isMismatch then _ else _
    split <;> rfl

theorem exchange_ends
    (all : ((p.exchange dryRun followed conclude).run answers).submitted.length = answers.length) :
    Ends p followed conclude answers
      ((p.exchange dryRun followed conclude).run answers).result := by
  cases h : p.check with
  | error fault =>
    rw [run_exchange_malformed h] at all ⊢
    rw [List.length_eq_zero_iff.1 all.symm]
    exact .unsent fault
  | ok =>
    by_cases moves : ∃ current, p.MovesTo (answerAt answers 0) current
    · obtain ⟨current, moved⟩ := moves
      rw [run_exchange_moved h moved] at all ⊢
      obtain ⟨stale, a, rfl⟩ := List.length_eq_two.1 all.symm
      change Ends _ _ _ _ ((p.rebasedResult current a).map followed)
      rw [map_rebasedResult]
      exact .second stale a current moved
    · have stays := fun current moved => moves ⟨current, moved⟩
      obtain ⟨once, result⟩ := @run_exchange_stays p α dryRun followed conclude answers h stays
      rw [once] at all
      obtain ⟨a, rfl⟩ := List.length_eq_one_iff.1 all.symm
      rw [result]
      exact .first a

theorem settle_eq_ok_iff {a : PatchAnswer} {outcome : α} :
    settle conclude a = .ok outcome ↔
      ∃ v, a = .ok v ∧ v.isMismatch = false ∧ conclude v = .ok outcome := by
  cases a with
  | error failure => exact ⟨nofun, fun ⟨_, e, _⟩ => nomatch e⟩
  | ok v =>
    simp only [settle, Except.bind, Except.ok.injEq, exists_eq_left']
    cases v.isMismatch with
    | true => exact ⟨nofun, nofun⟩
    | false => exact ⟨fun e => ⟨rfl, e⟩, fun e => e.2⟩

/-- A failure of an exchange that was heard is never one of those found before sending. -/
theorem settle_ne_malformed {a : PatchAnswer} (answered : ∀ fault, a ≠ .error (.malformed fault))
    (concluded : ∀ v fault, conclude v ≠ .error (.malformed fault)) (fault : PatchFault) :
    settle conclude a ≠ .error (.malformed fault) := by
  cases a with
  | error failure => exact fun e => answered fault (congrArg _ (Except.error.inj e))
  | ok v =>
    change (if v.isMismatch then _ else _) ≠ _
    split
    · nofun
    · exact concluded v fault

theorem conclude_ne_malformed (v : Verdict) (fault : PatchFault) :
    Proposal.conclude v ≠ .error (.malformed fault) := by
  unfold Proposal.conclude
  split
  · split <;> nofun
  · split
    · split <;> nofun
    · nofun

end Proposal

/-! ### Failed responses -/

namespace Http

/-- The body of the response is a verdict that says something about the patch. -/
def Response.Says (r : Response) (v : Verdict) : Prop :=
  ∃ body, r.text? = .ok body ∧ Verdict.ofBody? body = some v ∧ v.speaks = true

/-- The body tells of a new revision. -/
def Response.Confirms (r : Response) : Prop :=
  ∃ v, r.Says v ∧ v.success = true ∧ v.newRevision.isSome = true

/-- The body makes a preview valid. -/
def Response.Approves (r : Response) : Prop :=
  ∃ v, r.Says v ∧ v.isMismatch = false ∧ v.approves = true

/-- A failed response that says nothing about the patch is a failure of the transport. -/
theorem readVerdict_of_failed {r : Response} (failed : r.isSuccess = false) :
    (∃ v, r.Says v ∧ readVerdict (.ok r) = .ok v) ∨
      (∀ v, ¬r.Says v) ∧ ∃ reason, readVerdict (.ok r) = .error (.transport reason) := by
  cases text : r.text? with
  | error reason =>
    refine .inr ⟨fun v ⟨body, e, _⟩ => (nomatch text.symm.trans e), reason, ?_⟩
    simp only [readVerdict, text]
  | ok body =>
    have only {v : Verdict} (told : r.Says v) :
        Verdict.ofBody? body = some v ∧ v.speaks = true := by
      obtain ⟨body', e, told⟩ := told
      cases text.symm.trans e
      exact told
    simp only [readVerdict, text, failed, Bool.false_or]
    cases parsed : Verdict.ofBody? body with
    | none => exact .inr ⟨fun v told => (nomatch parsed.symm.trans (only told).1), _, rfl⟩
    | some v =>
      cases speaks : v.speaks with
      | true => exact .inl ⟨v, ⟨body, text, parsed, speaks⟩, by simp only [speaks, if_true]⟩
      | false =>
        have silent : ∀ w, ¬r.Says w := by
          intro w told
          obtain ⟨e, spoken⟩ := only told
          cases parsed.symm.trans e
          cases speaks.symm.trans spoken
        exact .inr ⟨silent, r.failure, by simp only [speaks, Bool.false_eq_true, if_false]⟩

theorem readVerdict_eq_ok_iff {r : Response} (failed : r.isSuccess = false) {v : Verdict} :
    readVerdict (.ok r) = .ok v ↔ r.Says v := by
  rcases readVerdict_of_failed failed with ⟨w, told, read⟩ | ⟨silent, reason, read⟩
  · rw [read, Except.ok.injEq]
    refine ⟨fun e => e ▸ told, fun told' => ?_⟩
    obtain ⟨body, text, parsed, -⟩ := told
    obtain ⟨body', text', parsed', -⟩ := told'
    cases text.symm.trans text'
    exact Option.some.inj (parsed.symm.trans parsed')
  · rw [read]
    exact iff_of_false nofun (silent v)

theorem readVerdict_ne_malformed {r : Response} (failed : r.isSuccess = false)
    (fault : PatchFault) :
    readVerdict (.ok r) ≠ .error (.malformed fault) := by
  rcases readVerdict_of_failed failed with ⟨v, -, read⟩ | ⟨-, reason, read⟩ <;> rw [read] <;> nofun

/-! ### Dialogues over an exchange -/

section

variable {α σ : Type} (exchange : Exchange σ) (c : Config) (resource : String)

/-- What comes back in the course of a dialogue. -/
def heard : Dialogue α → σ → List Reply
  | .done _, _ => []
  | .submit s next, server =>
    let (server, reply) := exchange server (patchRequest c resource s)
    reply :: heard (next (readVerdict reply)) server

theorem serve_eq_run (d : Dialogue α) (server : σ) :
    let t := d.run ((heard exchange c resource d server).map readVerdict)
    (d.serve (submit exchange c resource) server).2 = t.result ∧
      t.submitted.length = ((heard exchange c resource d server).map readVerdict).length := by
  induction d generalizing server with
  | done result => exact ⟨rfl, rfl⟩
  | submit s next ih =>
    obtain ⟨result, length⟩ := ih (readVerdict (exchange server (patchRequest c resource s)).2)
      (exchange server (patchRequest c resource s)).1
    exact ⟨result, congrArg (· + 1) length⟩

variable {exchange c resource} {p : Proposal} {server : σ}

/-- The exchange over the wire has ended in one of its ways. -/
theorem serve_ends (dryRun : Bool) (followed : Preview → α)
    (conclude : Verdict → Except PatchFailure α) :
    let d := p.exchange dryRun followed conclude
    p.Ends followed conclude ((heard exchange c resource d server).map readVerdict)
      (d.serve (submit exchange c resource) server).2 := by
  intro d
  obtain ⟨result, length⟩ := serve_eq_run exchange c resource d server
  rw [result]
  exact Proposal.exchange_ends length

end

end Http

namespace Proposal

open Http

variable {p : Proposal} {r : Response}

/-! ### What a failed response comes to -/

theorem accepted_preview_iff (failed : r.isSuccess = false) {α : Type}
    {preview? : α → Option Preview} (shown : Preview → α)
    (shows : ∀ preview, preview? (shown preview) = some preview) (base : Revision)
    (rebasedFrom : Option Revision) :
    Accepted preview? (settle (fun v => .ok (shown (Preview.ofVerdict v base rebasedFrom)))
      (readVerdict (.ok r))) ↔ r.Approves := by
  constructor
  · rintro ⟨outcome, e, valid⟩
    obtain ⟨v, read, taken, e⟩ := settle_eq_ok_iff.1 e
    cases e
    exact ⟨v, (readVerdict_eq_ok_iff failed).1 read, taken, valid _ (shows _)⟩
  · rintro ⟨v, told, taken, approves⟩
    refine ⟨_, settle_eq_ok_iff.2 ⟨v, (readVerdict_eq_ok_iff failed).2 told, taken, rfl⟩, ?_⟩
    intro preview e
    cases (shows _).symm.trans e
    exact approves

theorem committed_iff (failed : r.isSuccess = false) :
    (∃ revision diff, settle conclude (readVerdict (.ok r)) = .ok (.committed revision diff)) ↔
      r.Confirms := by
  constructor
  · rintro ⟨revision, diff, e⟩
    obtain ⟨v, read, -, e⟩ := settle_eq_ok_iff.1 e
    obtain ⟨success, told, -⟩ := conclude_eq_committed_iff.1 e
    exact ⟨v, (readVerdict_eq_ok_iff failed).1 read, success, Option.isSome_of_eq_some told⟩
  · rintro ⟨v, told, success, written⟩
    obtain ⟨revision, written⟩ := Option.isSome_iff_exists.1 written
    have taken : v.isMismatch = false := by rw [Verdict.isMismatch, success]; rfl
    exact ⟨revision, v.diff, settle_eq_ok_iff.2 ⟨v, (readVerdict_eq_ok_iff failed).2 told, taken,
      conclude_eq_committed_iff.2 ⟨success, written, rfl⟩⟩⟩

theorem accepted_write_iff (failed : r.isSuccess = false) :
    Accepted Applied.preview? (settle conclude (readVerdict (.ok r))) ↔ r.Confirms := by
  rw [← committed_iff failed]
  constructor
  · rintro ⟨outcome, e, -⟩
    cases outcome with
    | committed revision diff => exact ⟨revision, diff, e⟩
    | rebased preview =>
      obtain ⟨v, -, -, e⟩ := settle_eq_ok_iff.1 e
      cases preview?_of_conclude e
  · rintro ⟨revision, diff, e⟩
    exact ⟨_, e, nofun⟩

section

variable {answers : List PatchAnswer}

theorem preview_of_failed {result : Except PatchFailure Preview} (failed : r.isSuccess = false)
    (ends : p.Ends id (fun v => .ok (Preview.ofVerdict v p.base none)) answers result)
    (last : answers.getLast? = some (readVerdict (.ok r))) :
    (Accepted some result ↔ r.Approves) ∧ (Declined some result ↔ ¬r.Approves) := by
  obtain ⟨base, rebasedFrom, e⟩ : ∃ base rebasedFrom,
      result = settle (fun v => .ok (id (Preview.ofVerdict v base rebasedFrom)))
        (readVerdict (.ok r)) := by
    rcases ends.of_last last with ⟨-, e⟩ | ⟨-, current, e⟩
    · exact ⟨_, _, e⟩
    · exact ⟨_, _, e⟩
  rw [declined_iff (e ▸ settle_ne_malformed (readVerdict_ne_malformed failed) nofun), e,
    accepted_preview_iff failed id (fun _ => rfl)]
  exact ⟨.rfl, .rfl⟩

theorem apply_of_failed {result : Except PatchFailure Applied} (failed : r.isSuccess = false)
    (ends : p.Ends .rebased conclude answers result)
    (last : answers.getLast? = some (readVerdict (.ok r))) :
    ((∃ revision diff, result = .ok (.committed revision diff)) ↔
      answers.length = 1 ∧ r.Confirms) ∧
    (Accepted Applied.preview? result ↔
      answers.length = 1 ∧ r.Confirms ∨ answers.length = 2 ∧ r.Approves) ∧
    (Declined Applied.preview? result ↔ ¬Accepted Applied.preview? result) := by
  have answered := readVerdict_ne_malformed failed
  rcases ends.of_last last with ⟨one, e⟩ | ⟨two, current, e⟩
  · refine ⟨?_, ?_, declined_iff (e ▸ settle_ne_malformed answered conclude_ne_malformed)⟩
    · rw [e, committed_iff failed, one]
      simp only [true_and]
    · rw [e, accepted_write_iff failed, one]
      simp only [true_and, Nat.reduceEqDiff, false_and, or_false]
  · refine ⟨?_, ?_, declined_iff (e ▸ settle_ne_malformed answered nofun)⟩
    · rw [e, two]
      refine iff_of_false ?_ nofun
      rintro ⟨revision, diff, committed⟩
      obtain ⟨v, -, -, committed⟩ := settle_eq_ok_iff.1 committed
      cases committed
    · rw [e, accepted_preview_iff failed Applied.rebased (fun _ => rfl), two]
      simp only [Nat.reduceEqDiff, false_and, true_and, false_or]

end

end Proposal

namespace Http

open Proposal

/-- A response with a status of failure that a call ends on makes it succeed if its body says so: a
preview is valid exactly if the body makes it valid, and an apply reports a write exactly if the
body tells of a new revision. Otherwise the patch is declined. A response that a call does not end
on was a mismatch, and has been followed. -/
theorem failed_response_accepts_iff {σ : Type} (exchange : Exchange σ) (c : Config)
    (resource : String) (server : σ) (p : Proposal) (r : Response) (failed : r.isSuccess = false) :
    let previewed := (p.preview.serve (submit exchange c resource) server).2
    let previewing := heard exchange c resource p.preview server
    let applied := (p.apply.serve (submit exchange c resource) server).2
    let applying := heard exchange c resource p.apply server
    (previewing.getLast? = some (.ok r) →
      (Accepted some previewed ↔ r.Approves) ∧ (Declined some previewed ↔ ¬r.Approves)) ∧
    (applying.getLast? = some (.ok r) →
      ((∃ revision diff, applied = .ok (.committed revision diff)) ↔
        applying.length = 1 ∧ r.Confirms) ∧
      (Accepted Applied.preview? applied ↔
        applying.length = 1 ∧ r.Confirms ∨ applying.length = 2 ∧ r.Approves) ∧
      (Declined Applied.preview? applied ↔ ¬Accepted Applied.preview? applied)) ∧
    ∀ reply, reply ∈ previewing.dropLast ∨ reply ∈ applying.dropLast →
      ∃ current, p.MovesTo (readVerdict reply) current := by
  intro previewed previewing applied applying
  have previews : p.Ends id (fun v => .ok (Preview.ofVerdict v p.base none))
      (previewing.map readVerdict) previewed := by
    simp only [previewed, previewing, preview_eq_exchange]
    exact serve_ends true id _
  have applies : p.Ends .rebased conclude (applying.map readVerdict) applied :=
    serve_ends false .rebased conclude
  have last {heard : List Reply} (ended : heard.getLast? = some (.ok r)) :
      (heard.map readVerdict).getLast? = some (readVerdict (.ok r)) := by
    rw [List.getLast?_map, ended]
    rfl
  have before {heard : List Reply} {reply : Reply} (earlier : reply ∈ heard.dropLast) :
      readVerdict reply ∈ (heard.map readVerdict).dropLast := by
    rw [← List.map_dropLast]
    exact List.mem_map_of_mem earlier
  refine ⟨fun ended => preview_of_failed failed previews (last ended), fun ended => ?_, ?_⟩
  · have result := apply_of_failed failed applies (last ended)
    rwa [List.length_map] at result
  · rintro reply (earlier | earlier)
    · exact previews.followed_earlier (before earlier)
    · exact applies.followed_earlier (before earlier)

/-- A server that gives every request the same response. -/
def always (r : Response) : Exchange Unit :=
  fun server _ => (server, .ok r)

/-- A server that has written the patch, and failed behind that. -/
def failsBehind : Response where
  status := 500
  body := Text.Utf8.encode
    "\x7b\"success\":true,\"new_revision\":\"r2\",\"error\":\"audit log unavailable\"\x7d"

theorem failure_behind_write_is_a_write :
    let c : Config := { baseUrl := "http://host" }
    let p : Proposal := ⟨⟨"r1"⟩, [.replace "name: demo"]⟩
    failsBehind.isSuccess = false ∧
      heard (always failsBehind) c "workflows/wf-1" p.apply () = [.ok failsBehind] ∧
      failsBehind.Confirms ∧
      ∃ revision diff, (p.apply.serve (submit (always failsBehind) c "workflows/wf-1") ()).2 =
        .ok (.committed revision diff) := by
  intro c p
  have failed : failsBehind.isSuccess = false := by decide +kernel
  have once : heard (always failsBehind) c "workflows/wf-1" p.apply () = [.ok failsBehind] := by
    decide +kernel
  have confirms : failsBehind.Confirms := by
    refine ⟨{ success := true, newRevision := some ⟨"r2"⟩, error := some "audit log unavailable" },
      ⟨_, rfl, ?_, rfl⟩, rfl, rfl⟩
    decide +kernel
  obtain ⟨-, applied, -⟩ := failed_response_accepts_iff (always failsBehind) c "workflows/wf-1" ()
    p failsBehind failed
  have last : (heard (always failsBehind) c "workflows/wf-1" p.apply ()).getLast? =
      some (.ok failsBehind) := by rw [once]; rfl
  exact ⟨failed, once, confirms, (applied last).1.2 ⟨by rw [once]; rfl, confirms⟩⟩

/-- A status of failure in front of a write that is told of, and of checks that have passed. -/
theorem failure_is_reported_as_success :
    let c : Config := { baseUrl := "http://host" }
    let p : Proposal := ⟨⟨"r1"⟩, [.replace "name: demo"]⟩
    let checked : Response :=
      { status := 503, body := Text.Utf8.encode "\x7b\"validation\":\x7b\"valid\":true\x7d\x7d" }
    (p.apply.serve (submit (always failsBehind) c "workflows/wf-1") ()).2 =
        .ok (.committed ⟨"r2"⟩ none) ∧
      (p.preview.serve (submit (always checked) c "workflows/wf-1") ()).2 =
        .ok ⟨none, true, none, [], ⟨"r1"⟩, none⟩ := by
  decide +kernel

end Http

end RunWatch
