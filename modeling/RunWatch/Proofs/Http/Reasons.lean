import RunWatch.Http.ErrorBody
import RunWatch.Proofs.Text.Trimming

/-!
# Reasons of failed answers

What a failed answer says never has white space around it. It says nothing at all only if an object
with a blank message comes before every other text. Otherwise it gives the first text among the
members that may hold the reason, and the status if there is none.
-/

namespace RunWatch.Http

open Json

/-! ### What a member says -/

/-- The text of a member: its own, or that of its `message`. -/
def memberText? : Value → Option String
  | .text s => some s
  | v => (v.get? "message").bind Value.text?

/-- The text of a member, trimmed, unless it is blank. -/
def carried? (v : Value) : Option String :=
  (memberText? v).bind fun s => if Text.blank s then none else some (Text.trim s)

/-- The member is an object whose `message` is blank. -/
def isHollow : Value → Bool
  | .object members => ((members.lookup "message").bind Value.text?).any Text.blank
  | _ => false

/-- The member is hollow or carries a text. -/
def speaks (v : Value) : Bool :=
  isHollow v || (carried? v).isSome

/-- The first member that speaks is hollow. -/
def isMuted (body : Value) : Bool :=
  (reasonKeys.findSome? fun key => (body.get? key).filter speaks).any isHollow

/-- The first text that a member carries. -/
def firstCarried? (body : Value) : Option String :=
  reasonKeys.findSome? fun key => (body.get? key).bind carried?

theorem reasonText?_eq (v : Value) :
    reasonText? v = if isHollow v then some "" else carried? v := by
  cases v with
  | null | bool | number | array | text => rfl
  | object members =>
    have own : carried? (.object members) = ((members.lookup "message").bind Value.text?).bind
      fun s => if Text.blank s then none else some (Text.trim s) := rfl
    simp only [reasonText?, isHollow, own, Value.get?]
    rcases (members.lookup "message").bind Value.text? with _ | s
    · rfl
    · cases blank : Text.blank s with
      | true => simp [blank, (Text.blank_iff_trim s).1 blank]
      | false => simp [blank]

/-- The first member that speaks decides, whatever the keys are. -/
theorem findSome?_reasonText (body : Value) (keys : List String) :
    keys.findSome? (fun key => (body.get? key).bind reasonText?) =
      if (keys.findSome? fun key => (body.get? key).filter speaks).any isHollow then some ""
      else keys.findSome? fun key => (body.get? key).bind carried? := by
  induction keys with
  | nil => rfl
  | cons key keys ih =>
    rcases Option.eq_none_or_eq_some (body.get? key) with given | ⟨v, given⟩
    · simpa [List.findSome?_cons, given] using ih
    · cases hollow : isHollow v with
      | true => simp [given, reasonText?_eq, speaks, hollow]
      | false =>
        cases text : carried? v with
        | none =>
          simpa [List.findSome?_cons, given, reasonText?_eq, speaks, hollow, text] using ih
        | some t => simp [given, reasonText?_eq, speaks, hollow, text]

theorem reason?_eq (body : Value) :
    reason? body = if isMuted body then some "" else firstCarried? body :=
  findSome?_reasonText body reasonKeys

/-! ### Texts without white space around them -/

theorem carried?_of_firstCarried? {body : Value} {t : String} (h : firstCarried? body = some t) :
    ∃ v, carried? v = some t := by
  obtain ⟨key, -, found⟩ := List.exists_of_findSome?_eq_some h
  obtain ⟨v, -, text⟩ := Option.bind_eq_some_iff.1 found
  exact ⟨v, text⟩

/-- The text is not blank, and no white space surrounds it. -/
structure Crisp (s : String) : Prop where
  trimmed : Text.Trimmed Text.isBlank s.toList
  nonempty : s ≠ ""

theorem crisp_trim {s : String} (full : Text.blank s = false) : Crisp (Text.trim s) where
  trimmed := Text.toList_trim s ▸ Text.trimmed_trimBy _ _
  nonempty nothing := by
    rw [(Text.blank_iff_trim s).2 nothing] at full
    cases full

theorem crisp_carried {v : Value} {t : String} (h : carried? v = some t) : Crisp t := by
  obtain ⟨s, -, full⟩ := Option.bind_eq_some_iff.1 h
  split at full
  · cases full
  · cases full
    exact crisp_trim (Bool.not_eq_true _ ▸ ‹_›)

theorem isBlank_of_isDigit {c : Char} (h : c.isDigit = true) : Text.isBlank c = false := by
  have range : 48 ≤ c.toNat ∧ c.toNat ≤ 57 := Char.isDigit_iff_toNat.1 h
  refine Bool.eq_false_iff.2 fun blank => ?_
  simp only [Text.isBlank, Bool.or_eq_true, Bool.and_eq_true, decide_eq_true_eq, beq_iff_eq]
    at blank
  omega

theorem crisp_status (status : Nat) : Crisp s!"HTTP {status}" := by
  have spelt : (s!"HTTP {status}").toList = "HTTP ".toList ++ Nat.toDigits 10 status := by
    rw [← Nat.toList_repr, ← String.toList_append]
    rfl
  refine ⟨⟨?_, ?_⟩, fun nothing => ?_⟩
  · rw [spelt]
    rintro _ ⟨rfl⟩
    rfl
  · rw [spelt, List.getLast?_append_of_ne_nil _ Nat.toDigits_ne_nil]
    intro c last
    have digit := Nat.isDigit_of_mem_toDigits (by decide) (by decide) (List.mem_of_getLast? last)
    exact isBlank_of_isDigit digit
  · rw [nothing] at spelt
    cases spelt

/-! ### Answers -/

variable {status : Nat} {body : String}

theorem failureText_of_json {v : Value} (read : Value.ofString? body = some v) :
    failureText status body =
      if isMuted v then "" else (firstCarried? v).getD s!"HTTP {status}" := by
  rw [failureText, read]
  dsimp only
  rw [reason?_eq]
  cases isMuted v <;> rfl

theorem crisp_of_unmuted {v : Value} (read : Value.ofString? body = some v)
    (heard : isMuted v = false) : Crisp (failureText status body) := by
  rw [failureText_of_json read, heard, if_neg Bool.false_ne_true]
  cases text : firstCarried? v with
  | none => exact crisp_status status
  | some t =>
    obtain ⟨member, own⟩ := carried?_of_firstCarried? text
    exact crisp_carried own

theorem crisp_of_text (read : Value.ofString? body = none) : Crisp (failureText status body) := by
  rw [failureText, read]
  dsimp only
  split
  · rename_i shown
    rw [Bool.and_eq_true, Bool.not_eq_true'] at shown
    exact crisp_trim shown.1
  · exact crisp_status status

/-- What a failed answer says has no white space around it. It is nothing at all exactly if the body
is muted, and for any other JSON body it is the first text that a member carries, or the status. -/
theorem failureText_empty_iff (status : Nat) (body : String) :
    Text.Trimmed Text.isBlank (failureText status body).toList ∧
    (failureText status body = "" ↔ ∃ v, Value.ofString? body = some v ∧ isMuted v = true) ∧
    ∀ v, Value.ofString? body = some v → isMuted v = false →
      failureText status body = (firstCarried? v).getD s!"HTTP {status}" := by
  cases read : Value.ofString? body with
  | none =>
    have crisp : Crisp (failureText status body) := crisp_of_text read
    exact ⟨crisp.trimmed, iff_of_false crisp.nonempty nofun, nofun⟩
  | some v =>
    have told : failureText status body = if isMuted v then "" else _ := failureText_of_json read
    cases muted : isMuted v with
    | true =>
      rw [muted, if_pos rfl] at told
      refine ⟨by rw [told]; exact ⟨nofun, nofun⟩, iff_of_true told ⟨v, rfl, muted⟩, ?_⟩
      rintro _ ⟨rfl⟩ heard
      cases muted.symm.trans heard
    | false =>
      have crisp : Crisp (failureText status body) := crisp_of_unmuted read muted
      refine ⟨crisp.trimmed, iff_of_false crisp.nonempty ?_, ?_⟩
      · rintro ⟨_, ⟨rfl⟩, silent⟩
        cases muted.symm.trans silent
      · rintro _ ⟨rfl⟩ -
        rw [told, muted, if_neg Bool.false_ne_true]

/-- A blank error is passed over, and the message of an object is the reason. -/
theorem reason_behind_blank_error :
    let body := "\x7b\"error\":\" \",\"message\":\x7b\"message\":\" boom \"\x7d\x7d"
    let v : Value := .object
      [("error", .text " "), ("message", .object [("message", .text " boom ")])]
    Value.ofString? body = some v ∧ isMuted v = false ∧ failureText 500 body = "boom" := by
  intro body v
  have read : Value.ofString? body = some v := by decide +kernel
  have heard : isMuted v = false := by decide +kernel
  have told := (failureText_empty_iff 500 body).2.2 v read heard
  exact ⟨read, heard, told.trans (by decide +kernel)⟩

/-- A blank message inside the error hides the detail, and nothing is left to say. -/
theorem blank_message_hides_detail :
    let body := "\x7b\"error\":\x7b\"message\":\" \"\x7d,\"detail\":\"bad input\"\x7d"
    (Value.ofString? body).bind firstCarried? = some "bad input" ∧ failureText 422 body = "" := by
  decide +kernel

end RunWatch.Http
