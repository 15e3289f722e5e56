import RunWatch.Text.Blank
import RunWatch.Text.Utf8

/-!
# Decoding line by line

A line feed ends whatever character was unfinished, and no other byte makes one. So the text of
bytes, split at its line feeds, has the texts of their lines as its pieces.
-/

namespace RunWatch.Text

/-! ### Splitting at a character -/

theorem splitAtChar_of_not_mem {sep : Char} {cs : List Char} (h : sep ∉ cs) :
    splitAtChar sep cs = [cs] := by
  induction cs with
  | nil => rfl
  | cons c cs ih =>
    obtain ⟨ne, rest⟩ := List.ne_and_not_mem_of_not_mem_cons h
    rw [splitAtChar, if_neg ne.symm, ih rest]

theorem splitAtChar_append {sep : Char} {cs : List Char} (h : sep ∉ cs) (rest : List Char) :
    splitAtChar sep (cs ++ sep :: rest) = cs :: splitAtChar sep rest := by
  induction cs with
  | nil => simp [splitAtChar]
  | cons c cs ih =>
    obtain ⟨ne, tail⟩ := List.ne_and_not_mem_of_not_mem_cons h
    rw [List.cons_append, splitAtChar, if_neg ne.symm, ih tail]

namespace Utf8

/-! ### Which bytes make a line feed -/

/-- What the table of first bytes keeps to: no byte below 0x80 goes on with a character, and the
character will not be one of the first 128. -/
structure Partial.Sound (p : Partial) : Prop where
  low : 0x80 ≤ p.low
  next : 2 ≤ p.point * 64 + (p.low.toNat - 0x80)
  last : p.need ≤ 1 → 2 ≤ p.point

/-- A first byte is a character, is broken, or opens a character of several bytes. -/
theorem begin_cases (b : UInt8) :
    begin b = (none, [Char.ofNat b.toNat]) ∨ begin b = (none, [replacement]) ∨
      ∃ p, begin b = (some p, []) ∧ p.Sound := by
  have past {m : UInt8} (not_below : ¬b < m) : m.toNat ≤ b.toNat :=
    Nat.not_lt.1 (mt UInt8.lt_iff_toNat_lt.2 not_below)
  have beyond {m : UInt8} (not_below : ¬b < m) (other : ¬b = m) : m.toNat < b.toNat :=
    Nat.lt_of_le_of_ne (past not_below) fun same => other (UInt8.toNat_inj.1 same.symm)
  have opens {need point : Nat} (low : 1 ≤ point) (last : need ≤ 1 → 2 ≤ point) :
      Partial.Sound ⟨need, 0x80, 0xBF, point⟩ :=
    ⟨UInt8.le_refl _, by dsimp only; omega, last⟩
  fun_cases begin b with
  | case1 => exact .inl rfl
  | case2 | case10 => exact .inr (.inl rfl)
  | case3 _ not_below =>
    have : 0xC2 ≤ b.toNat := past not_below
    exact .inr (.inr ⟨_, rfl, opens (by omega) (by omega)⟩)
  | case4 | case5 | case7 | case9 =>
    exact .inr (.inr ⟨_, rfl, by decide, by decide, by decide⟩)
  | case6 _ _ not_below other =>
    have : 0xE0 < b.toNat := beyond not_below other
    exact .inr (.inr ⟨_, rfl, opens (by omega) (by omega)⟩)
  | case8 _ _ _ _ _ not_below other =>
    have : 0xF0 < b.toNat := beyond not_below other
    exact .inr (.inr ⟨_, rfl, opens (by omega) (by omega)⟩)

/-- The unfinished character, if there is one, is sound. -/
def Sound (state : Option Partial) : Prop :=
  ∀ p ∈ state, p.Sound

theorem sound_none : Sound none := nofun

theorem sound_begin (b : UInt8) : Sound (begin b).1 := by
  rcases begin_cases b with begins | begins | ⟨p, begins, sound⟩
  · rw [begins]
    exact sound_none
  · rw [begins]
    exact sound_none
  · rw [begins]
    rintro _ ⟨rfl⟩
    exact sound

theorem sound_step {state : Option Partial} (h : Sound state) (b : UInt8) :
    Sound (step state b).1 := by
  cases state with
  | none => exact sound_begin b
  | some p =>
    obtain ⟨low, next, -⟩ := h p rfl
    rw [step]
    split
    · rename_i within
      dsimp only
      split
      · exact sound_none
      · rintro _ ⟨rfl⟩
        have := UInt8.le_iff_toNat_le.1 within.1
        refine ⟨UInt8.le_refl _, ?_, fun _ => ?_⟩ <;> simp only [UInt8.reduceToNat] <;> omega
    · exact sound_begin b

theorem eq_of_ofNat_eq_newline {n : Nat} (h : Char.ofNat n = '\n') : n = 10 := by
  by_cases valid : n.isValidChar
  · rw [Char.ofNat, dif_pos valid] at h
    exact congrArg Char.toNat h
  · rw [Char.ofNat, dif_neg valid] at h
    cases h

theorem newline_not_mem_begin {b : UInt8} (hb : b ≠ 10) : '\n' ∉ (begin b).2 := by
  rcases begin_cases b with begins | begins | ⟨p, begins, -⟩
  · rw [begins]
    intro mem
    have same := eq_of_ofNat_eq_newline (List.mem_singleton.1 mem).symm
    exact hb (UInt8.toNat_inj.1 same)
  · rw [begins]
    decide
  · rw [begins]
    exact List.not_mem_nil

theorem newline_not_mem_step {state : Option Partial} (h : Sound state) {b : UInt8}
    (hb : b ≠ 10) : '\n' ∉ (step state b).2 := by
  cases state with
  | none => exact newline_not_mem_begin hb
  | some p =>
    rw [step]
    split
    · dsimp only
      split
      · rename_i ends
        have := (h p rfl).last ends
        intro mem
        have := eq_of_ofNat_eq_newline (List.mem_singleton.1 mem).symm
        omega
      · exact List.not_mem_nil
    · intro mem
      rcases List.mem_cons.1 mem with eq | mem
      · exact absurd eq (by decide)
      · exact newline_not_mem_begin hb mem

/-! ### Decoding the pieces -/

theorem newline_not_mem_decodeFrom {state : Option Partial} (h : Sound state)
    {bytes : List UInt8} (hb : 10 ∉ bytes) : '\n' ∉ decodeFrom state bytes := by
  induction bytes generalizing state with
  | nil =>
    rw [decodeFrom]
    split <;> decide
  | cons b bytes ih =>
    obtain ⟨ne, rest⟩ := List.ne_and_not_mem_of_not_mem_cons hb
    rw [decodeFrom, List.mem_append, not_or]
    exact ⟨newline_not_mem_step h ne.symm, ih (sound_step h b) rest⟩

theorem decodeFrom_append_newline {state : Option Partial} (h : Sound state)
    (line rest : List UInt8) :
    decodeFrom state (line ++ 10 :: rest) = decodeFrom state line ++ '\n' :: decode rest := by
  induction line generalizing state with
  | nil =>
    have ends := step_ascii state (show (10 : UInt8) < 0x80 by decide) fun p hp => (h p hp).low
    simp only [List.nil_append, decodeFrom, ends, List.append_assoc, List.singleton_append]
    rfl
  | cons b line ih =>
    simp only [List.cons_append, decodeFrom, ih (sound_step h b), List.append_assoc]

theorem newline_not_mem_decode {line : List UInt8} (h : 10 ∉ line) : '\n' ∉ decode line :=
  newline_not_mem_decodeFrom sound_none h

/-- The pieces of a text are the texts of its lines. -/
theorem splitAtChar_decode {line : List UInt8} (h : 10 ∉ line) :
    splitAtChar '\n' (decode line) = [decode line] ∧
      ∀ rest, splitAtChar '\n' (decode (line ++ 10 :: rest)) =
        decode line :: splitAtChar '\n' (decode rest) := by
  have none_inside := newline_not_mem_decode h
  refine ⟨splitAtChar_of_not_mem none_inside, fun rest => ?_⟩
  rw [decode, decodeFrom_append_newline sound_none]
  exact splitAtChar_append none_inside _

end Utf8

end RunWatch.Text
