import RunWatch.Frame.Decoder

/-!
# Chunks do not matter

A decoder cuts frames off as bytes come in, from the place on where its last search ended. The
blank line that it finds first is the first one of all bytes, also of those still to come.
`feed_append` states that a chunk may be cut in two anywhere, and `feedAll_eq_feed` that any
chunks give what their bytes give at once.
-/

namespace RunWatch.Frame

/-! ### The first blank line -/

theorem blankLine?_eq_some_iff {bytes : Array UInt8} {i k : Nat} :
    blankLine? bytes i = some k ↔
      i ≤ k ∧ BlankLineAt bytes k ∧ ∀ j, i ≤ j → j < k → ¬BlankLineAt bytes j := by
  refine ⟨blankLine?_eq_some, fun ⟨le, blank, first⟩ => ?_⟩
  cases found : blankLine? bytes i with
  | none => exact absurd blank (blankLine?_eq_none found k le)
  | some k' =>
    obtain ⟨le', blank', first'⟩ := blankLine?_eq_some found
    rcases Nat.lt_trichotomy k k' with lt | rfl | lt
    · exact absurd blank (first' k le lt)
    · rfl
    · exact absurd blank' (first k' le' lt)

/-- Bytes to come do not change what lies before them. -/
theorem blankLineAt_append {x : Array UInt8} {i : Nat} (h : i + 1 < x.size) (y : Array UInt8) :
    BlankLineAt (x ++ y) i ↔ BlankLineAt x i := by
  simp only [BlankLineAt, Array.getElem?_append_left h,
    Array.getElem?_append_left (Nat.lt_of_succ_lt h)]

theorem blankLine?_append {x : Array UInt8} {i k : Nat} (h : blankLine? x i = some k)
    (y : Array UInt8) : blankLine? (x ++ y) i = some k := by
  obtain ⟨le, blank, first⟩ := blankLine?_eq_some h
  have within := blank.lt_size
  refine blankLine?_eq_some_iff.2 ⟨le, (blankLineAt_append within y).2 blank, ?_⟩
  intro j hij hjk here
  exact first j hij hjk ((blankLineAt_append (by omega) y).1 here)

/-- The search may begin later if it passes no blank line by. -/
theorem blankLine?_later {bytes : Array UInt8} {i k : Nat} (le : i ≤ k)
    (h : ∀ j, i ≤ j → j < k → ¬BlankLineAt bytes j) :
    blankLine? bytes i = blankLine? bytes k := by
  cases found : blankLine? bytes k with
  | none =>
    cases early : blankLine? bytes i with
    | none => rfl
    | some j =>
      obtain ⟨hij, blank, -⟩ := blankLine?_eq_some early
      rcases Nat.lt_or_ge j k with before | after
      · exact absurd blank (h j hij before)
      · exact absurd blank (blankLine?_eq_none found j after)
  | some l =>
    obtain ⟨hkl, blank, first⟩ := blankLine?_eq_some found
    refine blankLine?_eq_some_iff.2 ⟨Nat.le_trans le hkl, blank, fun j hij hjl => ?_⟩
    rcases Nat.lt_or_ge j k with before | after
    · exact h j hij before
    · exact first j after hjl

/-! ### Cutting online -/

theorem cut_later {bytes : Array UInt8} {i k : Nat} (le : i ≤ k)
    (h : ∀ j, i ≤ j → j < k → ¬BlankLineAt bytes j) : cut bytes i = cut bytes k := by
  have same := blankLine?_later le h
  cases found : blankLine? bytes k with
  | none => rw [cut_of_none found, cut_of_none (same.trans found)]
  | some l => rw [cut_of_some found, cut_of_some (same.trans found)]

/-- Cutting now and going on with the rest later is cutting it all later. -/
theorem cut_append (x y : Array UInt8) {i : Nat} (hi : i ≤ x.size - 1) :
    cut (x ++ y) i =
      let rest := (cut x i).1
      let later := cut (rest ++ y) (rest.size - 1)
      (later.1, (cut x i).2 ++ later.2) := by
  -- Along the cuts of `x`: each of them is also the first one of `x ++ y`.
  fun_induction cut x i with
  | case1 x i missing =>
    have clear : ∀ j, i ≤ j → j < x.size - 1 → ¬BlankLineAt (x ++ y) j := by
      intro j hij hj
      rw [blankLineAt_append (by omega)]
      exact blankLine?_eq_none missing j hij
    simpa using cut_later hi clear
  | case2 x i k found _ rest frames e ih =>
    have bound := blankLine?_le found
    have head : (x ++ y).extract 0 k = x.extract 0 k := by
      rw [Array.extract_append, show k - x.size = 0 by omega]
      simp
    have tail : (x ++ y).extract (k + 2) = x.extract (k + 2) ++ y := by
      rw [Array.extract_append, show k + 2 - x.size = 0 by omega, Array.size_append,
        Nat.add_sub_cancel_left, Array.extract_size,
        Array.extract_eq_extract_right.2 (show _ = min (x.size - (k + 2)) _ by omega)]
    have later := ih (Nat.zero_le _)
    rw [e] at later
    rw [cut_of_some (blankLine?_append found y), head, tail, later]
    simp only [List.append_assoc]

/-! ### Feeding -/

namespace Decoder

theorem ext_fields {d e : Decoder} (bytes : d.bytes = e.bytes)
    (afterReturn : d.afterReturn = e.afterReturn) : d = e := by
  obtain ⟨⟨b, r⟩, s, hs, hb⟩ := d
  obtain ⟨⟨b', r'⟩, s', hs', hb'⟩ := e
  obtain rfl : b = b' := bytes
  obtain rfl : r = r' := afterReturn
  obtain rfl : s = s' := hs.trans hs'.symm
  rfl

/-- What a chunk adds to the bytes. -/
def added (d : Decoder) (chunk : List UInt8) : Folded :=
  Folded.pushAll { afterReturn := d.afterReturn } chunk

theorem pushAll_toFolded (d : Decoder) (chunk : List UInt8) :
    d.toFolded.pushAll chunk =
      { d.added chunk with bytes := d.bytes ++ (d.added chunk).bytes } :=
  Folded.pushAll_eq d.toFolded chunk

theorem feed_bytes (d : Decoder) (chunk : List UInt8) :
    (d.feed chunk).1.bytes = (cut (d.bytes ++ (d.added chunk).bytes) d.searched).1 := by
  simp only [feed, pushAll_toFolded]

theorem feed_frames (d : Decoder) (chunk : List UInt8) :
    (d.feed chunk).2 = (cut (d.bytes ++ (d.added chunk).bytes) d.searched).2 := by
  simp only [feed, pushAll_toFolded]

theorem feed_afterReturn (d : Decoder) (chunk : List UInt8) :
    (d.feed chunk).1.afterReturn = (d.added chunk).afterReturn := by
  simp only [feed, pushAll_toFolded]

/-- Frames that are cut off do not change what later bytes add. -/
theorem added_append (d : Decoder) (a b : List UInt8) :
    d.added (a ++ b) =
      { (d.feed a).1.added b with
        bytes := (d.added a).bytes ++ ((d.feed a).1.added b).bytes } := by
  have last : (d.feed a).1.added b = Folded.pushAll { afterReturn := (d.added a).afterReturn } b := by
    rw [added, feed_afterReturn]
  rw [last, added, Folded.pushAll_append, ← added]
  exact Folded.pushAll_eq (d.added a) b

theorem feed_nil (d : Decoder) : d.feed [] = (d, []) := by
  have nothing : cut (d.bytes ++ (d.added []).bytes) d.searched = (d.bytes, []) := by
    have empty : (d.added []).bytes = #[] := rfl
    rw [empty, Array.append_empty]
    cases found : blankLine? d.bytes d.searched with
    | none => exact cut_of_none found
    | some k => exact absurd (blankLine?_eq_some found).2.1 (d.no_blankLine k)
  refine Prod.ext (ext_fields ?_ ?_) ?_
  · rw [feed_bytes, nothing]
  · rw [feed_afterReturn]; rfl
  · rw [feed_frames, nothing]

/-- A chunk may be cut in two anywhere. -/
theorem feed_append (d : Decoder) (a b : List UInt8) :
    d.feed (a ++ b) = (((d.feed a).1.feed b).1, (d.feed a).2 ++ ((d.feed a).1.feed b).2) := by
  have within : d.searched ≤ (d.bytes ++ (d.added a).bytes).size - 1 := by
    have := d.searched_eq
    rw [Array.size_append]
    omega
  have online := cut_append (d.bytes ++ (d.added a).bytes) ((d.feed a).1.added b).bytes within
  dsimp only at online
  rw [← feed_bytes, ← feed_frames, ← (d.feed a).1.searched_eq, Array.append_assoc] at online
  refine Prod.ext (ext_fields ?_ ?_) ?_
  · rw [feed_bytes, added_append, online, feed_bytes (d.feed a).1]
  · rw [feed_afterReturn, added_append, feed_afterReturn (d.feed a).1]
  · rw [feed_frames, added_append, online, feed_frames (d.feed a).1]

theorem feedAll_eq_feed (d : Decoder) (chunks : List (List UInt8)) :
    d.feedAll chunks = d.feed chunks.flatten := by
  induction chunks generalizing d with
  | nil => exact d.feed_nil.symm
  | cons chunk chunks ih => simp only [feedAll, ih, List.flatten_cons, feed_append]

/-- A fresh decoder that is fed chunks gives the frames of all their bytes at once, and holds and
does the same from then on. -/
theorem chunks_eq_whole (chunks : List (List UInt8)) :
    let split := ({} : Decoder).feedAll chunks
    let whole := ({} : Decoder).feed chunks.flatten
    split.2 = whole.2 ∧ split.1.bytes = whole.1.bytes ∧ split.1.pending = whole.1.pending ∧
      ∀ more, split.1.feedAll more = whole.1.feedAll more := by
  simp only [feedAll_eq_feed, implies_true, and_self]

end Decoder

end RunWatch.Frame
