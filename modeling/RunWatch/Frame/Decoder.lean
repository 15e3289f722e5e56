import RunWatch.Frame.Group

/-!
# Decoding an event stream

A decoder holds the bytes that are not yet part of a frame and cuts a frame off at each blank line.
A carriage return, a line feed, and the pair of both each end a line. The search for a blank line
goes on where it ended, so no byte is looked at twice.
`Decoder` carries the proof that what it holds has no blank line.
-/

namespace RunWatch.Frame

def lineFeed : UInt8 := 10

def carriageReturn : UInt8 := 13

/-! ### Blank lines -/

/-- Two line feeds stand in a row at a place. -/
def BlankLineAt (bytes : Array UInt8) (i : Nat) : Prop :=
  bytes[i]? = some lineFeed ∧ bytes[i + 1]? = some lineFeed

/-- The first blank line from a place on. -/
def blankLine? (bytes : Array UInt8) (i : Nat) : Option Nat :=
  if h : i + 1 < bytes.size then
    if bytes[i] = lineFeed ∧ bytes[i + 1] = lineFeed then some i else blankLine? bytes (i + 1)
  else none
termination_by bytes.size - i

theorem BlankLineAt.lt_size {bytes : Array UInt8} {i : Nat} (h : BlankLineAt bytes i) :
    i + 1 < bytes.size :=
  (Array.getElem?_eq_some_iff.1 h.2).1

theorem blankLineAt_iff {bytes : Array UInt8} {i : Nat} (h : i + 1 < bytes.size) :
    BlankLineAt bytes i ↔ bytes[i] = lineFeed ∧ bytes[i + 1] = lineFeed := by
  simp [BlankLineAt, h, Nat.lt_of_succ_lt h]

theorem blankLine?_eq_none {bytes : Array UInt8} {i : Nat} (h : blankLine? bytes i = none) :
    ∀ j, i ≤ j → ¬BlankLineAt bytes j := by
  fun_induction blankLine? bytes i with
  | case1 => cases h
  | case2 i hi miss ih =>
    intro j hij
    rcases Nat.eq_or_lt_of_le hij with rfl | hij
    · exact fun here => miss ((blankLineAt_iff hi).1 here)
    · exact ih h j hij
  | case3 i hi =>
    intro j hij blank
    have := blank.lt_size
    omega

theorem blankLine?_eq_some {bytes : Array UInt8} {i k : Nat} (h : blankLine? bytes i = some k) :
    i ≤ k ∧ BlankLineAt bytes k ∧ ∀ j, i ≤ j → j < k → ¬BlankLineAt bytes j := by
  fun_induction blankLine? bytes i with
  | case1 i hi hit =>
    obtain rfl := Option.some.inj h
    exact ⟨Nat.le_refl _, (blankLineAt_iff hi).2 hit, fun j _ _ => by omega⟩
  | case2 i hi miss ih =>
    obtain ⟨le, blank, first⟩ := ih h
    refine ⟨by omega, blank, fun j hij hjk => ?_⟩
    rcases Nat.eq_or_lt_of_le hij with rfl | hij
    · exact fun here => miss ((blankLineAt_iff hi).1 here)
    · exact first j hij hjk
  | case3 => cases h

theorem blankLine?_le {bytes : Array UInt8} {i k : Nat} (h : blankLine? bytes i = some k) :
    k + 2 ≤ bytes.size :=
  (blankLine?_eq_some h).2.1.lt_size

/-! ### Cutting frames off -/

/-- The frames that blank lines end, and the bytes after the last of them. The search for the first
one begins at a place. -/
def cut (bytes : Array UInt8) (i : Nat) : Array UInt8 × List Frame :=
  match h : blankLine? bytes i with
  | none => (bytes, [])
  | some k =>
    have := blankLine?_le h
    let (rest, frames) := cut (bytes.extract (k + 2)) 0
    (rest, (ofBytes? (bytes.extract 0 k).toList).toList ++ frames)
termination_by bytes.size
decreasing_by simp only [Array.size_extract]; omega

theorem cut_of_none {bytes : Array UInt8} {i : Nat} (h : blankLine? bytes i = none) :
    cut bytes i = (bytes, []) := by
  rw [cut]; split
  · rfl
  · rename_i k found
    exact absurd (found.symm.trans h) nofun

theorem cut_of_some {bytes : Array UInt8} {i k : Nat} (h : blankLine? bytes i = some k) :
    cut bytes i = ((cut (bytes.extract (k + 2)) 0).1,
      (ofBytes? (bytes.extract 0 k).toList).toList ++ (cut (bytes.extract (k + 2)) 0).2) := by
  rw [cut]; split
  · rename_i missing
    exact absurd (missing.symm.trans h) nofun
  · rename_i k' found
    obtain rfl := Option.some.inj (found.symm.trans h)
    rfl

/-- No blank line is left if the search passed none by. -/
theorem no_blankLine_cut {bytes : Array UInt8} {i : Nat}
    (h : ∀ j, j < i → ¬BlankLineAt bytes j) (j : Nat) : ¬BlankLineAt (cut bytes i).1 j := by
  fun_induction cut bytes i with
  | case1 bytes i missing =>
    rcases Nat.lt_or_ge j i with before | after
    · exact h j before
    · exact blankLine?_eq_none missing j after
  | case2 bytes i k found _ rest frames e ih =>
    simp only [e] at ih
    exact ih fun j hj => absurd hj (Nat.not_lt_zero j)

/-! ### Folding line endings -/

/-- Bytes with every line ending a line feed. -/
structure Folded where
  bytes : Array UInt8 := #[]
  /-- The last byte was a carriage return, whose line feed may follow. -/
  afterReturn : Bool := false
  deriving DecidableEq, Repr

namespace Folded

/-- One byte more. -/
def push (f : Folded) (b : UInt8) : Folded :=
  if b = carriageReturn then { bytes := f.bytes.push lineFeed, afterReturn := true }
  else if b = lineFeed ∧ f.afterReturn = true then { f with afterReturn := false }
  else { bytes := f.bytes.push b, afterReturn := false }

/-- Several bytes more. -/
def pushAll (f : Folded) (chunk : List UInt8) : Folded :=
  chunk.foldl push f

@[simp] theorem pushAll_nil (f : Folded) : f.pushAll [] = f := rfl

@[simp] theorem pushAll_cons (f : Folded) (b : UInt8) (chunk : List UInt8) :
    f.pushAll (b :: chunk) = (f.push b).pushAll chunk := rfl

@[simp] theorem pushAll_append (f : Folded) (a b : List UInt8) :
    f.pushAll (a ++ b) = (f.pushAll a).pushAll b :=
  List.foldl_append

/-- What a byte adds does not depend on the bytes before it. -/
theorem push_after (before : Array UInt8) (f : Folded) (b : UInt8) :
    push { f with bytes := before ++ f.bytes } b =
      { f.push b with bytes := before ++ (f.push b).bytes } := by
  unfold push
  dsimp only
  split
  · rw [Array.append_push]
  · split
    · rfl
    · rw [Array.append_push]

theorem pushAll_after (before : Array UInt8) (f : Folded) (chunk : List UInt8) :
    pushAll { f with bytes := before ++ f.bytes } chunk =
      { f.pushAll chunk with bytes := before ++ (f.pushAll chunk).bytes } := by
  induction chunk generalizing f with
  | nil => rfl
  | cons b chunk ih => rw [pushAll_cons, push_after, ih, pushAll_cons]

/-- The bytes stay, and what is added depends only on the last byte. -/
theorem pushAll_eq (f : Folded) (chunk : List UInt8) :
    f.pushAll chunk =
      { pushAll { afterReturn := f.afterReturn } chunk with
        bytes := f.bytes ++ (pushAll { afterReturn := f.afterReturn } chunk).bytes } := by
  have := pushAll_after f.bytes { afterReturn := f.afterReturn } chunk
  rwa [Array.append_empty] at this

end Folded

/-! ### Decoders -/

theorem searched_empty : 0 = (#[] : Array UInt8).size - 1 := rfl

theorem no_blankLine_empty (i : Nat) : ¬BlankLineAt #[] i := by
  rintro ⟨h, -⟩
  simp at h

/-- Bytes that are not yet part of a frame. -/
structure Decoder extends Folded where
  /-- Where the search for a blank line goes on. Only the last byte can still begin one. -/
  searched : Nat := 0
  searched_eq : searched = bytes.size - 1 := by exact RunWatch.Frame.searched_empty
  no_blankLine : ∀ i, ¬BlankLineAt bytes i := by exact RunWatch.Frame.no_blankLine_empty
  deriving DecidableEq, Repr

namespace Decoder

theorem no_blankLine_pushAll (d : Decoder) (chunk : List UInt8) {i : Nat} (hi : i < d.searched) :
    ¬BlankLineAt (d.toFolded.pushAll chunk).bytes i := by
  have within : i + 1 < d.bytes.size := by
    have := d.searched_eq
    omega
  rw [Folded.pushAll_eq]
  intro blank
  apply d.no_blankLine i
  simpa [BlankLineAt, Array.getElem?_append_left, within, Nat.lt_of_succ_lt within] using blank

/-- The decoder after a chunk, and the frames that the chunk completes. -/
def feed (d : Decoder) (chunk : List UInt8) : Decoder × List Frame :=
  let folded := d.toFolded.pushAll chunk
  let rest := cut folded.bytes d.searched
  ({ bytes := rest.1
     afterReturn := folded.afterReturn
     searched := rest.1.size - 1
     searched_eq := rfl
     no_blankLine := no_blankLine_cut fun _ => d.no_blankLine_pushAll chunk }, rest.2)

/-- The number of bytes held back. -/
def pending (d : Decoder) : Nat :=
  d.bytes.size

/-- The decoder after several chunks, and the frames of all of them. -/
def feedAll (d : Decoder) : List (List UInt8) → Decoder × List Frame
  | [] => (d, [])
  | chunk :: chunks =>
    let (d, frames) := d.feed chunk
    let (d, later) := feedAll d chunks
    (d, frames ++ later)

end Decoder

end RunWatch.Frame
