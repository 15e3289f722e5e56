import Mathlib.Data.List.Chain
import RunWatch.Frame.Lines
import RunWatch.Proofs.Frame.Chunks
import RunWatch.Proofs.Text.Pieces

/-!
# Decoding is line by line

The decoder looks for two line feeds in a row and decodes all the bytes before them at once; the
line format knows lines and empty lines only. A run of line feeds leaves some of them at the start
of the next segment, where they are empty lines of its group and say nothing.
`feed_eq_lines` is the agreement of the two, `frames_append` and `frames_blank` are what the line
format makes plain.
-/

namespace RunWatch.Frame

open Text

namespace Lines

/-! ### Lines -/

theorem cut_of_not_mem {line : List UInt8} (h : 10 ∉ line) : cut line = ([], line) := by
  induction line with
  | nil => rfl
  | cons b line ih =>
    obtain ⟨ne, rest⟩ := List.ne_and_not_mem_of_not_mem_cons h
    simp only [cut, ih rest, if_neg ne.symm]

theorem cut_append_cons (a b : List UInt8) :
    cut (a ++ 10 :: b) = ((cut a).1 ++ (cut a).2 :: (cut b).1, (cut b).2) := by
  induction a with
  | nil => simp [cut]
  | cons c a ih =>
    rw [List.cons_append, cut, ih, cut]
    dsimp only
    by_cases feed : c = 10
    · simp only [if_pos feed, List.cons_append]
    · simp only [if_neg feed]
      cases (cut a).1 <;> rfl

/-- The lines, the unended one included. -/
def pieces (bytes : List UInt8) : List (List UInt8) :=
  (cut bytes).1 ++ [(cut bytes).2]

theorem cut_append_newline (a : List UInt8) : (cut (a ++ [10])).1 = pieces a := by
  rw [cut_append_cons]; rfl

/-- Decoding goes on undisturbed from one line to the next. -/
theorem splitAtChar_decode_pieces (bytes : List UInt8) :
    splitAtChar '\n' (Utf8.decode bytes) = (pieces bytes).map Utf8.decode := by
  induction size : bytes.length using Nat.strong_induction_on generalizing bytes with
  | _ n ih =>
    by_cases mem : 10 ∈ bytes
    · obtain ⟨line, rest, rfl, first⟩ := List.eq_append_cons_of_mem mem
      have shorter : rest.length < n := by
        rw [← size, List.length_append, List.length_cons]
        omega
      rw [(Utf8.splitAtChar_decode first).2, ih _ shorter _ rfl, pieces, pieces, cut_append_cons,
        cut_of_not_mem first]
      rfl
    · rw [(Utf8.splitAtChar_decode mem).1, pieces, cut_of_not_mem mem]
      rfl

/-! ### Groups -/

theorem line_decode (f : Fields) (bytes : List UInt8) :
    f.line (Utf8.decode bytes) = match Line.read bytes with
      | .name text => { f with event := some (trim (String.ofList text)) }
      | .data text => { f with data := f.data ++ [text] }
      | _ => f := by
  rw [Line.read]
  generalize Utf8.decode bytes = cs
  cases cs with
  | nil => rfl
  | cons c cs =>
    by_cases comment : c = ':'
    · subst comment; rfl
    · simp only [if_neg comment, Fields.line]
      cases after? "event:".toList (c :: cs) with
      | some rest => rfl
      | none => cases after? "data:".toList (c :: cs) <;> rfl

/-- What the lines of a group have set is what its lines say, taken together. -/
theorem ofLines_map_decode (group : List (List UInt8)) :
    Fields.ofLines (group.map Utf8.decode) =
      { event := name? (group.map Line.read)
        data := (group.map Line.read).filterMap Line.data? } := by
  induction group using List.reverseRecOn with
  | nil => rfl
  | append_singleton group line ih =>
    rw [Fields.ofLines] at ih ⊢
    rw [List.map_append, List.foldl_append, ih, List.map_singleton, List.foldl_cons,
      List.foldl_nil, line_decode, List.map_append, List.map_singleton, name?, name?,
      List.filterMap_append, List.filterMap_append]
    cases Line.read line <;> simp [Line.name?, Line.data?]

theorem ofLines?_map_decode (group : List (List UInt8)) :
    ofLines? (group.map Utf8.decode) = frame? group := by
  rw [ofLines?, ofLines_map_decode, ofFields?, frame?]
  dsimp only
  split
  · rename_i absent
    have empty : data (group.map Line.read) = "" := by rw [data, absent]; rfl
    rw [if_pos (Or.inl empty)]
  · rfl

theorem ofBytes?_eq (bytes : List UInt8) : ofBytes? bytes = frame? (pieces bytes) := by
  rw [ofBytes?, splitAtChar_decode_pieces, ofLines?_map_decode]

@[simp] theorem frame?_nil : frame? [] = none := rfl

/-- An empty line says nothing. -/
theorem frame?_cons_nil (group : List (List UInt8)) : frame? ([] :: group) = frame? group := rfl

theorem groups_append_empty (gathered lines later : List (List UInt8)) :
    groups gathered (lines ++ [] :: later) =
      groups gathered (lines ++ [[]]) ++ groups [] later := by
  induction lines generalizing gathered with
  | nil => rfl
  | cons line lines ih =>
    cases line with
    | nil => simp only [List.cons_append, groups, ih]
    | cons b line => simp only [List.cons_append, groups, ih]

theorem groups_of_nonempty {lines : List (List UInt8)} (h : ∀ line ∈ lines, line ≠ [])
    (gathered : List (List UInt8)) : groups gathered lines = [] := by
  induction lines generalizing gathered with
  | nil => rfl
  | cons line lines ih =>
    obtain ⟨nonempty, rest⟩ := List.forall_mem_cons.1 h
    rw [groups, ih rest]
    exact nonempty

theorem groups_nonempty_append {lines : List (List UInt8)} (h : ∀ line ∈ lines, line ≠ [])
    (gathered later : List (List UInt8)) :
    groups gathered (lines ++ [] :: later) = (gathered ++ lines) :: groups [] later := by
  induction lines generalizing gathered with
  | nil => simp [groups]
  | cons line lines ih =>
    obtain ⟨nonempty, rest⟩ := List.forall_mem_cons.1 h
    rw [List.cons_append, groups, ih rest, List.append_assoc, List.singleton_append]
    exact nonempty

/-- The lines before an empty line make one frame at most, also if the first of them is empty. -/
theorem filterMap_groups {lines : List (List UInt8)} (h : ∀ line ∈ lines.tail, line ≠ [])
    (later : List (List UInt8)) :
    (groups [] (lines ++ [] :: later)).filterMap frame? =
      (frame? lines).toList ++ (groups [] later).filterMap frame? := by
  have spread (group : List (List UInt8)) (gs : List (List (List UInt8))) :
      (group :: gs).filterMap frame? = (frame? group).toList ++ gs.filterMap frame? := by
    rw [List.filterMap_cons]
    cases frame? group <;> rfl
  cases lines with
  | nil => rw [List.nil_append, groups, spread]
  | cons line lines =>
    rw [List.tail_cons] at h
    cases line with
    | nil =>
      rw [List.cons_append, groups, spread, frame?_nil, groups_nonempty_append h, spread,
        Option.toList_none, List.nil_append, List.nil_append, frame?_cons_nil]
    | cons b line =>
      rw [groups_nonempty_append (List.forall_mem_cons.2 ⟨List.cons_ne_nil b line, h⟩), spread,
        List.nil_append]

theorem filterMap_groups_eq_nil {lines : List (List UInt8)} (h : ∀ line ∈ lines.tail, line ≠ []) :
    (groups [] lines).filterMap frame? = [] := by
  cases lines with
  | nil => rfl
  | cons line lines =>
    rw [List.tail_cons] at h
    cases line with
    | nil =>
      rw [groups, groups_of_nonempty h]
      rfl
    | cons b line =>
      rw [groups_of_nonempty (List.forall_mem_cons.2 ⟨List.cons_ne_nil b line, h⟩)]
      rfl

/-! ### Line feeds in a row -/

/-- No two line feeds stand in a row. -/
def Calm (bytes : List UInt8) : Prop :=
  bytes.IsChain fun a b => ¬(a = lineFeed ∧ b = lineFeed)

theorem Calm.tail_cut {bytes : List UInt8} (h : Calm bytes) :
    ∀ line ∈ (cut bytes).1.tail, line ≠ [] := by
  induction bytes with
  | nil => exact nofun
  | cons b bytes ih =>
    have tail := ih h.tail
    rw [cut]
    dsimp only
    split
    · rename_i feed
      -- The line after this line feed is not empty, since the next byte is no line feed.
      cases bytes with
      | nil => exact nofun
      | cons c bytes =>
        have next : c ≠ 10 := fun eq => (List.isChain_cons_cons.1 h).1 ⟨feed, eq⟩
        rw [cut] at tail ⊢
        simp only [if_neg next, List.tail_cons] at tail ⊢
        cases lines : (cut bytes).1 with
        | nil => exact nofun
        | cons line lines =>
          rw [lines] at tail
          exact List.forall_mem_cons.2 ⟨List.cons_ne_nil c line, tail⟩
    · cases lines : (cut bytes).1 with
      | nil => exact nofun
      | cons line lines =>
        rw [lines] at tail
        exact tail

theorem calm_take {bytes : Array UInt8} {k : Nat} (h : ∀ j, j < k → ¬BlankLineAt bytes j) :
    Calm (bytes.toList.take (k + 1)) := by
  refine List.isChain_iff_getElem.2 fun j hj both => ?_
  rw [List.length_take] at hj
  rw [List.getElem_take, List.getElem_take] at both
  refine h j (by omega) ((blankLineAt_iff ?_).2 both)
  rw [← Array.length_toList]
  omega

theorem toList_of_blankLineAt {bytes : Array UInt8} {k : Nat} (h : BlankLineAt bytes k) :
    bytes.toList = (bytes.extract 0 k).toList ++ 10 :: 10 :: (bytes.extract (k + 2)).toList ∧
      bytes.toList.take (k + 1) = (bytes.extract 0 k).toList ++ [10] := by
  have size : k + 1 < bytes.toList.length := by
    rw [Array.length_toList]
    exact h.lt_size
  obtain ⟨first, second⟩ := (blankLineAt_iff h.lt_size).1 h
  rw [← Array.getElem_toList] at first second
  have before : (bytes.extract 0 k).toList = bytes.toList.take k := by simp
  have after : (bytes.extract (k + 2)).toList = bytes.toList.drop (k + 2) := by
    rw [Array.toList_extract, List.extract_eq_take_drop, List.take_of_length_le (by simp)]
  have rest : bytes.toList.drop k = 10 :: 10 :: bytes.toList.drop (k + 2) := by
    rw [List.drop_eq_getElem_cons (Nat.lt_of_succ_lt size), List.drop_eq_getElem_cons size, first,
      second]
    rfl
  constructor
  · rw [before, after, ← rest, List.take_append_drop]
  · rw [before, List.take_succ_eq_append_getElem (Nat.lt_of_succ_lt size), first]
    rfl

/-- The first blank line splits the bytes. -/
theorem toList_of_blankLine? {bytes : Array UInt8} {i k : Nat}
    (h : ∀ j, j < i → ¬BlankLineAt bytes j) (found : blankLine? bytes i = some k) :
    bytes.toList = (bytes.extract 0 k).toList ++ 10 :: 10 :: (bytes.extract (k + 2)).toList ∧
      Calm ((bytes.extract 0 k).toList ++ [10]) := by
  obtain ⟨-, blank, first⟩ := blankLine?_eq_some found
  have earlier (j : Nat) (hj : j < k) : ¬BlankLineAt bytes j := by
    rcases Nat.lt_or_ge j i with before | after
    · exact h j before
    · exact first j after hj
  obtain ⟨split, through⟩ := toList_of_blankLineAt blank
  exact ⟨split, through ▸ calm_take earlier⟩

/-! ### The decoder and the lines -/

/-- Bytes up to the first blank line make one frame at most, and say nothing about the others. -/
theorem framesOf_blankLine {bytes : List UInt8} (calm : Calm (bytes ++ [10]))
    (later : List UInt8) :
    framesOf (bytes ++ 10 :: 10 :: later) = (ofBytes? bytes).toList ++ framesOf later := by
  have tail := calm.tail_cut
  rw [cut_append_newline] at tail
  have next : (cut (10 :: later)).1 = [] :: (cut later).1 := rfl
  have all : (cut (bytes ++ 10 :: 10 :: later)).1 = pieces bytes ++ [] :: (cut later).1 := by
    rw [cut_append_cons, next, pieces, List.append_assoc, List.singleton_append]
  rw [framesOf, all, filterMap_groups tail, ofBytes?_eq, framesOf]

/-- Cutting at two line feeds in a row is cutting lines and gathering them in groups. -/
theorem cut_frames (bytes : Array UInt8) {i : Nat} (h : ∀ j, j < i → ¬BlankLineAt bytes j) :
    (Frame.cut bytes i).2 = framesOf bytes.toList := by
  fun_induction Frame.cut bytes i with
  | case1 bytes i missing =>
    have nowhere (j : Nat) (_ : j < bytes.size) : ¬BlankLineAt bytes j := by
      rcases Nat.lt_or_ge j i with before | after
      · exact h j before
      · exact blankLine?_eq_none missing j after
    have calm : Calm bytes.toList := by
      have all := calm_take nowhere
      rwa [List.take_of_length_le (by rw [Array.length_toList]; omega)] at all
    exact (filterMap_groups_eq_nil calm.tail_cut).symm
  | case2 bytes i k found bound rest frames e ih =>
    have later := ih fun j hj => absurd hj (Nat.not_lt_zero j)
    rw [e] at later
    change (ofBytes? (bytes.extract 0 k).toList).toList ++ frames = _
    obtain ⟨split, calm⟩ := toList_of_blankLine? h found
    rw [split, framesOf_blankLine calm, show frames = _ from later]

/-- The frames that are cut off come from the bytes up to the last blank line alone, and the rest is
kept as it is. -/
theorem cut_complete (bytes : Array UInt8) {i : Nat} (h : ∀ j, j < i → ¬BlankLineAt bytes j) :
    ∃ complete, bytes.toList = complete ++ (Frame.cut bytes i).1.toList ∧
      (Frame.cut bytes i).2 = framesOf complete ∧ (complete = [] ∨ [10, 10] <:+ complete) := by
  fun_induction Frame.cut bytes i with
  | case1 bytes i missing => exact ⟨[], rfl, rfl, .inl rfl⟩
  | case2 bytes i k found bound rest frames e ih =>
    obtain ⟨split, calm⟩ := toList_of_blankLine? h found
    obtain ⟨complete, kept, cut_off, ends⟩ := ih fun j hj => absurd hj (Nat.not_lt_zero j)
    rw [e] at kept cut_off
    refine ⟨(bytes.extract 0 k).toList ++ 10 :: 10 :: complete, ?_, ?_, .inr ?_⟩
    · rw [split, kept]
      simp only [List.append_assoc, List.cons_append]
    · rw [framesOf_blankLine calm, ← cut_off]
    · rcases ends with rfl | last
      · exact List.suffix_append _ _
      · exact (last.trans (List.suffix_append [10, 10] complete)).trans (List.suffix_append _ _)

theorem pushAll_toList (f : Folded) (chunk : List UInt8) :
    (f.pushAll chunk).bytes.toList = f.bytes.toList ++ fold f.afterReturn chunk := by
  induction chunk generalizing f with
  | nil => simp [fold]
  | cons b chunk ih =>
    rw [Folded.pushAll_cons, ih, Folded.push, fold, carriageReturn, lineFeed]
    by_cases ret : b = 13
    · simp [if_pos ret]
    · by_cases skip : b = 10 ∧ f.afterReturn = true
      · simp [if_neg ret, if_pos skip]
      · simp [if_neg ret, if_neg skip]

theorem feed_eq_frames (bytes : List UInt8) :
    (({} : Decoder).feed bytes).2 = frames bytes := by
  rw [Decoder.feed_frames, cut_frames _ (fun j hj => absurd hj (Nat.not_lt_zero j)),
    Array.toList_append, Decoder.added, pushAll_toList]
  rfl

/-! ### Groups apart -/

theorem cut_append_of_ended {a : List UInt8} (h : (cut a).2 = []) (b : List UInt8) :
    (cut (a ++ b)).1 = (cut a).1 ++ (cut b).1 := by
  induction a with
  | nil => rfl
  | cons c a ih =>
    rw [cut] at h
    dsimp only at h
    rw [List.cons_append, cut, cut]
    dsimp only
    by_cases feed : c = 10
    · rw [if_pos feed] at h
      rw [if_pos feed, if_pos feed, ih h, List.cons_append]
    · rw [if_neg feed] at h
      rw [if_neg feed, if_neg feed]
      cases lines : (cut a).1 with
      | nil =>
        rw [lines] at h
        cases h
      | cons line lines' =>
        rw [lines] at h ih
        rw [ih h]
        rfl

theorem groups_append_of_ended {lines : List (List UInt8)}
    (h : ∀ line ∈ lines.getLast?, line = []) (later : List (List UInt8)) :
    groups [] (lines ++ later) = groups [] lines ++ groups [] later := by
  rcases List.eq_nil_or_concat' lines with rfl | ⟨before, last, rfl⟩
  · rfl
  · obtain rfl : last = [] := h last (by simp)
    rw [List.append_assoc, List.singleton_append, groups_append_empty]

/-- A line feed in front of a group is an empty line more. -/
theorem framesOf_cons (folded : List UInt8) : framesOf (10 :: folded) = framesOf folded := rfl

/-- A carriage return before the bytes takes at most an empty line away. -/
theorem framesOf_fold (afterReturn : Bool) (bytes : List UInt8) :
    framesOf (fold afterReturn bytes) = frames bytes := by
  rw [frames]
  cases bytes with
  | nil => rfl
  | cons b bytes =>
    by_cases feed : b = 10
    · subst feed
      cases afterReturn with
      | false => rfl
      | true => exact (framesOf_cons _).symm
    · simp only [fold, feed, false_and, if_false]

theorem fold_append (afterReturn : Bool) (a b : List UInt8) :
    ∃ last, fold afterReturn (a ++ b) = fold afterReturn a ++ fold last b := by
  induction a generalizing afterReturn with
  | nil => exact ⟨afterReturn, rfl⟩
  | cons c a ih =>
    rw [List.cons_append, fold, fold]
    by_cases ret : c = 13
    · obtain ⟨last, eq⟩ := ih true
      exact ⟨last, by simp [ret, eq]⟩
    · obtain ⟨last, eq⟩ := ih false
      by_cases skip : c = 10 ∧ afterReturn = true
      · exact ⟨last, by simp [skip, eq]⟩
      · exact ⟨last, by simp [ret, skip, eq]⟩

/-- No group says anything about a later one. -/
theorem frames_append {a : List UInt8} (h : EndsGroup a) (b : List UInt8) :
    frames (a ++ b) = frames a ++ frames b := by
  obtain ⟨last, eq⟩ := fold_append false a b
  rw [frames, eq, framesOf, cut_append_of_ended h.1, groups_append_of_ended h.2,
    List.filterMap_append, ← framesOf, ← framesOf, framesOf_fold, framesOf_fold]

/-- Blank lines in front of a group change nothing. -/
theorem frames_blank {blank : List UInt8} (h : ∀ c ∈ blank, c = 10 ∨ c = 13) (b : List UInt8) :
    frames (blank ++ b) = frames b := by
  induction blank with
  | nil => rfl
  | cons c blank ih =>
    obtain ⟨feed, rest⟩ := List.forall_mem_cons.1 h
    rw [List.cons_append, frames]
    rcases feed with rfl | rfl
    · exact ih rest
    · exact (framesOf_fold true _).trans (ih rest)

end Lines

namespace Decoder

end Decoder

end RunWatch.Frame
