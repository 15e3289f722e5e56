import RunWatch.Proofs.Frame.Lines

/-!
# Line endings

A line feed, a carriage return, and the pair of both end a line alike, and each line of a stream may
be ended in its own way. One thing cannot be said: a carriage return at the end of a line and a line
feed that ends an empty line after it read as the pair, so the empty line is lost.
-/

namespace RunWatch.Frame

open Text

inductive Ending where
  | feed
  | return_
  /-- A carriage return and a line feed. -/
  | pair
  deriving DecidableEq, Repr

def Ending.bytes : Ending → List UInt8
  | .feed => [lineFeed]
  | .return_ => [carriageReturn]
  | .pair => [carriageReturn, lineFeed]

/-- A line and how it is ended. -/
structure EndedLine where
  text : List UInt8
  ending : Ending
  deriving DecidableEq, Repr

namespace EndedLine

def bytes (l : EndedLine) : List UInt8 :=
  l.text ++ l.ending.bytes

/-- The same line, ended by a line feed. -/
def fed (l : EndedLine) : EndedLine :=
  { l with ending := .feed }

/-- No byte of the line itself is a line feed or a carriage return. -/
def Plain (l : EndedLine) : Prop :=
  lineFeed ∉ l.text ∧ carriageReturn ∉ l.text

/-- The endings of a line and of the next one do not read as a pair. -/
def Apart (l next : EndedLine) : Prop :=
  ¬(l.ending = .return_ ∧ next.text = [] ∧ next.ending = .feed)

instance (l : EndedLine) : Decidable l.Plain :=
  inferInstanceAs (Decidable (_ ∧ _))

instance : DecidableRel Apart :=
  fun _ _ => inferInstanceAs (Decidable (¬_))

end EndedLine

namespace Lines

/-! ### Folding -/

variable {text : List UInt8}

theorem fold_append_of_plain (unfed : lineFeed ∉ text) (unreturned : carriageReturn ∉ text)
    (rest : List UInt8) : fold false (text ++ rest) = text ++ fold false rest := by
  induction text with
  | nil => rfl
  | cons b text ih =>
    obtain ⟨feed, unfed⟩ := List.ne_and_not_mem_of_not_mem_cons unfed
    obtain ⟨ret, unreturned⟩ := List.ne_and_not_mem_of_not_mem_cons unreturned
    have other : ¬b = 13 := Ne.symm ret
    have other' : ¬(b = 10 ∧ false = true) := fun both => feed both.1.symm
    rw [List.cons_append, fold, if_neg other, if_neg other', ih unfed unreturned, List.cons_append]

/-- The first byte of a line clears what a carriage return before it has left. -/
theorem fold_append_of_ne_nil (unfed : lineFeed ∉ text) (unreturned : carriageReturn ∉ text)
    (some_ : text ≠ []) (afterReturn : Bool) (rest : List UInt8) :
    fold afterReturn (text ++ rest) = text ++ fold false rest := by
  rw [← fold_append_of_plain unfed unreturned]
  cases text with
  | nil => exact absurd rfl some_
  | cons b text =>
    have other : ¬b = 10 := fun feed => unfed (feed ▸ List.mem_cons_self)
    simp only [List.cons_append, fold, other, false_and, if_false]

theorem fold_ending (e : Ending) {afterReturn : Bool}
    (apart : ¬(afterReturn = true ∧ e = .feed)) (rest : List UInt8) :
    fold afterReturn (e.bytes ++ rest) = lineFeed :: fold (e = .return_) rest := by
  cases e with
  | feed =>
    cases afterReturn with
    | true => exact absurd ⟨rfl, rfl⟩ apart
    | false => rfl
  | return_ => rfl
  | pair => rfl

/-- A line with its ending becomes the line and a line feed. -/
theorem fold_line {l : EndedLine} (plain : l.Plain) {afterReturn : Bool}
    (apart : ¬(afterReturn = true ∧ l.text = [] ∧ l.ending = .feed)) (rest : List UInt8) :
    fold afterReturn (l.bytes ++ rest) =
      l.text ++ lineFeed :: fold (l.ending = .return_) rest := by
  rw [EndedLine.bytes, List.append_assoc]
  by_cases empty : l.text = []
  · rw [empty, List.nil_append, List.nil_append]
    exact fold_ending l.ending (fun both => apart ⟨both.1, empty, both.2⟩) rest
  · rw [fold_append_of_ne_nil plain.1 plain.2 empty,
      fold_ending l.ending fun both => Bool.false_ne_true both.1]

/-- Lines with their endings become lines and line feeds, whatever the endings. -/
theorem fold_lines {lines : List EndedLine} (plain : ∀ l ∈ lines, l.Plain)
    (apart : lines.IsChain EndedLine.Apart) {afterReturn : Bool}
    (first : ∀ l ∈ lines.head?, ¬(afterReturn = true ∧ l.text = [] ∧ l.ending = .feed)) :
    fold afterReturn (lines.flatMap EndedLine.bytes) =
      lines.flatMap fun l => l.text ++ [lineFeed] := by
  induction lines generalizing afterReturn with
  | nil => rfl
  | cons l lines ih =>
    obtain ⟨here, others⟩ := List.forall_mem_cons.1 plain
    have next : ∀ m ∈ lines.head?,
        ¬(decide (l.ending = .return_) = true ∧ m.text = [] ∧ m.ending = .feed) := by
      rintro m first ⟨returned, blank⟩
      exact (List.isChain_cons.1 apart).1 m first ⟨of_decide_eq_true returned, blank⟩
    rw [List.flatMap_cons, fold_line here (first l rfl), ih others apart.tail next,
      List.flatMap_cons, List.append_assoc]
    rfl

/-- Lines that are all ended by line feeds stay as they are. -/
theorem fold_fed {lines : List EndedLine} (plain : ∀ l ∈ lines, l.Plain) :
    fold false (lines.flatMap fun l => l.fed.bytes) =
      lines.flatMap fun l => l.text ++ [lineFeed] := by
  induction lines with
  | nil => rfl
  | cons l lines ih =>
    obtain ⟨here, others⟩ := List.forall_mem_cons.1 plain
    rw [List.flatMap_cons, fold_line (l := l.fed) here fun both => Bool.false_ne_true both.1,
      List.flatMap_cons, List.append_assoc]
    exact congrArg (fun rest => l.text ++ lineFeed :: rest) (ih others)

end Lines

namespace Decoder

/-- What a fresh decoder makes of bytes depends only on the bytes with folded line endings. -/
theorem feed_of_fold_eq {a b : List UInt8} (same : Lines.fold false a = Lines.fold false b) :
    (({} : Decoder).feed a).2 = (({} : Decoder).feed b).2 ∧
      (({} : Decoder).feed a).1.bytes = (({} : Decoder).feed b).1.bytes := by
  have added : (({} : Decoder).added a).bytes = (({} : Decoder).added b).bytes := by
    rw [← Array.toList_inj, Decoder.added, Decoder.added, Lines.pushAll_toList,
      Lines.pushAll_toList]
    exact congrArg _ same
  rw [feed_frames, feed_frames, feed_bytes, feed_bytes, added]
  exact ⟨rfl, rfl⟩

/-- However the lines of a stream are ended, a fresh decoder gives the same frames and holds the
same bytes as if each line were ended by a line feed, unless a line that a carriage return ends is
followed by an empty one that a line feed ends. -/
theorem endings_are_interchangeable (lines : List EndedLine) (plain : ∀ l ∈ lines, l.Plain)
    (apart : lines.IsChain EndedLine.Apart) :
    let given := ({} : Decoder).feed (lines.flatMap EndedLine.bytes)
    let fed := ({} : Decoder).feed (lines.flatMap fun l => l.fed.bytes)
    given.2 = fed.2 ∧ given.1.pending = fed.1.pending ∧ given.1.bytes = fed.1.bytes := by
  have same : Lines.fold false (lines.flatMap EndedLine.bytes) =
      Lines.fold false (lines.flatMap fun l => l.fed.bytes) := by
    rw [Lines.fold_fed plain]
    exact Lines.fold_lines plain apart fun _ _ both => Bool.false_ne_true both.1
  obtain ⟨frames, bytes⟩ := feed_of_fold_eq same
  exact ⟨frames, congrArg Array.size bytes, bytes⟩

/-- Two groups and a line, with every sort of ending before and at an empty line. -/
def mixedEndings : List EndedLine :=
  [⟨Utf8.encode "event: step", .pair⟩, ⟨Utf8.encode "data: 1", .return_⟩, ⟨[], .return_⟩,
    ⟨[], .pair⟩, ⟨Utf8.encode "data: 2", .feed⟩, ⟨[], .pair⟩, ⟨[], .feed⟩,
    ⟨Utf8.encode "data: 3", .return_⟩]

theorem mixed_endings_end_groups :
    (∀ l ∈ mixedEndings, l.Plain) ∧ mixedEndings.IsChain EndedLine.Apart ∧
      (({} : Decoder).feed (mixedEndings.flatMap EndedLine.bytes)).2 =
        [⟨"step", .number (.int 1)⟩, ⟨"message", .number (.int 2)⟩] ∧
      (({} : Decoder).feed (mixedEndings.flatMap EndedLine.bytes)).1.pending = 9 := by
  have plain : ∀ l ∈ mixedEndings, l.Plain := by decide +kernel
  have apart : mixedEndings.IsChain EndedLine.Apart := by decide +kernel
  obtain ⟨frames, pending, -⟩ := endings_are_interchangeable mixedEndings plain apart
  refine ⟨plain, apart, ?_, ?_⟩
  · rw [frames, Lines.feed_eq_frames]
    decide +kernel
  · rw [pending]
    decide +kernel

/-- A carriage return and the line feed of an empty line are one ending, so the group goes on. -/
example :
    let lines : List EndedLine := [⟨Utf8.encode "data: 1", .return_⟩, ⟨[], .feed⟩]
    (({} : Decoder).feed (lines.flatMap EndedLine.bytes)).2 = [] ∧
      (({} : Decoder).feed (lines.flatMap fun l => l.fed.bytes)).2 =
        [⟨"message", .number (.int 1)⟩] := by
  simp only [Lines.feed_eq_frames]
  decide +kernel

end Decoder

end RunWatch.Frame
