import Mathlib.Data.List.DropRight
import RunWatch.Text.Blank

/-!
# What trimming leaves

Trimming by a class of characters leaves a text that neither begins nor ends in the class, and a
text like that stays as it is.
-/

namespace RunWatch.Text

/-- The text neither begins nor ends in the class. -/
structure Trimmed (p : Char → Bool) (cs : List Char) : Prop where
  first : ∀ c ∈ cs.head?, p c = false
  last : ∀ c ∈ cs.getLast?, p c = false

variable {p : Char → Bool} {cs : List Char}

theorem first_dropWhile : ∀ c ∈ (cs.dropWhile p).head?, p c = false := by
  intro c here
  have outside := List.head?_dropWhile_not p cs
  rw [Option.mem_def.1 here] at outside
  exact outside

theorem last_trimEndBy : ∀ c ∈ (trimEndBy p cs).getLast?, p c = false := by
  rw [trimEndBy, List.getLast?_reverse]
  exact first_dropWhile

theorem first_of_prefix {ds : List Char} (h : ds <+: cs) (first : ∀ c ∈ cs.head?, p c = false) :
    ∀ c ∈ ds.head?, p c = false := by
  obtain ⟨rest, rfl⟩ := h
  intro c here
  refine first c ?_
  rw [Option.mem_def] at here ⊢
  rw [List.head?_append, here, Option.some_or]

theorem trimmed_trimBy (p : Char → Bool) (cs : List Char) : Trimmed p (trimBy p cs) where
  first := first_of_prefix (List.rdropWhile_prefix p (cs.dropWhile p)) first_dropWhile
  last := last_trimEndBy

theorem dropWhile_of_first (first : ∀ c ∈ cs.head?, p c = false) : cs.dropWhile p = cs := by
  cases cs with
  | nil => rfl
  | cons c cs =>
    have outside := first c rfl
    rw [List.dropWhile_cons, if_neg (by rw [outside]; exact Bool.false_ne_true)]

theorem trimEndBy_of_last (last : ∀ c ∈ cs.getLast?, p c = false) : trimEndBy p cs = cs := by
  have first : ∀ c ∈ cs.reverse.head?, p c = false := by rwa [List.head?_reverse]
  rw [trimEndBy, dropWhile_of_first first, List.reverse_reverse]

theorem trimBy_of_trimmed (h : Trimmed p cs) : trimBy p cs = cs := by
  rw [trimBy, dropWhile_of_first h.first, trimEndBy_of_last h.last]

/-! ### Texts -/

theorem toList_trim (s : String) : (trim s).toList = trimBy isBlank s.toList :=
  String.toList_ofList

theorem toList_trimSlashes (s : String) : (trimSlashes s).toList = trimBy (· == '/') s.toList :=
  String.toList_ofList

theorem toList_trimEndSlashes (s : String) :
    (trimEndSlashes s).toList = trimEndBy (· == '/') s.toList :=
  String.toList_ofList

theorem trimSlashes_trimSlashes (s : String) : trimSlashes (trimSlashes s) = trimSlashes s := by
  rw [trimSlashes, toList_trimSlashes, trimBy_of_trimmed (trimmed_trimBy _ _)]
  rfl

theorem trimEndSlashes_trimEndSlashes (s : String) :
    trimEndSlashes (trimEndSlashes s) = trimEndSlashes s := by
  rw [trimEndSlashes, toList_trimEndSlashes, trimEndBy_of_last last_trimEndBy]
  rfl

end RunWatch.Text
