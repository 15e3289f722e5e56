import Mathlib.Data.List.Perm.Basic
import Mathlib.Data.List.Nodup
import RunWatch.Json.Record

/-!
# Fields of an object

How the fields of a record are found among the members of an object. A record that is written with
its fields as members has each of them found again, wherever its key puts it.
-/

namespace RunWatch.Json

section

variable {α : Type} {f : Field} {members : List (String × α)} {key key' : String} {x y : α}

theorem mem_of_lookup (given : members.lookup key = some x) : (key, x) ∈ members := by
  obtain ⟨before, after, split, -⟩ := List.lookup_eq_some_iff.1 given
  rw [split]
  exact List.mem_append_right _ List.mem_cons_self

theorem not_mem_of_lookup (absent : members.lookup key = none) : (key, x) ∉ members := by
  intro here
  have differs := List.lookup_eq_none_iff.1 absent (key, x) here
  simp at differs

theorem find?_of_absent (absent : ∀ key, f.accepts key = true → members.lookup key = none) :
    f.find? members = some none := by
  have nothing : members.filter (fun m => f.accepts m.1) = [] := by
    refine List.filter_eq_nil_iff.2 fun m here accepted => ?_
    exact not_mem_of_lookup (absent m.1 accepted) here
  rw [Field.find?, nothing]

/-- Two spellings are refused, whatever they say. -/
theorem find?_of_two (given : members.lookup key = some x) (given' : members.lookup key' = some y)
    (accepted : f.accepts key = true) (accepted' : f.accepts key' = true) (differs : key ≠ key') :
    f.find? members = none := by
  have first : (key, x) ∈ members.filter (fun m => f.accepts m.1) :=
    List.mem_filter.2 ⟨mem_of_lookup given, accepted⟩
  have second : (key', y) ∈ members.filter (fun m => f.accepts m.1) :=
    List.mem_filter.2 ⟨mem_of_lookup given', accepted'⟩
  unfold Field.find?
  generalize members.filter (fun m => f.accepts m.1) = found at first second
  match found with
  | [] => cases first
  | [m] =>
    rw [List.mem_singleton] at first second
    exact absurd (congrArg Prod.fst (first.trans second.symm)) differs
  | _ :: _ :: _ => rfl

theorem find?_of_one (once : (members.map (·.1)).Nodup) (given : members.lookup key = some x)
    (accepted : f.accepts key = true)
    (alone : ∀ other, f.accepts other = true → other ≠ key → members.lookup other = none) :
    f.find? members = some (some x) := by
  have here : (key, x) ∈ members.filter (fun m => f.accepts m.1) :=
    List.mem_filter.2 ⟨mem_of_lookup given, accepted⟩
  have named : ∀ m ∈ members.filter (fun m => f.accepts m.1), m.1 = key := by
    intro m found
    rw [List.mem_filter] at found
    refine Decidable.byContradiction fun other => ?_
    exact not_mem_of_lookup (alone m.1 found.2 other) found.1
  have distinct : ((members.filter (fun m => f.accepts m.1)).map (·.1)).Nodup :=
    once.sublist (List.filter_sublist.map _)
  unfold Field.find?
  generalize members.filter (fun m => f.accepts m.1) = found at here named distinct
  match found with
  | [] => cases here
  | [m] =>
    rw [List.mem_singleton] at here
    rw [← here]
  | m :: m' :: _ =>
    have same : m.1 = m'.1 := (named m (by simp)).trans (named m' (by simp)).symm
    simp [same] at distinct

theorem lookup_of_mem (once : (members.map (·.1)).Nodup) (here : (key, x) ∈ members) :
    members.lookup key = some x := by
  induction members with
  | nil => cases here
  | cons m members ih =>
    obtain ⟨absent, once⟩ := List.nodup_cons.1 once
    rcases List.mem_cons.1 here with rfl | later
    · exact List.lookup_cons_self
    · have other : key ≠ m.1 := by
        rintro rfl
        exact absent (List.mem_map.2 ⟨_, later, rfl⟩)
      rw [List.lookup_cons, beq_eq_false_iff_ne.2 other]
      exact ih once later

end

/-! ### Objects as they are written -/

variable {members : List (String × Value)}

theorem insertMember_perm {key : String} {x : Value} (new : key ∉ members.map (·.1)) :
    (insertMember key x members).Perm ((key, x) :: members) := by
  induction members with
  | nil => exact .refl _
  | cons m members ih =>
    obtain ⟨other, later⟩ := List.ne_and_not_mem_of_not_mem_cons new
    by_cases first : key < m.1
    · rw [insertMember, if_pos first]
    · rw [insertMember, if_neg first, if_neg other]
      exact ((ih later).cons m).trans (.swap _ _ _)

theorem foldl_insertMember_perm {before : List (String × Value)}
    (once : ((before ++ members).map (·.1)).Nodup) :
    (members.foldl (fun acc (k, v) => insertMember k v acc) before).Perm (before ++ members) := by
  induction members generalizing before with
  | nil => exact .of_eq (List.append_nil before).symm
  | cons m members ih =>
    have new : m.1 ∉ before.map (·.1) := by
      intro known
      rw [List.map_append, List.nodup_append] at once
      exact once.2.2 m.1 known m.1 List.mem_cons_self rfl
    have moved : (insertMember m.1 m.2 before ++ members).Perm (before ++ m :: members) :=
      ((insertMember_perm new).append_right members).trans List.perm_middle.symm
    exact (ih ((moved.map _).nodup_iff.2 once)).trans moved

/-- The members of an object are those that it was made of, if no key came twice. -/
theorem exists_members (once : (members.map (·.1)).Nodup) :
    ∃ sorted, Value.ofMembers members = .object sorted ∧ sorted.Perm members :=
  ⟨_, rfl, foldl_insertMember_perm once⟩

/-! ### Records as they are written -/

/-- A field with a single spelling, which must not be left out. -/
def Field.plain (name : String) : Field := { name }

theorem accepts_plain {name key : String} : (Field.plain name).accepts key = true ↔ key = name := by
  simp [Field.plain, Field.accepts]

/-- Fields with a single spelling are found among the members, in the order in which they are asked
for. -/
theorem pickMembers_of_mem {wanted : List (String × Value)} (once : (members.map (·.1)).Nodup)
    (given : ∀ m ∈ wanted, m ∈ members) :
    pickMembers members (wanted.map fun m => .plain m.1) = some wanted := by
  induction wanted with
  | nil => rfl
  | cons m wanted ih =>
    have found : (Field.plain m.1).find? members = some (some m.2) := by
      refine find?_of_one once (lookup_of_mem once (given m List.mem_cons_self))
        (accepts_plain.2 rfl) fun key accepted other => ?_
      exact absurd (accepts_plain.1 accepted) other
    have rest := ih fun m' here => given m' (List.mem_cons_of_mem m here)
    rw [List.map_cons, pickMembers, found, rest]
    rfl

/-- A record that is written with its fields as members is read back. -/
theorem fields?_ofMembers (once : (members.map (·.1)).Nodup) :
    fields? (members.map fun m => .plain m.1) (Value.ofMembers members) = some members := by
  obtain ⟨sorted, made, perm⟩ := exists_members once
  have found := pickMembers_of_mem ((perm.map _).nodup_iff.2 once) fun m here => perm.mem_iff.2 here
  rw [made]
  exact found

/-! ### Kinds of fields -/

theorem nullable?_of_ne_null {β : Type} {read : Value → Option β} {v : Value} (other : v ≠ .null) :
    nullable? read v = (read v).map some := by
  cases v with
  | null => exact absurd rfl other
  | bool | number | text | array | object => rfl

/-- An optional field is read back, if `null` stands for nothing but none. -/
theorem nullable?_orNull {β : Type} (read : Value → Option β) (write : β → Value) (kept : β → Bool)
    (back : ∀ b, kept b = true → write b ≠ .null ∧ read (write b) = some b)
    (lost : ∀ b, kept b = false → write b = .null) (b : Option β) :
    nullable? read (orNull write b) = some (b.filter kept) := by
  cases b with
  | none => rfl
  | some b =>
    cases held : kept b with
    | false =>
      rw [orNull, lost b held, Option.filter_some_neg held]
      rfl
    | true =>
      obtain ⟨other, same⟩ := back b held
      rw [orNull, nullable?_of_ne_null other, same, Option.filter_some_pos held]
      rfl

theorem nullable?_of_written {β : Type} (read : Value → Option β) (write : β → Value)
    (back : ∀ b, write b ≠ .null ∧ read (write b) = some b) (b : Option β) :
    nullable? read (orNull write b) = some b := by
  cases b with
  | none => rfl
  | some b =>
    obtain ⟨other, same⟩ := back b
    rw [orNull, nullable?_of_ne_null other, same]
    rfl

theorem nullable?_text (s : Option String) : nullable? string? (orNull .text s) = some s :=
  nullable?_of_written string? .text (fun _ => ⟨by simp, rfl⟩) s

theorem each?_map {β : Type} {write : β → Value} {read : Value → Option β} {f : β → β}
    (back : ∀ b, read (write b) = some (f b)) (bs : List β) :
    each? read (bs.map write) = some (bs.map f) := by
  induction bs with
  | nil => rfl
  | cons b bs ih =>
    rw [List.map_cons, each?, back, ih]
    rfl

end RunWatch.Json
