import RunWatch.Proofs.Text.Trimming
import RunWatch.Settings.Config

/-!
# Slashes in addresses

Addresses are formed from texts without their outer slashes, so it does not show how many there
were. Two slashes in a row come from a text that has them inside, and from a text that is nothing
but slashes where another one follows it.
-/

namespace RunWatch

namespace Text

/-! ### Two slashes in a row -/

def Doubled (cs : List Char) : Prop :=
  ['/', '/'] <:+: cs

instance (cs : List Char) : Decidable (Doubled cs) :=
  inferInstanceAs (Decidable (['/', '/'] <:+: cs))

variable {a b part rest : List Char}

theorem doubled_append :
    Doubled (a ++ b) ↔ Doubled a ∨ Doubled b ∨ a.getLast? = some '/' ∧ b.head? = some '/' := by
  constructor
  · intro h
    rcases List.infix_append_iff.1 h with inside | inside | ⟨l, r, cut, ends, begins⟩
    · exact .inl inside
    · exact .inr (.inl inside)
    -- The two slashes are cut before, between or behind them.
    · match l, r, cut with
      | [], _, rfl => exact .inr (.inl begins.isInfix)
      | [_], _, rfl =>
        obtain ⟨_, rfl⟩ := ends
        obtain ⟨_, rfl⟩ := begins
        exact .inr (.inr ⟨List.getLast?_concat, rfl⟩)
      | [_, _], [], rfl => exact .inl ends.isInfix
  · rintro (inside | inside | ⟨ends, begins⟩)
    · exact inside.trans (List.prefix_append a b).isInfix
    · exact inside.trans (List.suffix_append a b).isInfix
    · obtain ⟨front, rfl⟩ := List.getLast?_eq_some_iff.1 ends
      obtain ⟨back, rfl⟩ := List.head?_eq_some_iff.1 begins
      exact ⟨front, back, by simp⟩

/-- Behind a slash, a text without outer slashes adds none next to another one, unless it is
empty. -/
theorem doubled_part (trimmed : Trimmed (· == '/') part) :
    Doubled ('/' :: part ++ rest) ↔
      Doubled part ∨ Doubled rest ∨ part = [] ∧ rest.head? = some '/' := by
  have first : part.head? ≠ some '/' := fun here => nomatch trimmed.first '/' here
  have last : part.getLast? ≠ some '/' := fun here => nomatch trimmed.last '/' here
  have inside : Doubled ('/' :: part) ↔ Doubled part := by
    have alone : ¬Doubled ['/'] := by decide
    rw [← List.singleton_append, doubled_append]
    simp only [alone, first, and_false, false_or, or_false]
  have ends : ('/' :: part).getLast? = some '/' ↔ part = [] := by
    cases part with
    | nil => exact iff_of_true rfl rfl
    | cons c cs =>
      rw [List.getLast?_cons_cons]
      exact iff_of_false last nofun
  rw [doubled_append, inside, ends]

/-- The parts of an address, each behind a slash. -/
def joined (parts : List (List Char)) : List Char :=
  parts.flatMap ('/' :: ·)

theorem doubled_joined {parts : List (List Char)}
    (trimmed : ∀ part ∈ parts, Trimmed (· == '/') part) :
    Doubled (joined parts) ↔ (∃ part ∈ parts, Doubled part) ∨ [] ∈ parts.dropLast := by
  induction parts with
  | nil => simp [joined, Doubled]
  | cons part parts ih =>
    have before : Doubled (joined (part :: parts)) ↔ Doubled part ∨ Doubled (joined parts) ∨
        part = [] ∧ (joined parts).head? = some '/' :=
      doubled_part (trimmed part List.mem_cons_self)
    rw [before, ih fun p member => trimmed p (List.mem_cons_of_mem _ member)]
    cases parts with
    | nil => simp [joined]
    | cons next parts =>
      have follows : (joined (next :: parts)).head? = some '/' := rfl
      have inside : (∃ p ∈ part :: next :: parts, Doubled p) ↔
          Doubled part ∨ ∃ p ∈ next :: parts, Doubled p := List.exists_mem_cons_iff ..
      rw [inside, List.dropLast_cons_cons, List.mem_cons, eq_comm (a := []), and_iff_left follows]
      simp only [or_assoc, or_comm (a := part = [])]

/-- The text has two slashes in a row, its outer ones aside. -/
def Gapped (s : String) : Prop :=
  Doubled (trimSlashes s).toList

instance (s : String) : Decidable (Gapped s) :=
  inferInstanceAs (Decidable (Doubled _))

theorem trimSlashes_of_not_mem {s : String} (free : '/' ∉ s.toList) : trimSlashes s = s := by
  have outside (c : Char) (here : c ∈ s.toList) : (c == '/') = false :=
    beq_eq_false_iff_ne.2 fun same => free (same ▸ here)
  have trimmed : Trimmed (· == '/') s.toList :=
    ⟨fun c first => outside c (List.mem_of_head? first),
      fun c last => outside c (List.mem_of_getLast? last)⟩
  rw [trimSlashes, trimBy_of_trimmed trimmed, String.ofList_toList]

theorem not_gapped_of_not_mem {s : String} (free : '/' ∉ s.toList) : ¬Gapped s := by
  rw [Gapped, trimSlashes_of_not_mem free]
  exact fun inside => free (inside.subset List.mem_cons_self)

/-! ### Schemes -/

/-- The scheme of an address, with what sets it off. It is empty if the address has none. -/
def schemeOf (cs : List Char) : List Char :=
  let name := cs.takeWhile fun c => c ≠ ':' && c ≠ '/'
  if "://".toList <+: cs.drop name.length then name ++ "://".toList else []

theorem schemeOf_prefix (cs : List Char) : schemeOf cs <+: cs := by
  unfold schemeOf
  generalize named : cs.takeWhile (fun c => c ≠ ':' && c ≠ '/') = name
  dsimp only
  split
  · rename_i marked
    obtain ⟨rest, split⟩ := marked
    obtain ⟨back, rfl⟩ : name <+: cs := named ▸ List.takeWhile_prefix _
    rw [List.drop_left] at split
    exact ⟨rest, by rw [List.append_assoc, split]⟩
  · exact List.nil_prefix

end Text

open Text

/-- The id without the slashes at its ends. -/
def RunId.trimmed (id : RunId) : RunId :=
  ⟨trimSlashes id.text⟩

namespace Config

variable (c : Config)

/-- The base without the slashes at its end. -/
def base : String :=
  trimEndSlashes c.baseUrl

/-- The configuration with its texts stripped of their outer slashes. -/
def trimmed : Config :=
  { c with
    baseUrl := c.base, streamPath := trimSlashes c.streamPath, runsPath := trimSlashes c.runsPath }

/-- Behind the scheme of the base, an address has two slashes in a row. -/
def Doubles (address : String) : Prop :=
  Doubled (address.toList.drop (schemeOf c.base.toList).length)

instance (address : String) : Decidable (c.Doubles address) :=
  inferInstanceAs (Decidable (Doubled _))

/-! ### How addresses are formed -/

/-- The address has these texts behind the base, without their outer slashes. -/
def Forms (address : String) (parts : List String) : Prop :=
  address.toList = c.base.toList ++ joined (parts.map fun s => (trimSlashes s).toList)

variable {c}

theorem Forms.append {address : String} {parts : List String} (h : c.Forms address parts)
    (part : String) : c.Forms (address ++ "/" ++ trimSlashes part) (parts ++ [part]) := by
  have e : address.toList = _ := h
  simp [Forms, joined, String.toList_append, e]

/-- A word without slashes stands in the address as it is. -/
theorem Forms.append_word {address word : String} {parts : List String}
    (h : c.Forms address parts) (free : '/' ∉ word.toList) :
    c.Forms (address ++ ("/" ++ word)) (parts ++ [word]) := by
  rw [← String.append_assoc, ← trimSlashes_of_not_mem free]
  simpa only [trimSlashes_trimSlashes] using h.append (trimSlashes word)

theorem forms_join (path : String) : c.Forms (c.join path) [path] := by
  have bare : c.Forms c.base [] := by simp [Forms, joined]
  exact bare.append path

theorem forms_runUrl (id : RunId) : c.Forms (c.runUrl id) [c.runsPath, id.text] :=
  (forms_join c.runsPath).append id.text

theorem forms_commandUrl (id : RunId) {command : String} (free : '/' ∉ command.toList) :
    c.Forms (c.commandUrl id command) [c.runsPath, id.text, command] := by
  rw [commandUrl, String.append_assoc]
  exact (forms_runUrl id).append_word free

/-- A status with an address of its own is found like a command. -/
theorem statusUrl_of_suffix (h : c.statusSuffix = true) (id : RunId) :
    c.statusUrl id = c.commandUrl id "status" := by
  have word : "/status" = "/" ++ "status" := rfl
  rw [statusUrl, if_pos h, word, commandUrl, String.append_assoc]

theorem forms_patchUrl (resource : String) : c.Forms (c.patchUrl resource) [resource, "patch"] := by
  have free : '/' ∉ "patch".toList := by decide
  have word : "/patch" = "/" ++ "patch" := rfl
  rw [patchUrl, word]
  exact (forms_join resource).append_word free

/-- What stands behind the scheme of the base does not end in a slash. -/
theorem exists_behind_scheme (c : Config) : ∃ rest, rest.getLast? ≠ some '/' ∧
    ∀ tail, (c.base.toList ++ tail).drop (schemeOf c.base.toList).length = rest ++ tail := by
  obtain ⟨rest, split⟩ := schemeOf_prefix c.base.toList
  refine ⟨rest, fun ends => ?_, fun tail => ?_⟩
  · have slash : c.base.toList.getLast? = some '/' := by
      rw [← split, List.getLast?_append, ends, Option.some_or]
    rw [base, toList_trimEndSlashes] at slash
    exact nomatch last_trimEndBy '/' slash
  · calc (c.base.toList ++ tail).drop (schemeOf c.base.toList).length
        = (schemeOf c.base.toList ++ rest ++ tail).drop (schemeOf c.base.toList).length := by
          rw [split]
      _ = rest ++ tail := by rw [List.append_assoc, List.drop_left]

theorem Forms.doubles_iff {address : String} {parts : List String} (h : c.Forms address parts) :
    c.Doubles address ↔ c.Doubles c.base ∨ (∃ s ∈ parts, Gapped s) ∨
      ∃ s ∈ parts.dropLast, trimSlashes s = "" := by
  obtain ⟨rest, ends, behind⟩ := exists_behind_scheme c
  have own : c.Doubles c.base ↔ Doubled rest := by
    have bare := behind []
    rw [List.append_nil, List.append_nil] at bare
    rw [Doubles, bare]
  have trimmed : ∀ part ∈ parts.map fun s => (trimSlashes s).toList, Trimmed (· == '/') part := by
    intro part member
    obtain ⟨s, -, rfl⟩ := List.mem_map.1 member
    rw [toList_trimSlashes]
    exact trimmed_trimBy _ _
  have empty : [] ∈ (parts.map fun s => (trimSlashes s).toList).dropLast ↔
      ∃ s ∈ parts.dropLast, trimSlashes s = "" := by
    rw [← List.map_dropLast, List.mem_map]
    simp only [String.toList_eq_nil_iff]
  rw [own, Doubles, h, behind, doubled_append, doubled_joined trimmed, empty]
  simp only [ends, false_and, or_false, Gapped, List.mem_map, exists_exists_and_eq_and]

/-! ### Outer slashes -/

theorem join_trimmed (path : String) : c.trimmed.join (trimSlashes path) = c.join path := by
  rw [join, trimmed, base, trimEndSlashes_trimEndSlashes, trimSlashes_trimSlashes, join]

theorem runUrl_trimmed (id : RunId) : c.trimmed.runUrl id.trimmed = c.runUrl id := by
  rw [runUrl, RunId.trimmed, trimSlashes_trimSlashes, runUrl, ← join_trimmed c.runsPath]
  rfl

/-- Addresses are those of the texts without their outer slashes. Behind the scheme, the one of the
stream has two slashes in a row only if the base or its path has them inside. The others have them
as well where the runs path, the resource or, with something behind it, the id is nothing but
slashes. -/
theorem addresses_double_iff (c : Config) (id : RunId) (resource : String) (command : RunCommand) :
    (c.trimmed.streamUrl = c.streamUrl ∧ c.trimmed.statusUrl id.trimmed = c.statusUrl id ∧
      c.trimmed.commandUrl id.trimmed command.text = c.commandUrl id command.text ∧
      c.trimmed.patchUrl (trimSlashes resource) = c.patchUrl resource) ∧
    (c.Doubles c.streamUrl ↔ c.Doubles c.base ∨ Gapped c.streamPath) ∧
    (c.Doubles (c.statusUrl id) ↔
      c.Doubles c.base ∨ Gapped c.runsPath ∨ Gapped id.text ∨
        trimSlashes c.runsPath = "" ∨ c.statusSuffix = true ∧ trimSlashes id.text = "") ∧
    (c.Doubles (c.commandUrl id command.text) ↔
      c.Doubles c.base ∨ Gapped c.runsPath ∨ Gapped id.text ∨
        trimSlashes c.runsPath = "" ∨ trimSlashes id.text = "") ∧
    (c.Doubles (c.patchUrl resource) ↔
      c.Doubles c.base ∨ Gapped resource ∨ trimSlashes resource = "") := by
  have free : '/' ∉ command.text.toList := by cases command <;> decide
  refine ⟨⟨join_trimmed _, ?_, ?_, ?_⟩, ?_, ?_, ?_, ?_⟩
  · simp only [statusUrl, runUrl_trimmed]
    rfl
  · rw [commandUrl, runUrl_trimmed, commandUrl]
  · rw [patchUrl, join_trimmed, patchUrl]
  · rw [streamUrl, (forms_join c.streamPath).doubles_iff]
    simp
  · cases suffix : c.statusSuffix with
    | false =>
      have bare : c.statusUrl id = c.runUrl id := if_neg (by rw [suffix]; exact Bool.false_ne_true)
      rw [bare, (forms_runUrl id).doubles_iff]
      simp [or_assoc]
    | true =>
      have word : '/' ∉ "status".toList := by decide
      rw [statusUrl_of_suffix suffix, (forms_commandUrl id word).doubles_iff]
      simp [or_assoc, not_gapped_of_not_mem word]
  · rw [(forms_commandUrl id free).doubles_iff]
    simp [or_assoc, not_gapped_of_not_mem free]
  · have word : '/' ∉ "patch".toList := by decide
    rw [(forms_patchUrl resource).doubles_iff]
    simp [not_gapped_of_not_mem word]

/-- Runs below the root, where the path is a single slash. -/
theorem runs_below_root_are_doubled :
    let c : Config := { baseUrl := "http://h", runsPath := "/" }
    ¬c.Doubles c.base ∧ ¬Gapped c.runsPath ∧ ¬Gapped "r1" ∧
      c.statusUrl ⟨"r1"⟩ = "http://h//r1" ∧ c.Doubles (c.statusUrl ⟨"r1"⟩) := by
  decide +kernel

end Config

end RunWatch
