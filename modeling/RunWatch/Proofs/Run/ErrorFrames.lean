import RunWatch.Proofs.Json.Fields
import RunWatch.Proofs.Run.Errors
import RunWatch.Proofs.Run.Replays

/-!
# Frames that tell of an error

An error has two spellings of its text and two of its node. A payload that gives one of them under
both spellings is refused, and its error with it. Any other payload that tells of an error spoils
the run.
-/

namespace RunWatch

/-! ### Payloads -/

/-- An object tells of an error: a text under `error`, under `node_id` a text, `null` or nothing,
and the same under the other spellings that it gives. -/
structure TellsError (members : List (String × Json.Value)) (node : Option String)
    (text : String) : Prop where
  once : (members.map (·.1)).Nodup
  error : members.lookup "error" = some (.text text)
  node : members.lookup "node_id" = node.map .text ∨
    node = none ∧ members.lookup "node_id" = some .null
  textAgain : members.lookup "message" = none ∨ members.lookup "message" = some (.text text)
  nodeAgain : members.lookup "node" = none ∨ members.lookup "node" = members.lookup "node_id"

/-- An object gives the text or the node under both spellings. -/
def spellsTwice (members : List (String × Json.Value)) : Bool :=
  let gives (key : String) := (members.lookup key).isSome
  gives "error" && gives "message" || gives "node_id" && gives "node"

namespace RunEvent

open Json

def nodeField : Field := { name := "node_id", aliases := ["node"], trailing := true }

def errorField : Field := { name := "error", aliases := ["message"] }

theorem accepts_nodeField {key : String} :
    nodeField.accepts key = true ↔ key = "node_id" ∨ key = "node" := by
  simp [nodeField, Field.accepts]

theorem accepts_errorField {key : String} :
    errorField.accepts key = true ↔ key = "error" ∨ key = "message" := by
  simp [errorField, Field.accepts]

variable {members : List (String × Value)} {node : Option String} {text : String}

theorem errorField_of_twice (tells : TellsError members node text)
    (twice : (members.lookup "message").isSome = true) : errorField.find? members = none := by
  obtain ⟨other, given⟩ := Option.isSome_iff_exists.1 twice
  exact find?_of_two tells.error given (accepts_errorField.2 (.inl rfl))
    (accepts_errorField.2 (.inr rfl)) (by decide)

theorem errorField_of_once (tells : TellsError members node text)
    (once : members.lookup "message" = none) :
    errorField.find? members = some (some (.text text)) := by
  refine find?_of_one tells.once tells.error (accepts_errorField.2 (.inl rfl)) ?_
  intro other accepted differs
  rcases accepts_errorField.1 accepted with rfl | rfl
  · exact absurd rfl differs
  · exact once

theorem nodeField_of_twice {x y : Value} (given : members.lookup "node_id" = some x)
    (given' : members.lookup "node" = some y) : nodeField.find? members = none :=
  find?_of_two given given' (accepts_nodeField.2 (.inl rfl)) (accepts_nodeField.2 (.inr rfl))
    (by decide)

theorem nodeField_of_once (tells : TellsError members node text)
    (once : members.lookup "node" = none) :
    nodeField.find? members = some (members.lookup "node_id") := by
  cases given : members.lookup "node_id" with
  | some x =>
    refine find?_of_one tells.once given (accepts_nodeField.2 (.inl rfl)) ?_
    intro other accepted differs
    rcases accepts_nodeField.1 accepted with rfl | rfl
    · exact absurd rfl differs
    · exact once
  | none =>
    refine find?_of_absent fun key accepted => ?_
    rcases accepts_nodeField.1 accepted with rfl | rfl
    · exact given
    · exact once

theorem readError?_object (members : List (String × Value)) :
    readError? (Value.object members) =
      (pickMembers members [nodeField, errorField]).bind fun given =>
        (optional? string? given "node_id").bind fun node =>
          (required? string? given "error").bind fun text => some (.error node text) := rfl

theorem readError?_of_twice (tells : TellsError members node text)
    (twice : spellsTwice members = true) : readError? (Value.object members) = none := by
  have refused : pickMembers members [nodeField, errorField] = none := by
    simp only [spellsTwice, Bool.or_eq_true, Bool.and_eq_true] at twice
    rcases twice with ⟨-, message⟩ | ⟨node, again⟩
    · simp only [pickMembers, errorField_of_twice tells message]
      cases nodeField.find? members <;> rfl
    · obtain ⟨x, given⟩ := Option.isSome_iff_exists.1 node
      obtain ⟨y, given'⟩ := Option.isSome_iff_exists.1 again
      simp only [pickMembers, nodeField_of_twice given given']
      rfl
  rw [readError?_object, refused]
  rfl

theorem readError?_of_once (tells : TellsError members node text)
    (once : spellsTwice members = false) :
    readError? (Value.object members) = some (.error node text) := by
  have message : members.lookup "message" = none := by
    refine tells.textAgain.resolve_right fun given => ?_
    simp [spellsTwice, tells.error, given] at once
  have again : members.lookup "node" = none := by
    rcases tells.nodeAgain with absent | same
    · exact absent
    · cases given : members.lookup "node_id" with
      | none => exact same.trans given
      | some x => simp [spellsTwice, same, given] at once
  have picked : pickMembers members [nodeField, errorField] =
      some (((members.lookup "node_id").map (("node_id", ·))).toList ++ [("error", .text text)]) := by
    simp only [pickMembers, errorField_of_once tells message, nodeField_of_once tells again]
    cases members.lookup "node_id" <;> rfl
  rw [readError?_object, picked]
  rcases tells.node with given | ⟨rfl, given⟩
  · rw [given]
    cases node <;> rfl
  · rw [given]
    rfl

theorem ofFrame?_error {f : Frame} (kind : f.kind = "error" ∨ f.kind = "node_error") :
    ofFrame? f = readError? f.payload := by
  unfold ofFrame?
  rcases kind with kind | kind <;> simp [kind]

end RunEvent

/-! ### Runs that are told of an error -/

namespace RunState

open Change

/-- The run has an error, the step that it came from as well, and no success follows. -/
structure Spoiled (node : Option String) (text : String) (s : RunState) : Prop where
  error : s.error = some text
  step : ∀ n, node = some n → ∃ r, s.step? n = some r ∧ r.status = .failed ∧ r.error = some text
  stays : ∀ us, (s.after us).hasError = true
  unsuccessful : ∀ us, (s.after us).phase ≠ .succeeded

theorem spoiled_of_error {s : RunState} (takes : s.phase = .pending ∨ s.phase = .running)
    (node : Option String) (text : String) :
    Spoiled node text (applyEvent (.error node text) s).1 := by
  have clean : s.phase = .succeeded → s.hasError = false := by
    intro succeeded
    rcases takes with h | h <;> cases h.symm.trans succeeded
  have made : applyEvent (.error node text) s = recordError node text s := by
    rcases takes with h | h <;> simp [applyEvent, h, RunPhase.isTerminal, eventChange]
  have error : (applyEvent (.error node text) s).1.error = some text := by
    rw [made, error_recordError]
  have stays (us : List Update) :
      ((applyEvent (.error node text) s).1.after us).hasError = true := by
    rw [hasError, error_after (by rw [error]; rfl) us, Bool.true_or]
  refine ⟨error, ?_, stays, ?_⟩
  · rintro n rfl
    rw [made]
    exact keeps_setError
      (p := fun t => ∃ r, t.step? n = some r ∧ r.status = .failed ∧ r.error = some text)
      (fun _ _ h => h) text _ ((settles_failStep text n).reached s)
  · intro us succeeded
    have known := clean_after (clean_change clean (.event (.error node text))) us succeeded
    cases (stays us).symm.trans known

/-- A frame that tells of an error spoils the run, unless it says one thing under two spellings:
then it is dropped. -/
theorem errors_count_unless_spelt_twice {f : Frame} {members : List (String × Json.Value)}
    {node : Option String} {text : String} (kind : f.kind = "error" ∨ f.kind = "node_error")
    (payload : f.payload = .object members) (tells : TellsError members node text) :
    (RunEvent.ofFrame? f = if spellsTwice members then none else some (.error node text)) ∧
    (spellsTwice members = false → ∀ s : RunState, s.phase = .pending ∨ s.phase = .running →
      Spoiled node text (whenSome (RunEvent.ofFrame? f) applyEvent s).1) := by
  have read := (RunEvent.ofFrame?_error kind).trans (congrArg RunEvent.readError? payload)
  cases twice : spellsTwice members with
  | true => exact ⟨read.trans (RunEvent.readError?_of_twice tells twice), nofun⟩
  | false =>
    have event := read.trans (RunEvent.readError?_of_once tells twice)
    refine ⟨event, fun _ s takes => ?_⟩
    rw [event]
    exact spoiled_of_error takes node text

/-- A report with a field that nobody knows spoils the run. -/
theorem report_with_unknown_field_spoils :
    let members : List (String × Json.Value) :=
      [("code", .bool true), ("error", .text "boom"), ("node_id", .text "a")]
    let f : Frame := { kind := "node_error", payload := .object members }
    let s : RunState := { phase := .running, id := some ⟨"r1"⟩ }
    TellsError members (some "a") "boom" ∧ spellsTwice members = false ∧ s.phase = .running ∧
      Spoiled (some "a") "boom" (whenSome (RunEvent.ofFrame? f) applyEvent s).1 := by
  intro members f s
  have tells : TellsError members (some "a") "boom" :=
    ⟨by decide, by decide, .inl (by decide), .inl (by decide), .inl (by decide)⟩
  exact ⟨tells, by decide, rfl,
    (errors_count_unless_spelt_twice (f := f) (.inr rfl) rfl tells).2 (by decide) s (.inr rfl)⟩

/-- The same text under `error` and `message`: the report is lost, and the run succeeds. -/
theorem report_spelt_twice_is_lost :
    let members : List (String × Json.Value) :=
      [("error", .text "boom"), ("message", .text "boom"), ("node_id", .text "a")]
    let f : Frame := { kind := "error", payload := .object members }
    let s : RunState := (applyEvent (.start none (some "a")) (placeholder ⟨"build"⟩)).1
    let t := (whenSome (RunEvent.ofFrame? f) applyEvent s).1
    TellsError members (some "a") "boom" ∧ s.phase = .running ∧ RunEvent.ofFrame? f = none ∧
      t.error = none ∧ (t.after [.event (.finished none)]).phase = .succeeded := by
  intro members f s t
  exact ⟨⟨by decide, by decide, .inl (by decide), .inr (by decide), .inl (by decide)⟩,
    by decide +kernel, by decide +kernel, by decide +kernel, by decide +kernel⟩

end RunState

end RunWatch
