import RunWatch.Proofs.Run.Replays

/-!
# What transitions tell

Whoever owns the state of a run goes by the transition of a change, not by the states before and
after it. A change shows itself in a field if it tells of a change only when that field has another
value, and leaves the whole state alone when it tells of none. The parts of an event or of a
snapshot show themselves in fields of their own, and no later part undoes what an earlier one has
shown.
-/

namespace RunWatch

namespace Change

/-- The change tells of a change just when it has made one, and then the field tells it too. -/
structure Shows {α : Type} (f : Change) (field : RunState → α) : Prop where
  idle : ∀ s, (f s).2.changed = false → (f s).1 = s
  seen : ∀ s, (f s).2.changed = true → field (f s).1 ≠ field s

variable {α β : Type} {f g : Change} {p : RunState → α} {q : RunState → β}

theorem Shows.changed_iff (h : f.Shows p) (s : RunState) :
    (f s).2.changed = true ↔ (f s).1 ≠ s := by
  refine ⟨fun changed same => h.seen s changed (congrArg p same), fun other => ?_⟩
  cases told : (f s).2.changed with
  | true => rfl
  | false => exact absurd (h.idle s told) other

theorem shows_of_cases
    (h : ∀ s, f s = (s, {}) ∨ (f s).2.changed = true ∧ p (f s).1 ≠ p s) : f.Shows p := by
  refine ⟨fun s unchanged => ?_, fun s changed => ?_⟩
  · rcases h s with same | ⟨changed, -⟩
    · rw [same]
    · cases unchanged.symm.trans changed
  · rcases h s with same | ⟨-, other⟩
    · rw [same] at changed
      cases changed
    · exact other

/-- What the first change shows is kept by the second one. If the first one shows nothing, it has
left the state to the second one as it was. -/
theorem Shows.andThen (hf : f.Shows p) (hg : g.Shows q) (kept : ∀ a, g.Keeps fun s => p s = a) :
    (f.andThen g).Shows fun s => (p s, q s) where
  idle s unchanged := by
    rw [andThen_apply, Transition.join, Bool.or_eq_false_iff] at unchanged
    exact (hg.idle _ unchanged.2).trans (hf.idle s unchanged.1)
  seen s changed same := by
    obtain ⟨first, second⟩ := Prod.mk.inj same
    rw [andThen_apply] at changed first second
    cases before : (f s).2.changed with
    | true =>
      rw [kept _ (f s).1 rfl] at first
      exact hf.seen s before first
    | false =>
      rw [Transition.join, before, Bool.false_or] at changed
      rw [hf.idle s before] at changed second
      exact hg.seen s changed second

theorem shows_skip (p : RunState → α) : skip.Shows p :=
  shows_of_cases fun _ => .inl rfl

theorem shows_whenSome {γ : Type} {f : γ → Change} (hf : ∀ a, (f a).Shows p) (a? : Option γ) :
    (whenSome a? f).Shows p := by
  cases a? with
  | none => exact shows_skip p
  | some a => exact hf a

end Change

namespace RunState

open Change

/-! ### Changes of one field -/

theorem shows_setPhase (p : RunPhase) : (setPhase p).Shows phase := by
  refine shows_of_cases fun s => ?_
  unfold setPhase
  split
  · exact .inl rfl
  · rename_i other
    exact .inr ⟨rfl, Ne.symm other⟩

theorem shows_moveFrom {p q : RunPhase} (h : q ≠ p) : (moveFrom p q).Shows phase := by
  refine shows_of_cases fun s => ?_
  unfold moveFrom
  split
  · rename_i here
    rw [setPhase, if_neg (by rw [here]; exact Ne.symm h)]
    exact .inr ⟨rfl, by rw [here]; exact h⟩
  · exact .inl rfl

theorem shows_adoptRunId (given : Option RunId) : (adoptRunId given).Shows id := by
  refine shows_of_cases fun s => ?_
  unfold adoptRunId
  split
  · rename_i unnamed
    exact .inr ⟨rfl, by rw [unnamed]; nofun⟩
  · exact .inl rfl

theorem shows_adoptWorkflowId (given : Option WorkflowId) :
    (adoptWorkflowId given).Shows workflowId := by
  refine shows_of_cases fun s => ?_
  unfold adoptWorkflowId
  split
  · rename_i unnamed
    exact .inr ⟨rfl, by rw [unnamed]; nofun⟩
  · exact .inl rfl

/-- A progress that counts as another one is another one. -/
theorem shows_setProgress (x : Option Float) : (setProgress x).Shows progress := by
  refine shows_of_cases fun s => ?_
  unfold setProgress
  split
  · rename_i x
    split
    · exact .inl rfl
    · rename_i finite
      split
      · exact .inl rfl
      · rename_i other
        refine .inr ⟨rfl, fun same => other ?_⟩
        rw [← same]
        exact percent_beq_self (Bool.not_eq_false _ ▸ finite)
  · exact .inl rfl

theorem shows_setError (e : String) : (setError e).Shows error := by
  refine shows_of_cases fun s => ?_
  unfold setError
  split
  · exact .inl rfl
  · rename_i other
    exact .inr ⟨rfl, Ne.symm other⟩

theorem shows_setCurrentStep (node : String) : (setCurrentStep node).Shows currentStep := by
  refine shows_of_cases fun s => ?_
  unfold setCurrentStep
  split
  · exact .inl rfl
  · rename_i other
    exact .inr ⟨rfl, Ne.symm other⟩

/-! ### Changes of the ledger -/

/-- One record more is another ledger. -/
theorem concat_ne_self (steps : List StepRecord) (r : StepRecord) : steps ++ [r] ≠ steps :=
  fun same => List.cons_ne_nil r [] (List.append_right_eq_self.1 same)

/-- Another record of a node is another ledger. -/
theorem updateStep_ne_self {s : RunState} {node : String} {r : StepRecord}
    (known : s.step? node = some r) {f : StepRecord → StepRecord} (named : (f r).node = r.node)
    (other : f r ≠ r) : updateStep node f s.steps ≠ s.steps := by
  intro same
  have updated := step?_updateStep known named
  rw [same] at updated
  exact other (Option.some.inj (updated.symm.trans known))

theorem shows_openStep (node : String) (status : StepStatus) (origin : StepOrigin) :
    (openStep node status origin).Shows steps := by
  refine shows_of_cases fun s => ?_
  unfold openStep
  split
  · exact .inl rfl
  · exact .inr ⟨rfl, concat_ne_self _ _⟩

theorem shows_enterStep (origin : StepOrigin) (node : String) :
    (enterStep origin node).Shows fun s => (s.currentStep, s.steps) :=
  (shows_setCurrentStep node).andThen (shows_openStep node .running origin) fun _ =>
    keeps_openStep (fun _ _ h => h) node .running origin

theorem shows_completeStep (node : String) (output : Option Json.Value) :
    (completeStep node output).Shows steps := by
  refine shows_of_cases fun s => ?_
  unfold completeStep
  split
  · rename_i r known
    split
    · exact .inl rfl
    · rename_i incomplete
      refine .inr ⟨rfl, updateStep_ne_self known rfl fun same => incomplete ?_⟩
      rw [← same]
  · exact .inr ⟨rfl, concat_ne_self _ _⟩

theorem shows_failStep (error node : String) : (failStep error node).Shows steps := by
  refine shows_of_cases fun s => ?_
  unfold failStep
  split
  · rename_i r known
    split
    · exact .inl rfl
    · rename_i unfailed
      refine .inr ⟨rfl, updateStep_ne_self known rfl fun same => unfailed ?_⟩
      rw [← same]
      exact ⟨rfl, rfl⟩
  · exact .inr ⟨rfl, concat_ne_self _ _⟩

/-! ### Events and snapshots -/

/-- The parts of an event show themselves in fields of their own, so nothing that is shown is
undone. -/
theorem changed_eventChange (e : RunEvent) (s : RunState) :
    (eventChange e s).2.changed = true ↔ (eventChange e s).1 ≠ s := by
  cases e with
  | start id node =>
    have confirmed := (shows_adoptRunId id).andThen
      (shows_moveFrom (p := .pending) (q := .running) nofun) fun _ =>
        keeps_moveFrom (fun _ _ h => h) _ _
    have entered := confirmed.andThen (shows_whenSome (shows_enterStep .live) node) fun _ =>
      keeps_whenSome (keeps_enterStep (fun _ _ h => h) (fun _ _ h => h) .live) node
    exact entered.changed_iff s
  | progress x node =>
    have along := (shows_setProgress x).andThen
      (shows_whenSome (shows_enterStep .inferred) node) fun _ =>
        keeps_whenSome (keeps_enterStep (fun _ _ h => h) (fun _ _ h => h) .inferred) node
    exact along.changed_iff s
  | complete node output => exact (shows_completeStep node output).changed_iff s
  | error node error =>
    have recorded := (shows_whenSome (shows_failStep error) node).andThen (shows_setError error)
      fun _ => keeps_setError (fun _ _ h => h) error
    exact recorded.changed_iff s
  | finished status =>
    obtain ⟨p, -, same⟩ := eventChange_finished status s
    rw [same]
    exact (shows_setPhase p).changed_iff s
  | paused => exact (shows_moveFrom (p := .running) (q := .paused) nofun).changed_iff s
  | cancelled => exact (shows_setPhase .cancelled).changed_iff s
  | unknown => exact (shows_skip phase).changed_iff s

/-- What a snapshot says beside the status. -/
theorem shows_reported (p : RunSnapshot) : ∃ (α : Type) (field : RunState → α),
    ((adoptRunId p.runId).andThen (reportChange p)).Shows field ∧
      ∀ s q, field { s with phase := q } = field s := by
  have named := (shows_adoptRunId p.runId).andThen (shows_adoptWorkflowId p.workflowId) fun _ =>
    keeps_adoptWorkflowId (fun _ _ h => h) _
  have along := named.andThen (shows_setProgress p.progress) fun _ =>
    keeps_setProgress (fun _ _ h => h) _
  have entered := along.andThen (shows_whenSome (shows_enterStep .inferred) p.currentNode)
    fun _ => keeps_whenSome (keeps_enterStep (fun _ _ h => h) (fun _ _ h => h) .inferred) _
  have noted := entered.andThen (shows_whenSome shows_setError p.error) fun _ =>
    keeps_whenSome (keeps_setError fun _ _ h => h) _
  simp only [reportChange, andThen_assoc] at noted ⊢
  exact ⟨_, _, noted, fun _ _ => rfl⟩

theorem shows_statusChange {status : RunStatus} (goesOn : status.isTerminal = false) :
    (statusChange status).Shows phase := by
  cases status with
  | pending | other => exact shows_skip phase
  | running | paused => exact shows_moveFrom nofun
  | succeeded | failed | cancelled => cases goesOn

/-- A change that ends a run that goes on is told by the phase alone. -/
theorem changed_of_ends {x : RunState × Transition} {s : RunState} (h : s.Advances x)
    (live : s.phase.isTerminal = false) (ends : x.1.phase.isTerminal = true) :
    x.2.changed = true ↔ x.1 ≠ s := by
  have moved : x.1.phase ≠ s.phase := by
    intro same
    rw [same, live] at ends
    cases ends
  exact ⟨fun _ same => moved (congrArg phase same), fun _ => h.changed moved⟩

theorem changed_snapshotChange {p : RunSnapshot} {s : RunState}
    (advances : s.Advances (snapshotChange p s)) (live : s.phase.isTerminal = false) :
    (snapshotChange p s).2.changed = true ↔ (snapshotChange p s).1 ≠ s := by
  cases goesOn : p.status.isTerminal with
  | true =>
    refine changed_of_ends advances live ?_
    rw [snapshotChange_eq, ← andThen_assoc]
    exact statusChange_ends goesOn _
  | false =>
    obtain ⟨α, field, reported, blind⟩ := shows_reported p
    have all := reported.andThen (shows_statusChange goesOn) fun a =>
      keeps_statusChange (fun s q h => (blind s q).trans h) goesOn
    rw [snapshotChange_eq, ← andThen_assoc]
    exact all.changed_iff s

/-! ### Updates -/

/-- A change is left aside, or it is made by a run that goes on. -/
theorem taken_cases (ends : Bool) (f : Change) (s : RunState) :
    taken ends f s = (s, {}) ∨ s.phase.isTerminal = false ∧ taken ends f s = f s := by
  unfold taken
  split
  · exact .inl rfl
  · rename_i live
    split
    · exact .inl rfl
    · exact .inr ⟨Bool.eq_false_iff.2 live, rfl⟩

theorem changed_change (u : Update) (s : RunState) :
    (u.change s).2.changed = true ↔ (u.change s).1 ≠ s := by
  have advances := advances_change u s
  by_cases aside : u.change s = (s, {})
  · rw [aside]
    exact ⟨nofun, fun other => absurd rfl other⟩
  · have live : s.phase.isTerminal = false :=
      Bool.eq_false_iff.2 fun ended => aside (change_of_terminal ended u)
    cases u with
    | event e =>
      have made : applyEvent e s = eventChange e s :=
        ((taken_cases e.isTerminal (eventChange e) s).resolve_left aside).2
      rw [Update.change, made]
      exact changed_eventChange e s
    | snapshot p =>
      have made : applySnapshot p s = snapshotChange p s :=
        ((taken_cases p.status.isTerminal (snapshotChange p) s).resolve_left aside).2
      rw [Update.change, made] at advances ⊢
      exact changed_snapshotChange advances live
    | resumed => exact (shows_moveFrom (p := .paused) (q := .running) (by decide)).changed_iff s
    | failed message =>
      refine changed_of_ends advances live ?_
      rw [Update.change, fail_eq live]
      rfl
    | cancelled =>
      refine changed_of_ends advances live ?_
      rw [Update.change, cancel, if_neg (Bool.eq_false_iff.1 live), phase_setPhase]
      rfl

/-- Every update of a run tells that it has changed the state just when some field has another value
afterwards. It asks to close the stream just when the phase has moved to one that needs no
stream. -/
theorem transitions_tell_what_changed (u : Update) (s : RunState) :
    ((u.change s).2.changed = true ↔ (u.change s).1 ≠ s) ∧
      ((u.change s).2.closeStream = true ↔ (u.change s).1.phase ≠ s.phase ∧
        ((u.change s).1.phase = .paused ∨ (u.change s).1.phase.isTerminal = true)) := by
  refine ⟨changed_change u s, ?_⟩
  rw [(advances_change u s).closes, RunPhase.endsStream, Bool.or_eq_true, decide_eq_true_eq]

end RunState

end RunWatch
