import Mathlib.Data.List.Forall2
import Mathlib.Data.List.Nodup
import RunWatch.Proofs.Control.Serving

/-!
# Retiring

A registry tracks controllers that exist, each of them once: `Sound`. Retiring goes through the
entries that are done, one after the other, but as they are distinct it comes to the same as all of
them going at once: `retire_eq`, `retire_fleet`.
-/

namespace RunWatch

namespace Fleet

/-- The controllers once they have handed over their effects. -/
def handedOver (f : Fleet) : Fleet :=
  ⟨f.controllers.map fun (key, c) => (key, c.takeOutbox.1)⟩

theorem foldl_modify (change : Controller → Controller) {keys : List RunKey} (once : keys.Nodup)
    (f : Fleet) :
    keys.foldl (fun f key => f.modify key change) f =
      ⟨f.controllers.map fun (k, c) => (k, if k ∈ keys then change c else c)⟩ := by
  induction keys generalizing f with
  | nil => simp
  | cons key keys ih =>
    obtain ⟨new, once⟩ := List.nodup_cons.1 once
    rw [List.foldl_cons, ih once, modify, List.map_map]
    refine congrArg Fleet.mk (List.map_congr_left fun (k, c) _ => ?_)
    by_cases same : k = key
    · subst same
      simp [new]
    · simp [same]

end Fleet

namespace Registry

theorem mem_insert {r : Registry} {key k : RunKey} :
    k ∈ (r.insert key).keys ↔ k ∈ r.keys ∨ k = key := by
  unfold insert tracks
  split
  · rename_i tracked
    refine ⟨.inl, fun here => here.elim id fun same => ?_⟩
    exact same ▸ List.contains_iff_mem.1 tracked
  · rw [List.mem_append, List.mem_singleton]

theorem nodup_insert {r : Registry} (once : r.keys.Nodup) (key : RunKey) :
    (r.insert key).keys.Nodup := by
  unfold insert tracks
  split
  · exact once
  · rename_i new
    rw [List.contains_iff_mem] at new
    refine List.nodup_append.2 ⟨once, List.nodup_singleton key, fun k here k' last same => ?_⟩
    exact new (List.mem_singleton.1 last ▸ same ▸ here)

end Registry

namespace Roster

variable {x : Roster} {key : RunKey} {o : Operation}

/-! ### Lookups -/

theorem lookup_map_values {α β : Type} (f : RunKey → α → β) (entries : List (RunKey × α))
    (key : RunKey) :
    (entries.map fun (k, a) => (k, f k a)).lookup key = (entries.lookup key).map (f key) := by
  induction entries with
  | nil => rfl
  | cons entry entries ih =>
    rw [List.map_cons, List.lookup_cons, List.lookup_cons]
    by_cases same : key = entry.1
    · simp [same]
    · simp only [beq_false_of_ne same]
      exact ih

theorem get?_fleet (x : Roster) (key : RunKey) :
    x.fleet.get? key = (x.operation? key).map Operation.controller :=
  lookup_map_values (fun _ (o : Operation) => o.controller) x.operations key

theorem isFinished_of_operation (found : x.operation? key = some o) :
    Registry.isFinished x.fleet key = o.controller.finished := by
  rw [Registry.isFinished, get?_fleet, found]
  rfl

theorem operation?_happen (x : Roster) (key k : RunKey) (e : Operation.Event) :
    (x.step (.happen key e)).operation? k =
      (x.operation? k).map fun o => if k = key then o.step e else o :=
  lookup_map_values (fun k (o : Operation) => if k = key then o.step e else o) x.operations k

/-! ### What holds of every roster -/

structure Sound (x : Roster) : Prop where
  runs : ∀ p ∈ x.operations, ∃ times events, p.2 = Operation.after times events
  once : x.registry.keys.Nodup
  known : ∀ key ∈ x.registry.keys, (x.operation? key).isSome = true

namespace Sound

theorem step (h : Sound x) (e : Event) : Sound (x.step e) := by
  cases e with
  | hire key times =>
    simp only [Roster.step]
    split
    · exact h
    · refine ⟨fun p here => ?_, h.once, fun k tracked => ?_⟩
      · rcases List.mem_append.1 here with here | here
        · exact h.runs p here
        · rw [List.mem_singleton.1 here]
          exact ⟨times, [], rfl⟩
      · rw [operation?, List.lookup_append, Option.isSome_or]
        exact Bool.or_eq_true_iff.2 (.inl (h.known k tracked))
  | happen key e =>
    refine ⟨fun p here => ?_, h.once, fun k tracked => ?_⟩
    · obtain ⟨⟨k, o⟩, before, rfl⟩ := List.mem_map.1 here
      obtain ⟨times, events, run⟩ := h.runs _ before
      simp only at run ⊢
      split
      · refine ⟨times, events ++ [e], ?_⟩
        rw [run, Operation.after, Operation.after, List.foldl_append]
        rfl
      · exact ⟨times, events, run⟩
    · rw [operation?_happen, Option.isSome_map]
      exact h.known k tracked
  | track key =>
    simp only [Roster.step]
    split
    · rename_i made
      refine ⟨h.runs, Registry.nodup_insert h.once key, fun k tracked => ?_⟩
      rcases Registry.mem_insert.1 tracked with tracked | rfl
      · exact h.known k tracked
      · exact made
    · exact h
  | forget key =>
    exact ⟨h.runs, h.once.filter _, fun k tracked => h.known k (List.mem_filter.1 tracked).1⟩
  | shuffle keys =>
    simp only [Roster.step]
    split
    · rename_i same
      exact ⟨h.runs, same.nodup_iff.2 h.once, fun k tracked => h.known k (same.mem_iff.1 tracked)⟩
    · exact h

theorem run (h : Sound x) (events : List Event) : Sound (x.run events) := by
  induction events generalizing x with
  | nil => exact h
  | cons e events ih => exact ih (h.step e)

theorem exists_operation (h : Sound x) (tracked : key ∈ x.registry.keys) :
    ∃ o, x.operation? key = some o :=
  Option.isSome_iff_exists.1 (h.known key tracked)

theorem after_of_operation (h : Sound x) (found : x.operation? key = some o) :
    ∃ times events, o = Operation.after times events := by
  obtain ⟨before, later, split, -⟩ := List.lookup_eq_some_iff.1 found
  exact h.runs (key, o) (split ▸ List.mem_append_right before List.mem_cons_self)

end Sound

theorem sound_after (events : List Event) : Sound (after events) :=
  Sound.run ⟨List.forall_mem_nil _, List.nodup_nil, List.forall_mem_nil _⟩ events

/-! ### Entries that go -/

/-- The roster once some entries have been dismissed. -/
def without (gone : List RunKey) (x : Roster) : Roster where
  operations := x.operations.map fun (k, o) => (k, if k ∈ gone then o.step .shutDown else o)
  registry := ⟨x.registry.keys.filter (· ∉ gone)⟩

theorem operation?_without (gone : List RunKey) (x : Roster) (key : RunKey) :
    (x.without gone).operation? key =
      (x.operation? key).map fun o => if key ∈ gone then o.step .shutDown else o :=
  lookup_map_values (fun k (o : Operation) => if k ∈ gone then o.step .shutDown else o)
    x.operations key

theorem operation?_of_kept {gone : List RunKey} (kept : key ∉ gone) (x : Roster) :
    (x.without gone).operation? key = x.operation? key := by
  rw [operation?_without]
  simp [kept]

theorem without_nil (x : Roster) : x.without [] = x := by
  simp [without]

theorem without_without {keys : List RunKey} (new : key ∉ keys) (x : Roster) :
    (x.without [key]).without keys = x.without (key :: keys) := by
  simp only [without, List.map_map, List.filter_filter, Roster.mk.injEq, Registry.mk.injEq]
  refine ⟨List.map_congr_left fun (k, o) _ => ?_, List.filter_congr fun k _ => ?_⟩
  · by_cases same : k = key
    · subst same
      simp [new]
    · simp [same]
  · simp [Bool.and_comm]

theorem dismiss_eq (tracked : key ∈ x.registry.keys) :
    x.dismiss key = (x.without [key], (x.operation? key).map Operation.lastWord) := by
  have known : x.registry.tracks key = true := List.contains_iff_mem.2 tracked
  rw [dismiss, known, if_pos rfl]
  simp [run, step, without, Registry.remove]

theorem dismissAll_eq {keys : List RunKey} (once : keys.Nodup)
    (tracked : ∀ key ∈ keys, key ∈ x.registry.keys) :
    dismissAll keys x =
      (x.without keys, keys.filterMap fun key => (x.operation? key).map Operation.lastWord) := by
  induction keys generalizing x with
  | nil => rw [without_nil]; rfl
  | cons key keys ih =>
    obtain ⟨new, once⟩ := List.nodup_cons.1 once
    obtain ⟨here, there⟩ := List.forall_mem_cons.1 tracked
    have differs : ∀ k ∈ keys, k ∉ [key] := fun k later same =>
      new (List.mem_singleton.1 same ▸ later)
    have tracked' : ∀ k ∈ keys, k ∈ (x.without [key]).registry.keys := fun k later =>
      List.mem_filter.2 ⟨there k later, decide_eq_true (differs k later)⟩
    have words : keys.filterMap (fun k => ((x.without [key]).operation? k).map Operation.lastWord) =
        keys.filterMap fun k => (x.operation? k).map Operation.lastWord :=
      List.filterMap_congr fun k later => by rw [operation?_of_kept (differs k later)]
    simp only [dismissAll, dismiss_eq here, ih once tracked', without_without new, words]
    rw [List.filterMap_cons]
    cases x.operation? key <;> rfl

theorem finished_subset (x : Roster) : ∀ key ∈ x.finished, key ∈ x.registry.keys :=
  fun _ here => (List.mem_filter.1 here).1

theorem retire_eq (h : Sound x) :
    x.retire = (x.without x.finished,
      x.finished.filterMap fun key => (x.operation? key).map Operation.lastWord) :=
  dismissAll_eq (h.once.filter _) x.finished_subset

/-! ### Registries of fleets -/

/-- None of the tracked controllers waits for an answer. -/
def AtRest (x : Roster) : Prop :=
  ∀ key ∈ x.registry.keys, ∀ o ∈ x.operation? key, o.controller.awaiting = none

theorem keys_without_finished (x : Roster) :
    (x.without x.finished).registry.keys =
      x.registry.keys.filter fun key => !Registry.isFinished x.fleet key := by
  refine List.filter_congr fun key here => ?_
  simp [finished, here]

/-- Controllers that are shut down and hand over their effects are those of the operations. -/
theorem handedOver_fleet (h : Sound x) (gone : List RunKey) :
    Fleet.handedOver ⟨x.fleet.controllers.map fun (k, c) =>
      (k, if k ∈ gone then c.step 0 .shutDown else c)⟩ = (x.without gone).fleet := by
  simp only [Fleet.handedOver, fleet, without, List.map_map, Fleet.mk.injEq]
  refine List.map_congr_left fun (k, o) here => ?_
  obtain ⟨times, events, run⟩ := h.runs _ here
  have sent : o.controller.outbox = [] := by
    rw [show o = _ from run]
    exact (Operation.orderly_after times events).sent
  simp only [Function.comp_apply, Prod.mk.injEq, true_and]
  split
  · rw [Operation.controller_shutDown]
    rfl
  · rw [Controller.takeOutbox, ← sent]

/-- The registry of the fleet computes what dismissing the entries one by one comes to. -/
theorem retire_fleet (h : Sound x) (rest : x.AtRest) :
    (x.registry.retire x.fleet).1 = x.retire.1.registry ∧
      (x.registry.retire x.fleet).2.1.handedOver = x.retire.1.fleet ∧
      (x.registry.retire x.fleet).2.2 = x.retire.2 := by
  rw [retire_eq h]
  refine ⟨congrArg Registry.mk x.keys_without_finished.symm, ?_, ?_⟩
  · rw [Registry.retire, Fleet.foldl_modify _ (h.once.filter _)]
    exact handedOver_fleet h x.finished
  · refine List.filterMap_congr fun key here => ?_
    have tracked := x.finished_subset key here
    obtain ⟨o, found⟩ := h.exists_operation tracked
    rw [get?_fleet, found]
    exact congrArg some (Operation.lastWord_of_idle (rest key tracked o found)).symm

/-! ### Entries that stay -/

theorem mem_keys_without_finished :
    key ∈ (x.without x.finished).registry.keys ↔
      key ∈ x.registry.keys ∧ Registry.isFinished x.fleet key = false := by
  rw [keys_without_finished, List.mem_filter, Bool.not_eq_true']

theorem not_mem_finished (unfinished : Registry.isFinished x.fleet key = false) :
    key ∉ x.finished := fun here =>
  absurd (unfinished.symm.trans (List.mem_filter.1 here).2) Bool.false_ne_true

/-- What is kept stays as it was, and its controller is not done. -/
theorem Sound.operation_of_kept (h : Sound x)
    (kept : key ∈ (x.without x.finished).registry.keys) :
    ∃ o, x.operation? key = some o ∧ (x.without x.finished).operation? key = some o ∧
      o.controller.finished = false := by
  obtain ⟨tracked, unfinished⟩ := mem_keys_without_finished.1 kept
  obtain ⟨o, found⟩ := h.exists_operation tracked
  refine ⟨o, found, ?_, ?_⟩
  · rw [operation?_of_kept (not_mem_finished unfinished), found]
  · rw [← isFinished_of_operation found, unfinished]

theorem Sound.finished_without (h : Sound x) : (x.without x.finished).finished = [] := by
  refine List.filter_eq_nil_iff.2 fun key kept => ?_
  obtain ⟨o, -, found, unfinished⟩ := h.operation_of_kept kept
  rw [isFinished_of_operation found, unfinished]
  exact Bool.false_ne_true

theorem Sound.terminal_without (h : Sound x) :
    ((x.without x.finished).registry.summary (x.without x.finished).fleet).terminal = 0 := by
  refine List.countP_eq_zero.2 fun view here => ?_
  obtain ⟨key, kept, at_⟩ := List.mem_filterMap.1 here
  obtain ⟨o, -, found, unfinished⟩ := h.operation_of_kept kept
  rw [get?_fleet, found] at at_
  cases at_
  rw [(Bool.or_eq_false_iff.1 unfinished).1]
  exact Bool.false_ne_true

/-! ### Retiring at rest -/

/-- A controller that goes has nothing to say but what it has shown. -/
theorem Sound.gone_of_finished (h : Sound x) (rest : x.AtRest) (here : key ∈ x.finished) :
    ∃ o, x.operation? key = some o ∧
      (x.without x.finished).operation? key = some (o.step .shutDown) ∧
      o.lastWord = o.controller.view.state ∧
      (o.step .shutDown).controller.view = o.controller.view ∧ (o.step .shutDown).Gone := by
  obtain ⟨tracked, finished⟩ := List.mem_filter.1 here
  obtain ⟨o, found⟩ := h.exists_operation tracked
  obtain ⟨times, events, run⟩ := h.after_of_operation found
  have idle := rest key tracked o found
  rw [isFinished_of_operation found] at finished
  have gone : (x.without x.finished).operation? key = some (o.step .shutDown) := by
    rw [operation?_without, found, Option.map_some, if_pos here]
  subst run
  obtain ⟨word, view⟩ := Operation.lastWord_of_finished idle finished
  exact ⟨_, found, gone, word, view, Operation.gone_of_shutDown idle⟩

theorem Sound.serves_of_kept (h : Sound x) (rest : x.AtRest)
    (kept : key ∈ (x.without x.finished).registry.keys) :
    ∃ o, x.operation? key = some o ∧ (x.without x.finished).operation? key = some o ∧
      o.Serves := by
  obtain ⟨o, before, found, unfinished⟩ := h.operation_of_kept kept
  obtain ⟨times, events, run⟩ := h.after_of_operation before
  have sent : o.controller.outbox = [] := by
    rw [run]
    exact (Operation.orderly_after times events).sent
  have idle := rest key (mem_keys_without_finished.1 kept).1 o before
  have unclosed := (Bool.or_eq_false_iff.1 unfinished).2
  exact ⟨o, before, found, Operation.serves_of_open unclosed idle sent⟩

theorem forall₂_filterMap {α β : Type} {r : α → β → Prop} {f : α → Option β} {xs : List α}
    (each : ∀ a ∈ xs, ∃ b, f a = some b ∧ r a b) : List.Forall₂ r xs (xs.filterMap f) := by
  induction xs with
  | nil => exact .nil
  | cons a xs ih =>
    obtain ⟨⟨b, gives, related⟩, each⟩ := List.forall_mem_cons.1 each
    rw [List.filterMap_cons_some gives]
    exact .cons related (ih each)

/-- Once the tracked controllers of a process are at rest, in whatever order the registry has its
entries, retiring takes exactly those that show a run that is over or are closed. It gives one state
for each, the one that the controller shows before and after; the controller is then gone. What is
kept, and what is not tracked, stays as it was, and what is kept serves commands. Then no run that
is tracked is over, and retiring again does nothing. The registry of the fleet computes just that. -/
theorem retiring_takes_what_is_finished (events : List Event) (rest : (after events).AtRest) :
    let x := after events
    let y := x.retire.1
    (y.registry.keys = x.registry.keys.filter fun key => !Registry.isFinished x.fleet key) ∧
      x.finished.Nodup ∧
      List.Forall₂ (fun key s => ∃ o o', x.operation? key = some o ∧ y.operation? key = some o' ∧
        o.controller.view.state = s ∧ o'.controller.view = o.controller.view ∧ o'.Gone)
        x.finished x.retire.2 ∧
      (∀ key ∈ y.registry.keys, ∃ o, x.operation? key = some o ∧ y.operation? key = some o ∧
        o.Serves) ∧
      (∀ key ∉ x.finished, y.operation? key = x.operation? key) ∧
      (y.registry.summary y.fleet).terminal = 0 ∧
      (y.registry.summary y.fleet).tracked + x.retire.2.length =
        (x.registry.summary x.fleet).tracked ∧
      y.retire = (y, []) ∧
      (x.registry.retire x.fleet).1 = y.registry ∧
      (x.registry.retire x.fleet).2.1.handedOver = y.fleet ∧
      (x.registry.retire x.fleet).2.2 = x.retire.2 := by
  intro x y
  have sound : Sound x := sound_after events
  have left : y = x.without x.finished := congrArg Prod.fst (retire_eq sound)
  have words := congrArg Prod.snd (retire_eq sound)
  obtain ⟨computed, handedOver, given⟩ := retire_fleet sound rest
  have retired : List.Forall₂ (fun key s => ∃ o o', x.operation? key = some o ∧
      y.operation? key = some o' ∧ o.controller.view.state = s ∧
      o'.controller.view = o.controller.view ∧ o'.Gone) x.finished x.retire.2 := by
    rw [words, left]
    refine forall₂_filterMap fun key here => ?_
    obtain ⟨o, found, gone, word, view, shut⟩ := sound.gone_of_finished rest here
    exact ⟨_, congrArg (Option.map _) found, o, _, found, gone, word.symm, view, shut⟩
  have kept : y.registry.keys =
      x.registry.keys.filter fun key => !Registry.isFinished x.fleet key :=
    left ▸ x.keys_without_finished
  have counted : y.registry.keys.length + x.retire.2.length = x.registry.keys.length := by
    rw [← retired.length_eq, kept, Nat.add_comm, finished]
    exact (List.length_eq_length_filter_add _).symm
  refine ⟨kept, sound.once.filter _, retired, fun key here => ?_, fun key other => ?_, ?_, counted,
    ?_, computed, handedOver, given⟩
  · rw [left] at here ⊢
    exact sound.serves_of_kept rest here
  · rw [left, operation?_of_kept other]
  · rw [left]
    exact sound.terminal_without
  · have nothing : y.finished = [] := by rw [left, sound.finished_without]
    rw [retire, nothing]
    rfl

/-- One run is cancelled, one is going on, and one controller has been shut down. -/
def mixedRoster : List Event :=
  [.hire (.fresh 0) ⟨4000, 2000⟩, .hire (.fresh 1) ⟨4000, 2000⟩, .hire (.fresh 2) ⟨4000, 2000⟩,
    .track (.fresh 0), .track (.fresh 1), .track (.fresh 2),
    .happen (.fresh 0) (.command (.start ⟨"alpha"⟩ none)),
    .happen (.fresh 1) (.command (.start ⟨"beta"⟩ none)),
    .happen (.fresh 1) (.streamAnswer (.ok ())), .happen (.fresh 0) (.streamAnswer (.ok ())),
    .happen (.fresh 0) (.command .cancel), .happen (.fresh 2) .shutDown,
    .shuffle [.fresh 2, .fresh 1, .fresh 0]]

theorem retiring_keeps_the_live_run :
    (after mixedRoster).AtRest ∧
      (after mixedRoster).finished = [.fresh 2, .fresh 0] ∧
      (after mixedRoster).retire.2.map RunState.phase = [.pending, .cancelled] ∧
      (after mixedRoster).retire.1.registry.keys = [.fresh 1] ∧
      ∃ o, (after mixedRoster).operation? (.fresh 1) = some o ∧
        (after mixedRoster).retire.1.operation? (.fresh 1) = some o ∧ o.Serves := by
  have rest : (after mixedRoster).AtRest := by
    unfold AtRest
    decide +kernel
  have keys : (after mixedRoster).retire.1.registry.keys = [.fresh 1] := by decide +kernel
  obtain ⟨-, -, -, serves, -⟩ := retiring_takes_what_is_finished mixedRoster rest
  refine ⟨rest, by decide +kernel, by decide +kernel, keys, serves (.fresh 1) ?_⟩
  rw [keys]
  exact List.mem_singleton_self _

end Roster

end RunWatch
