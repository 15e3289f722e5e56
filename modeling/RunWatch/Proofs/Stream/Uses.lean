import RunWatch.Stream.Subscription

/-!
# Uses of the handle

Whoever has the handle may use it until it is dropped. `Accounts` ties the record of a subscription
to the uses that have found the handle, and what is on record stays there.
-/

namespace RunWatch.Subscription

/-! ### Uses that find the handle -/

theorem found_append_of_held {uses : List HandleUse} (held : .release ∉ uses)
    (more : List HandleUse) : HandleUse.found (uses ++ more) = uses ++ HandleUse.found more := by
  induction uses with
  | nil => rfl
  | cons u uses ih =>
    obtain ⟨now, later⟩ := List.ne_and_not_mem_of_not_mem_cons held
    cases u with
    | cancel => exact congrArg (HandleUse.cancel :: ·) (ih later)
    | release => exact absurd rfl now

theorem found_of_held {uses : List HandleUse} (held : .release ∉ uses) :
    HandleUse.found uses = uses := by
  have whole := found_append_of_held held []
  rwa [List.append_nil, HandleUse.found, List.append_nil] at whole

theorem found_append_of_gone {uses : List HandleUse} (gone : .release ∈ uses)
    (more : List HandleUse) : HandleUse.found (uses ++ more) = HandleUse.found uses := by
  induction uses with
  | nil => cases gone
  | cons u uses ih =>
    cases u with
    | cancel =>
      have later : .release ∈ uses := (List.mem_cons.1 gone).resolve_left nofun
      exact congrArg (HandleUse.cancel :: ·) (ih later)
    | release => rfl

theorem found_ne_nil {uses : List HandleUse} (used : uses ≠ []) : HandleUse.found uses ≠ [] := by
  cases uses with
  | nil => exact absurd rfl used
  | cons u uses => cases u <;> exact List.cons_ne_nil _ _

/-! ### The record -/

/-- The uses that found the handle are on record, and it is there until one of them drops it. -/
structure Accounts (uses : List HandleUse) (o : Subscription) : Prop where
  recorded : o.history.filterMap Occurrence.use? = HandleUse.found uses
  held : o.connection.held = true ↔ .release ∉ uses

variable {o : Subscription} {uses : List HandleUse}

theorem Accounts.use (h : Accounts uses o) (u : HandleUse) : Accounts (uses ++ [u]) (o.use u) := by
  cases held : o.connection.held with
  | false =>
    have gone : .release ∈ uses :=
      Classical.not_not.1 fun kept => nomatch held.symm.trans (h.held.2 kept)
    have same : o.use u = o := by
      cases u <;> simp [Subscription.use, Connection.cancel, held]
    rw [same]
    refine ⟨by rw [found_append_of_gone gone, h.recorded], ?_⟩
    exact iff_of_false (by rw [held]; nofun) fun kept => kept (List.mem_append_left _ gone)
  | true =>
    have kept : .release ∉ uses := h.held.1 held
    have recorded : (o.use u).history.filterMap Occurrence.use? = uses ++ [u] := by
      rw [← found_of_held kept, ← h.recorded]
      cases u <;> simp [Subscription.use, Connection.cancel, held, Occurrence.use?]
    refine ⟨?_, ?_⟩
    · rw [recorded, found_append_of_held kept]
      cases u <;> rfl
    · cases u <;> simp [Subscription.use, Connection.cancel, Connection.release, held, kept]

theorem Accounts.foldl (h : Accounts uses o) (more : List HandleUse) :
    Accounts (uses ++ more) (more.foldl Subscription.use o) := by
  induction more generalizing uses o with
  | nil => rwa [List.append_nil]
  | cons u more ih =>
    have next := ih (h.use u)
    rwa [List.append_assoc] at next

theorem Accounts.hear (h : Accounts uses o) (signal : Option StreamSignal) :
    Accounts uses (o.hear signal) where
  recorded := by
    rw [← h.recorded]
    cases signal <;> simp [Subscription.hear, Occurrence.use?]
  held := h.held

theorem Accounts.step (h : Accounts uses o) (e : Event) :
    Accounts (uses ++ o.usesOf e) (o.step e) := by
  cases e with
  | arrive item =>
    rw [usesOf, List.append_nil]
    show Accounts uses (o.arrive item)
    unfold Subscription.arrive
    split
    · exact h
    · exact ⟨h.recorded, h.held⟩
  | finish =>
    rw [usesOf, List.append_nil]
    exact ⟨h.recorded, h.held⟩
  | use u => exact h.use u
  | read meanwhile =>
    show Accounts (uses ++ o.usesOf (.read meanwhile)) (o.read meanwhile)
    cases next : o.connection.reader.step? with
    | none =>
      rw [usesOf, if_neg (by simp [next]), List.append_nil]
      simp only [Subscription.read, next]
      exact h
    | some moved =>
      obtain ⟨reader, signal⟩ := moved
      have moved : Accounts uses { o with connection.reader := reader } := ⟨h.recorded, h.held⟩
      simp only [Subscription.read, next]
      split
      · rename_i ready
        rw [usesOf, if_pos ⟨ready, by rw [next]; rfl⟩]
        exact (moved.foldl meanwhile).hear signal
      · rename_i busy
        rw [usesOf, if_neg fun asks => busy asks.1, List.append_nil]
        exact moved.hear signal

theorem Accounts.run (h : Accounts uses o) (events : List Event) :
    Accounts (uses ++ o.usesIn events) (events.foldl Subscription.step o) := by
  induction events generalizing uses o with
  | nil => rwa [usesIn, List.append_nil]
  | cons e events ih =>
    have next := ih (h.step e)
    rwa [List.append_assoc] at next

theorem accounts_after (events : List Event) :
    Accounts (Subscription.usesIn {} events) (after events) :=
  have fresh : Accounts [] {} := ⟨rfl, iff_of_true rfl List.not_mem_nil⟩
  fresh.run events

theorem cancels_iff (x : Occurrence) : x.cancels = true ↔ ∃ u, x.use? = some u := by
  cases x <;> simp [Occurrence.cancels, Occurrence.use?]

theorem length_answers (o : Subscription) :
    o.answers.length = (o.history.filterMap Occurrence.use?).count .cancel := by
  unfold answers
  induction o.history with
  | nil => rfl
  | cons x history ih =>
    cases x with
    | signal s => exact ih
    | cancel first =>
      have told : Occurrence.answer? (.cancel first) = some first := rfl
      have used : Occurrence.use? (.cancel first) = some .cancel := rfl
      rw [List.filterMap_cons_some told, List.filterMap_cons_some used, List.length_cons,
        List.count_cons_self, ih]
    | release => exact ih

/-! ### The record only grows -/

theorem after_append (events more : List Event) :
    after (events ++ more) = more.foldl Subscription.step (after events) :=
  List.foldl_append

theorem history_foldl_use (uses : List HandleUse) (o : Subscription) :
    o.history <+: (uses.foldl use o).history := by
  induction uses generalizing o with
  | nil => exact List.prefix_refl _
  | cons u uses ih =>
    refine List.IsPrefix.trans ?_ (ih (o.use u))
    cases u with
    | cancel => exact List.prefix_append _ _
    | release =>
      simp only [use]
      split
      · exact List.prefix_append _ _
      · exact List.prefix_refl _

theorem history_step (o : Subscription) (e : Event) : o.history <+: (o.step e).history := by
  cases e with
  | arrive item =>
    simp only [step, arrive]
    split <;> exact List.prefix_refl _
  | finish => exact List.prefix_refl _
  | use u => exact history_foldl_use [u] o
  | read meanwhile =>
    simp only [step, read]
    split
    · exact List.prefix_refl _
    · rename_i reader signal next
      split
      · let moved := { o with connection.reader := reader }
        exact (history_foldl_use meanwhile moved).trans (List.prefix_append _ _)
      · exact List.prefix_append _ _

theorem history_run (events : List Event) (o : Subscription) :
    o.history <+: (events.foldl step o).history := by
  induction events generalizing o with
  | nil => exact List.prefix_refl _
  | cons e events ih => exact (history_step o e).trans (ih (o.step e))

end RunWatch.Subscription
