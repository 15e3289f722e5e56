import RunWatch.Proofs.Stream.Discipline

/-!
# What is heard in the end

As long as nobody cancels, what an observer has heard is the beginning of what it hears in the end,
and this only grows as items arrive.
-/

namespace RunWatch

theorem uncancelled_prefix (items more : List StreamItem) (d : Frame.Decoder) (ended : Bool) :
    uncancelled d false items <+: uncancelled d ended (items ++ more) := by
  induction items generalizing d with
  | nil => exact List.nil_prefix
  | cons item items ih =>
    cases item with
    | chunk bytes =>
      simp only [List.cons_append, uncancelled]
      exact (List.prefix_append_right_inj _).2 (ih _)
    | failure f => exact List.prefix_refl _

theorem uncancelled_of_chunks (chunks : List (List UInt8)) (ended : Bool) :
    uncancelled {} ended (chunks.map .chunk) =
      (({} : Frame.Decoder).feed chunks.flatten).2.map .frame ++ if ended then [.closed] else [] := by
  have all := uncancelled_chunks {} ended chunks []
  rwa [List.append_nil, Frame.Decoder.feedAll_eq_feed] at all

theorem uncancelled_of_failure (chunks : List (List UInt8)) (ended : Bool) (f : StreamFailure)
    (rest : List StreamItem) :
    uncancelled {} ended (chunks.map .chunk ++ .failure f :: rest) =
      (({} : Frame.Decoder).feed chunks.flatten).2.map .frame ++ [.failed f] := by
  rw [uncancelled_chunks, Frame.Decoder.feedAll_eq_feed]
  rfl

theorem Follows.heard_prefix {items : List StreamItem} {heard : List StreamSignal} {r : Reader}
    (h : Follows items heard r) (uncut : r.cancelled = false) :
    heard <+: uncancelled {} r.ended items := by
  cases h with
  | ready chunks stage taken decoder told =>
    rw [taken, uncancelled_chunks, told]
    exact List.prefix_append _ _
  | holding chunks item stage taken decoder told =>
    rw [taken, uncancelled_chunks, told]
    exact List.prefix_append _ _
  | delivering chunks before frames stage taken decoder whole told =>
    have part : before <+: (decoded chunks).2 := ⟨frames, whole⟩
    rw [taken, uncancelled_chunks, told]
    exact (part.map _).trans (List.prefix_append _ _)
  | closed chunks stage ended taken told =>
    have rests : r.step? = none := by rw [Reader.step?, stage]
    have all := (Follows.closed chunks stage ended taken told).complete uncut rests
    exact ⟨[], (List.append_nil _).trans all⟩
  | failed chunks f rest stage taken told =>
    have rests : r.step? = none := by rw [Reader.step?, stage]
    have all := (Follows.failed chunks f rest stage taken told).complete uncut rests
    exact ⟨[], (List.append_nil _).trans all⟩
  | cancelled chunks before closes rest stage cancelled =>
    exact absurd (uncut.symm.trans cancelled) (by decide)

theorem ended_of_step {r r' : Reader} {signal : Option StreamSignal}
    (next : r.step? = some (r', signal)) : r'.ended = r.ended := by
  unfold Reader.step? at next
  split at next
  · cases next
  · split at next
    · cases next
      rfl
    · split at next
      · split at next
        · cases next
          rfl
        · cases next
      · cases next
        rfl
  · cases next
    rfl
  · cases next
    rfl
  · cases next
    rfl
  · split at next <;> cases next <;> rfl

end RunWatch
