import Mathlib.Data.List.Infix
import RunWatch.Proofs.Frame.Lines
import RunWatch.Proofs.Stream.Cancelling
import RunWatch.Proofs.Stream.Heard

/-!
# Nothing is lost

A source brings forth chunks and then the end of the body or a read error. From there on it is
settled what an observer hears in the end, and `Reader.movesLeft` counts the moves until it has
heard everything, whatever else arrives. `Whole` is what lets the moves be counted: nobody cancels
a reader that still has something to tell.
-/

namespace RunWatch

/-- A read error among items that begin with chunks comes after these. -/
theorem failure_mem_of_chunks (chunks : List (List UInt8)) {rest : List StreamItem}
    (fails : ∃ f, .failure f ∈ chunks.map StreamItem.chunk ++ rest) : ∃ f, .failure f ∈ rest := by
  obtain ⟨f, member⟩ := fails
  refine ⟨f, (List.mem_append.1 member).resolve_left fun among => ?_⟩
  obtain ⟨bytes, -, same⟩ := List.mem_map.1 among
  cases same

/-- What follows a read error is not heard, and neither is the end of the body. -/
theorem uncancelled_append {items : List StreamItem} (fails : ∃ f, .failure f ∈ items)
    (d : Frame.Decoder) (ended ended' : Bool) (more : List StreamItem) :
    uncancelled d ended (items ++ more) = uncancelled d ended' items := by
  induction items generalizing d with
  | nil =>
    obtain ⟨f, member⟩ := fails
    cases member
  | cons item items ih =>
    cases item with
    | failure f => rfl
    | chunk bytes =>
      rw [List.cons_append, uncancelled, uncancelled,
        ih (failure_mem_of_chunks [bytes] fails)]

/-! ### Counting moves -/

namespace Reader

/-- How many moves a reader between two items makes until it is over, if the items lead to an
end. -/
def movesOver (d : Frame.Decoder) : List StreamItem → Nat
  | [] => 1
  | .chunk bytes :: rest => (d.feed bytes).2.length + 3 + movesOver (d.feed bytes).1 rest
  | .failure _ :: _ => 2

/-- How many moves a reader makes until it is over, if nobody cancels it and its items lead to an
end. -/
def movesLeft (r : Reader) : Nat :=
  match r.stage with
  | .over => 0
  | .ready => movesOver r.decoder (r.arrivals.map Arrival.item)
  | .holding (.chunk bytes) =>
    (r.decoder.feed bytes).2.length + 2 +
      movesOver (r.decoder.feed bytes).1 (r.arrivals.map Arrival.item)
  | .holding (.failure _) => 1
  | .delivering frames => frames.length + 1 + movesOver r.decoder (r.arrivals.map Arrival.item)

theorem movesOver_pos (d : Frame.Decoder) (items : List StreamItem) : 0 < movesOver d items := by
  unfold movesOver
  split <;> omega

theorem over_of_movesLeft {r : Reader} (nothing : r.movesLeft = 0) : r.stage = .over := by
  unfold movesLeft at nothing
  split at nothing
  · assumption
  · exact absurd nothing (movesOver_pos _ _).ne'
  · omega
  · omega
  · omega

theorem movesOver_append {items : List StreamItem} (fails : ∃ f, .failure f ∈ items)
    (d : Frame.Decoder) (more : List StreamItem) :
    movesOver d (items ++ more) = movesOver d items := by
  induction items generalizing d with
  | nil =>
    obtain ⟨f, member⟩ := fails
    cases member
  | cons item items ih =>
    cases item with
    | failure f => rfl
    | chunk bytes =>
      rw [List.cons_append, movesOver, movesOver,
        ih (failure_mem_of_chunks [bytes] fails)]

/-- Every move of a reader that is not cancelled counts. -/
theorem movesLeft_step {r r' : Reader} {signal : Option StreamSignal}
    (uncut : r.cancelled = false) (next : r.step? = some (r', signal)) :
    r'.movesLeft + 1 = r.movesLeft := by
  obtain ⟨arrivals, ended, cancelled, decoder, stage⟩ := r
  obtain rfl : cancelled = false := uncut
  cases stage with
  | ready =>
    cases arrivals with
    | nil => cases ended <;> cases next; rfl
    | cons a rest =>
      cases next
      obtain ⟨item, cancels⟩ := a
      cases item with
      | chunk bytes =>
        simp only [movesLeft, List.map_cons, movesOver]
        omega
      | failure f => rfl
  | holding item =>
    cases item with
    | chunk bytes =>
      have decodes : r' = ⟨arrivals, ended, false, (decoder.feed bytes).1,
          .delivering (decoder.feed bytes).2⟩ := by
        cases next
        rfl
      rw [decodes]
      simp only [movesLeft]
      omega
    | failure f =>
      cases next
      rfl
  | delivering frames =>
    cases frames with
    | nil =>
      cases next
      simp only [movesLeft, List.length_nil]
      omega
    | cons f frames =>
      cases next
      simp only [movesLeft, List.length_cons]
      omega
  | _ => cases next

end Reader

namespace Follows

variable {items : List StreamItem} {heard : List StreamSignal} {r : Reader}

/-- What arrives after a read error costs no moves. -/
theorem movesLeft_receive (h : Follows items heard r) (fails : ∃ f, .failure f ∈ items)
    (a : Arrival) : (r.receive a).movesLeft = r.movesLeft := by
  have waiting (later : ∃ f, .failure f ∈ r.arrivals.map Arrival.item) (d : Frame.Decoder) :
      Reader.movesOver d ((r.receive a).arrivals.map Arrival.item) =
        Reader.movesOver d (r.arrivals.map Arrival.item) := by
    unfold Reader.receive
    split
    · rfl
    · rw [List.map_append, Reader.movesOver_append later]
  have decoder : (r.receive a).decoder = r.decoder := by
    unfold Reader.receive
    split <;> rfl
  unfold Reader.movesLeft
  rw [Reader.stage_receive r a, decoder]
  cases h with
  | ready chunks stage taken =>
    rw [taken] at fails
    simp only [stage, waiting (failure_mem_of_chunks _ fails)]
  | holding chunks item stage taken =>
    cases item with
    | failure f => simp only [stage]
    | chunk bytes =>
      rw [taken] at fails
      have held := failure_mem_of_chunks _ fails
      simp only [stage, waiting (failure_mem_of_chunks [bytes] held)]
  | delivering chunks before frames stage taken =>
    rw [taken] at fails
    simp only [stage, waiting (failure_mem_of_chunks _ fails)]
  | closed _ stage | failed _ _ _ stage | cancelled _ _ _ _ stage => simp only [stage]

/-- A reader waits only for a source that has not come to an end. -/
theorem moves (h : Follows items heard r) (uncut : r.cancelled = false)
    (settled : r.ended = true ∨ ∃ f, .failure f ∈ items) (running : r.stage ≠ .over) :
    ∃ r' signal, r.step? = some (r', signal) := by
  cases next : r.step? with
  | some move => exact ⟨move.1, move.2, rfl⟩
  | none =>
    cases h with
    | ready chunks stage taken =>
      simp only [Reader.step?, stage, uncut, Bool.false_eq_true, if_false] at next
      split at next
      · rename_i nothing
        split at next
        · cases next
        · rename_i open_
          have fails := settled.resolve_left open_
          rw [taken, nothing] at fails
          obtain ⟨f, member⟩ := failure_mem_of_chunks _ fails
          cases member
      · cases next
    | holding chunks item stage => cases item <;> simp [Reader.step?, stage] at next
    | delivering chunks before frames stage =>
      cases frames <;> simp [Reader.step?, stage, uncut] at next
    | closed _ stage | failed _ _ _ stage | cancelled _ _ _ _ stage => exact absurd stage running

/-- A reader that nobody has cancelled is over only after an end. -/
theorem settled (h : Follows items heard r) (uncut : r.cancelled = false)
    (gone : r.stage = .over) : r.ended = true ∨ ∃ f, .failure f ∈ items := by
  cases h with
  | ready _ stage | holding _ _ stage | delivering _ _ _ stage => cases gone.symm.trans stage
  | closed chunks stage ended => exact .inl ended
  | failed chunks f rest stage taken =>
    exact .inr ⟨f, taken ▸ List.mem_append_right _ List.mem_cons_self⟩
  | cancelled _ _ _ _ _ cancelled => exact absurd (uncut.symm.trans cancelled) Bool.false_ne_true

end Follows

namespace Subscription

variable {o : Subscription}

/-! ### An end to come -/

/-- The source has brought forth an end. -/
def Settled (o : Subscription) : Prop :=
  o.connection.reader.ended = true ∨ ∃ f, .failure f ∈ o.items

/-- What is heard in the end if nobody cancels. -/
def heardInAll (o : Subscription) : List StreamSignal :=
  uncancelled {} o.connection.reader.ended o.items

theorem items_uses (uses : List HandleUse) (o : Subscription) :
    (uses.foldl use o).items = o.items := by
  induction uses generalizing o with
  | nil => rfl
  | cons u uses ih => exact (ih (o.use u)).trans (use_eq o u).1

/-- What a move of the reader changes, whatever happens meanwhile. -/
theorem read_of_step {r : Reader} {signal : Option StreamSignal}
    (next : o.connection.reader.step? = some (r, signal)) (meanwhile : List HandleUse) :
    (o.read meanwhile).items = o.items ∧
      (o.read meanwhile).signals = o.signals ++ signal.toList ∧
      (o.read meanwhile).connection.reader.ended = r.ended ∧
      ((o.read meanwhile).connection.reader = r ∨
        (o.read meanwhile).connection.reader = r.cancel) := by
  simp only [Subscription.read, next]
  split
  · obtain ⟨said, reader⟩ := uses_eq meanwhile { o with connection.reader := r }
    refine ⟨items_uses meanwhile _, ?_, ?_, reader⟩
    · rw [signals_hear, said]
      rfl
    · exact reader.elim (congrArg Reader.ended) (congrArg Reader.ended)
  · exact ⟨rfl, signals_hear _ _, rfl, .inl rfl⟩

theorem read_of_rest (rests : o.connection.reader.step? = none) (meanwhile : List HandleUse) :
    o.read meanwhile = o := by
  simp only [Subscription.read, rests]

theorem stage_of_not_read {e : Event} (silent : e.isRead = false) :
    (o.step e).connection.reader.stage = o.connection.reader.stage := by
  cases e with
  | arrive item =>
    simp only [Subscription.step, Subscription.arrive]
    split
    · rfl
    · exact Reader.stage_receive _ _
  | finish => rfl
  | use u =>
    obtain ⟨-, -, same | cut⟩ := use_eq o u
    · rw [Subscription.step, same]
    · rw [Subscription.step, cut]
      rfl
  | read meanwhile => cases silent

/-- After the end nothing changes what is heard in the end. -/
theorem Settled.step (h : Settled o) (e : Event) :
    Settled (o.step e) ∧ (o.step e).heardInAll = o.heardInAll := by
  cases e with
  | arrive item =>
    simp only [Subscription.step, Subscription.arrive]
    split
    · exact ⟨h, rfl⟩
    · rename_i open_
      have fails := h.resolve_left open_
      have still := fails.imp fun f member => List.mem_append_left [item] member
      exact ⟨.inr still, uncancelled_append fails _ _ _ _⟩
  | finish =>
    refine ⟨.inl rfl, ?_⟩
    rcases h with ended | fails
    · simp only [heardInAll, Subscription.step, Connection.finish, Reader.finish, ended]
    · have all := uncancelled_append fails {} true o.connection.reader.ended []
      rwa [List.append_nil] at all
  | use u =>
    obtain ⟨items, -, same | cut⟩ := use_eq o u
    · rw [Settled, heardInAll, Subscription.step, items, same]
      exact ⟨h, rfl⟩
    · rw [Settled, heardInAll, Subscription.step, items, cut]
      exact ⟨h, rfl⟩
  | read meanwhile =>
    cases next : o.connection.reader.step? with
    | none =>
      rw [Subscription.step, read_of_rest next]
      exact ⟨h, rfl⟩
    | some move =>
      obtain ⟨items, -, ended, -⟩ := read_of_step next meanwhile
      rw [Settled, heardInAll, Subscription.step, items, ended, ended_of_step next]
      exact ⟨h, rfl⟩

/-! ### Readers that are let alone -/

/-- Nobody cancels or lets go of the handle before the reader is over. -/
def LetAlone (events : List Event) : Prop :=
  ∀ before ∈ events.inits, (∃ x ∈ (after before).history, x.cancels = true) →
    (after before).connection.reader.isOver = true

instance (events : List Event) : Decidable (LetAlone events) :=
  inferInstanceAs (Decidable (∀ _ ∈ _, _ → _))

/-- Nothing has been lost. -/
structure Whole (o : Subscription) : Prop where
  kept : Kept o
  uncut : o.connection.reader.stage ≠ .over → o.connection.reader.cancelled = false
  told : o.connection.reader.stage = .over → Settled o ∧ o.signals = o.heardInAll

theorem signals_of_over (gone : o.connection.reader.stage = .over) (e : Event) :
    (o.step e).signals = o.signals := by
  cases e with
  | arrive item =>
    simp only [Subscription.step, Subscription.arrive]
    split <;> rfl
  | finish => rfl
  | use u => exact (use_eq o u).2.1
  | read meanwhile =>
    have rests : o.connection.reader.step? = none := by rw [Reader.step?, gone]
    rw [Subscription.step, read_of_rest rests]

/-- A reader that gets over by itself has told everything. -/
theorem told_of_read (h : Whole o) (running : o.connection.reader.stage ≠ .over)
    {meanwhile : List HandleUse} (gone : (o.read meanwhile).connection.reader.stage = .over) :
    Settled (o.read meanwhile) ∧ (o.read meanwhile).signals = (o.read meanwhile).heardInAll := by
  cases next : o.connection.reader.step? with
  | none =>
    rw [read_of_rest next] at gone
    exact absurd gone running
  | some move =>
    obtain ⟨r, signal⟩ := move
    obtain ⟨items, signals, ended, reader⟩ := read_of_step next meanwhile
    have uncut : r.cancelled = false :=
      (cancelled_of_step h.kept.plain next).1.trans (h.uncut running)
    have follows := h.kept.follows.step next
    have stops : r.stage = .over := by
      rcases reader with same | cut
      · rw [← same]
        exact gone
      · rw [cut] at gone
        exact gone
    have rests : r.step? = none := by rw [Reader.step?, stops]
    rw [Settled, heardInAll, items, signals, ended]
    exact ⟨follows.settled uncut stops, follows.complete uncut rests⟩

theorem Whole.step (h : Whole o) (e : Event)
    (alone : (o.step e).connection.reader.stage ≠ .over →
      (o.step e).connection.reader.cancelled = false) : Whole (o.step e) where
  kept := h.kept.step e
  uncut := alone
  told gone := by
    by_cases before : o.connection.reader.stage = .over
    · obtain ⟨settled, told⟩ := h.told before
      obtain ⟨still, same⟩ := settled.step e
      refine ⟨still, ?_⟩
      rw [signals_of_over before, told, same]
    · cases e with
      | arrive item => exact absurd ((stage_of_not_read rfl).symm.trans gone) before
      | finish => exact absurd ((stage_of_not_read rfl).symm.trans gone) before
      | use u => exact absurd ((stage_of_not_read rfl).symm.trans gone) before
      | read meanwhile => exact told_of_read h before gone

theorem LetAlone.of_append {events later : List Event} (h : LetAlone (events ++ later)) :
    LetAlone events :=
  fun before part => h before <| by
    rw [List.mem_inits] at part ⊢
    exact part.trans (List.prefix_append events later)

theorem whole_after (events : List Event) (alone : LetAlone events) : Whole (after events) := by
  induction events using List.reverseRecOn with
  | nil => exact ⟨kept_initial, fun _ => rfl, nofun⟩
  | append_singleton events e ih =>
    have last : after (events ++ [e]) = (after events).step e := after_append events [e]
    rw [last]
    refine (ih alone.of_append).step e fun running => Bool.eq_false_iff.2 fun cancelled => running ?_
    rw [← last] at cancelled ⊢
    have used := (kept_after _).seen.cancelled.1 cancelled
    have whole := (List.mem_inits _ _).2 (List.prefix_refl (events ++ [e]))
    exact of_decide_eq_true (alone _ whole used)

/-! ### Enough moves -/

theorem movesLeft_of_not_read (h : Whole o) (settled : Settled o) {e : Event}
    (silent : e.isRead = false) :
    (o.step e).connection.reader.movesLeft = o.connection.reader.movesLeft := by
  cases e with
  | arrive item =>
    simp only [Subscription.step, Subscription.arrive]
    split
    · rfl
    · rename_i open_
      exact h.kept.follows.movesLeft_receive (settled.resolve_left open_) _
  | finish => rfl
  | use u =>
    obtain ⟨-, -, same | cut⟩ := use_eq o u
    · rw [Subscription.step, same]
    · rw [Subscription.step, cut]
      rfl
  | read meanwhile => cases silent

theorem movesLeft_read (h : Whole o) (settled : Settled o) (meanwhile : List HandleUse) :
    (o.read meanwhile).connection.reader.movesLeft = o.connection.reader.movesLeft - 1 := by
  by_cases gone : o.connection.reader.stage = .over
  · have rests : o.connection.reader.step? = none := by rw [Reader.step?, gone]
    have nothing : o.connection.reader.movesLeft = 0 := by rw [Reader.movesLeft, gone]
    rw [read_of_rest rests, nothing]
  · have uncut := h.uncut gone
    obtain ⟨r, signal, next⟩ := h.kept.follows.moves uncut settled gone
    have left := Reader.movesLeft_step uncut next
    have same : (o.read meanwhile).connection.reader.movesLeft = r.movesLeft := by
      obtain ⟨-, -, -, same | cut⟩ := read_of_step next meanwhile
      · rw [same]
      · rw [cut]
        rfl
    omega

/-- After the end of the source, enough reads bring a reader to its end. -/
theorem over_of_reads (events later : List Event) (alone : LetAlone (events ++ later))
    (settled : Settled (after events))
    (enough : (after events).connection.reader.movesLeft ≤ later.countP Event.isRead) :
    (after (events ++ later)).connection.reader.stage = .over ∧
      (after (events ++ later)).heardInAll = (after events).heardInAll := by
  induction later generalizing events with
  | nil =>
    rw [List.append_nil]
    exact ⟨Reader.over_of_movesLeft (Nat.le_zero.1 enough), rfl⟩
  | cons e later ih =>
    have whole := whole_after events alone.of_append
    have next : after (events ++ [e]) = (after events).step e := after_append events [e]
    obtain ⟨still, same⟩ := settled.step e
    rw [← next] at still same
    have left : (after (events ++ [e])).connection.reader.movesLeft ≤
        later.countP Event.isRead := by
      rw [next]
      cases read : e.isRead with
      | false =>
        rw [List.countP_cons_of_neg (by rw [read]; exact Bool.false_ne_true)] at enough
        rw [movesLeft_of_not_read whole settled read]
        exact enough
      | true =>
        rw [List.countP_cons_of_pos read] at enough
        cases e with
        | read meanwhile =>
          rw [Subscription.step, movesLeft_read whole settled]
          omega
        | arrive | finish | use => cases read
    have regroup : events ++ e :: later = events ++ [e] ++ later := by
      rw [List.append_assoc, List.singleton_append]
    rw [regroup] at alone ⊢
    obtain ⟨gone, all⟩ := ih (events ++ [e]) alone still left
    exact ⟨gone, all.trans same⟩

/-- The frames of chunks come from their bytes up to the last blank line. -/
theorem decoded_complete (chunks : List (List UInt8)) :
    ∃ complete, Frame.Lines.fold false chunks.flatten =
        complete ++ (decoded chunks).1.bytes.toList ∧
      (decoded chunks).2 = Frame.Lines.framesOf complete ∧
      (complete = [] ∨ [10, 10] <:+ complete) := by
  rw [decoded, Frame.Decoder.feedAll_eq_feed]
  obtain ⟨complete, split, frames, ends⟩ := Frame.Lines.cut_complete
    ((#[] : Array UInt8) ++ (({} : Frame.Decoder).added chunks.flatten).bytes)
    (fun j hj => absurd hj (Nat.not_lt_zero j))
  refine ⟨complete, ?_, ?_, ends⟩
  · rw [Frame.Decoder.feed_bytes, ← split, Array.toList_append, Frame.Decoder.added,
      Frame.Lines.pushAll_toList]
    rfl
  · rw [Frame.Decoder.feed_frames]
    exact frames

/-- For whatever a source brings forth and whenever the reader moves, the observer of a reader that
is let alone hears in the end exactly the frames that a fresh decoder makes of the chunks, and then
once how they ended: the end of the body, or the first read error whatever comes after it. The end
is reached when the reader has moved as often as `movesLeft` counts. A last frame that no blank line
ends is not among the frames: it is among the bytes that the decoder keeps. -/
theorem nothing_is_lost (events later : List Event) (alone : LetAlone (events ++ later))
    (enough : (after events).connection.reader.movesLeft ≤ later.countP Event.isRead)
    (chunks : List (List UInt8)) :
    let source := after events
    let heard := (after (events ++ later)).signals
    let frames := (decoded chunks).2
    let kept := (decoded chunks).1.bytes
    (source.items = chunks.map .chunk → source.connection.reader.ended = true →
        heard = frames.map .frame ++ [.closed]) ∧
      (∀ f rest, source.items = chunks.map .chunk ++ .failure f :: rest →
        heard = frames.map .frame ++ [.failed f]) ∧
      ∃ complete, Frame.Lines.fold false chunks.flatten = complete ++ kept.toList ∧
        frames = Frame.Lines.framesOf complete ∧ (complete = [] ∨ [10, 10] <:+ complete) ∧
        ∀ i, ¬Frame.BlankLineAt kept i := by
  intro source heard frames kept
  have all (settled : Settled source) : heard = source.heardInAll := by
    obtain ⟨gone, same⟩ := over_of_reads events later alone settled enough
    exact ((whole_after _ alone).told gone).2.trans same
  obtain ⟨complete, split, cut_off, ends⟩ := decoded_complete chunks
  refine ⟨fun items ended => ?_, fun f rest items => ?_,
    complete, split, cut_off, ends, (decoded chunks).1.no_blankLine⟩
  · rw [all (.inl ended), heardInAll, items, ended, uncancelled_of_chunks,
      ← Frame.Decoder.feedAll_eq_feed, if_pos rfl]
    rfl
  · have fails : ∃ f, .failure f ∈ source.items :=
      ⟨f, items ▸ List.mem_append_right _ List.mem_cons_self⟩
    rw [all (.inr fails), heardInAll, items, uncancelled_of_failure,
      ← Frame.Decoder.feedAll_eq_feed]
    rfl

/-- The reader waits, the second frame arrives in two chunks, the third one is not ended when the
read fails, and the handle is used when all is over. -/
theorem interleaved_source_is_heard :
    let first := Text.Utf8.encode "data: 1\n\nda"
    let second := Text.Utf8.encode "ta: 2\n\ndata: 3"
    let third := Text.Utf8.encode "\n\n"
    let events := [.read [], .arrive (.chunk first), .read [], .arrive (.chunk second)] ++
      List.replicate 7 (.read []) ++ [.arrive (.failure (.read "reset"))]
    let later := .arrive (.chunk third) :: List.replicate 2 (.read []) ++ [.use .cancel, .read []]
    (after (events ++ later)).signals =
      [.frame ⟨"message", .number (.int 1)⟩, .frame ⟨"message", .number (.int 2)⟩,
        .failed (.read "reset")] := by
  intro first second third events later
  have alone : LetAlone (events ++ later) := by decide +kernel
  have enough : (after events).connection.reader.movesLeft ≤ later.countP Event.isRead := by
    decide +kernel
  have source : (after events).items =
      [first, second].map .chunk ++ .failure (.read "reset") :: [] := by decide +kernel
  have frames : (decoded [first, second]).2 =
      [⟨"message", .number (.int 1)⟩, ⟨"message", .number (.int 2)⟩] := by decide +kernel
  obtain ⟨-, failed, -⟩ := nothing_is_lost events later alone enough [first, second]
  have heard := failed (.read "reset") [] source
  rw [frames] at heard
  exact heard

end Subscription

end RunWatch
