import RunWatch.Proofs.Frame.Chunks
import RunWatch.Proofs.Stream.Uses

/-!
# The discipline of signals

Whatever a source brings forth and whenever the handle is used, an observer hears frames and then at
most one end. `Follows` ties what it has heard to the items of the source, and `Seen` to what is on
record of the handle. Every step keeps both.
-/

namespace RunWatch

def StreamItem.chunk? : StreamItem → Option (List UInt8)
  | .chunk bytes => some bytes
  | .failure _ => none

/-- What a fresh decoder makes of chunks. -/
def decoded (chunks : List (List UInt8)) : Frame.Decoder × List Frame :=
  ({} : Frame.Decoder).feedAll chunks

theorem decoded_append (xs ys : List (List UInt8)) :
    decoded (xs ++ ys) =
      (((decoded xs).1.feedAll ys).1, (decoded xs).2 ++ ((decoded xs).1.feedAll ys).2) := by
  simp only [decoded, Frame.Decoder.feedAll_eq_feed, List.flatten_append, Frame.Decoder.feed_append]

theorem decoded_concat (chunks : List (List UInt8)) (bytes : List UInt8) :
    decoded (chunks ++ [bytes]) =
      (((decoded chunks).1.feed bytes).1, (decoded chunks).2 ++ ((decoded chunks).1.feed bytes).2) := by
  rw [decoded_append, Frame.Decoder.feedAll_eq_feed, List.flatten_singleton]

theorem filterMap_chunk? (chunks : List (List UInt8)) :
    (chunks.map StreamItem.chunk).filterMap StreamItem.chunk? = chunks := by
  induction chunks with
  | nil => rfl
  | cons bytes chunks ih => simp only [List.map_cons, List.filterMap_cons, StreamItem.chunk?, ih]

/-! ### Signals and items -/

/-- What an observer hears of some items if nobody cancels. -/
def uncancelled (d : Frame.Decoder) (ended : Bool) : List StreamItem → List StreamSignal
  | [] => if ended then [.closed] else []
  | .chunk bytes :: rest =>
    (d.feed bytes).2.map .frame ++ uncancelled (d.feed bytes).1 ended rest
  | .failure f :: _ => [.failed f]

theorem uncancelled_chunks (d : Frame.Decoder) (ended : Bool) (chunks : List (List UInt8))
    (rest : List StreamItem) :
    uncancelled d ended (chunks.map .chunk ++ rest) =
      (d.feedAll chunks).2.map .frame ++ uncancelled (d.feedAll chunks).1 ended rest := by
  induction chunks generalizing d with
  | nil => rfl
  | cons bytes chunks ih =>
    rw [List.map_cons, List.cons_append, uncancelled, ih]
    simp only [Frame.Decoder.feedAll, List.map_append, List.append_assoc]

theorem filterMap_frame? (frames : List Frame) {last : Option StreamSignal}
    (end_ : ∀ f, last ≠ some (.frame f)) :
    (frames.map StreamSignal.frame ++ last.toList).filterMap StreamSignal.frame? = frames := by
  induction frames with
  | nil =>
    cases last with
    | none => rfl
    | some s =>
      cases s with
      | frame f => exact absurd rfl (end_ f)
      | closed | failed => rfl
  | cons f frames ih => simp only [List.map_cons, List.cons_append, List.filterMap_cons,
      StreamSignal.frame?, ih]

theorem failed_notMem_frames (f : StreamFailure) (frames : List Frame) :
    StreamSignal.failed f ∉ frames.map .frame := by
  intro member
  obtain ⟨g, -, same⟩ := List.mem_map.1 member
  cases same

theorem failed_mem_end {f : StreamFailure} {frames : List Frame} {end_ : List StreamSignal}
    (said : .failed f ∈ frames.map .frame ++ end_) : .failed f ∈ end_ :=
  (List.mem_append.1 said).resolve_left (failed_notMem_frames f frames)

/-- What has been heard agrees with the items that a reader has taken. -/
inductive Follows (items : List StreamItem) (heard : List StreamSignal) (r : Reader) : Prop where
  | ready (chunks : List (List UInt8)) (stage : r.stage = .ready)
      (taken : items = chunks.map .chunk ++ r.arrivals.map Arrival.item)
      (decoder : r.decoder = (decoded chunks).1)
      (told : heard = (decoded chunks).2.map .frame)
  | holding (chunks : List (List UInt8)) (item : StreamItem) (stage : r.stage = .holding item)
      (taken : items = chunks.map .chunk ++ item :: r.arrivals.map Arrival.item)
      (decoder : r.decoder = (decoded chunks).1)
      (told : heard = (decoded chunks).2.map .frame)
  | delivering (chunks : List (List UInt8)) (before frames : List Frame)
      (stage : r.stage = .delivering frames)
      (taken : items = chunks.map .chunk ++ r.arrivals.map Arrival.item)
      (decoder : r.decoder = (decoded chunks).1)
      (whole : before ++ frames = (decoded chunks).2)
      (told : heard = before.map .frame)
  | closed (chunks : List (List UInt8)) (stage : r.stage = .over) (ended : r.ended = true)
      (taken : items = chunks.map .chunk)
      (told : heard = (decoded chunks).2.map .frame ++ [.closed])
  | failed (chunks : List (List UInt8)) (f : StreamFailure) (rest : List StreamItem)
      (stage : r.stage = .over)
      (taken : items = chunks.map .chunk ++ .failure f :: rest)
      (told : heard = (decoded chunks).2.map .frame ++ [.failed f])
  /-- Some frames may be lost. -/
  | cancelled (chunks : List (List UInt8)) (before : List Frame) (closes : Bool)
      (rest : List StreamItem) (stage : r.stage = .over) (cancelled : r.cancelled = true)
      (taken : items = chunks.map .chunk ++ rest)
      (part : before <+: (decoded chunks).2)
      (told : heard = before.map .frame ++ if closes then [.closed] else [])

namespace Follows

variable {items : List StreamItem} {heard : List StreamSignal} {r : Reader}

theorem receive (h : Follows items heard r) (unended : r.ended = false) (item : StreamItem) :
    Follows (items ++ [item]) heard (r.receive { item }) := by
  have queued (reading : r.stage ≠ .over) :
      r.receive { item } = { r with arrivals := r.arrivals ++ [{ item }] } := by
    simp [Reader.receive, Reader.isOver, unended, reading]
  have lost (stage : r.stage = .over) : r.receive { item } = r := by
    simp [Reader.receive, Reader.isOver, stage]
  cases h with
  | ready chunks stage taken decoder told =>
    rw [queued (by rw [stage]; nofun)]
    exact .ready chunks stage (by simp [taken]) decoder told
  | holding chunks held stage taken decoder told =>
    rw [queued (by rw [stage]; nofun)]
    exact .holding chunks held stage (by simp [taken]) decoder told
  | delivering chunks before frames stage taken decoder whole told =>
    rw [queued (by rw [stage]; nofun)]
    exact .delivering chunks before frames stage (by simp [taken]) decoder whole told
  | closed chunks stage ended taken told => exact absurd (unended.symm.trans ended) nofun
  | failed chunks f rest stage taken told =>
    rw [lost stage]
    exact .failed chunks f (rest ++ [item]) stage (by simp [taken]) told
  | cancelled chunks before closes rest stage cancelled taken part told =>
    rw [lost stage]
    exact .cancelled chunks before closes (rest ++ [item]) stage cancelled (by simp [taken]) part told

theorem finish (h : Follows items heard r) : Follows items heard r.finish := by
  cases h with
  | ready chunks stage taken decoder told => exact .ready chunks stage taken decoder told
  | holding chunks item stage taken decoder told =>
    exact .holding chunks item stage taken decoder told
  | delivering chunks before frames stage taken decoder whole told =>
    exact .delivering chunks before frames stage taken decoder whole told
  | closed chunks stage ended taken told => exact .closed chunks stage rfl taken told
  | failed chunks f rest stage taken told => exact .failed chunks f rest stage taken told
  | cancelled chunks before closes rest stage cancelled taken part told =>
    exact .cancelled chunks before closes rest stage cancelled taken part told

theorem cancel (h : Follows items heard r) : Follows items heard r.cancel := by
  cases h with
  | ready chunks stage taken decoder told => exact .ready chunks stage taken decoder told
  | holding chunks item stage taken decoder told =>
    exact .holding chunks item stage taken decoder told
  | delivering chunks before frames stage taken decoder whole told =>
    exact .delivering chunks before frames stage taken decoder whole told
  | closed chunks stage ended taken told => exact .closed chunks stage ended taken told
  | failed chunks f rest stage taken told => exact .failed chunks f rest stage taken told
  | cancelled chunks before closes rest stage cancelled taken part told =>
    exact .cancelled chunks before closes rest stage rfl taken part told

theorem step (h : Follows items heard r) {r' : Reader} {signal : Option StreamSignal}
    (next : r.step? = some (r', signal)) : Follows items (heard ++ signal.toList) r' := by
  cases h with
  | ready chunks stage taken decoder told =>
    simp only [Reader.step?, stage] at next
    split at next
    · rename_i cancelled
      cases next
      refine .cancelled chunks (decoded chunks).2 (Reader.endsClean r.arrivals r.ended)
        (r.arrivals.map Arrival.item) rfl cancelled taken (List.prefix_refl _) ?_
      rw [told]
      split <;> rfl
    · split at next
      · rename_i none_
        split at next
        · rename_i ended
          cases next
          refine .closed chunks rfl ended ?_ (by rw [told]; rfl)
          rw [taken, none_, List.map_nil, List.append_nil]
        · cases next
      · rename_i a rest first
        cases next
        refine .holding chunks a.item rfl ?_ decoder (by rw [told]; exact List.append_nil _)
        rw [taken, first, List.map_cons]
  | holding chunks item stage taken decoder told =>
    cases item with
    | chunk bytes =>
      simp only [Reader.step?, stage] at next
      cases next
      have more := decoded_concat chunks bytes
      rw [← decoder] at more
      refine .delivering (chunks ++ [bytes]) (decoded chunks).2 _ rfl ?_ ?_ ?_ ?_
      · rw [taken, List.map_append, List.append_assoc]
        rfl
      · rw [more]
      · rw [more]
      · rw [told]
        exact List.append_nil _
    | failure f =>
      simp only [Reader.step?, stage] at next
      cases next
      split
      · rename_i cancelled
        exact .cancelled chunks (decoded chunks).2 false _ rfl cancelled taken (List.prefix_refl _)
          (by rw [told]; rfl)
      · exact .failed chunks f _ rfl taken (by rw [told]; rfl)
  | delivering chunks before frames stage taken decoder whole told =>
    cases frames with
    | nil =>
      simp only [Reader.step?, stage] at next
      cases next
      rw [List.append_nil] at whole
      exact .ready chunks rfl taken decoder (by rw [told, whole]; exact List.append_nil _)
    | cons f frames =>
      simp only [Reader.step?, stage] at next
      split at next
      · rename_i cancelled
        cases next
        refine .cancelled chunks before false (r.arrivals.map Arrival.item) rfl cancelled taken ?_
          (by rw [told]; rfl)
        exact ⟨f :: frames, whole⟩
      · cases next
        refine .delivering chunks (before ++ [f]) frames rfl taken decoder ?_ ?_
        · rw [← whole, List.append_assoc]
          rfl
        · rw [told, List.map_append]
          rfl
  | closed _ stage | failed _ _ _ stage | cancelled _ _ _ _ stage =>
    simp only [Reader.step?, stage] at next
    cases next

/-- Frames of some chunks are heard, and then perhaps an end. -/
theorem told (h : Follows items heard r) : ∃ (chunks : List (List UInt8)) (rest : List StreamItem)
      (before : List Frame) (last : Option StreamSignal),
      items = chunks.map .chunk ++ rest ∧ before <+: (decoded chunks).2 ∧
        (∀ f, last ≠ some (.frame f)) ∧ heard = before.map .frame ++ last.toList := by
  cases h with
  | ready chunks stage taken decoder told =>
    exact ⟨chunks, _, _, none, taken, List.prefix_refl _, nofun,
      told.trans (List.append_nil _).symm⟩
  | holding chunks item stage taken decoder told =>
    exact ⟨chunks, _, _, none, taken, List.prefix_refl _, nofun,
      told.trans (List.append_nil _).symm⟩
  | delivering chunks before frames stage taken decoder whole told =>
    exact ⟨chunks, _, before, none, taken, ⟨frames, whole⟩, nofun,
      told.trans (List.append_nil _).symm⟩
  | closed chunks stage ended taken told =>
    exact ⟨chunks, [], _, some .closed, taken.trans (List.append_nil _).symm, List.prefix_refl _,
      nofun, told⟩
  | failed chunks f rest stage taken told =>
    exact ⟨chunks, _, _, some (.failed f), taken, List.prefix_refl _, nofun, told⟩
  | cancelled chunks before closes rest stage cancelled taken part told =>
    cases closes with
    | true => exact ⟨chunks, rest, before, some .closed, taken, part, nofun, told⟩
    | false => exact ⟨chunks, rest, before, none, taken, part, nofun, told⟩

theorem failure (h : Follows items heard r) {f : StreamFailure} (said : .failed f ∈ heard) :
    ∃ (chunks : List (List UInt8)) (rest : List StreamItem),
      items = chunks.map .chunk ++ .failure f :: rest ∧
        heard = (decoded chunks).2.map .frame ++ [.failed f] := by
  cases h with
  | ready chunks stage taken decoder told =>
    rw [told] at said
    exact absurd said (failed_notMem_frames f _)
  | holding chunks item stage taken decoder told =>
    rw [told] at said
    exact absurd said (failed_notMem_frames f _)
  | delivering chunks before frames stage taken decoder whole told =>
    rw [told] at said
    exact absurd said (failed_notMem_frames f _)
  | closed chunks stage ended taken told =>
    rw [told] at said
    cases List.mem_singleton.1 (failed_mem_end said)
  | failed chunks f' rest stage taken told =>
    have same := told ▸ said
    cases List.mem_singleton.1 (failed_mem_end same)
    exact ⟨chunks, rest, taken, told⟩
  | cancelled chunks before closes rest stage cancelled taken part told =>
    rw [told] at said
    have last := failed_mem_end said
    split at last
    · cases List.mem_singleton.1 last
    · cases last

/-- A reader that was not cancelled and does nothing more has told everything. -/
theorem complete (h : Follows items heard r) (uncut : r.cancelled = false) (rests : r.step? = none) :
    heard = uncancelled {} r.ended items := by
  cases h with
  | ready chunks stage taken decoder told =>
    simp only [Reader.step?, stage, uncut, Bool.false_eq_true, if_false] at rests
    split at rests
    · rename_i nothing
      split at rests
      · cases rests
      · rename_i open_
        rw [taken, uncancelled_chunks, nothing, told, List.map_nil, uncancelled, if_neg open_,
          List.append_nil]
        rfl
    · cases rests
  | holding chunks item stage taken decoder told =>
    cases item <;> simp [Reader.step?, stage] at rests
  | delivering chunks before frames stage taken decoder whole told =>
    cases frames <;> simp [Reader.step?, stage, uncut] at rests
  | closed chunks stage ended taken told =>
    rw [taken, ← List.append_nil (chunks.map StreamItem.chunk), uncancelled_chunks, uncancelled,
      if_pos ended]
    exact told
  | failed chunks f rest stage taken told =>
    rw [taken, uncancelled_chunks, uncancelled]
    exact told
  | cancelled chunks before closes rest stage cancelled taken part told =>
    exact absurd (uncut.symm.trans cancelled) (by decide)

end Follows

/-! ### Steps of a reader -/

/-- A reader cancels nothing by itself. -/
theorem cancelled_of_step {r r' : Reader} {signal : Option StreamSignal}
    (plain : ∀ a ∈ r.arrivals, a.cancels = false) (next : r.step? = some (r', signal)) :
    r'.cancelled = r.cancelled ∧ ∀ a ∈ r'.arrivals, a.cancels = false := by
  obtain ⟨arrivals, ended, cancelled, decoder, stage⟩ := r
  cases stage with
  | ready =>
    cases cancelled with
    | true => cases next; exact ⟨rfl, plain⟩
    | false =>
      cases arrivals with
      | nil =>
        cases ended with
        | true => cases next; exact ⟨rfl, plain⟩
        | false => cases next
      | cons a rest =>
        cases next
        exact ⟨plain a List.mem_cons_self, fun b later => plain b (List.mem_cons_of_mem _ later)⟩
  | holding item => cases item <;> cases next <;> exact ⟨rfl, plain⟩
  | delivering frames =>
    cases frames with
    | nil => cases next; exact ⟨rfl, plain⟩
    | cons f frames => cases cancelled <;> cases next <;> exact ⟨rfl, plain⟩
  | _ => cases next

/-- Only a clean end is signalled by a reader that may have been cancelled. -/
theorem signal_of_step {r r' : Reader} {s : StreamSignal} (next : r.step? = some (r', some s)) :
    s = .closed ∨ r.stage ≠ .ready ∧ r.cancelled = false := by
  obtain ⟨arrivals, ended, cancelled, decoder, stage⟩ := r
  cases stage with
  | ready =>
    left
    cases cancelled with
    | true =>
      cases clean : Reader.endsClean arrivals ended with
      | true => simp [Reader.step?, clean] at next; exact next.2.symm
      | false => simp [Reader.step?, clean] at next
    | false =>
      cases arrivals with
      | nil => cases ended <;> cases next; rfl
      | cons a rest => cases next
  | holding item =>
    cases item with
    | chunk bytes => cases next
    | failure f => cases cancelled <;> cases next; exact .inr ⟨nofun, rfl⟩
  | delivering frames =>
    cases frames with
    | nil => cases next
    | cons f frames => cases cancelled <;> cases next; exact .inr ⟨nofun, rfl⟩
  | _ => cases next

namespace Subscription

/-! ### Uses of the handle -/

/-- After a cancel, only a clean end may still be signalled. -/
def Silences (x y : Occurrence) : Prop :=
  x.cancels = true → ∀ s, y = .signal s → s = .closed

/-- What has been seen agrees with the handle. -/
structure Seen (o : Subscription) : Prop where
  cancelled : o.connection.reader.cancelled = true ↔ ∃ x ∈ o.history, x.cancels = true
  silent : o.history.Pairwise Silences
  answers : o.answers = [] ∨ ∃ n, o.answers = true :: List.replicate n false
  /-- As long as there is a handle, nothing else cancels. -/
  held : o.connection.held = true → o.connection.reader.cancelled = true → o.answers ≠ []

variable {o : Subscription}

theorem signals_hear (o : Subscription) (signal : Option StreamSignal) :
    (o.hear signal).signals = o.signals ++ signal.toList := by
  cases signal with
  | none => simp [hear]
  | some s => simp [hear, signals, Occurrence.signal?]

theorem answers_hear (o : Subscription) (signal : Option StreamSignal) :
    (o.hear signal).answers = o.answers := by
  cases signal with
  | none => simp [hear, answers]
  | some s => simp [hear, answers, Occurrence.answer?]

theorem answers_eq_nil (h : Seen o) (uncancelled : o.connection.reader.cancelled = false) :
    o.answers = [] := by
  refine List.filterMap_eq_nil_iff.2 fun x member => ?_
  cases x with
  | cancel first =>
    exact absurd (uncancelled.symm.trans (h.cancelled.2 ⟨_, member, rfl⟩)) Bool.false_ne_true
  | signal | release => rfl

theorem silent_concat {history : List Occurrence} (h : history.Pairwise Silences)
    {y : Occurrence} (quiet : ∀ x ∈ history, Silences x y) :
    (history ++ [y]).Pairwise Silences :=
  List.pairwise_append.2 ⟨h, List.pairwise_singleton _ _, fun x member z last => by
    rw [List.mem_singleton.1 last]
    exact quiet x member⟩

theorem Seen.use (h : Seen o) (u : HandleUse) : Seen (o.use u) := by
  cases u with
  | cancel =>
    cases held : o.connection.held with
    | false =>
      have e : o.use .cancel = o := by simp [Subscription.use, Connection.cancel, held]
      rw [e]
      exact h
    | true =>
      have e : o.use .cancel =
          { o with
            connection := { o.connection with reader := o.connection.reader.cancel }
            history := o.history ++ [.cancel (!o.connection.reader.cancelled)] } := by
        simp [Subscription.use, Connection.cancel, held]
      rw [e]
      have answers : Subscription.answers { o with
          connection := { o.connection with reader := o.connection.reader.cancel }
          history := o.history ++ [.cancel (!o.connection.reader.cancelled)] } =
          o.answers ++ [!o.connection.reader.cancelled] :=
        List.filterMap_append
      exact {
        cancelled := ⟨fun _ => ⟨_, List.mem_append_right _ List.mem_cons_self, rfl⟩, fun _ => rfl⟩
        silent := silent_concat h.silent fun x _ _ s signalled => by cases signalled
        answers := by
          right
          rw [answers]
          cases cancelled : o.connection.reader.cancelled with
          | false => exact ⟨0, by rw [answers_eq_nil h cancelled]; rfl⟩
          | true =>
            obtain none_ | ⟨n, first⟩ := h.answers
            · exact absurd none_ (h.held held cancelled)
            · refine ⟨n + 1, ?_⟩
              rw [first, List.replicate_succ', List.cons_append]
              rfl
        held := fun _ _ => by rw [answers]; simp }
  | release =>
    cases held : o.connection.held with
    | false =>
      have e : o.use .release = o := by simp [Subscription.use, held]
      rw [e]
      exact h
    | true =>
      have e : o.use .release =
          { o with
            connection := { o.connection with reader := o.connection.reader.cancel, held := false }
            history := o.history ++ [.release] } := by
        simp [Subscription.use, Connection.release, held]
      rw [e]
      exact {
        cancelled := ⟨fun _ => ⟨_, List.mem_append_right _ List.mem_cons_self, rfl⟩, fun _ => rfl⟩
        silent := silent_concat h.silent fun x _ _ s signalled => by cases signalled
        answers := by
          have same : Subscription.answers { o with
              connection := { o.connection with
                reader := o.connection.reader.cancel
                held := false }
              history := o.history ++ [.release] } = o.answers :=
            List.filterMap_append.trans (List.append_nil _)
          rw [same]
          exact h.answers
        held := fun held => by cases held }

theorem Seen.hear (h : Seen o) {signal : Option StreamSignal}
    (allowed : ∀ s, signal = some s → s = .closed ∨ o.connection.reader.cancelled = false) :
    Seen (o.hear signal) := by
  cases signal with
  | none =>
    have e : o.hear none = o := by simp [Subscription.hear]
    rw [e]
    exact h
  | some s =>
    refine ⟨?_, ?_, ?_, ?_⟩
    · rw [show (o.hear (some s)).connection = o.connection from rfl, h.cancelled]
      simp [Subscription.hear, Occurrence.cancels]
    · refine silent_concat h.silent fun x member cancels s' same => ?_
      cases same
      rcases allowed s rfl with closed | uncancelled
      · exact closed
      · exact absurd (uncancelled.symm.trans (h.cancelled.2 ⟨x, member, cancels⟩))
          Bool.false_ne_true
    · rw [answers_hear]
      exact h.answers
    · rw [answers_hear]
      exact h.held

/-- The reader may move, as long as it is cancelled no more and no less. -/
theorem Seen.move (h : Seen o) {reader : Reader}
    (same : reader.cancelled = o.connection.reader.cancelled) :
    Seen { o with connection.reader := reader } where
  cancelled := by
    rw [← h.cancelled, ← same]
  silent := h.silent
  answers := h.answers
  held held cancelled := h.held held (same.symm.trans cancelled)

/-! ### Steps -/

/-- What holds of a subscription at any time. -/
structure Kept (o : Subscription) : Prop where
  plain : ∀ a ∈ o.connection.reader.arrivals, a.cancels = false
  follows : Follows o.items o.signals o.connection.reader
  seen : Seen o

theorem use_eq (o : Subscription) (u : HandleUse) :
    (o.use u).items = o.items ∧ (o.use u).signals = o.signals ∧
      ((o.use u).connection.reader = o.connection.reader ∨
        (o.use u).connection.reader = o.connection.reader.cancel) := by
  cases u with
  | cancel =>
    cases held : o.connection.held <;>
      simp [use, Connection.cancel, held, signals, Occurrence.signal?]
  | release =>
    cases held : o.connection.held <;>
      simp [use, Connection.release, held, signals, Occurrence.signal?]

theorem follows_use {heard : List StreamSignal} (h : Follows o.items heard o.connection.reader)
    (u : HandleUse) : Follows (o.use u).items heard (o.use u).connection.reader := by
  obtain ⟨items, -, same | cancelled⟩ := use_eq o u
  · rw [items, same]
    exact h
  · rw [items, cancelled]
    exact h.cancel

theorem plain_use (plain : ∀ a ∈ o.connection.reader.arrivals, a.cancels = false) (u : HandleUse) :
    ∀ a ∈ (o.use u).connection.reader.arrivals, a.cancels = false := by
  obtain ⟨-, -, same | cancelled⟩ := use_eq o u
  · rw [same]
    exact plain
  · rw [cancelled]
    exact plain

theorem Kept.use (h : Kept o) (u : HandleUse) : Kept (o.use u) where
  plain := plain_use h.plain u
  follows := by
    rw [(use_eq o u).2.1]
    exact follows_use h.follows u
  seen := h.seen.use u

theorem Kept.arrive (h : Kept o) (item : StreamItem) : Kept (o.arrive item) := by
  unfold Subscription.arrive
  split
  · exact h
  · rename_i unended
    have e : (o.connection.receive [{ item }]).reader = o.connection.reader.receive { item } := rfl
    have cancelled : (o.connection.reader.receive { item }).cancelled =
        o.connection.reader.cancelled := by
      unfold Reader.receive
      split <;> rfl
    refine ⟨?_, ?_, ?_, h.seen.silent, h.seen.answers, ?_⟩
    · intro a member
      rw [e] at member
      unfold Reader.receive at member
      split at member
      · exact h.plain a member
      · rcases List.mem_append.1 member with before | new
        · exact h.plain a before
        · rw [List.mem_singleton.1 new]
    · rw [e]
      exact h.follows.receive (Bool.eq_false_iff.2 unended) item
    · rw [e, cancelled]
      exact h.seen.cancelled
    · rw [e, cancelled]
      exact h.seen.held

theorem Kept.finish (h : Kept o) : Kept { o with connection := o.connection.finish } where
  plain := h.plain
  follows := h.follows.finish
  seen := ⟨h.seen.cancelled, h.seen.silent, h.seen.answers, h.seen.held⟩

/-- The handle may be used between a move of the reader and its signal. -/
theorem kept_uses {heard : List StreamSignal} (uses : List HandleUse)
    (plain : ∀ a ∈ o.connection.reader.arrivals, a.cancels = false)
    (follows : Follows o.items heard o.connection.reader) (seen : Seen o) :
    let used := uses.foldl Subscription.use o
    (∀ a ∈ used.connection.reader.arrivals, a.cancels = false) ∧
      Follows used.items heard used.connection.reader ∧ Seen used ∧ used.signals = o.signals := by
  induction uses generalizing o with
  | nil => exact ⟨plain, follows, seen, rfl⟩
  | cons u uses ih =>
    obtain ⟨plain', follows', seen', signals⟩ :=
      ih (plain_use plain u) (follows_use follows u) (seen.use u)
    exact ⟨plain', follows', seen', signals.trans (use_eq o u).2.1⟩

theorem Kept.read (h : Kept o) (meanwhile : List HandleUse) : Kept (o.read meanwhile) := by
  unfold Subscription.read
  split
  · exact h
  · rename_i reader signal next
    obtain ⟨same, plain⟩ := cancelled_of_step h.plain next
    have follows := h.follows.step next
    have moved := h.seen.move same
    split
    · -- The source is asked, so a cancel may come before the signal, which can only be a clean end.
      rename_i ready
      obtain ⟨plain', follows', seen', signals⟩ := kept_uses meanwhile
        (o := { o with connection.reader := reader }) plain follows moved
      refine ⟨plain', ?_, seen'.hear fun s told => ?_⟩
      · rw [signals_hear, signals]
        exact follows'
      · subst told
        exact (signal_of_step next).imp id fun other => absurd ready other.1
    · refine ⟨plain, ?_, moved.hear fun s told => ?_⟩
      · rw [signals_hear]
        exact follows
      · subst told
        exact (signal_of_step next).imp id fun other => same.trans other.2

theorem Kept.step (h : Kept o) (e : Event) : Kept (o.step e) := by
  cases e with
  | arrive item => exact h.arrive item
  | finish => exact h.finish
  | use u => exact h.use u
  | read meanwhile => exact h.read meanwhile

theorem kept_initial : Kept {} where
  plain := nofun
  follows := .ready [] rfl rfl rfl rfl
  seen := ⟨⟨nofun, nofun⟩, .nil, .inl rfl, nofun⟩

theorem kept_run (events : List Event) {o : Subscription} (h : Kept o) :
    Kept (events.foldl Subscription.step o) := by
  induction events generalizing o with
  | nil => exact h
  | cons e events ih => exact ih (h.step e)

theorem kept_after (events : List Event) : Kept (after events) :=
  kept_run events kept_initial

/-- The first call of cancel is told that it cancelled, and no other. -/
theorem Seen.answers_eq (h : Seen o) :
    o.answers = (List.range o.answers.length).map (· == 0) := by
  rcases h.answers with none_ | ⟨n, first⟩
  · rw [none_]
    rfl
  · have others : (List.range n).map ((· == 0) ∘ Nat.succ) = List.replicate n false := by
      refine List.eq_replicate_iff.2 ⟨by simp, fun answer member => ?_⟩
      obtain ⟨i, -, rfl⟩ := List.mem_map.1 member
      rfl
    rw [first, List.length_cons, List.length_replicate, List.range_succ_eq_map, List.map_cons,
      List.map_map, others]
    rfl

theorem Seen.cancelled_iff (h : Seen o) :
    o.connection.reader.cancelled = true ↔ o.history.filterMap Occurrence.use? ≠ [] := by
  simp [h.cancelled, cancels_iff, List.filterMap_eq_nil_iff, Option.ne_none_iff_exists']

/-! ### The discipline -/

/-- The rules that an observer and the users of the handle may rely on, where some uses have found
the handle. -/
structure Disciplined (uses : List HandleUse) (o : Subscription) : Prop where
  /-- There are frames, and then at most one end. -/
  ends : ∃ last : Option StreamSignal, (∀ f, last ≠ some (.frame f)) ∧
    o.signals = o.frames.map .frame ++ last.toList
  delivered : o.frames <+: (decoded (o.items.filterMap StreamItem.chunk?)).2
  /-- A failure comes after all frames of the chunks before it. -/
  failure : ∀ f, .failed f ∈ o.signals → ∃ (chunks : List (List UInt8)) (rest : List StreamItem),
    o.items = chunks.map .chunk ++ .failure f :: rest ∧
      o.signals = (decoded chunks).2.map .frame ++ [.failed f]
  /-- Each use is on record, among the signals where it falls. -/
  recorded : o.history.filterMap Occurrence.use? = uses
  silent : ∀ before x later, o.history = before ++ x :: later → x.cancels = true →
    ∀ s, .signal s ∈ later → s = .closed
  /-- Each call of cancel has an answer. The first one, and no other, is told that it cancelled. -/
  answers : o.answers = (List.range (uses.count .cancel)).map (· == 0)
  /-- Whatever the first use is, it cancels the reading, and nothing else does. -/
  cancelled : o.connection.reader.cancelled = true ↔ uses ≠ []
  /-- Nothing is lost unless somebody cancels. -/
  complete : uses = [] → o.connection.reader.step? = none →
    o.signals = uncancelled {} o.connection.reader.ended o.items

theorem Seen.closed_of_later (h : Seen o) {before later : List Occurrence} {x : Occurrence}
    (history : o.history = before ++ x :: later) (cancels : x.cancels = true) {s : StreamSignal}
    (member : .signal s ∈ later) : s = .closed := by
  have silent := h.silent
  rw [history] at silent
  obtain ⟨-, from_x, -⟩ := List.pairwise_append.1 silent
  exact (List.pairwise_cons.1 from_x).1 _ member cancels s rfl

theorem closed_of_used {events : List Event} (used : usesIn {} events ≠ []) (later : List Event) :
    ∃ more, (after (events ++ later)).signals = (after events).signals ++ more ∧
      ∀ s ∈ more, s = .closed := by
  obtain ⟨more, grown⟩ := history_run later (after events)
  rw [← after_append] at grown
  refine ⟨more.filterMap Occurrence.signal?, ?_, fun s said => ?_⟩
  · rw [signals, ← grown, List.filterMap_append]
    rfl
  -- Some use is on record by now, and whatever is heard comes behind it.
  · have recorded := (accounts_after events).recorded
    obtain ⟨u, found⟩ := List.exists_mem_of_ne_nil _ (recorded ▸ found_ne_nil used)
    obtain ⟨x, member, use⟩ := List.mem_filterMap.1 found
    obtain ⟨before, between, split⟩ := List.append_of_mem member
    obtain ⟨y, heard, same⟩ := List.mem_filterMap.1 said
    have signal : y = .signal s := by
      cases y <;> simp [Occurrence.signal?] at same
      rw [same]
    have whole : (after (events ++ later)).history = before ++ x :: (between ++ more) := by
      rw [← grown, split, List.append_assoc, List.cons_append]
    exact (kept_after _).seen.closed_of_later whole ((cancels_iff x).2 ⟨u, use⟩)
      (List.mem_append_right _ (signal ▸ heard))

/-- For whatever a source brings forth and whenever the handle is used, signals keep the discipline.
Once the handle has been used, a clean end is all that may still be heard. -/
theorem signals_are_disciplined (events : List Event) :
    Disciplined (HandleUse.found (usesIn {} events)) (after events) ∧
      (usesIn {} events ≠ [] → ∀ later, ∃ more,
        (after (events ++ later)).signals = (after events).signals ++ more ∧
          ∀ s ∈ more, s = .closed) := by
  refine ⟨?_, closed_of_used⟩
  obtain ⟨-, follows, seen⟩ := kept_after events
  have recorded := (accounts_after events).recorded
  generalize HandleUse.found _ = uses at recorded
  generalize after events = o at follows seen recorded
  obtain ⟨chunks, rest, before, last, taken, part, end_, told⟩ := follows.told
  have frames : o.frames = before := by rw [frames, told, filterMap_frame? before end_]
  have cut : o.connection.reader.cancelled = true ↔ uses ≠ [] := recorded ▸ seen.cancelled_iff
  constructor
  case ends =>
    rw [frames]
    exact ⟨last, end_, told⟩
  case delivered =>
    rw [frames, taken, List.filterMap_append, filterMap_chunk?, decoded_append]
    exact part.trans (List.prefix_append _ _)
  case failure => exact fun f said => follows.failure said
  case recorded => exact recorded
  case silent =>
    exact fun _ _ _ history cancels _ member => seen.closed_of_later history cancels member
  case answers =>
    rw [← recorded, ← length_answers]
    exact seen.answers_eq
  case cancelled => exact cut
  case complete =>
    intro untouched rests
    have uncut := Bool.eq_false_iff.2 fun cancelled => cut.1 cancelled untouched
    exact follows.complete uncut rests

/-- Two frames come in one chunk, and then an error. The observer cancels twice from inside the
first frame, the handle is dropped, and a call comes after that. -/
def cancelsAmidFrames : List Event :=
  [.arrive (.chunk (Text.Utf8.encode "data: 1\n\ndata: 2\n\n")),
    .arrive (.failure (.read "reset")), .read [], .read [], .read [], .use .cancel, .use .cancel,
    .read [], .use .release, .use .cancel]

/-- The calls before the handle is dropped are answered, and the second frame and the error are not
heard. -/
theorem first_cancel_silences :
    let o := after cancelsAmidFrames
    o.signals = [.frame ⟨"message", .number (.int 1)⟩] ∧
      o.connection.reader.cancelled = true ∧ o.answers = [true, false] ∧
      ∃ more, (after (cancelsAmidFrames ++ [.finish, .read []])).signals = o.signals ++ more ∧
        ∀ s ∈ more, s = .closed := by
  intro o
  have used : HandleUse.found (usesIn {} cancelsAmidFrames) = [.cancel, .cancel, .release] := by
    decide +kernel
  obtain ⟨disciplined, silent⟩ := signals_are_disciplined cancelsAmidFrames
  rw [used] at disciplined
  refine ⟨by decide +kernel, disciplined.cancelled.2 (List.cons_ne_nil _ _),
    disciplined.answers.trans (by decide), silent ?_ _⟩
  intro unused
  rw [unused] at used
  cases used

/-- A cancel comes while the source hands over the end, and another one after it. -/
example : (after [.finish, .read [.cancel], .use .cancel]).history =
    [.cancel true, .signal .closed, .cancel false] := by decide

end Subscription

end RunWatch
