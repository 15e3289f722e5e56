import RunWatch.Proofs.Stream.Discipline

/-!
# Reading after a cancel

A cancelled reader takes no more items. It winds up what it has in hand and says at most one thing
more: that the body has ended. It looks for the end only between two items, so a cancel that finds
it amid the frames of a chunk leaves it silent also after a clean end.
-/

namespace RunWatch

namespace Reader

/-- A read error is in hand or on its way. -/
def Failing (r : Reader) : Prop :=
  (∃ f, r.stage = .holding (.failure f)) ∨ ∃ a ∈ r.arrivals, ∃ f, a.item = .failure f

/-- Frames of the chunk in hand have not been signalled. -/
def MidChunk (r : Reader) : Prop :=
  (∃ f frames, r.stage = .delivering (f :: frames)) ∨
    ∃ bytes, r.stage = .holding (.chunk bytes) ∧ (r.decoder.feed bytes).2 ≠ []

/-- What a cancelled reader does next. -/
inductive Winds (r : Reader) : Reader → Option StreamSignal → Prop where
  | look (stage : r.stage = .ready) :
    Winds r { r with stage := .over } (if endsClean r.arrivals r.ended then some .closed else none)
  | decode (bytes : List UInt8) (stage : r.stage = .holding (.chunk bytes)) :
    Winds r { r with
      decoder := (r.decoder.feed bytes).1
      stage := .delivering (r.decoder.feed bytes).2 } none
  | fail (f : StreamFailure) (stage : r.stage = .holding (.failure f)) :
    Winds r { r with stage := .over } none
  | drop (f : Frame) (frames : List Frame) (stage : r.stage = .delivering (f :: frames)) :
    Winds r { r with stage := .over } none
  | turn (stage : r.stage = .delivering []) : Winds r { r with stage := .ready } none

variable {r r' : Reader} {signal : Option StreamSignal}

theorem winds (cancelled : r.cancelled = true) (next : r.step? = some (r', signal)) :
    Winds r r' signal := by
  unfold step? at next
  split at next
  · cases next
  · rename_i stage
    rw [if_pos cancelled] at next
    cases next
    exact .look stage
  · rename_i bytes stage
    cases next
    exact .decode bytes stage
  · rename_i f stage
    rw [if_pos cancelled] at next
    cases next
    exact .fail f stage
  · rename_i stage
    cases next
    exact .turn stage
  · rename_i f frames stage
    rw [if_pos cancelled] at next
    cases next
    exact .drop f frames stage

theorem over_of_rests (cancelled : r.cancelled = true) (rests : r.step? = none) :
    r.stage = .over := by
  unfold step? at rests
  split at rests
  · assumption
  · rw [if_pos cancelled] at rests
    cases rests
  · cases rests
  · cases rests
  · cases rests
  · rw [if_pos cancelled] at rests
    cases rests

namespace Winds

theorem cancelled (h : Winds r r' signal) : r'.cancelled = r.cancelled := by
  cases h <;> rfl

theorem not_over (h : Winds r r' signal) : r.stage ≠ .over := by
  intro gone
  cases h with
  | look stage | decode _ stage | fail _ stage | drop _ _ stage | turn stage =>
    rw [gone] at stage
    cases stage

end Winds

theorem endsClean_iff (arrivals : List Arrival) (ended : Bool) :
    endsClean arrivals ended = true ↔
      ended = true ∧ ¬∃ a ∈ arrivals, ∃ f, a.item = .failure f := by
  rw [endsClean, Bool.and_eq_true, List.all_eq_true]
  refine and_congr_right fun _ => ⟨fun chunks ⟨a, here, f, failure⟩ => ?_, fun sound a here => ?_⟩
  · have := chunks a here
    rw [failure] at this
    cases this
  · cases item : a.item with
    | chunk bytes => rfl
    | failure f => exact absurd ⟨a, here, f, item⟩ sound

theorem failing_receive {item : StreamItem} (h : r.Failing) : (r.receive { item }).Failing := by
  unfold receive
  split
  · exact h
  · rcases h with hand | ⟨a, here, failure⟩
    · exact .inl hand
    · exact .inr ⟨a, List.mem_append_left _ here, failure⟩

theorem stage_receive (r : Reader) (a : Arrival) : (r.receive a).stage = r.stage := by
  unfold receive
  split <;> rfl

theorem failing_iff (unheld : ∀ f, r.stage ≠ .holding (.failure f)) :
    r.Failing ↔ ∃ a ∈ r.arrivals, ∃ f, a.item = .failure f :=
  or_iff_right fun ⟨f, held⟩ => unheld f held

theorem not_failing (unheld : ∀ f, r.stage ≠ .holding (.failure f))
    (sound : ¬∃ a ∈ r.arrivals, ∃ f, a.item = .failure f) : ¬r.Failing :=
  fun failing => sound ((failing_iff unheld).1 failing)

/-! ### What lasts -/

/-- A fact on a cancelled reader and all that was signalled lasts. -/
structure Lasts (p : Reader → List StreamSignal → Prop) : Prop where
  receive : ∀ {r said} item, r.ended = false → p r said → p (r.receive { item }) said
  finish : ∀ {r said}, p r said → p r.finish said
  winds : ∀ {r r' said signal}, Winds r r' signal → p r said → p r' (said ++ signal.toList)

/-- Nothing more has been signalled, or else a clean close. -/
def Silenced (before : List StreamSignal) (r : Reader) (said : List StreamSignal) : Prop :=
  said = before ∨
    (r.stage = .over ∧ r.ended = true ∧ ¬r.Failing) ∧ said = before ++ [.closed]

theorem lasts_silenced (before : List StreamSignal) : Lasts (Silenced before) where
  receive item unended h := by
    rcases h with same | ⟨⟨-, ended, -⟩, -⟩
    · exact .inl same
    · exact absurd (unended.symm.trans ended) Bool.false_ne_true
  finish h := h.imp_right fun ⟨⟨gone, _, sound⟩, said⟩ => ⟨⟨gone, rfl, sound⟩, said⟩
  winds {r r' said signal} moves h := by
    rcases h with rfl | ⟨⟨gone, -⟩, -⟩
    · cases moves with
      | look stage =>
        split
        · rename_i clean
          obtain ⟨ended, sound⟩ := (endsClean_iff _ _).1 clean
          exact .inr ⟨⟨rfl, ended, not_failing (fun _ => nofun) sound⟩, rfl⟩
        · exact .inl (List.append_nil _)
      | decode | fail | drop | turn => exact .inl (List.append_nil _)
    · exact absurd gone moves.not_over

/-- Nothing more has been signalled, and nothing will be. -/
def Mute (before : List StreamSignal) (r : Reader) (said : List StreamSignal) : Prop :=
  said = before ∧ (r.stage = .over ∨ r.Failing ∨ r.MidChunk)

theorem lasts_mute (before : List StreamSignal) : Lasts (Mute before) where
  receive {r said} item unended h := by
    refine ⟨h.1, ?_⟩
    rcases h.2 with gone | failing | mid
    · exact .inl ((stage_receive r _).trans gone)
    · exact .inr (.inl (failing_receive failing))
    · refine .inr (.inr ?_)
      unfold receive
      split
      · exact mid
      · exact mid
  finish h := h
  winds {r r' said signal} moves h := by
    obtain ⟨rfl, lost⟩ := h
    replace lost := lost.resolve_left moves.not_over
    cases moves with
    | look stage =>
      have failing : ∃ a ∈ r.arrivals, ∃ f, a.item = .failure f := by
        rcases lost with failing | ⟨_, _, mid⟩ | ⟨_, mid, -⟩
        · exact (failing_iff fun f held => nomatch stage.symm.trans held).1 failing
        · cases stage.symm.trans mid
        · cases stage.symm.trans mid
      have unclean : ¬endsClean r.arrivals r.ended = true := fun clean =>
        ((endsClean_iff _ _).1 clean).2 failing
      rw [if_neg unclean]
      exact ⟨List.append_nil _, .inl rfl⟩
    | decode bytes stage =>
      refine ⟨List.append_nil _, .inr ?_⟩
      rcases lost with failing | ⟨_, _, mid⟩ | ⟨bytes', mid, some_⟩
      · have waiting := (failing_iff fun f held => nomatch stage.symm.trans held).1 failing
        exact .inl (.inr waiting)
      · cases stage.symm.trans mid
      · cases stage.symm.trans mid
        obtain ⟨f, frames, all⟩ := List.exists_cons_of_ne_nil some_
        exact .inr (.inl ⟨f, frames, by rw [all]⟩)
    | turn stage =>
      refine ⟨List.append_nil _, .inr (.inl (.inr ?_))⟩
      rcases lost with failing | ⟨_, _, mid⟩ | ⟨_, mid, -⟩
      · exact (failing_iff fun f held => nomatch stage.symm.trans held).1 failing
      · cases stage.symm.trans mid
      · cases stage.symm.trans mid
    | fail | drop => exact ⟨List.append_nil _, .inl rfl⟩

/-- How many moves are left to a cancelled reader at most. -/
def remaining (r : Reader) : Nat :=
  match r.stage with
  | .over => 0
  | .ready => 1
  | .delivering _ => 2
  | .holding _ => 3

theorem remaining_le (r : Reader) : r.remaining ≤ 3 := by
  unfold remaining
  split <;> decide

theorem over_of_remaining (nothing : r.remaining = 0) : r.stage = .over := by
  unfold remaining at nothing
  split at nothing
  · assumption
  · cases nothing
  · cases nothing
  · cases nothing

theorem Winds.remaining_lt (h : Winds r r' signal) : r'.remaining < r.remaining := by
  cases h with
  | look stage | decode _ stage | fail _ stage | drop _ _ stage | turn stage =>
    simp only [remaining, stage]
    decide

/-- The body has ended, and what is in hand leads to the end. -/
structure Closing (before : List StreamSignal) (r : Reader) (said : List StreamSignal) : Prop where
  ended : r.ended = true
  sound : ¬r.Failing
  whole : ¬r.MidChunk
  said : said = before ++ if r.stage = .over then [.closed] else []

theorem lasts_closing (before : List StreamSignal) : Lasts (Closing before) where
  receive item unended h := absurd (unended.symm.trans h.ended) Bool.false_ne_true
  finish h := ⟨rfl, h.sound, h.whole, h.said⟩
  winds {r r' said signal} moves h := by
    obtain ⟨ended, sound, whole, said⟩ := h
    rw [if_neg moves.not_over, List.append_nil] at said
    subst said
    have waiting : ¬∃ a ∈ r.arrivals, ∃ f, a.item = .failure f := fun failing =>
      sound (.inr failing)
    cases moves with
    | look stage =>
      rw [if_pos ((endsClean_iff _ _).2 ⟨ended, waiting⟩)]
      refine ⟨ended, not_failing (fun _ => nofun) waiting, ?_, rfl⟩
      rintro (⟨_, _, mid⟩ | ⟨_, mid, -⟩) <;> cases mid
    | decode bytes stage =>
      have nothing : (r.decoder.feed bytes).2 = [] :=
        Classical.not_not.1 fun some_ => whole (.inr ⟨bytes, stage, some_⟩)
      refine ⟨ended, not_failing (fun _ => nofun) waiting, ?_, rfl⟩
      rintro (⟨_, _, mid⟩ | ⟨_, mid, -⟩)
      · rw [nothing] at mid
        cases mid
      · cases mid
    | fail f stage => exact absurd (.inl ⟨f, stage⟩) sound
    | drop f frames stage => exact absurd (.inl ⟨f, frames, stage⟩) whole
    | turn stage =>
      refine ⟨ended, not_failing (fun _ => nofun) waiting, ?_, rfl⟩
      rintro (⟨_, _, mid⟩ | ⟨_, mid, -⟩) <;> cases mid

end Reader

namespace Subscription

open Reader

variable {o : Subscription} {p : Reader → List StreamSignal → Prop}

/-! ### Subscriptions that have been cancelled -/

/-- A fact on what has been signalled and on the reader, which has been cancelled. -/
def Cut (p : Reader → List StreamSignal → Prop) (o : Subscription) : Prop :=
  o.connection.reader.cancelled = true ∧ p o.connection.reader o.signals

theorem uses_eq (uses : List HandleUse) (o : Subscription) :
    (uses.foldl use o).signals = o.signals ∧
      ((uses.foldl use o).connection.reader = o.connection.reader ∨
        (uses.foldl use o).connection.reader = o.connection.reader.cancel) := by
  induction uses generalizing o with
  | nil => exact ⟨rfl, .inl rfl⟩
  | cons u uses ih =>
    obtain ⟨-, signals, once⟩ := use_eq o u
    obtain ⟨more, later⟩ := ih (o.use u)
    refine ⟨more.trans signals, ?_⟩
    rcases once with same | cut
    · rw [same] at later
      exact later
    · rw [cut] at later
      exact .inr (later.elim id id)

theorem cancel_of_cancelled {r : Reader} (cancelled : r.cancelled = true) : r.cancel = r := by
  rw [Reader.cancel, ← cancelled]

theorem uses_of_cancelled (cancelled : o.connection.reader.cancelled = true)
    (uses : List HandleUse) :
    (uses.foldl use o).connection.reader = o.connection.reader := by
  rcases (uses_eq uses o).2 with same | cut
  · exact same
  · exact cut.trans (cancel_of_cancelled cancelled)

/-- A read of a cancelled subscription winds it up. -/
theorem read_of_cancelled (cancelled : o.connection.reader.cancelled = true)
    (meanwhile : List HandleUse) :
    (o.connection.reader.stage = .over ∧ o.read meanwhile = o) ∨
      ∃ r signal, Winds o.connection.reader r signal ∧
        (o.read meanwhile).connection.reader = r ∧
        (o.read meanwhile).signals = o.signals ++ signal.toList := by
  unfold Subscription.read
  split
  · rename_i rests
    exact .inl ⟨over_of_rests cancelled rests, rfl⟩
  · rename_i r signal next
    have moves := winds cancelled next
    refine .inr ⟨r, signal, moves, ?_⟩
    have still : r.cancelled = true := moves.cancelled.trans cancelled
    split
    · refine ⟨uses_of_cancelled (o := { o with connection.reader := r }) still meanwhile, ?_⟩
      rw [signals_hear, (uses_eq meanwhile _).1]
      rfl
    · exact ⟨rfl, signals_hear _ _⟩

theorem Cut.step (lasts : Lasts p) (h : Cut p o) (e : Event) : Cut p (o.step e) := by
  obtain ⟨cancelled, fact⟩ := h
  cases e with
  | arrive item =>
    simp only [Subscription.step, Subscription.arrive]
    split
    · exact ⟨cancelled, fact⟩
    · rename_i unended
      have kept : (o.connection.reader.receive { item }).cancelled =
          o.connection.reader.cancelled := by
        unfold Reader.receive
        split <;> rfl
      exact ⟨kept.trans cancelled, lasts.receive item (Bool.eq_false_iff.2 unended) fact⟩
  | finish => exact ⟨cancelled, lasts.finish fact⟩
  | use u =>
    obtain ⟨signals, -⟩ := uses_eq [u] o
    have reader := uses_of_cancelled cancelled [u]
    rw [List.foldl_cons, List.foldl_nil] at signals reader
    rw [Cut, Subscription.step, signals, reader]
    exact ⟨cancelled, fact⟩
  | read meanwhile =>
    rcases read_of_cancelled cancelled meanwhile with
      ⟨-, same⟩ | ⟨r, signal, moves, reader, signals⟩
    · rw [Cut, Subscription.step, same]
      exact ⟨cancelled, fact⟩
    · rw [Cut, Subscription.step, reader, signals]
      exact ⟨moves.cancelled.trans cancelled, lasts.winds moves fact⟩

theorem Cut.run (lasts : Lasts p) (events : List Event) (h : Cut p o) :
    Cut p (events.foldl Subscription.step o) := by
  induction events generalizing o with
  | nil => exact h
  | cons e events ih => exact ih (h.step lasts e)

def Event.isRead : Event → Bool
  | .read _ => true
  | _ => false

/-- Enough reads bring a clean end to the observer. -/
theorem Cut.closes {before : List StreamSignal} (events : List Event)
    (h : Cut (Closing before) o)
    (enough : o.connection.reader.remaining ≤ events.countP Event.isRead) :
    (events.foldl Subscription.step o).signals = before ++ [.closed] := by
  induction events generalizing o with
  | nil =>
    have gone := over_of_remaining (Nat.le_zero.1 enough)
    have said := h.2.said
    rwa [if_pos gone] at said
  | cons e events ih =>
    refine ih (h.step (lasts_closing before) e) ?_
    cases e with
    | arrive item =>
      have stage : (o.arrive item).connection.reader.stage = o.connection.reader.stage := by
        unfold Subscription.arrive
        split
        · rfl
        · exact stage_receive _ _
      rw [Subscription.step, remaining, stage]
      exact enough
    | finish => exact enough
    | use u =>
      have reader := uses_of_cancelled h.1 [u]
      rw [List.foldl_cons, List.foldl_nil] at reader
      rw [Subscription.step, reader]
      exact enough
    | read meanwhile =>
      rw [List.countP_cons_of_pos rfl] at enough
      rcases read_of_cancelled h.1 meanwhile with ⟨gone, same⟩ | ⟨r, signal, moves, reader, -⟩
      · rw [Subscription.step, same, remaining, gone]
        exact Nat.zero_le _
      · have less := moves.remaining_lt
        rw [Subscription.step, reader]
        omega

/-! ### The first cancel -/

/-- What a reader that has not been cancelled does between two items. -/
theorem step?_of_ready {r r' : Reader} {signal : Option StreamSignal}
    (uncut : r.cancelled = false) (ready : r.stage = .ready)
    (next : r.step? = some (r', signal)) :
    (r'.stage = .over ∧ r'.arrivals = [] ∧ r'.ended = true ∧ signal = some .closed) ∨
      r'.stage ≠ .over ∧ signal = none := by
  simp only [Reader.step?, ready, uncut, Bool.false_eq_true, if_false] at next
  split at next
  · rename_i nothing
    split at next
    · rename_i ended
      cases next
      exact .inl ⟨rfl, nothing, ended, rfl⟩
    · cases next
  · cases next
    refine .inr ⟨fun gone => ?_, rfl⟩
    cases gone

theorem closing_of_end {before : List StreamSignal} {r : Reader} (gone : r.stage = .over)
    (nothing : r.arrivals = []) (ended : r.ended = true) :
    Closing before r (before ++ [.closed]) where
  ended := ended
  sound := by
    rintro (⟨f, held⟩ | ⟨a, here, -⟩)
    · cases gone.symm.trans held
    · rw [nothing] at here
      cases here
  whole := by
    rintro (⟨_, _, mid⟩ | ⟨_, mid, -⟩) <;> cases gone.symm.trans mid
  said := by rw [if_pos gone]

/-- The event that cancels a reader signals nothing, unless the source hands over the end. -/
theorem first_cancel {e : Event} (kept : Kept o)
    (uncut : o.connection.reader.cancelled = false) (running : o.connection.reader.stage ≠ .over)
    (cuts : (o.step e).connection.reader.cancelled = true) :
    ((o.step e).connection.reader.stage ≠ .over ∧ (o.step e).signals = o.signals) ∨
      (o.step e).connection.reader.stage = .over ∧
        Closing o.signals (o.step e).connection.reader (o.step e).signals := by
  have never (same : (o.step e).connection.reader.cancelled = o.connection.reader.cancelled) :
      False := by
    rw [same, uncut] at cuts
    cases cuts
  cases e with
  | arrive item =>
    refine (never ?_).elim
    simp only [Subscription.step, Subscription.arrive]
    split
    · rfl
    · simp only [Connection.receive, List.foldl_cons, List.foldl_nil, Reader.receive]
      split <;> rfl
  | finish => exact (never rfl).elim
  | use u =>
    obtain ⟨-, signals, same | cut⟩ := use_eq o u
    · exact (never (congrArg Reader.cancelled same)).elim
    · refine .inl ⟨?_, signals⟩
      rw [Subscription.step, cut]
      exact running
  | read meanwhile =>
    cases next : o.connection.reader.step? with
    | none => exact (never (by simp only [Subscription.step, Subscription.read, next])).elim
    | some move =>
      obtain ⟨r, signal⟩ := move
      by_cases ready : o.connection.reader.stage = .ready
      · have moved : o.step (.read meanwhile) =
            (meanwhile.foldl use { o with connection.reader := r }).hear signal := by
          simp only [Subscription.step, Subscription.read, next, if_pos ready]
        obtain ⟨said, reader⟩ := uses_eq meanwhile { o with connection.reader := r }
        rw [moved, signals_hear, said]
        rcases step?_of_ready uncut ready next with ⟨gone, nothing, ended, rfl⟩ | ⟨on, rfl⟩
        · refine .inr ?_
          rcases reader with same | cut
          · rw [hear, same]
            exact ⟨gone, closing_of_end gone nothing ended⟩
          · rw [hear, cut]
            exact ⟨gone, closing_of_end gone nothing ended⟩
        · refine .inl ⟨?_, List.append_nil _⟩
          rcases reader with same | cut
          · rw [hear, same]
            exact on
          · rw [hear, cut]
            exact on
      · refine (never ?_).elim
        simp only [Subscription.step, Subscription.read, next, if_neg ready]
        exact (cancelled_of_step kept.plain next).1

/-- What holds of a reader from the first cancel on. -/
theorem outset {before said : List StreamSignal} {r : Reader}
    (h : (r.stage ≠ .over ∧ said = before) ∨ r.stage = .over ∧ Closing before r said) :
    Silenced before r said ∧
      (r.ended = true → ¬r.Failing → ¬r.MidChunk → Closing before r said) ∧
      (r.Failing ∨ r.MidChunk → Mute before r said) := by
  rcases h with ⟨on, rfl⟩ | ⟨gone, closing⟩
  · refine ⟨.inl rfl, fun ended sound whole => ⟨ended, sound, whole, ?_⟩,
      fun lost => ⟨rfl, .inr lost⟩⟩
    rw [if_neg on, List.append_nil]
  · have told := closing.said
    rw [if_pos gone] at told
    exact ⟨.inr ⟨⟨gone, closing.ended, closing.sound⟩, told⟩, fun _ _ _ => closing,
      fun lost => (lost.elim closing.sound closing.whole).elim⟩

/-- For whatever a source brings forth and whenever the first cancel comes before the reader is
over, the observer hears at most one thing more: a clean close. It hears it if the body has ended
cleanly by then, unless the cancel comes amid the frames of a chunk. -/
theorem signals_after_cancel (events : List Event) (e : Event) (more : List Event)
    (uncut : (after events).connection.reader.cancelled = false)
    (running : (after events).connection.reader.isOver = false)
    (cuts : (after (events ++ [e])).connection.reader.cancelled = true) :
    let before := (after events).signals
    let r := (after (events ++ [e])).connection.reader
    let o := after (events ++ e :: more)
    (o.signals = before ∨
      (o.connection.reader.isOver = true ∧ o.connection.reader.ended = true ∧
        ¬o.connection.reader.Failing) ∧ o.signals = before ++ [.closed]) ∧
      (r.ended = true → ¬r.Failing → ¬r.MidChunk → 3 ≤ more.countP Event.isRead →
        o.signals = before ++ [.closed]) ∧
      (r.Failing ∨ r.MidChunk → o.signals = before) := by
  intro before r o
  have whole : o = more.foldl Subscription.step (after (events ++ [e])) := by
    rw [← after_append, List.append_assoc]
    rfl
  have started : (after events).connection.reader.stage ≠ .over := by
    simpa [Reader.isOver] using running
  have cut : after (events ++ [e]) = (after events).step e := after_append events [e]
  have first : (r.stage ≠ .over ∧ (after (events ++ [e])).signals = before) ∨
      r.stage = .over ∧ Closing before r (after (events ++ [e])).signals := by
    have moved := first_cancel (kept_after events) uncut started (cut ▸ cuts)
    rwa [← cut] at moved
  obtain ⟨silenced, closing, mute⟩ := outset first
  rw [whole]
  refine ⟨?_, fun ended sound unbroken enough => ?_, fun lost => ?_⟩
  · refine (Cut.run (lasts_silenced before) more ⟨cuts, silenced⟩).2.imp_right ?_
    rintro ⟨⟨gone, ended, sound⟩, said⟩
    exact ⟨⟨decide_eq_true gone, ended, sound⟩, said⟩
  · exact Cut.closes more ⟨cuts, closing ended sound unbroken⟩ (Nat.le_trans r.remaining_le enough)
  · exact (Cut.run (lasts_mute before) more ⟨cuts, mute lost⟩).2.1

/-- The body has ended when the handle is used, and the reader has not yet looked at a chunk. -/
theorem clean_end_is_told :
    let body := [.arrive (.chunk (Text.Utf8.encode "data: 1\n\n")), .finish]
    let reads := List.replicate 3 (Event.read [])
    (after (body ++ .use .cancel :: reads)).signals = [.closed] := by
  intro body reads
  have stage : (after (body ++ [.use .cancel])).connection.reader.stage = .ready := by
    decide +kernel
  have arrivals : (after (body ++ [.use .cancel])).connection.reader.arrivals =
      [{ item := .chunk (Text.Utf8.encode "data: 1\n\n") }] := by decide +kernel
  obtain ⟨-, closes, -⟩ := signals_after_cancel body (.use .cancel) reads (by decide +kernel)
    (by decide +kernel) (by decide +kernel)
  refine closes (by decide +kernel) ?_ ?_ (by decide +kernel)
  · rintro (⟨f, held⟩ | ⟨a, here, f, failure⟩)
    · cases stage.symm.trans held
    · rw [arrivals] at here
      cases List.mem_singleton.1 here
      cases failure
  · rintro (⟨_, _, mid⟩ | ⟨_, mid, -⟩) <;> cases stage.symm.trans mid

/-- A chunk of two frames, the end of the body, and reads up to the first frame. -/
def amidChunk : List Event :=
  [.arrive (.chunk (Text.Utf8.encode "data: 1\n\ndata: 2\n\n")), .finish,
    .read [], .read [], .read []]

/-- Amid the frames of a chunk a cancel takes the clean end away, and an end that comes after the
cancel is told if the reader has not looked. -/
theorem clean_end_is_lost :
    let cut := after (amidChunk ++ [.use .cancel])
    let rest := after (amidChunk ++ .use .cancel :: List.replicate 3 (.read []))
    (cut.connection.reader.ended = true ∧ cut.connection.reader.arrivals = [] ∧
        cut.connection.reader.isOver = false) ∧
      (rest.signals = [.frame ⟨"message", .number (.int 1)⟩] ∧
        rest.connection.reader.isOver = true) ∧
      (after [.use .cancel]).connection.reader.ended = false ∧
      (after [.use .cancel, .finish, .read []]).signals = [.closed] := by
  decide +kernel

end Subscription

end RunWatch
