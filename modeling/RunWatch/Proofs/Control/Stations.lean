import RunWatch.Control.Station
import RunWatch.Proofs.Control.Acts
import RunWatch.Proofs.Control.Failures
import RunWatch.Proofs.Stream.Discipline

/-!
# Stations are sound

The feeds of a station belong to the streams of its controller, in the same order. A feed is
cancelled only once its number has been used up, and nothing of a stream is taken before it is open.
`sound_after` states this of all that a station may come to.
-/

namespace RunWatch

/-! ### Feeds and effects -/

/-- What each step of a fold adds to a list, the fold adds in order. -/
theorem foldl_collects {σ ε β : Type} {step : σ → ε → σ} {v : σ → List β} {f : ε → Option β}
    (adds : ∀ s e, v (step s e) = v s ++ (f e).toList) (es : List ε) (s : σ) :
    v (es.foldl step s) = v s ++ es.filterMap f := by
  induction es generalizing s with
  | nil => exact (List.append_nil _).symm
  | cons e es ih =>
    rw [List.foldl_cons, ih (step s e), adds, List.append_assoc]
    cases found : f e <;> simp [found]

def Effect.opens? : Effect → Option Nat
  | .openStream stream _ => some stream
  | _ => none

namespace Feed

/-- What some effects mean for the feeds of a controller. -/
def heedAll (feeds : List Feed) (effects : List Effect) : List Feed :=
  effects.foldl heed feeds

theorem heedAll_append (feeds : List Feed) (xs ys : List Effect) :
    heedAll feeds (xs ++ ys) = heedAll (heedAll feeds xs) ys :=
  List.foldl_append

theorem heedAll_aside {effects : List Effect} (aside : ∀ e ∈ effects, e.isAside = true)
    (feeds : List Feed) : heedAll feeds effects = feeds := by
  induction effects with
  | nil => rfl
  | cons e effects ih =>
    have same : heed feeds e = feeds := by
      have first := aside e List.mem_cons_self
      cases e with
      | openStream | cancelStream => cases first
      | _ => rfl
    rw [heedAll, List.foldl_cons, same]
    exact ih fun e later => aside e (List.mem_cons_of_mem _ later)

variable {f : Feed}

theorem reader_drop (f : Feed) :
    f.drop.subscription.connection.reader = f.subscription.connection.reader ∨
      f.drop.subscription.connection.reader = f.subscription.connection.reader.cancel := by
  obtain ⟨-, -, first⟩ := Subscription.use_eq f.subscription .cancel
  obtain ⟨-, -, second⟩ := Subscription.use_eq (f.subscription.use .cancel) .release
  rcases first with first | first <;> rcases second with second | second
  · exact .inl (second.trans first)
  · exact .inr (second.trans (by rw [first]))
  · exact .inr (second.trans first)
  · refine .inr (second.trans ?_)
    rw [first]
    rfl

theorem items_drop (f : Feed) : f.drop.subscription.items = f.subscription.items :=
  (Subscription.use_eq _ .release).1.trans (Subscription.use_eq _ .cancel).1

theorem signals_drop (f : Feed) : f.drop.subscription.signals = f.subscription.signals :=
  (Subscription.use_eq _ .release).2.1.trans (Subscription.use_eq _ .cancel).2.1

theorem ended_drop (f : Feed) : f.drop.ended = f.ended := by
  unfold ended
  rcases reader_drop f with same | cancelled
  · rw [same]
  · rw [cancelled]
    rfl

theorem kept_drop (h : f.subscription.Kept) : f.drop.subscription.Kept :=
  (h.use .cancel).use .release

theorem map_stream_heed (feeds : List Feed) (e : Effect) :
    (heed feeds e).map stream = feeds.map stream ++ e.opens?.toList := by
  cases e with
  | openStream n request => exact List.map_append
  | cancelStream n =>
    have same (f : Feed) : (if f.stream = n then f.drop else f).stream = f.stream := by
      split <;> rfl
    simp [heed, Effect.opens?, Function.comp_def, same]
  | _ => exact (List.append_nil _).symm

theorem map_stream_heedAll (effects : List Effect) (feeds : List Feed) :
    (heedAll feeds effects).map stream = feeds.map stream ++ effects.filterMap Effect.opens? :=
  foldl_collects map_stream_heed effects feeds

/-- What holds of fresh feeds and stays when a handle is dropped holds of all. -/
theorem heedAll_places {p : Nat → Feed → Prop} (fresh : ∀ i n, p i { stream := n })
    (drop : ∀ i f, p i f → p i f.drop) (effects : List Effect) {feeds : List Feed}
    (h : ∀ i f, feeds[i]? = some f → p i f) :
    ∀ i f, (heedAll feeds effects)[i]? = some f → p i f := by
  induction effects generalizing feeds with
  | nil => exact h
  | cons e effects ih =>
    refine ih fun i f at_ => ?_
    cases e with
    | openStream n request =>
      rw [heed, List.getElem?_append] at at_
      split at at_
      · exact h i f at_
      · rw [List.mem_singleton.1 (List.mem_of_getElem? at_)]
        exact fresh i n
    | cancelStream n =>
      rw [heed, List.getElem?_map, Option.map_eq_some_iff] at at_
      obtain ⟨g, before, rfl⟩ := at_
      split
      · exact drop i g (h i g before)
      · exact h i g before
    | _ => exact h i f at_

theorem kept_heedAll (effects : List Effect) {feeds : List Feed}
    (h : ∀ f ∈ feeds, f.subscription.Kept) :
    ∀ f ∈ heedAll feeds effects, f.subscription.Kept := by
  intro f member
  obtain ⟨i, at_⟩ := List.mem_iff_getElem?.1 member
  exact heedAll_places (p := fun _ f => f.subscription.Kept) (fun _ _ => Subscription.kept_initial)
    (fun _ _ => kept_drop) effects (fun _ _ before => h _ (List.mem_of_getElem? before)) i f at_

/-- Two stages of one feed that differ in nothing but the handle. -/
structure SameBody (f g : Feed) : Prop where
  stream : g.stream = f.stream
  taken : g.taken = f.taken
  items : g.subscription.items = f.subscription.items
  signals : g.subscription.signals = f.subscription.signals
  ended : g.ended = f.ended
  weight : g.subscription.connection.reader.weight = f.subscription.connection.reader.weight

theorem sameBody_refl (f : Feed) : f.SameBody f :=
  ⟨rfl, rfl, rfl, rfl, rfl, rfl⟩

theorem sameBody_drop (f : Feed) : f.SameBody f.drop where
  stream := rfl
  taken := rfl
  items := items_drop f
  signals := signals_drop f
  ended := ended_drop f
  weight := by
    rcases reader_drop f with same | cancelled
    · rw [same]
    · rw [cancelled]
      rfl

theorem SameBody.trans {f g h : Feed} (first : f.SameBody g) (second : g.SameBody h) :
    f.SameBody h where
  stream := second.stream.trans first.stream
  taken := second.taken.trans first.taken
  items := second.items.trans first.items
  signals := second.signals.trans first.signals
  ended := second.ended.trans first.ended
  weight := second.weight.trans first.weight

theorem heed_getElem? {feeds : List Feed} {i : Nat} (at_ : feeds[i]? = some f) (e : Effect) :
    ∃ g, (heed feeds e)[i]? = some g ∧ f.SameBody g := by
  cases e with
  | openStream n request =>
    obtain ⟨inside, -⟩ := List.getElem?_eq_some_iff.1 at_
    exact ⟨f, (List.getElem?_append_left inside).trans at_, sameBody_refl f⟩
  | cancelStream n =>
    refine ⟨if f.stream = n then f.drop else f, ?_, ?_⟩
    · rw [heed, List.getElem?_map, at_]
      rfl
    · split
      · exact sameBody_drop f
      · exact sameBody_refl f
  | _ => exact ⟨f, at_, sameBody_refl f⟩

theorem heedAll_getElem? (effects : List Effect) {feeds : List Feed} {i : Nat}
    (at_ : feeds[i]? = some f) : ∃ g, (heedAll feeds effects)[i]? = some g ∧ f.SameBody g := by
  induction effects generalizing feeds f with
  | nil => exact ⟨f, at_, sameBody_refl f⟩
  | cons e effects ih =>
    obtain ⟨g, at_, first⟩ := heed_getElem? at_ e
    obtain ⟨h, at_, second⟩ := ih at_
    exact ⟨h, at_, first.trans second⟩

end Feed

theorem Activity.streams_perform (a : Activity) (e : Effect) :
    (a.perform e).streams = a.streams ++ e.opens?.toList := by
  cases e with
  | openStream n request => rfl
  | _ => exact (List.append_nil _).symm

theorem Activity.streams_performAll (effects : List Effect) (a : Activity) :
    (a.performAll effects).streams = a.streams ++ effects.filterMap Effect.opens? :=
  foldl_collects streams_perform effects a

/-! ### Numbers of feeds -/

open Feed

/-- The numbers of feeds, once the outbox has been heeded. A cancelled one has been used up. -/
structure Bounds (feeds : List Feed) (c : Controller) : Prop where
  bounded : ∀ f ∈ heedAll feeds c.outbox, f.stream ≤ c.stream
  spent : ∀ f ∈ heedAll feeds c.outbox, f.cancelled = true → f.stream < c.stream

namespace Bounds

variable {feeds : List Feed} {c c' : Controller}

open Controller

theorem of_quiet (h : Bounds feeds c) (stream : c'.stream = c.stream)
    {more : List Effect} (outbox : c'.outbox = c.outbox ++ more)
    (quiet : ∀ feeds, heedAll feeds more = feeds) : Bounds feeds c' := by
  have same : heedAll feeds c'.outbox = heedAll feeds c.outbox := by
    rw [outbox, heedAll_append, quiet]
  refine ⟨?_, ?_⟩
  · rw [same, stream]
    exact h.bounded
  · rw [same, stream]
    exact h.spent

theorem closeStream (h : Bounds feeds c) :
    ∀ f ∈ heedAll feeds c.closeStream.outbox, f.stream < c.closeStream.stream := by
  rw [closeStream_eq]
  intro f member
  cases streaming : c.streaming with
  | false =>
    simp only [streaming, Bool.false_eq_true, if_false, List.append_nil] at member
    exact Nat.lt_succ_of_le (h.bounded f member)
  | true =>
    simp only [streaming, if_true, heedAll_append] at member
    obtain ⟨g, before, rfl⟩ := List.mem_map.1 member
    have bound := Nat.lt_succ_of_le (h.bounded g before)
    split <;> exact bound

theorem act (h : Bounds feeds c) (act : Act c c') : Bounds feeds c' := by
  cases act with
  | aside aside =>
    obtain ⟨more, outbox, quiet⟩ := aside.outbox
    exact h.of_quiet aside.stream outbox (heedAll_aside quiet)
  | closeStream =>
    have past := h.closeStream
    exact ⟨fun f member => Nat.le_of_lt (past f member), fun f member _ => past f member⟩
  | ask request =>
    have asked : heedAll feeds (c.emit (.openStream c.stream request)).outbox =
        heedAll feeds c.outbox ++ [{ stream := c.stream }] := by
      rw [emit, heedAll_append]
      rfl
    refine ⟨fun f member => ?_, fun f member cancelled => ?_⟩
    · rw [asked] at member
      rcases List.mem_append.1 member with before | new
      · exact h.bounded f before
      · rw [List.mem_singleton.1 new]
        exact Nat.le_refl _
    · rw [asked] at member
      rcases List.mem_append.1 member with before | new
      · exact h.spent f before cancelled
      · rw [List.mem_singleton.1 new] at cancelled
        cases cancelled
  | install now => exact ⟨h.bounded, h.spent⟩
  | stopWatchdog =>
    rw [stopWatchdog_eq]
    refine h.of_quiet rfl (List.append_assoc _ _ _) fun feeds => ?_
    cases c.armed <;> cases c.fetching <;> rfl
  | arm unarmed idle => exact h.of_quiet rfl rfl fun _ => rfl
  | fetch run armed known idle => exact h.of_quiet rfl rfl fun _ => rfl

theorem acts (h : Bounds feeds c) (acts : Acts c c') : Bounds feeds c' := by
  induction acts with
  | refl => exact h
  | tail _ act ih => exact ih.act act

end Bounds

namespace Controller

variable {c : Controller}

theorem awaitsStream_reply (result : Except ClientFailure Unit) (c : Controller) :
    Operation.awaitsStream (c.reply result) = false := by
  rw [Operation.awaitsStream, reply_awaiting]
  rfl

theorem asks_of_command {cmd : Command} :
    Operation.awaitsStream (c.command cmd) = true →
      ∃ d command request, Acts c d ∧ c.command cmd = d.openStream command request := by
  cases cmd with
  | start workflow inputs =>
    simp only [command, start]
    split
    · intro asks
      cases (awaitsStream_reply _ c).symm.trans asks
    · split
      · intro asks
        cases (awaitsStream_reply _ c).symm.trans asks
      · have placed := acts_of_state c.stopWatchdog (RunState.placeholder workflow)
        exact fun _ => ⟨_, _, _, (acts_stopWatchdog c).trans placed, rfl⟩
  | pause =>
    simp only [command, pause]
    split
    · intro asks
      cases (awaitsStream_reply _ c).symm.trans asks
    · split
      · intro asks
        cases (awaitsStream_reply _ c).symm.trans asks
      · exact (absurd · Bool.false_ne_true)
  | resume =>
    simp only [command, resume]
    split
    · exact fun _ => ⟨c, _, _, .refl, rfl⟩
    · intro asks
      cases (awaitsStream_reply _ c).symm.trans asks
  | cancel =>
    simp only [command, cancel]
    split
    · intro asks
      cases (awaitsStream_reply _ c).symm.trans asks
    · split
      · intro asks
        cases (awaitsStream_reply _ _).symm.trans asks
      · exact (absurd · Bool.false_ne_true)

theorem eq_of_opened_awaits {now : Nat} {result : Except StreamFailure Unit} :
    Operation.awaitsStream (c.opened now result) = true → c.opened now result = c := by
  unfold opened
  split
  all_goals intro asks
  case h_5 => rfl
  all_goals cases (awaitsStream_reply _ _).symm.trans asks

theorem eq_of_acknowledged_awaits {result : Except ClientFailure Unit} :
    Operation.awaitsStream (c.acknowledged result) = true → c.acknowledged result = c := by
  unfold acknowledged
  split
  all_goals intro asks
  case h_5 => rfl
  all_goals cases (awaitsStream_reply _ _).symm.trans asks

/-- A controller that waits for a stream has waited before, or has just asked for the stream. -/
theorem asks_of_step {now : Nat} {input : Input} :
    Operation.awaitsStream (c.step now input) = true → c.step now input = c ∨
      ∃ d command request, Acts c d ∧ c.step now input = d.openStream command request := by
  unfold step
  split
  · exact fun _ => .inl rfl
  · split
    · exact fun asks => .inr (asks_of_command asks)
    · rename_i m idle
      rw [Operation.awaitsStream, message_awaiting, idle]
      exact (absurd · Bool.false_ne_true)
    · rename_i idle
      rw [Operation.awaitsStream, shutDown, publish_eq, stopWatchdog_eq, closeStream_eq, idle]
      exact (absurd · Bool.false_ne_true)
    · exact fun asks => .inl (eq_of_opened_awaits asks)
    · exact fun asks => .inl (eq_of_acknowledged_awaits asks)
    · exact fun _ => .inl rfl

end Controller

/-! ### Feeds of a controller -/

theorem mem_or_exists_of_mem_modify {α : Type} {xs : List α} {i : Nat} {g : α → α} {x : α}
    (member : x ∈ xs.modify i g) : x ∈ xs ∨ ∃ y ∈ xs, x = g y := by
  obtain ⟨j, at_⟩ := List.mem_iff_getElem?.1 member
  rw [List.getElem?_modify] at at_
  cases before : xs[j]? with
  | none => rw [before] at at_; cases at_
  | some y =>
    rw [before] at at_
    have present := List.mem_of_getElem? before
    by_cases here : i = j
    · right
      simp only [here, if_true, Option.map_eq_map, Option.map_some, Option.some.injEq] at at_
      exact ⟨y, present, at_.symm⟩
    · left
      simp only [here, if_false, Option.map_eq_map, Option.map_some, Option.some.injEq] at at_
      exact at_ ▸ present

/-- The feeds are those of the streams that the controller has asked for. -/
structure Fed (feeds : List Feed) (a : Activity) (c : Controller) : Prop where
  numbers : feeds.map stream = a.streams
  kept : ∀ f ∈ feeds, f.subscription.Kept
  bounded : ∀ f ∈ feeds, f.stream ≤ c.stream
  spent : ∀ f ∈ feeds, f.cancelled = true → f.stream < c.stream
  /-- Nothing is taken of a stream that the controller waits for. -/
  untouched : Operation.awaitsStream c = true → ∀ f ∈ feeds, f.stream = c.stream → f.taken = 0

namespace Fed

variable {feeds : List Feed} {a : Activity} {c : Controller}

open Controller

theorem step (h : Fed feeds a c) (sent : c.outbox = []) {a' : Activity}
    (streams : a'.streams = a.streams) (now : Nat) (input : Input) :
    Fed (heedAll feeds (c.step now input).outbox) (a'.performAll (c.step now input).outbox)
      { c.step now input with outbox := [] } := by
  have before : Bounds feeds c := by
    refine ⟨?_, ?_⟩
    · rw [sent]
      exact h.bounded
    · rw [sent]
      exact h.spent
  have after : Bounds feeds (c.step now input) := by
    rcases acts_step now c input with acts | ⟨-, acts⟩
    · exact before.acts acts
    · exact Bounds.acts (c := { c with fetching := false }) ⟨before.bounded, before.spent⟩ acts
  refine ⟨?_, kept_heedAll _ h.kept, after.bounded, after.spent, fun asks => ?_⟩
  · rw [map_stream_heedAll, Activity.streams_performAll, streams, h.numbers]
  · obtain same | ⟨d, command, request, acts, asked⟩ := asks_of_step (c := c) asks
    · rw [same] at asks ⊢
      rw [sent]
      exact h.untouched asks
    · have past := (before.acts acts).closeStream
      rw [asked]
      intro f member present
      rw [openStream, emit, heedAll_append] at member
      rcases List.mem_append.1 member with earlier | new
      · exact absurd present (Nat.ne_of_lt (past f earlier))
      · rw [List.mem_singleton.1 new]

/-- A change of one feed that is seen neither by its number nor by its handle. -/
theorem modify (h : Fed feeds a c) (place : Nat) {g : Feed → Feed}
    (number : ∀ f, (g f).stream = f.stream)
    (kept : ∀ f, f.subscription.Kept → (g f).subscription.Kept)
    (cancelled : ∀ f, f.subscription.Kept → (g f).cancelled = f.cancelled)
    (taken : Operation.awaitsStream c = true → ∀ f, (g f).taken = f.taken) :
    Fed (feeds.modify place g) a c where
  numbers := by
    rw [← h.numbers]
    refine List.ext_getElem? fun i => ?_
    simp only [List.getElem?_map, List.getElem?_modify]
    cases feeds[i]? with
    | none => rfl
    | some f =>
      by_cases here : place = i
      · simp [here, number]
      · simp [here]
  kept f member := by
    rcases mem_or_exists_of_mem_modify member with other | ⟨g', before, rfl⟩
    · exact h.kept f other
    · exact kept g' (h.kept g' before)
  bounded f member := by
    rcases mem_or_exists_of_mem_modify member with other | ⟨g', before, rfl⟩
    · exact h.bounded f other
    · rw [number]
      exact h.bounded g' before
  spent f member := by
    rcases mem_or_exists_of_mem_modify member with other | ⟨g', before, rfl⟩
    · exact h.spent f other
    · rw [number, cancelled g' (h.kept g' before)]
      exact h.spent g' before
  untouched asks f member := by
    rcases mem_or_exists_of_mem_modify member with other | ⟨g', before, rfl⟩
    · exact h.untouched asks f other
    · rw [number, taken asks]
      exact h.untouched asks g' before

end Fed

namespace Subscription

variable {o : Subscription}

theorem cancelled_arrive (item : StreamItem) (o : Subscription) :
    (o.arrive item).connection.reader.cancelled = o.connection.reader.cancelled := by
  unfold arrive
  split
  · rfl
  · simp only [Connection.receive, List.foldl_cons, List.foldl_nil, Reader.receive]
    split <;> rfl

theorem read_eq_of_step {reader : Reader} {signal : Option StreamSignal}
    (next : o.connection.reader.step? = some (reader, signal)) :
    o.read [] = hear signal { o with connection.reader := reader } := by
  unfold read
  rw [next]
  exact ite_self _

theorem read_eq_of_rests (rests : o.connection.reader.step? = none) : o.read [] = o := by
  unfold read
  rw [rests]

theorem cancelled_read (h : o.Kept) :
    (o.read []).connection.reader.cancelled = o.connection.reader.cancelled := by
  cases next : o.connection.reader.step? with
  | none => rw [read_eq_of_rests next]
  | some moved =>
    rw [read_eq_of_step next]
    exact (cancelled_of_step h.plain next).1

end Subscription

namespace Station

/-- The controller takes an input, and its feeds heed what it puts out. -/
def receive (input : Controller.Input) (s : Station) : Station :=
  let outbox := (s.operation.controller.step s.operation.now input).outbox
  { operation := s.operation.take input
    feeds := heedAll s.feeds outbox
    log := s.log ++ outbox.filterMap Effect.call? }

/-- What holds of a station at any time. -/
structure Sound (s : Station) : Prop where
  orderly : Operation.Orderly s.operation
  fed : Fed s.feeds s.operation.activity s.operation.controller
  /-- Signals do not stay in the mail. -/
  silent : ∀ l ∈ s.operation.mail, ∀ n x, l.message ≠ .signal n x

variable {s : Station}

theorem operate_of_no_input {e : Operation.Event} (nothing : s.operation.input? e = none) :
    s.operate e = { s with operation := s.operation.step e } ∧
      (s.operation.step e).controller = s.operation.controller ∧
      (s.operation.step e).activity = s.operation.activity := by
  have still : (s.operation.step e).controller = s.operation.controller ∧
      (s.operation.step e).activity = s.operation.activity := by
    cases e with
    | command | shutDown | commandAnswer => cases nothing
    | streamAnswer result =>
      simp only [Operation.input?] at nothing
      split at nothing
      · cases nothing
      · rename_i unasked
        simp [Operation.step, Operation.answerStream, unasked]
    | signal | tick | fetched =>
      simp only [Operation.step, Operation.send]
      split <;> exact ⟨rfl, rfl⟩
    | deliver place =>
      simp only [Operation.input?] at nothing
      split at nothing
      · cases nothing
      · simp only [Operation.step, Operation.deliver, and_self]
    | wait => exact ⟨rfl, rfl⟩
  refine ⟨?_, still⟩
  simp [operate, Operation.calls, Operation.effects, nothing]

theorem operate_opened (asked : Operation.awaitsStream s.operation.controller = true) :
    s.operate (.streamAnswer (.ok ())) = receive (.opened (.ok ()))
      { s with operation := { s.operation with activity := s.operation.activity.accept } } := by
  simp [operate, receive, Operation.step, Operation.answerStream, Operation.calls,
    Operation.effects, Operation.input?, asked, heedAll]

theorem operate_of_input {e : Operation.Event} {input : Controller.Input}
    (takes : s.operation.input? e = some input) :
    ∃ activity mail, (activity = s.operation.activity ∨ activity = s.operation.activity.accept) ∧
      (∀ l ∈ mail, l ∈ s.operation.mail) ∧
      s.operate e = receive input { s with operation := { s.operation with activity, mail } } := by
  cases e with
  | command | shutDown | commandAnswer =>
    cases takes
    exact ⟨_, _, .inl rfl, fun _ same => same, rfl⟩
  | streamAnswer result =>
    simp only [Operation.input?] at takes
    split at takes
    · rename_i asked
      cases takes
      cases result with
      | ok => exact ⟨_, _, .inr rfl, fun _ same => same, operate_opened asked⟩
      | error failure =>
        refine ⟨_, _, .inl rfl, fun _ same => same, ?_⟩
        simp [operate, receive, Operation.step, Operation.answerStream, Operation.calls,
          Operation.effects, Operation.input?, asked, heedAll]
    · cases takes
  | signal | tick | fetched | wait => cases takes
  | deliver place =>
    simp only [Operation.input?] at takes
    split at takes
    · rename_i l idle at_
      cases takes
      refine ⟨_, s.operation.mail.eraseIdx place, .inl rfl, fun _ => List.mem_of_mem_eraseIdx, ?_⟩
      simp [operate, receive, Operation.step, Operation.deliver, Operation.calls,
        Operation.effects, Operation.input?, idle, at_, heedAll]
    · cases takes

theorem mail_step {o : Operation} (silent : ∀ l ∈ o.mail, ∀ n x, l.message ≠ .signal n x)
    {e : Operation.Event} (other : ∀ place x, e ≠ .signal place x) :
    ∀ l ∈ (o.step e).mail, ∀ n x, l.message ≠ .signal n x := by
  have posted {sender : Nat} {message? : Option Message}
      (plain : ∀ m, message? = some m → ∀ n x, m ≠ .signal n x) :
      ∀ l ∈ (o.send sender message?).mail, ∀ n x, l.message ≠ .signal n x := by
    cases message? with
    | none => exact silent
    | some m =>
      intro l member
      rcases List.mem_append.1 member with before | new
      · exact silent l before
      · rw [List.mem_singleton.1 new]
        exact plain m rfl
  cases e with
  | command | shutDown | commandAnswer | wait => exact silent
  | streamAnswer result =>
    simp only [Operation.step, Operation.answerStream]
    split
    · cases result <;> exact silent
    · exact silent
  | signal place x => exact absurd rfl (other place x)
  | tick place =>
    refine posted fun m sent => ?_
    obtain ⟨n, -, rfl⟩ := Option.map_eq_some_iff.1 sent
    intro n x same
    cases same
  | fetched place result =>
    refine posted fun m sent => ?_
    obtain ⟨f, -, rfl⟩ := Option.map_eq_some_iff.1 sent
    intro n x same
    cases same
  | deliver place =>
    simp only [Operation.step, Operation.deliver]
    split
    · exact fun l member => silent l (List.mem_of_mem_eraseIdx member)
    · exact silent

/-- A signal that is handed over reaches the controller as a message with the number of the stream,
and leaves the mail as it was. -/
theorem hand_eq (idle : s.operation.controller.awaiting = none) {place n : Nat}
    (at_ : s.operation.activity.streams[place]? = some n) (x : StreamSignal) :
    s.hand place x = s.receive (.message (.signal n x)) := by
  have posted : s.operate (.signal place x) =
      { s with operation.mail := s.operation.mail ++ [⟨place, .signal n x⟩] } := by
    simp [operate, Operation.step, Operation.send, at_, Operation.calls, Operation.effects,
      Operation.input?]
  have taken (l : Letter) :
      (s.operation.mail ++ [l]).eraseIdx s.operation.mail.length = s.operation.mail := by
    rw [List.eraseIdx_append_of_length_le (Nat.le_refl _), Nat.sub_self, List.eraseIdx_cons_zero,
      List.append_nil]
  rw [hand, posted]
  simp [operate, receive, Operation.step, Operation.deliver, Operation.calls, Operation.effects,
    Operation.input?, idle, taken, heedAll]

theorem Sound.number (h : Sound s) {place : Nat} {f : Feed} (at_ : s.feeds[place]? = some f) :
    s.operation.activity.streams[place]? = some f.stream := by
  rw [← h.fed.numbers, List.getElem?_map, at_]
  rfl

/-- The feed of the present stream has not been cancelled. -/
theorem Sound.uncut (h : Sound s) {f : Feed} (member : f ∈ s.feeds)
    (stream : s.operation.controller.stream = f.stream) : f.cancelled = false := by
  refine Bool.eq_false_iff.2 fun cancelled => ?_
  have spent := h.fed.spent f member cancelled
  omega

/-- A signal of another stream than the open one is of no concern. -/
theorem Sound.not_concerns_of_shut (h : Sound s) {place : Nat}
    (shut : s.operation.controller.streaming = true → s.operation.activity.open? ≠ some place) :
    ∀ n, s.operation.activity.streams[place]? = some n →
      ∀ x, s.operation.controller.concerns (.signal n x) = false := by
  intro n at_ x
  cases streaming : s.operation.controller.streaming with
  | false => simp [Controller.concerns, streaming]
  | true =>
    have opened := (h.orderly.agrees.of_sent h.orderly.sent).1.opened streaming
    have other : n ≠ s.operation.controller.stream := by
      rintro rfl
      exact shut streaming (opened place at_)
    simp [Controller.concerns, other]

theorem Sound.fed_receive (h : Sound s) {activity : Activity} {mail : List Letter}
    (streams : activity.streams = s.operation.activity.streams) (input : Controller.Input) :
    let s' := receive input { s with operation := { s.operation with activity, mail } }
    Fed s'.feeds s'.operation.activity s'.operation.controller :=
  h.fed.step h.orderly.sent streams s.operation.now input

theorem Sound.operate (h : Sound s) {e : Operation.Event} (other : ∀ place x, e ≠ .signal place x) :
    Sound (s.operate e) where
  orderly := h.orderly.step e
  fed := by
    cases takes : s.operation.input? e with
    | none =>
      obtain ⟨same, controller, activity⟩ := operate_of_no_input takes
      rw [same, controller, activity]
      exact h.fed
    | some input =>
      obtain ⟨activity, mail, from_, -, same⟩ := operate_of_input takes
      have streams : activity.streams = s.operation.activity.streams := by
        rcases from_ with rfl | rfl <;> rfl
      rw [same]
      exact h.fed_receive streams input
  silent := mail_step h.silent other

theorem Sound.hand (h : Sound s) (idle : s.operation.controller.awaiting = none) (place : Nat)
    (x : StreamSignal) : Sound (s.hand place x) := by
  have orderly := (h.orderly.step (.signal place x)).step (.deliver s.operation.mail.length)
  cases at_ : s.operation.activity.streams[place]? with
  | none =>
    -- There is no such stream, so nothing is sent.
    have same : s.hand place x = s := by
      simp [Station.hand, Station.operate, Operation.step, Operation.send, at_, Operation.calls,
        Operation.effects, Operation.input?, Operation.deliver, idle]
    rw [same]
    exact h
  | some n =>
    have same := hand_eq idle at_ x
    refine ⟨orderly, ?_, ?_⟩
    · rw [same]
      exact h.fed_receive rfl _
    · rw [same]
      exact h.silent

theorem Sound.modifyFeed (h : Sound s) (place : Nat) {g : Feed → Feed}
    (number : ∀ f, (g f).stream = f.stream)
    (kept : ∀ f, f.subscription.Kept → (g f).subscription.Kept)
    (cancelled : ∀ f, f.subscription.Kept → (g f).cancelled = f.cancelled)
    (taken : Operation.awaitsStream s.operation.controller = true → ∀ f, (g f).taken = f.taken) :
    Sound (s.modifyFeed place g) :=
  ⟨h.orderly, h.fed.modify place number kept cancelled taken, h.silent⟩

theorem Sound.onSubscription (h : Sound s) (place : Nat) {u : Subscription → Subscription}
    (kept : ∀ o, Subscription.Kept o → Subscription.Kept (u o))
    (cancelled : ∀ o, Subscription.Kept o →
      (u o).connection.reader.cancelled = o.connection.reader.cancelled) :
    Sound (s.onSubscription place u) :=
  h.modifyFeed place (fun _ => rfl) (fun _ => kept _) (fun _ => cancelled _) fun _ _ => rfl

/-- One more signal of a feed is taken. -/
theorem Sound.takes (h : Sound s) (idle : s.operation.controller.awaiting = none) (place : Nat) :
    Sound (s.modifyFeed place fun f => { f with taken := f.taken + 1 }) := by
  refine h.modifyFeed place (fun _ => rfl) (fun _ kept => kept) (fun _ _ => rfl) ?_
  rw [Operation.awaitsStream, idle]
  exact (absurd · Bool.false_ne_true)

theorem Sound.step (h : Sound s) (e : Event) : Sound (s.step e) := by
  cases e with
  | operation e =>
    cases e with
    | signal place x => exact h
    | _ => exact h.operate nofun
  | arrive place item =>
    exact h.onSubscription place (fun _ kept => kept.arrive item)
      fun _ _ => Subscription.cancelled_arrive item _
  | finish place => exact h.onSubscription place (fun _ kept => kept.finish) fun _ _ => rfl
  | read place =>
    exact h.onSubscription place (fun _ kept => kept.read []) fun _ => Subscription.cancelled_read
  | take place =>
    simp only [Station.step]
    split
    · rename_i x idle next
      exact (h.takes idle place).hand idle place x
    · exact h

/-! ### Events that the controller does not notice -/

theorem receive_of_still {input : Controller.Input}
    (still : s.operation.controller.step s.operation.now input = s.operation.controller)
    (sent : s.operation.controller.outbox = []) : s.receive input = s := by
  rw [receive, Operation.take_of_still still sent, still, sent]
  simp [heedAll]

/-- Nobody has asked, so nobody listens. -/
theorem operate_streamAnswer_of_unasked
    (unasked : Operation.awaitsStream s.operation.controller = false)
    (result : Except StreamFailure Unit) : s.operate (.streamAnswer result) = s := by
  have nothing : s.operation.input? (.streamAnswer result) = none := by
    rw [Operation.input?, unasked]
    rfl
  rw [(operate_of_no_input nothing).1]
  simp [Operation.step, Operation.answerStream, unasked]

theorem operate_answer_of_idle (h : Sound s) (idle : s.operation.controller.awaiting = none) :
    (∀ result, s.operate (.streamAnswer result) = s) ∧
      ∀ result, s.operate (.commandAnswer result) = s := by
  refine ⟨fun result => ?_, fun result => ?_⟩
  · refine operate_streamAnswer_of_unasked ?_ result
    rw [Operation.awaitsStream, idle]
    rfl
  · have still : s.operation.controller.step s.operation.now (.acknowledged result) =
        s.operation.controller := by
      simp only [Controller.step, idle, ite_self]
    exact receive_of_still still h.orderly.sent

/-- A controller that waits for an answer takes nothing else in the meantime. -/
theorem operate_deliver_of_waiting {command : RunCommand}
    (waits : s.operation.controller.awaiting = some command) (place : Nat) :
    s.operate (.deliver place) = s := by
  have nothing : s.operation.input? (.deliver place) = none := by
    simp only [Operation.input?, waits]
  rw [(operate_of_no_input nothing).1]
  simp only [Operation.step, Operation.deliver, waits]

theorem take_of_waiting {command : RunCommand}
    (waits : s.operation.controller.awaiting = some command) (place : Nat) :
    s.step (.take place) = s := by
  simp only [Station.step, waits]

theorem take_of_no_next {place : Nat} (nothing : (s.feeds[place]?).bind Feed.next? = none) :
    s.step (.take place) = s := by
  simp only [Station.step, nothing]
  cases s.operation.controller.awaiting <;> rfl

theorem operate_deliver_unconcerned (h : Sound s) {place : Nat}
    (past : ∀ l, s.operation.mail[place]? = some l →
      s.operation.controller.concerns l.message = false) :
    ∃ mail, (∀ l ∈ mail, l ∈ s.operation.mail) ∧
      s.operate (.deliver place) = { s with operation := { s.operation with mail } } := by
  cases takes : s.operation.input? (.deliver place) with
  | none =>
    refine ⟨s.operation.mail, fun _ same => same, ?_⟩
    rw [(operate_of_no_input takes).1]
    simp only [Operation.input?] at takes
    split at takes
    · cases takes
    · simp only [Operation.step, Operation.deliver]
  | some input =>
    simp only [Operation.input?] at takes
    split at takes
    · rename_i l idle at_
      cases takes
      let rest : Station :=
        { s with operation := { s.operation with mail := s.operation.mail.eraseIdx place } }
      have delivered : s.operate (.deliver place) = rest.receive (.message l.message) := by
        simp [rest, operate, receive, Operation.step, Operation.deliver, Operation.calls,
          Operation.effects, Operation.input?, idle, at_, heedAll]
      have still : rest.receive (.message l.message) = rest :=
        receive_of_still (Operation.step_of_not_concerns (past l at_) _) h.orderly.sent
      exact ⟨s.operation.mail.eraseIdx place, fun _ => List.mem_of_mem_eraseIdx,
        delivered.trans still⟩
    · cases takes

/-- A taken signal reaches the controller as a message, and what comes of it touches no more than
the handle of the feed. -/
theorem take_eq (h : Sound s) (idle : s.operation.controller.awaiting = none) {place : Nat}
    {f : Feed} (at_ : s.feeds[place]? = some f) {x : StreamSignal} (next : f.next? = some x) :
    s.step (.take place) = receive (.message (.signal f.stream x))
      (s.modifyFeed place fun f => { f with taken := f.taken + 1 }) := by
  have number := h.number at_
  have told : (s.feeds[place]?).bind Feed.next? = some x := by rw [at_]; exact next
  simp only [Station.step, idle, told]
  exact hand_eq (s := s.modifyFeed place fun f => { f with taken := f.taken + 1 }) idle number x

theorem feed_take (h : Sound s) (idle : s.operation.controller.awaiting = none) {place : Nat}
    {f : Feed} (at_ : s.feeds[place]? = some f) {x : StreamSignal} (next : f.next? = some x) :
    ∃ g, (s.step (.take place)).feeds[place]? = some g ∧
      SameBody { f with taken := f.taken + 1 } g := by
  rw [take_eq h idle at_ next]
  refine heedAll_getElem? _ ?_
  simp only [modifyFeed, List.getElem?_modify, at_, if_true, Option.map_eq_map, Option.map_some]

/-- A signal of a stream that is no longer of concern is taken and forgotten. -/
theorem take_unconcerned (h : Sound s) {place : Nat}
    (past : ∀ n, s.operation.activity.streams[place]? = some n →
      ∀ x, s.operation.controller.concerns (.signal n x) = false) :
    s.step (.take place) = s ∨
      s.step (.take place) = s.modifyFeed place fun f => { f with taken := f.taken + 1 } := by
  cases idle : s.operation.controller.awaiting with
  | some command => exact .inl (take_of_waiting idle place)
  | none =>
    cases told : (s.feeds[place]?).bind Feed.next? with
    | none => exact .inl (take_of_no_next told)
    | some x =>
      right
      obtain ⟨f, at_, next⟩ := Option.bind_eq_some_iff.1 told
      rw [take_eq h idle at_ next]
      exact receive_of_still (Operation.step_of_not_concerns (past _ (h.number at_) x) _)
        h.orderly.sent

/-- What happens to a station happens to its controller in operation, in some steps. -/
theorem operation_step (e : Event) (s : Station) :
    ∃ events : List Operation.Event, (s.step e).operation = events.foldl Operation.step s.operation := by
  cases e with
  | operation e =>
    have one {e : Operation.Event} (same : s.step (.operation e) = s.operate e) :
        ∃ events : List Operation.Event,
          (s.step (.operation e)).operation = events.foldl Operation.step s.operation :=
      ⟨[e], by rw [same]; rfl⟩
    cases e with
    | signal => exact ⟨[], rfl⟩
    | _ => exact one rfl
  | arrive | finish | read => exact ⟨[], rfl⟩
  | take place =>
    simp only [Station.step]
    split
    · exact ⟨[.signal place _, .deliver s.operation.mail.length], rfl⟩
    · exact ⟨[], rfl⟩

theorem operation_after (times : WatchTimes) (events : List Event) :
    ∃ events', (after times events).operation = Operation.after times events' := by
  have runs (s : Station) : ∃ events' : List Operation.Event,
      (events.foldl Station.step s).operation = events'.foldl Operation.step s.operation := by
    induction events generalizing s with
    | nil => exact ⟨[], rfl⟩
    | cons e events ih =>
      obtain ⟨first, here⟩ := operation_step e s
      obtain ⟨more, later⟩ := ih (s.step e)
      exact ⟨first ++ more, by rw [List.foldl_cons, later, here, List.foldl_append]⟩
  exact runs _

theorem shown_after (times : WatchTimes) (events : List Event) :
    (after times events).operation.controller.Shown := by
  obtain ⟨events', same⟩ := operation_after times events
  rw [same]
  exact Operation.shown_after times events'

theorem ready_of_sound (h : Sound s) (shown : s.operation.controller.Shown)
    (unclosed : s.operation.controller.closed = false)
    (idle : s.operation.controller.awaiting = none) : Operation.Ready s.operation where
  unclosed := unclosed
  idle := idle
  sent := h.orderly.sent
  shown := shown idle
  coherent := (h.orderly.coherent unclosed).1

theorem sound_initial (times : WatchTimes) (now : Nat) :
    Sound { operation := { controller := { times }, now } } where
  orderly :=
    have fresh := Operation.orderly_initial times
    ⟨fresh.sent, fresh.agrees, fresh.genuine, fresh.coherent⟩
  fed :=
    { numbers := rfl
      kept := List.forall_mem_nil _
      bounded := List.forall_mem_nil _
      spent := List.forall_mem_nil _
      untouched := fun _ => List.forall_mem_nil _ }
  silent := List.forall_mem_nil _

theorem sound_run (events : List Event) (h : Sound s) : Sound (events.foldl Station.step s) := by
  induction events generalizing s with
  | nil => exact h
  | cons e events ih => exact ih (h.step e)

/-- Every station is sound, whatever happens to it. -/
theorem sound_after (times : WatchTimes) (events : List Event) : Sound (after times events) :=
  sound_run events (sound_initial times 0)

end Station

end RunWatch
