import RunWatch.Proofs.Control.Stations
import RunWatch.Proofs.Stream.Heard

/-!
# Two stations side by side

One station has had earlier runs and one is fresh, and both start the same run. What reaches the new
run of the one reaches that of the other. Besides, each of them gets items and reads them in its own
time, and to the older one comes what is left of its earlier runs: that is aside, and nothing comes
of it.
-/

namespace RunWatch

/-! ### Side by side -/

/-- What a stream delivers in the end. -/
structure Body where
  items : List StreamItem := []
  ends : Bool := false

/-- The feed has got a part of the body and nothing else. -/
structure Feed.Brings (f : Feed) (b : Body) : Prop where
  items : f.subscription.items <+: b.items
  ended : f.ended = true → f.subscription.items = b.items ∧ b.ends = true

instance (f : Feed) (b : Body) : Decidable (f.Brings b) :=
  decidable_of_iff (f.subscription.items <+: b.items ∧
      (f.ended = true → f.subscription.items = b.items ∧ b.ends = true))
    ⟨fun h => ⟨h.1, h.2⟩, fun h => ⟨h.1, h.2⟩⟩

namespace Activity

/-- The letter comes from a sender that was set going by then. -/
def hasSender (a : Activity) (l : Letter) : Bool :=
  match l.message with
  | .signal .. => l.sender < a.streams.length
  | .tick _ => l.sender < a.timers.length
  | .polled .. => l.sender < a.fetches.length

/-- The letters say the same, and the sender of the one has the place among those that were set
going later that the sender of the other has among all. -/
def pairs (a : Activity) (l m : Letter) : Bool :=
  match l.message, m.message with
  | .tick _, .tick _ => l.sender = a.timers.length + m.sender
  | .polled _ result, .polled _ result' =>
    l.sender = a.fetches.length + m.sender && result = result'
  | _, _ => false

end Activity

/-- The event reaches the controller from outside, or time passes. -/
def Operation.Event.isShared : Event → Bool
  | .command _ | .shutDown | .streamAnswer _ | .commandAnswer _ | .wait _ => true
  | .signal .. | .tick _ | .fetched .. | .deliver _ => false

namespace Station

/-- The later streams deliver these bodies. -/
def Delivers (earlier : Activity) (bodies : Nat → Body) (s : Station) : Prop :=
  ∀ f ∈ (s.feeds.drop earlier.streams.length).zipIdx, f.1.Brings (bodies f.2)

instance (earlier : Activity) (bodies : Nat → Body) (s : Station) :
    Decidable (s.Delivers earlier bodies) :=
  inferInstanceAs (Decidable (∀ f ∈ _, _))

/-- The event is no input of the later run: something is on its way, or comes from earlier runs or
from what has been given up. -/
def isAside (earlier : Activity) (s : Station) : Event → Bool
  | .arrive .. | .finish _ | .read _ | .operation (.tick _) | .operation (.fetched ..) => true
  | .operation (.deliver place) =>
    (s.operation.mail[place]?).all fun l => earlier.hasSender l || s.operation.activity.isPast l
  | .take place => place < earlier.streams.length || s.operation.activity.open? != some place
  | .operation _ => false

end Station

/-- A station with earlier runs and a fresh one. -/
structure Pair where
  here : Station
  there : Station

namespace Pair

inductive Move where
  | shared (e : Operation.Event)
  /-- Both take the next signal of the stream at a place. -/
  | take (place : Nat)
  /-- A letter here and a letter there arrive. -/
  | deliver (here there : Nat)
  | here (e : Station.Event)
  | there (e : Station.Event)

variable (earlier : Activity) (bodies : Nat → Body)

def step (p : Pair) : Move → Pair
  | .shared e => ⟨p.here.step (.operation e), p.there.step (.operation e)⟩
  | .take place => ⟨p.here.step (.take (earlier.streams.length + place)), p.there.step (.take place)⟩
  | .deliver i j => ⟨p.here.step (.operation (.deliver i)), p.there.step (.operation (.deliver j))⟩
  | .here e => { p with here := p.here.step e }
  | .there e => { p with there := p.there.step e }

/-- The new runs get the same: the same input, the next signal if there is one, letters that say the
same, and the same bodies in the end. -/
def Fits (p : Pair) : Move → Prop
  | .shared e => e.isShared = true
  | .take place => ((p.here.feeds[earlier.streams.length + place]?).bind Feed.next?).isSome =
      ((p.there.feeds[place]?).bind Feed.next?).isSome
  | .deliver i j => (p.here.operation.mail[i]?).any (fun l =>
      (p.there.operation.mail[j]?).any fun m => earlier.pairs l m) = true
  | .here e => p.here.isAside earlier e = true ∧ (p.here.step e).Delivers earlier bodies
  | .there e => p.there.isAside {} e = true ∧ (p.there.step e).Delivers {} bodies

instance (p : Pair) : (m : Move) → Decidable (p.Fits earlier bodies m)
  | .shared e => inferInstanceAs (Decidable (e.isShared = true))
  | .take _ => inferInstanceAs (Decidable (_ = (_ : Bool)))
  | .deliver _ _ => inferInstanceAs (Decidable (Option.any _ _ = true))
  | .here _ => inferInstanceAs (Decidable (_ = true ∧ Station.Delivers _ _ _))
  | .there _ => inferInstanceAs (Decidable (_ = true ∧ Station.Delivers _ _ _))

/-- Each of the moves fits when it is made. -/
def FitsAll : Pair → List Move → Prop
  | _, [] => True
  | p, m :: moves => p.Fits earlier bodies m ∧ FitsAll (p.step earlier m) moves

instance decidableFitsAll : (p : Pair) → (moves : List Move) → Decidable (p.FitsAll earlier bodies moves)
  | _, [] => inferInstanceAs (Decidable True)
  | p, m :: moves =>
    have := decidableFitsAll (p.step earlier m) moves
    inferInstanceAs (Decidable (_ ∧ _))

/-- A start of the same run on a station and on a fresh one, whose clock may show another time. -/
def start (earlier : Station) (now : Nat) (w : WorkflowId) (inputs : Option Json.Value) : Pair where
  here := earlier.step (.operation (.command (.start w inputs)))
  there := (Station.after earlier.operation.controller.times [.operation (.wait now)]).step
    (.operation (.command (.start w inputs)))

end Pair

/-! ### Bodies -/

namespace Feed

variable {f g : Feed} {b : Body}

theorem Brings.of_sameBody (h : f.Brings b) (same : f.SameBody g) : g.Brings b where
  items := by
    rw [same.items]
    exact h.items
  ended := by
    rw [same.items, same.ended]
    exact h.ended

theorem brings_fresh (n : Nat) (b : Body) : Brings { stream := n } b where
  items := List.nil_prefix
  ended := nofun

/-- A feed was there before some effects, or is new and untouched. -/
theorem heedAll_origin {feeds : List Feed} (effects : List Effect) {i : Nat}
    (at_ : (heedAll feeds effects)[i]? = some g) :
    (∃ f, feeds[i]? = some f ∧ f.SameBody g) ∨ feeds.length ≤ i ∧ g.taken = 0 := by
  cases before : feeds[i]? with
  | some f =>
    obtain ⟨g', after, same⟩ := heedAll_getElem? effects before
    cases Option.some.inj (at_.symm.trans after)
    exact .inl ⟨f, rfl, same⟩
  | none =>
    have beyond := List.getElem?_eq_none_iff.1 before
    have untaken := heedAll_places (p := fun i f => feeds.length ≤ i → f.taken = 0)
      (fun _ _ _ => rfl) (fun _ _ untaken => untaken) effects fun i f before beyond =>
        absurd (List.getElem?_eq_some_iff.1 before).1 (Nat.not_lt_of_le beyond)
    exact .inr ⟨beyond, untaken i g at_ beyond⟩

/-- As long as nobody cancels, only signals of the body are heard. -/
theorem Brings.signals (h : f.Brings b) (kept : f.subscription.Kept) (uncut : f.cancelled = false) :
    f.subscription.signals <+: uncancelled {} b.ends b.items := by
  have part : uncancelled {} f.ended f.subscription.items <+: uncancelled {} b.ends b.items := by
    cases ended : f.ended with
    | false =>
      obtain ⟨more, whole⟩ := h.items
      rw [← whole]
      exact uncancelled_prefix _ _ _ _
    | true =>
      obtain ⟨items, ends⟩ := h.ended ended
      exact ⟨[], by rw [items, ends, List.append_nil]⟩
  exact (kept.follows.heard_prefix uncut).trans part

end Feed

namespace Station

variable {earlier : Activity} {bodies : Nat → Body} {s : Station}

theorem delivers_iff : s.Delivers earlier bodies ↔
    ∀ j f, s.feeds[earlier.streams.length + j]? = some f → f.Brings (bodies j) := by
  constructor
  · intro h j f at_
    refine h (f, j) (List.mem_zipIdx_iff_getElem?.2 ?_)
    rw [List.getElem?_drop]
    exact at_
  · rintro h ⟨f, j⟩ member
    have at_ := List.mem_zipIdx_iff_getElem?.1 member
    rw [List.getElem?_drop] at at_
    exact h j f at_

theorem Delivers.receive (h : s.Delivers earlier bodies) (input : Controller.Input) :
    (s.receive input).Delivers earlier bodies := by
  rw [delivers_iff] at h ⊢
  intro j f at_
  exact Feed.heedAll_places (p := fun i f => ∀ j, i = earlier.streams.length + j → f.Brings (bodies j))
    (fun i n j _ => Feed.brings_fresh n _)
    (fun i f before j same => (before j same).of_sameBody (Feed.sameBody_drop f)) _
    (fun i f before j same => h j f (same ▸ before)) _ f at_ j rfl

theorem Delivers.operate (h : s.Delivers earlier bodies) (e : Operation.Event) :
    (s.operate e).Delivers earlier bodies := by
  cases takes : s.operation.input? e with
  | none =>
    rw [(operate_of_no_input takes).1]
    exact h
  | some input =>
    obtain ⟨activity, mail, -, -, same⟩ := operate_of_input takes
    rw [same]
    exact Delivers.receive (s := { s with operation := { s.operation with activity, mail } }) h input

theorem Delivers.operation (h : s.Delivers earlier bodies) (e : Operation.Event) :
    (s.step (.operation e)).Delivers earlier bodies := by
  cases e with
  | signal => exact h
  | _ => exact h.operate _

theorem Delivers.modifyFeed (h : s.Delivers earlier bodies) (place : Nat) {g : Feed → Feed}
    (same : ∀ f, (g f).subscription = f.subscription) : (s.modifyFeed place g).Delivers earlier bodies := by
  rw [delivers_iff] at h ⊢
  intro j f at_
  rw [Station.modifyFeed, List.getElem?_modify, Option.map_eq_map, Option.map_eq_some_iff] at at_
  obtain ⟨f₀, before, rfl⟩ := at_
  have brings := h j f₀ before
  split
  · refine ⟨?_, ?_⟩
    · rw [same]
      exact brings.items
    · rw [Feed.ended, same]
      exact brings.ended
  · exact brings

theorem Delivers.take (h : s.Delivers earlier bodies) (place : Nat) :
    (s.step (.take place)).Delivers earlier bodies := by
  simp only [Station.step]
  split
  · have taken : (s.modifyFeed place fun f => { f with taken := f.taken + 1 }).Delivers earlier
        bodies := h.modifyFeed place fun _ => rfl
    exact (taken.operate _).operate _
  · exact h

end Station

/-! ### Earlier runs -/

namespace Operation

variable {earlier : Activity} {o : Operation}

/-- The numbers of what was set going earlier are used up. -/
structure Since (earlier : Activity) (o : Operation) : Prop where
  grows : earlier.Grows o.activity
  streams : ∀ n ∈ earlier.streams, n < o.controller.stream
  timers : ∀ n ∈ earlier.timers, n < o.controller.watchdog
  fetches : ∀ f ∈ earlier.fetches, f.watchdog < o.controller.watchdog

theorem Since.step (h : Since earlier o) (orderly : Orderly o) (e : Event) :
    Since earlier (o.step e) := by
  rcases step_cases orderly e with ⟨controller, activity⟩ | ⟨input, a, mail, taken, from_, -⟩
  · refine ⟨?_, ?_, ?_, ?_⟩
    · rw [activity]
      exact h.grows
    · rw [controller]
      exact h.streams
    · rw [controller]
      exact h.timers
    · rw [controller]
      exact h.fetches
  · obtain ⟨stream, watchdog⟩ := Controller.numbers_step o.now o.controller input
    have grows : earlier.Grows a := by
      rcases from_ with rfl | rfl
      · exact h.grows
      · exact h.grows.trans (Activity.grows_accept _)
    rw [taken]
    exact {
      grows := grows.trans (Activity.grows_performAll _ a)
      streams := fun n began => Nat.lt_of_lt_of_le (h.streams n began) stream
      timers := fun n began => Nat.lt_of_lt_of_le (h.timers n began) watchdog
      fetches := fun f began => Nat.lt_of_lt_of_le (h.fetches f began) watchdog }

theorem Since.run (h : Since earlier o) (orderly : Orderly o) (events : List Event) :
    Since earlier (events.foldl Operation.step o) :=
  run_of_step events (fun _ e _ orderly h => Since.step h orderly e) orderly h

/-- Whatever earlier senders still send is of no concern. -/
theorem Since.not_concerns (h : Since earlier o) {l : Letter} (genuine : o.activity.Genuine l)
    (old : earlier.hasSender l = true) : o.controller.concerns l.message = false := by
  unfold Activity.Genuine at genuine
  unfold Activity.hasSender at old
  cases message : l.message with
  | signal n x =>
    simp only [message, decide_eq_true_eq] at genuine old
    have past := h.streams n (Activity.mem_of_place h.grows.streams old genuine)
    simp [Controller.concerns, Nat.ne_of_lt past]
  | tick n =>
    simp only [message, decide_eq_true_eq] at genuine old
    have past := h.timers n (Activity.mem_of_place h.grows.timers old genuine)
    simp [Controller.concerns, Nat.ne_of_lt past]
  | polled n result =>
    simp only [message, decide_eq_true_eq] at genuine old
    obtain ⟨f, began, rfl⟩ := genuine
    have past := h.fetches f (Activity.mem_of_place h.grows.fetches old began)
    simp [Controller.concerns, Nat.ne_of_lt past]

end Operation

namespace Station

variable {earlier : Activity} {bodies : Nat → Body} {s s' : Station}

/-- A station that has come so far by events, since some earlier activity. -/
structure Going (earlier : Activity) (bodies : Nat → Body) (s : Station) : Prop where
  reached : ∃ times events, s = after times events
  since : s.operation.Since earlier
  delivers : s.Delivers earlier bodies

theorem Going.sound (h : Going earlier bodies s) : Sound s := by
  obtain ⟨times, events, rfl⟩ := h.reached
  exact sound_after times events

theorem Going.shown (h : Going earlier bodies s) : s.operation.controller.Shown := by
  obtain ⟨times, events, rfl⟩ := h.reached
  exact shown_after times events

theorem after_concat (times : WatchTimes) (events : List Event) (e : Event) :
    after times (events ++ [e]) = (after times events).step e := by
  rw [after, List.foldl_append]
  rfl

theorem Going.step (h : Going earlier bodies s) {e : Event}
    (delivers : (s.step e).Delivers earlier bodies) : Going earlier bodies (s.step e) where
  reached := by
    obtain ⟨times, events, rfl⟩ := h.reached
    exact ⟨times, events ++ [e], (after_concat times events e).symm⟩
  since := by
    obtain ⟨events, same⟩ := operation_step e s
    rw [same]
    exact h.since.run h.sound.orderly events
  delivers := delivers

/-! ### What happens aside -/

/-- Nothing has reached the controller, and of its open stream nothing was taken. -/
structure Aside (s s' : Station) : Prop where
  controller : s'.operation.controller = s.operation.controller
  activity : s'.operation.activity = s.operation.activity
  now : s'.operation.now = s.operation.now
  log : s'.log = s.log
  feeds : ∀ (i : Nat) (g : Feed), s'.feeds[i]? = some g →
    ∃ f : Feed, s.feeds[i]? = some f ∧ g.stream = f.stream ∧
      (s.operation.controller.streaming = true → f.stream = s.operation.controller.stream →
        g.taken = f.taken)

theorem aside_of_mail (s : Station) (mail : List Letter) :
    Aside s { s with operation := { s.operation with mail } } :=
  ⟨rfl, rfl, rfl, rfl, fun _ g at_ => ⟨g, at_, rfl, fun _ _ => rfl⟩⟩

theorem aside_send (s : Station) (sender : Nat) (message? : Option Message) :
    Aside s { s with operation := s.operation.send sender message? } := by
  unfold Operation.send
  split
  · exact aside_of_mail s _
  · exact aside_of_mail s s.operation.mail

theorem aside_modifyFeed (s : Station) (place : Nat) {g : Feed → Feed}
    (number : ∀ f, (g f).stream = f.stream)
    (taken : ∀ f, s.feeds[place]? = some f → s.operation.controller.streaming = true →
      f.stream = s.operation.controller.stream → (g f).taken = f.taken) :
    Aside s (s.modifyFeed place g) := by
  refine ⟨rfl, rfl, rfl, rfl, fun i f' at_ => ?_⟩
  rw [Station.modifyFeed, List.getElem?_modify, Option.map_eq_map, Option.map_eq_some_iff] at at_
  obtain ⟨f, before, rfl⟩ := at_
  refine ⟨f, before, ?_⟩
  split
  · rename_i here
    exact ⟨number f, taken f (here ▸ before)⟩
  · exact ⟨rfl, fun _ _ => rfl⟩

/-- A signal of a stream that is not open is taken in vain. -/
theorem aside_take (h : Sound s) {place : Nat}
    (past : ∀ n, s.operation.activity.streams[place]? = some n →
      ∀ x, s.operation.controller.concerns (.signal n x) = false) :
    Aside s (s.step (.take place)) := by
  obtain same | same := take_unconcerned h past
  · rw [same]
    exact aside_of_mail s s.operation.mail
  · rw [same]
    refine aside_modifyFeed s place (fun _ => rfl) fun f at_ streaming present => ?_
    have unconcerned := past f.stream (h.number at_) .closed
    rw [Controller.concerns, streaming, present, beq_self_eq_true] at unconcerned
    cases unconcerned

theorem Going.aside (h : Going earlier bodies s) {e : Event}
    (aside : s.isAside earlier e = true) : Aside s (s.step e) := by
  have sound := h.sound
  cases e with
  | operation e =>
    cases e with
    | tick i =>
      have sent : s.step (.operation (.tick i)) =
          { s with operation := s.operation.step (.tick i) } := (operate_of_no_input rfl).1
      rw [sent]
      exact aside_send s i _
    | fetched i result =>
      have sent : s.step (.operation (.fetched i result)) =
          { s with operation := s.operation.step (.fetched i result) } := (operate_of_no_input rfl).1
      rw [sent]
      exact aside_send s i _
    | deliver i =>
      have past (l : Letter) (at_ : s.operation.mail[i]? = some l) :
          s.operation.controller.concerns l.message = false := by
        have posted := List.mem_of_getElem? at_
        rw [isAside, at_, Option.all_some, Bool.or_eq_true] at aside
        -- From an earlier run, or from a sender of this one that was given up.
        rcases aside with old | past
        · exact h.since.not_concerns (sound.orderly.genuine l posted) old
        · exact sound.orderly.not_concerns_of_past posted past
      obtain ⟨mail, -, delivered⟩ := operate_deliver_unconcerned sound past
      have taken : s.step (.operation (.deliver i)) =
          { s with operation := { s.operation with mail } } := delivered
      rw [taken]
      exact aside_of_mail s mail
    | _ => cases aside
  | arrive i item => exact aside_modifyFeed s i (fun _ => rfl) fun _ _ _ _ => rfl
  | finish i => exact aside_modifyFeed s i (fun _ => rfl) fun _ _ _ _ => rfl
  | read i => exact aside_modifyFeed s i (fun _ => rfl) fun _ _ _ _ => rfl
  | take i =>
    refine aside_take sound fun n at_ x => ?_
    rw [isAside, Bool.or_eq_true, decide_eq_true_eq, bne_iff_ne] at aside
    rcases aside with old | shut
    · exact h.since.not_concerns (l := ⟨i, .signal n x⟩) at_ (decide_eq_true old)
    · exact sound.not_concerns_of_shut (fun _ => shut) n at_ x

end Station

end RunWatch
