import RunWatch.Proofs.Control.Attention
import RunWatch.Proofs.Control.Stations

/-!
# A run follows its stream

After a start the controller is left alone with its stream: nobody gives a command, and the watchdog
does not tick. However the body is cut into chunks, and however the reader and the controller take
turns, the run at rest is what the bytes make of it. `Starting` describes a station that waits for
the stream, and `Following` one that takes its signals.
-/

namespace RunWatch

/-! ### Feeds go on -/

namespace Feed

/-- What is heard of a feed in the end, if nobody cancels. -/
def whole (f : Feed) : List StreamSignal :=
  uncancelled {} f.ended f.subscription.items

/-- One feed before and after something has happened to its source, its reader or its handle. -/
structure Onward (f g : Feed) : Prop where
  stream : g.stream = f.stream
  taken : g.taken = f.taken
  signals : f.subscription.signals <+: g.subscription.signals
  whole : f.whole <+: g.whole

theorem SameBody.onward {f g : Feed} (h : f.SameBody g) : f.Onward g where
  stream := h.stream
  taken := h.taken
  signals := ⟨[], by rw [h.signals, List.append_nil]⟩
  whole := ⟨[], by rw [Feed.whole, Feed.whole, h.ended, h.items, List.append_nil]⟩

/-- The feed with another stage of its subscription. -/
def withSubscription (u : Subscription → Subscription) (f : Feed) : Feed :=
  { f with subscription := u f.subscription }

theorem onward_arrive (item : StreamItem) (f : Feed) :
    f.Onward (f.withSubscription (Subscription.arrive item)) := by
  have same : (f.subscription.arrive item).signals = f.subscription.signals := by
    unfold Subscription.arrive
    split <;> rfl
  refine ⟨rfl, rfl, ⟨[], by rw [withSubscription, same, List.append_nil]⟩, ?_⟩
  unfold whole ended withSubscription Subscription.arrive
  split
  · exact List.prefix_refl _
  · rename_i unended
    rw [Bool.eq_false_iff.2 unended]
    exact uncancelled_prefix _ _ _ _

theorem onward_finish (f : Feed) : f.Onward (f.withSubscription (·.step .finish)) := by
  refine ⟨rfl, rfl, List.prefix_refl _, ?_⟩
  have last := uncancelled_prefix f.subscription.items [] {} true
  rw [List.append_nil] at last
  unfold whole
  cases ended : f.ended with
  | true => exact List.prefix_refl _
  | false => exact last

theorem onward_read (f : Feed) : f.Onward (f.withSubscription (Subscription.read [])) := by
  cases next : f.subscription.connection.reader.step? with
  | none =>
    rw [withSubscription, Subscription.read_eq_of_rests next]
    exact (sameBody_refl f).onward
  | some moved =>
    rw [withSubscription, Subscription.read_eq_of_step next]
    refine ⟨rfl, rfl, ?_, ?_⟩
    · rw [Subscription.signals_hear]
      exact List.prefix_append _ _
    · have ended : moved.1.ended = f.ended := ended_of_step next
      exact ⟨[], by rw [whole, whole, ← ended, List.append_nil]; rfl⟩

/-- What is left for the reader and then for the controller. -/
def toDo (f : Feed) : (Nat × Nat × Nat) × Nat :=
  (f.subscription.connection.reader.weight, f.subscription.signals.length - f.taken)

theorem toDo_read {f : Feed} {moved : Reader × Option StreamSignal}
    (moves : f.subscription.connection.reader.step? = some moved) :
    WellFoundedRelation.rel (f.withSubscription (Subscription.read [])).toDo f.toDo := by
  have reader : (f.withSubscription (Subscription.read [])).subscription.connection.reader =
      moved.1 := by
    rw [withSubscription, Subscription.read_eq_of_step moves]
    rfl
  refine .left _ _ ?_
  rw [reader]
  exact Reader.step?_lighter moves

theorem toDo_take {f g : Feed} {x : StreamSignal} (next : f.next? = some x)
    (taken : SameBody { f with taken := f.taken + 1 } g) :
    WellFoundedRelation.rel g.toDo f.toDo := by
  have length : f.taken < f.subscription.signals.length := (List.getElem?_eq_some_iff.1 next).1
  rw [toDo, taken.weight, taken.signals, taken.taken]
  exact .right _ (Nat.sub_succ_lt_self _ _ length)

end Feed

/-! ### A run and its feed -/

/-- The run is what the signals taken so far have made of it, and once the stream is closed it is
what all signals make of it. -/
structure Attends (w : WorkflowId) (f : Feed) (c : Controller) : Prop where
  going : c.streaming = true → c.stream = f.stream ∧ f.taken ≤ f.subscription.signals.length ∧
    (f.subscription.signals.take f.taken).foldl attend (RunState.placeholder w, true) =
      (c.state, true)
  closed : c.streaming = false →
    f.whole.foldl attend (RunState.placeholder w, true) = (c.state, false)

theorem Attends.onward {w : WorkflowId} {f g : Feed} {c : Controller} (h : Attends w f c)
    (onward : f.Onward g) : Attends w g c where
  going streaming := by
    obtain ⟨stream, taken, heard⟩ := h.going streaming
    obtain ⟨more, signals⟩ := onward.signals
    refine ⟨stream.trans onward.stream.symm, ?_, ?_⟩
    · rw [onward.taken, ← signals, List.length_append]
      omega
    · rw [onward.taken, ← signals, List.take_append_of_le_length taken, heard]
  closed streaming := foldl_attend_prefix onward.whole (h.closed streaming)

theorem Attends.of_eq {w : WorkflowId} {f : Feed} {c c' : Controller} (h : Attends w f c)
    (state : c'.state = c.state) (streaming : c'.streaming = c.streaming)
    (stream : c'.stream = c.stream) : Attends w f c' where
  going open_ := by
    rw [state, stream]
    exact h.going (streaming.symm.trans open_)
  closed closed := by
    rw [state]
    exact h.closed (streaming.symm.trans closed)

/-- The run takes the next signal of its open stream. -/
theorem Attends.take {w : WorkflowId} {f g : Feed} {c : Controller} (h : Attends w f c)
    (coherent : c.Coherent) (streaming : c.streaming = true) {x : StreamSignal}
    (next : f.next? = some x) (taken : Feed.SameBody { f with taken := f.taken + 1 } g)
    (heard : f.subscription.signals <+: f.whole) (now : Nat) : Attends w g (c.signal now x) := by
  obtain ⟨stream, -, before⟩ := h.going streaming
  have told := coherent.signal_attends streaming now x
  have length : f.taken < f.subscription.signals.length := (List.getElem?_eq_some_iff.1 next).1
  -- What the feed has told so far, this signal included.
  have all : (f.subscription.signals.take (f.taken + 1)).foldl attend
      (RunState.placeholder w, true) = ((c.signal now x).state, (c.signal now x).streaming) := by
    have last : f.subscription.signals[f.taken] = x :=
      Option.some.inj ((List.getElem?_eq_getElem length).symm.trans next)
    rw [List.take_succ_eq_append_getElem length, List.foldl_append, before, last]
    exact told.symm
  constructor
  · intro open_
    have number := ((Controller.eases_signal now x c).stream open_).2
    refine ⟨number.trans (stream.trans taken.stream.symm), ?_, ?_⟩
    · rw [taken.taken, taken.signals]
      exact length
    · rw [taken.taken, taken.signals, all, open_]
  · intro closed
    -- The rest of the body makes no difference any more.
    refine foldl_attend_prefix ?_ (all.trans (by rw [closed]))
    rw [Feed.whole, taken.ended, taken.items]
    exact (List.take_prefix _ _).trans heard

namespace Station

/-- The message is of a watchdog below a number. -/
def Earlier (bound : Nat) : Message → Prop
  | .signal .. => False
  | .tick n | .polled n _ => n < bound

/-- The station takes the signals of one stream and nothing else. Whatever is left of other
watchdogs is older than the present one. -/
structure Following (w : WorkflowId) (place timer bound : Nat) (s : Station) : Prop where
  sound : s.Sound
  unclosed : s.operation.controller.closed = false
  idle : s.operation.controller.awaiting = none
  present : bound ≤ s.operation.controller.watchdog
  letters : ∀ l ∈ s.operation.mail, Earlier bound l.message
  timers : ∀ i n, s.operation.activity.timers[i]? = some n → i ≠ timer → n < bound
  fetches : ∀ f ∈ s.operation.activity.fetches, f.watchdog < bound
  attends : ∃ f, s.feeds[place]? = some f ∧ Attends w f s.operation.controller

/-- The event leaves the run to its stream: no command, no shutdown, and no tick of one timer. -/
def Event.spares (timer : Nat) : Event → Bool
  | .operation (.command _) | .operation .shutDown => false
  | .operation (.tick place) => place != timer
  | _ => true

variable {w : WorkflowId} {place timer bound : Nat} {s : Station}

theorem not_concerns_of_earlier {c : Controller} (present : bound ≤ c.watchdog) {m : Message}
    (earlier : Earlier bound m) : c.concerns m = false := by
  cases m with
  | signal => cases earlier
  | tick n =>
    have other : n ≠ c.watchdog := Nat.ne_of_lt (Nat.lt_of_lt_of_le earlier present)
    simp [Controller.concerns, other]
  | polled n result =>
    have other : n ≠ c.watchdog := Nat.ne_of_lt (Nat.lt_of_lt_of_le earlier present)
    simp [Controller.concerns, other]

/-- All that is on its way comes from watchdogs so far. -/
theorem Sound.earlier (h : Sound s) :
    ∀ l ∈ s.operation.mail, Earlier (s.operation.controller.watchdog + 1) l.message := by
  intro l member
  obtain ⟨-, watch⟩ := h.orderly.agrees.of_sent h.orderly.sent
  have genuine := h.orderly.genuine l member
  have silent := h.silent l member
  unfold Activity.Genuine at genuine
  cases message : l.message with
  | signal n x => exact absurd message (silent n x)
  | tick n =>
    rw [message] at genuine
    exact Nat.lt_succ_of_le (watch.timers n (List.mem_of_getElem? genuine))
  | polled n result =>
    rw [message] at genuine
    obtain ⟨fetch, began, rfl⟩ := genuine
    exact Nat.lt_succ_of_le (watch.fetches fetch (List.mem_of_getElem? began))

namespace Following

theorem of_mail (h : Following w place timer bound s) {now : Nat} {mail : List Letter}
    (sound : Sound { s with operation := { s.operation with now, mail } })
    (letters : ∀ l ∈ mail, Earlier bound l.message) :
    Following w place timer bound { s with operation := { s.operation with now, mail } } :=
  ⟨sound, h.unclosed, h.idle, h.present, letters, h.timers, h.fetches, h.attends⟩

/-- Old timers and fetches may still send their messages. -/
theorem post (h : Following w place timer bound s) (sender : Nat) (message? : Option Message)
    (earlier : ∀ m, message? = some m → Earlier bound m)
    (sound : Sound { s with operation := s.operation.send sender message? }) :
    Following w place timer bound { s with operation := s.operation.send sender message? } := by
  cases message? with
  | none => exact h
  | some m =>
    refine h.of_mail sound fun l member => ?_
    rcases List.mem_append.1 member with before | new
    · exact h.letters l before
    · rw [List.mem_singleton.1 new]
      exact earlier m rfl

theorem modifyFeed (h : Following w place timer bound s) (i : Nat) {g : Feed → Feed}
    (onward : ∀ f : Feed, f.Onward (g f)) (sound : Sound (s.modifyFeed i g)) :
    Following w place timer bound (s.modifyFeed i g) := by
  obtain ⟨f, at_, attends⟩ := h.attends
  refine ⟨sound, h.unclosed, h.idle, h.present, h.letters, h.timers, h.fetches, ?_⟩
  by_cases here : i = place
  · refine ⟨g f, ?_, attends.onward (onward f)⟩
    simp [Station.modifyFeed, at_, here]
  · refine ⟨f, ?_, attends⟩
    simp [Station.modifyFeed, at_, here]

/-- Signals count only if they come from the feed and its stream is open. -/
theorem not_concerns_signal (h : Following w place timer bound s) {i : Nat}
    (other : i ≠ place ∨ s.operation.controller.streaming = false) :
    ∀ n, s.operation.activity.streams[i]? = some n →
      ∀ x, s.operation.controller.concerns (.signal n x) = false := by
  refine h.sound.not_concerns_of_shut fun streaming same => ?_
  obtain ⟨f, feed, attends⟩ := h.attends
  have number := h.sound.number feed
  rw [← (attends.going streaming).1] at number
  have opened := (h.sound.orderly.agrees.of_sent h.sound.orderly.sent).1.opened streaming
  rcases other with elsewhere | closed
  · exact elsewhere (Option.some.inj (same.symm.trans (opened place number)))
  · exact absurd (streaming.symm.trans closed) (by decide)

/-- A signal of the open stream is taken in, and sets nothing going. -/
theorem take_signal (h : Following w place timer bound s)
    (streaming : s.operation.controller.streaming = true) {f : Feed}
    (at_ : s.feeds[place]? = some f) (stream : s.operation.controller.stream = f.stream)
    {x : StreamSignal} (next : f.next? = some x) :
    (s.step (.take place)).operation.controller =
        { (s.operation.controller.signal s.operation.now x).publish with outbox := [] } ∧
      (s.step (.take place)).operation.activity.timers = s.operation.activity.timers ∧
      (s.step (.take place)).operation.activity.fetches = s.operation.activity.fetches ∧
      (s.step (.take place)).operation.mail = s.operation.mail := by
  have eases := (Controller.eases_signal s.operation.now x s.operation.controller).trans
    (Controller.eases_publish _)
  obtain ⟨more, outbox, gives⟩ := eases.outbox
  rw [h.sound.orderly.sent, List.nil_append] at outbox
  obtain ⟨-, timers, fetches⟩ := Activity.performAll_givesUp gives s.operation.activity
  have acts : s.operation.controller.step s.operation.now (.message (.signal f.stream x)) =
      (s.operation.controller.signal s.operation.now x).publish := by
    simp [Controller.step, h.unclosed, h.idle, Controller.message, Controller.concerns, stream,
      streaming]
  have activity : (receive (.message (.signal f.stream x))
      (s.modifyFeed place fun f => { f with taken := f.taken + 1 })).operation.activity =
        s.operation.activity.performAll more := by
    refine (congrArg (fun c : Controller => s.operation.activity.performAll c.outbox) acts).trans ?_
    rw [outbox]
  rw [take_eq h.sound h.idle at_ next]
  refine ⟨congrArg (fun c : Controller => { c with outbox := [] }) acts, ?_, ?_, rfl⟩
  · rw [activity, timers]
  · rw [activity, fetches]

/-- A signal of the open stream does to the run what `attend` says. -/
theorem take_open (h : Following w place timer bound s)
    (streaming : s.operation.controller.streaming = true) {f : Feed}
    (at_ : s.feeds[place]? = some f) (attends : Attends w f s.operation.controller)
    {x : StreamSignal} (next : f.next? = some x) :
    Following w place timer bound (s.step (.take place)) := by
  have member := List.mem_of_getElem? at_
  have stream := (attends.going streaming).1
  have heard := (h.sound.fed.kept f member).follows.heard_prefix (h.sound.uncut member stream)
  have coherent := (h.sound.orderly.coherent h.unclosed).1
  have eases := (Controller.eases_signal s.operation.now x s.operation.controller).trans
    (Controller.eases_publish _)
  obtain ⟨g, at_', same⟩ := feed_take h.sound h.idle at_ next
  obtain ⟨controller, timers, fetches, mail⟩ := h.take_signal streaming at_ stream next
  refine ⟨h.sound.step (.take place), ?_, ?_, ?_, ?_, ?_, ?_, g, at_', ?_⟩
  · rw [controller]
    exact eases.closed.trans h.unclosed
  · rw [controller]
    exact eases.awaiting.trans h.idle
  · rw [controller]
    exact Nat.le_trans h.present eases.watchdog
  · rw [mail]
    exact h.letters
  · rw [timers]
    exact h.timers
  · rw [fetches]
    exact h.fetches
  · rw [controller, Controller.publish_eq]
    exact (attends.take coherent streaming next same heard s.operation.now).of_eq rfl rfl rfl

theorem take (h : Following w place timer bound s) (i : Nat) :
    Following w place timer bound (s.step (.take i)) := by
  have unnoticed (other : i ≠ place ∨ s.operation.controller.streaming = false) :
      Following w place timer bound (s.step (.take i)) := by
    have sound := h.sound.step (.take i)
    -- At most the feed goes on by one, and its signal is forgotten.
    obtain same | taken := take_unconcerned h.sound (h.not_concerns_signal other)
    · rw [same]
      exact h
    · rw [taken] at sound ⊢
      obtain ⟨f, at_, attends⟩ := h.attends
      refine ⟨sound, h.unclosed, h.idle, h.present, h.letters, h.timers, h.fetches, ?_⟩
      by_cases here : i = place
      · have closed := other.resolve_left (not_not_intro here)
        refine ⟨{ f with taken := f.taken + 1 }, ?_, fun streaming => ?_, attends.closed⟩
        · simp [Station.modifyFeed, at_, here]
        · exact absurd (closed.symm.trans streaming) (by decide)
      · refine ⟨f, ?_, attends⟩
        simp [Station.modifyFeed, at_, here]
  by_cases here : i = place
  · cases streaming : s.operation.controller.streaming with
    | false => exact unnoticed (.inr streaming)
    | true =>
      subst here
      obtain ⟨f, at_, attends⟩ := h.attends
      cases next : f.next? with
      | none =>
        have told : (s.feeds[i]?).bind Feed.next? = none := by rw [at_]; exact next
        rw [take_of_no_next told]
        exact h
      | some x => exact h.take_open streaming at_ attends next
  · exact unnoticed (.inl here)

theorem step (h : Following w place timer bound s) {e : Event} (spares : e.spares timer = true) :
    Following w place timer bound (s.step e) := by
  have sound := h.sound.step e
  cases e with
  | operation e =>
    cases e with
    | command | shutDown => cases spares
    | streamAnswer result =>
      have same : s.step (.operation (.streamAnswer result)) = s :=
        (operate_answer_of_idle h.sound h.idle).1 result
      rwa [same]
    | commandAnswer result =>
      have same : s.step (.operation (.commandAnswer result)) = s :=
        (operate_answer_of_idle h.sound h.idle).2 result
      rwa [same]
    | signal => exact h
    | tick i =>
      have other : i ≠ timer := by simpa [Event.spares] using spares
      have sent : s.step (.operation (.tick i)) =
          { s with operation := s.operation.step (.tick i) } := (operate_of_no_input rfl).1
      rw [sent] at sound ⊢
      refine h.post i _ (fun m posted => ?_) sound
      obtain ⟨n, began, rfl⟩ := Option.map_eq_some_iff.1 posted
      exact h.timers i n began other
    | fetched i result =>
      have sent : s.step (.operation (.fetched i result)) =
          { s with operation := s.operation.step (.fetched i result) } := (operate_of_no_input rfl).1
      rw [sent] at sound ⊢
      refine h.post i _ (fun m posted => ?_) sound
      obtain ⟨f, began, rfl⟩ := Option.map_eq_some_iff.1 posted
      exact h.fetches f (List.mem_of_getElem? began)
    | deliver i =>
      -- Whatever is in the mail is older than the present watchdog.
      have past (l : Letter) (at_ : s.operation.mail[i]? = some l) :
          s.operation.controller.concerns l.message = false :=
        not_concerns_of_earlier h.present (h.letters l (List.mem_of_getElem? at_))
      obtain ⟨mail, kept, delivered⟩ := operate_deliver_unconcerned h.sound past
      have taken : s.step (.operation (.deliver i)) =
          { s with operation := { s.operation with mail } } := delivered
      rw [taken] at sound ⊢
      exact h.of_mail sound fun l member => h.letters l (kept l member)
    | wait duration =>
      have waited : s.step (.operation (.wait duration)) =
          { s with operation := s.operation.step (.wait duration) } := (operate_of_no_input rfl).1
      rw [waited] at sound ⊢
      exact h.of_mail sound h.letters
  | arrive i item => exact h.modifyFeed i (Feed.onward_arrive item) sound
  | finish i => exact h.modifyFeed i Feed.onward_finish sound
  | read i => exact h.modifyFeed i Feed.onward_read sound
  | take i => exact h.take i

theorem run (events : List Event) (h : Following w place timer bound s)
    (spares : ∀ e ∈ events, e.spares timer = true) :
    Following w place timer bound (events.foldl Station.step s) := by
  induction events generalizing s with
  | nil => exact h
  | cons e events ih =>
    have first := h.step (spares e List.mem_cons_self)
    exact ih first fun e later => spares e (List.mem_cons_of_mem _ later)

/-! ### At rest -/

theorem attended (h : Following w place timer bound s) {f : Feed} (at_ : s.feeds[place]? = some f)
    (rests : f.Rests) : f.whole.foldl attend (RunState.placeholder w, true) =
      (s.operation.controller.state, s.operation.controller.streaming) := by
  obtain ⟨f', at_', attends⟩ := h.attends
  cases at_.symm.trans at_'
  cases streaming : s.operation.controller.streaming with
  | false => exact attends.closed streaming
  | true =>
    obtain ⟨stream, -, heard⟩ := attends.going streaming
    have member := List.mem_of_getElem? at_
    have uncut := h.sound.uncut member stream
    have all := (h.sound.fed.kept f member).follows.complete uncut rests.1
    have taken : f.subscription.signals.length ≤ f.taken := List.getElem?_eq_none_iff.1 rests.2
    rw [List.take_of_length_le taken, all] at heard
    exact heard

/-- Reading and taking come to an end: a read leaves the reader less to do, and a take leaves it
alone. -/
theorem comes_to_rest (h : Following w place timer bound s) {f : Feed}
    (at_ : s.feeds[place]? = some f) :
    ∃ rest : List Event, (∀ e ∈ rest, e = .read place ∨ e = .take place) ∧
      ∃ g, (rest.foldl Station.step s).feeds[place]? = some g ∧ g.Rests := by
  generalize size : f.toDo = m
  induction m using (WellFoundedRelation.wf (α := (Nat × Nat × Nat) × Nat)).induction
    generalizing s f with
  | _ m ih =>
    subst size
    cases moves : f.subscription.connection.reader.step? with
    | some moved =>
      have read : (s.step (.read place)).feeds[place]? =
          some (f.withSubscription (Subscription.read [])) := by
        simp [Station.step, onSubscription, Station.modifyFeed, at_, Feed.withSubscription]
      have lighter := Feed.toDo_read moves
      obtain ⟨rest, moves', settled⟩ := ih _ lighter (h.step (e := .read place) rfl) read rfl
      refine ⟨.read place :: rest, fun e member => ?_, settled⟩
      rcases List.mem_cons.1 member with rfl | later
      · exact .inl rfl
      · exact moves' e later
    | none =>
      cases next : f.next? with
      | none => exact ⟨[], List.forall_mem_nil _, f, at_, moves, next⟩
      | some x =>
        obtain ⟨g, taken, same⟩ := feed_take h.sound h.idle at_ next
        have lighter := Feed.toDo_take next same
        obtain ⟨rest, moves', settled⟩ := ih _ lighter (h.step (e := .take place) rfl) taken rfl
        refine ⟨.take place :: rest, fun e member => ?_, settled⟩
        rcases List.mem_cons.1 member with rfl | later
        · exact .inr rfl
        · exact moves' e later

end Following

/-! ### Starts -/

end Station

/-- A controller whose start has been answered, before it shows so. -/
def Controller.begin (now : Nat) (c : Controller) : Controller :=
  { c with
    streaming := true
    lastFrame := now
    armed := true
    watchdog := c.watchdog + 1
    awaiting := none
    outbox := [.armTimer (c.watchdog + 1), .reply (.ok ())] }

theorem Controller.step_opened_start {c : Controller} (unclosed : c.closed = false)
    (waiting : c.awaiting = some .start) (armed : c.armed = false) (fetching : c.fetching = false)
    (sent : c.outbox = []) (now : Nat) :
    c.step now (.opened (.ok ())) = (c.begin now).publish := by
  have opens : c.step now (.opened (.ok ())) = ((c.install now).armWatchdog).reply (.ok ()) := by
    simp only [step, opened, unclosed, waiting, Bool.false_eq_true, if_false]
  have stopped : (c.install now).stopWatchdog.outbox = [] := by
    rw [stopWatchdog_eq]
    simp [install, armed, fetching, sent]
  rw [opens, reply, armWatchdog_eq, stopped, begin, ← fetching]
  rfl

theorem Feed.heedAll_publish (feeds : List Feed) (c : Controller) :
    Feed.heedAll feeds c.publish.outbox = Feed.heedAll feeds c.outbox := by
  rw [Controller.publish_eq, Feed.heedAll_append]
  split <;> rfl

namespace Station

variable {w : WorkflowId} {place timer bound : Nat} {s : Station}

/-- The station waits for the stream of a run that was just started. -/
structure Starting (w : WorkflowId) (place timer : Nat) (s : Station) : Prop where
  sound : s.Sound
  unclosed : s.operation.controller.closed = false
  waiting : s.operation.controller.awaiting = some .start
  state : s.operation.controller.state = RunState.placeholder w
  armed : s.operation.controller.armed = false
  fetching : s.operation.controller.fetching = false
  timers : s.operation.activity.timers.length = timer
  feed : ∃ f, s.feeds[place]? = some f ∧ f.stream = s.operation.controller.stream

/-- The event answers a request for a stream. -/
def Event.isStreamAnswer : Event → Bool
  | .operation (.streamAnswer _) => true
  | _ => false

theorem starting_of_start (h : Sound s) (ready : Operation.Ready s.operation)
    (allowed : s.operation.controller.canStart = true) (named : Text.blank w.text = false)
    (inputs : Option Json.Value) :
    Starting w s.feeds.length s.operation.activity.timers.length
      (s.step (.operation (.command (.start w inputs)))) := by
  have sound := h.step (.operation (.command (.start w inputs)))
  have controller := (Operation.step_start ready allowed named inputs).1
  have outbox := Operation.outbox_start ready allowed named inputs
  have feeds : (s.step (.operation (.command (.start w inputs)))).feeds = Feed.heedAll s.feeds
      [.openStream (s.operation.controller.stream + 1) (.start w inputs)] := by
    rw [← outbox]
    rfl
  have activity : (s.step (.operation (.command (.start w inputs)))).operation.activity =
      s.operation.activity.performAll
        [.openStream (s.operation.controller.stream + 1) (.start w inputs)] := by
    rw [← outbox]
    rfl
  refine ⟨sound, ?_, ?_, ?_, ?_, ?_, ?_, ?_⟩
  · exact (congrArg Controller.closed controller).trans ready.unclosed
  · exact congrArg Controller.awaiting controller
  · exact congrArg Controller.state controller
  · exact congrArg Controller.armed controller
  · exact congrArg Controller.fetching controller
  · rw [activity]
    rfl
  · rw [feeds]
    refine ⟨{ stream := s.operation.controller.stream + 1 }, ?_, ?_⟩
    · exact List.getElem?_concat_length
    · exact (congrArg Controller.stream controller).symm

namespace Starting

theorem operate (h : Starting w place timer s) {e : Operation.Event}
    (other : ∀ i x, e ≠ .signal i x) (unanswered : e.answers .start = false) :
    Starting w place timer (s.operate e) := by
  have sound := h.sound.operate other
  obtain ⟨controller, activity, silent⟩ :=
    Operation.step_of_waiting h.waiting h.sound.orderly.sent unanswered
  have same : s.operate e = { s with operation := s.operation.step e } := by
    rw [Station.operate, Operation.calls, silent]
    simp
  rw [same] at sound ⊢
  refine ⟨sound, ?_, ?_, ?_, ?_, ?_, ?_, ?_⟩
  · rw [controller]
    exact h.unclosed
  · rw [controller]
    exact h.waiting
  · rw [controller]
    exact h.state
  · rw [controller]
    exact h.armed
  · rw [controller]
    exact h.fetching
  · rw [activity]
    exact h.timers
  · rw [controller]
    exact h.feed

theorem onSubscription (h : Starting w place timer s) (i : Nat) {u : Subscription → Subscription}
    (sound : Sound (s.onSubscription i u)) : Starting w place timer (s.onSubscription i u) := by
  obtain ⟨f, at_, stream⟩ := h.feed
  refine ⟨sound, h.unclosed, h.waiting, h.state, h.armed, h.fetching, h.timers, ?_⟩
  by_cases here : i = place
  · refine ⟨f.withSubscription u, ?_, stream⟩
    simp [Station.onSubscription, Station.modifyFeed, at_, here, Feed.withSubscription]
  · refine ⟨f, ?_, stream⟩
    simp [Station.onSubscription, Station.modifyFeed, at_, here]

theorem step (h : Starting w place timer s) {e : Event} (unanswered : e.isStreamAnswer = false) :
    Starting w place timer (s.step e) := by
  have sound := h.sound.step e
  cases e with
  | operation e =>
    cases e with
    | streamAnswer => cases unanswered
    | signal => exact h
    | _ => exact h.operate nofun rfl
  | arrive i item => exact h.onSubscription i sound
  | finish i => exact h.onSubscription i (u := (·.step .finish)) sound
  | read i => exact h.onSubscription i sound
  | take i =>
    rw [take_of_waiting h.waiting]
    exact h

theorem run (events : List Event) (h : Starting w place timer s)
    (unanswered : ∀ e ∈ events, e.isStreamAnswer = false) :
    Starting w place timer (events.foldl Station.step s) := by
  induction events generalizing s with
  | nil => exact h
  | cons e events ih =>
    have first := h.step (unanswered e List.mem_cons_self)
    exact ih first fun e later => unanswered e (List.mem_cons_of_mem _ later)

/-- What the answer to the start makes of the station. -/
theorem step_answered (h : Starting w place timer s) :
    (s.step (.operation (.streamAnswer (.ok ())))).operation.controller =
        { (s.operation.controller.begin s.operation.now).publish with outbox := [] } ∧
      (s.step (.operation (.streamAnswer (.ok ())))).operation.activity =
        s.operation.activity.accept.carryOut (s.operation.controller.begin s.operation.now) ∧
      (s.step (.operation (.streamAnswer (.ok ())))).feeds = s.feeds ∧
      (s.step (.operation (.streamAnswer (.ok ())))).operation.mail = s.operation.mail := by
  have asked : Operation.awaitsStream s.operation.controller = true := by
    rw [Operation.awaitsStream, h.waiting]
    rfl
  have opens := Controller.step_opened_start h.unclosed h.waiting h.armed h.fetching
    h.sound.orderly.sent s.operation.now
  have same : s.step (.operation (.streamAnswer (.ok ()))) = receive (.opened (.ok ()))
      { s with operation := { s.operation with activity := s.operation.activity.accept } } :=
    operate_opened asked
  rw [same]
  refine ⟨?_, ?_, ?_, rfl⟩
  · rw [← opens]
    rfl
  · rw [← Activity.carryOut_publish, ← opens]
    rfl
  · refine Eq.trans ?_ (Feed.heedAll_publish s.feeds (s.operation.controller.begin s.operation.now))
    rw [← opens]
    rfl

/-- The stream is open, and with it begins a new watchdog. -/
theorem answered (h : Starting w place timer s) :
    Following w place timer (s.operation.controller.watchdog + 1)
      (s.step (.operation (.streamAnswer (.ok ())))) := by
  have asked : Operation.awaitsStream s.operation.controller = true := by
    rw [Operation.awaitsStream, h.waiting]
    rfl
  obtain ⟨controller, activity, feeds, mail⟩ := h.step_answered
  rw [Controller.publish_eq] at controller
  obtain ⟨-, watch⟩ := h.sound.orderly.agrees.of_sent h.sound.orderly.sent
  obtain ⟨f, at_, stream⟩ := h.feed
  have untouched := h.sound.fed.untouched asked f (List.mem_of_getElem? at_) stream
  refine ⟨h.sound.step (.operation (.streamAnswer (.ok ()))), ?_, ?_, ?_, ?_, ?_, ?_, f, ?_, ?_⟩
  · rw [controller]
    exact h.unclosed
  · rw [controller]
    rfl
  · rw [controller]
    exact Nat.le_refl _
  · rw [mail]
    exact h.sound.earlier
  · rw [activity]
    intro i n began other
    have timers : (s.operation.activity.accept.carryOut
        (Controller.begin s.operation.now s.operation.controller)).timers =
          s.operation.activity.timers ++ [s.operation.controller.watchdog + 1] := rfl
    rw [timers] at began
    have length := h.timers
    obtain ⟨inside, -⟩ := List.getElem?_eq_some_iff.1 began
    rw [List.length_append, List.length_singleton] at inside
    rw [List.getElem?_append_left (by omega)] at began
    exact Nat.lt_succ_of_le (watch.timers n (List.mem_of_getElem? began))
  · rw [activity]
    exact fun fetch began => Nat.lt_succ_of_le (watch.fetches fetch began)
  · rw [feeds]
    exact at_
  · rw [controller]
    refine ⟨fun _ => ⟨stream.symm, ?_, ?_⟩, fun closed => by cases closed⟩
    · rw [untouched]
      exact Nat.zero_le _
    · rw [untouched]
      exact congrArg (Prod.mk · true) h.state.symm

end Starting

/-! ### From bytes to the run -/

/-- The body ends after some chunks. The text is what a run without an id fails with. -/
inductive BodyEnds (f : Feed) (chunks : List (List UInt8)) : String → Prop where
  | clean (items : f.subscription.items = chunks.map .chunk) (ended : f.ended = true) :
    BodyEnds f chunks Controller.endedUnconfirmed
  | failed (failure : StreamFailure) (rest : List StreamItem)
    (items : f.subscription.items = chunks.map .chunk ++ .failure failure :: rest) :
    BodyEnds f chunks (Controller.failedUnconfirmed failure)

/-- The run is what the bytes of its stream make of it. -/
structure FollowsBody (w : WorkflowId) (f : Feed) (c : Controller) : Prop where
  going : ∀ chunks : List (List UInt8), f.subscription.items = chunks.map .chunk →
    f.ended = false → c.state = (RunState.watched w chunks.flatten).1 ∧
      c.streaming = !(RunState.watched w chunks.flatten).2
  /-- Nothing counts after the event that ends the stream. -/
  stopped : ∀ (chunks : List (List UInt8)) (rest : List StreamItem),
    f.subscription.items = chunks.map .chunk ++ rest →
    (RunState.watched w chunks.flatten).2 = true →
      c.state = (RunState.watched w chunks.flatten).1 ∧ c.streaming = false
  /-- The body ends while the stream is open. -/
  lost : ∀ (chunks : List (List UInt8)) (message : String), BodyEnds f chunks message →
    (RunState.watched w chunks.flatten).2 = false →
      c.streaming = false ∧
      ((RunState.watched w chunks.flatten).1.id = none →
        c.state = ((RunState.watched w chunks.flatten).1.fail message).1 ∧
          c.state.phase = .failed) ∧
      ((RunState.watched w chunks.flatten).1.id.isSome = true →
        c.state = (RunState.watched w chunks.flatten).1 ∧ c.armed = true)

theorem foldl_attend_watched (w : WorkflowId) (bytes : List UInt8) :
    ((({} : Frame.Decoder).feed bytes).2.map StreamSignal.frame).foldl attend
        (RunState.placeholder w, true) =
      ((RunState.watched w bytes).1, !(RunState.watched w bytes).2) :=
  foldl_attend_frames _ _

theorem followsBody_of_attended {f : Feed} {c : Controller} (coherent : c.Coherent)
    (attended : f.whole.foldl attend (RunState.placeholder w, true) = (c.state, c.streaming)) :
    FollowsBody w f c where
  going chunks items unended := by
    rw [Feed.whole, items, unended, uncancelled_of_chunks, if_neg nofun, List.append_nil,
      foldl_attend_watched] at attended
    obtain ⟨state, streaming⟩ := Prod.mk.inj attended
    exact ⟨state.symm, streaming.symm⟩
  stopped chunks rest items stops := by
    have heard := foldl_attend_watched w chunks.flatten
    rw [stops] at heard
    rw [Feed.whole, items, uncancelled_chunks, Frame.Decoder.feedAll_eq_feed, List.foldl_append,
      heard, Bool.not_true, foldl_attend_closed] at attended
    obtain ⟨state, streaming⟩ := Prod.mk.inj attended
    exact ⟨state.symm, streaming.symm⟩
  lost chunks message ends goes := by
    have heard := foldl_attend_watched w chunks.flatten
    rw [goes, Bool.not_false] at heard
    have last : (c.state, c.streaming) =
        ((RunState.watched w chunks.flatten).1.lose message, false) := by
      rw [← attended]
      cases ends with
      | clean items ended =>
        rw [Feed.whole, items, ended, uncancelled_of_chunks, if_pos rfl, List.foldl_append, heard]
        rfl
      | failed failure rest items =>
        rw [Feed.whole, items, uncancelled_of_failure, List.foldl_append, heard]
        rfl
    have live := RunState.watched_live goes
    obtain ⟨state, streaming⟩ := Prod.mk.inj last
    refine ⟨streaming, fun unnamed => ?_, fun named => ?_⟩
    · rw [RunState.lose_of_unnamed unnamed live] at state
      exact ⟨state, by rw [state, RunState.fail_eq live]⟩
    · rw [RunState.lose_of_named named] at state
      refine ⟨state, coherent.armed_of_live ?_ (.inr ?_)⟩
      · rw [state]
        exact live
      · rw [state]
        exact named

/-- A controller that has just started a run and is left alone with the stream makes of it what the
bytes of the body say, however these are cut and whenever they are read. It always comes to rest. -/
theorem run_follows_bytes (times : WatchTimes) (before during more : List Event) (w : WorkflowId)
    (inputs : Option Json.Value)
    (unclosed : (after times before).operation.controller.closed = false)
    (idle : (after times before).operation.controller.awaiting = none)
    (allowed : (after times before).operation.controller.canStart = true)
    (named : Text.blank w.text = false) (unanswered : ∀ e ∈ during, e.isStreamAnswer = false)
    (alone : ∀ e ∈ more,
      e.spares (after times before).operation.activity.timers.length = true) :
    let place := (after times before).feeds.length
    let s := after times (before ++ .operation (.command (.start w inputs)) :: during ++
      .operation (.streamAnswer (.ok ())) :: more)
    ∃ f, s.feeds[place]? = some f ∧
      (f.Rests → FollowsBody w f s.operation.controller) ∧
      ∃ rest : List Event, (∀ e ∈ rest, e = .read place ∨ e = .take place) ∧
        ∃ g, (rest.foldl step s).feeds[place]? = some g ∧ g.Rests := by
  intro place s
  have sound := sound_after times before
  have ready := ready_of_sound sound (shown_after times before) unclosed idle
  have starting := (starting_of_start sound ready allowed named inputs).run during unanswered
  have following := starting.answered.run more alone
  have same : s = more.foldl step ((during.foldl step
      ((after times before).step (.operation (.command (.start w inputs))))).step
        (.operation (.streamAnswer (.ok ())))) := by
    simp only [s, after, List.append_assoc, List.foldl_append, List.foldl_cons, List.cons_append]
  rw [← same] at following
  obtain ⟨f, at_, -⟩ := following.attends
  refine ⟨f, at_, fun rests => ?_, following.comes_to_rest at_⟩
  have coherent := (following.sound.orderly.coherent following.unclosed).1
  exact followsBody_of_attended coherent (following.attended at_ rests)

/-- A chunk that comes before the answer to the start. -/
def earlyChunk : List Event :=
  [.arrive 0 (.chunk "event: start\ndata: \x7b\"run_".toUTF8.toList)]

/-- The server names the run, pauses it and then cancels it. All frames are read before the
controller takes the first one. -/
def pausedBody : List Event :=
  [.read 0, .read 0, .arrive 0 (.chunk "id\":\"r1\"\x7d\n".toUTF8.toList),
    .arrive 0 (.chunk "\nevent: paused\ndata: 1\n\nevent: cancelled\ndata: 1\n\n".toUTF8.toList),
    .operation (.wait 5), .read 0, .read 0, .read 0, .read 0, .read 0, .read 0, .read 0, .read 0,
    .take 0, .read 0, .take 0, .read 0, .read 0, .take 0, .take 0]

theorem paused_run_follows_bytes :
    let s := after ⟨4000, 2000⟩ ([] ++ .operation (.command (.start ⟨"build"⟩ none)) :: earlyChunk ++
      .operation (.streamAnswer (.ok ())) :: pausedBody)
    s.operation.controller.state.phase = .paused ∧
      ∃ f, s.feeds[0]? = some f ∧ f.subscription.signals.length = 3 ∧ f.Rests ∧
        FollowsBody ⟨"build"⟩ f s.operation.controller := by
  intro s
  obtain ⟨f, at_, follows, -⟩ := run_follows_bytes ⟨4000, 2000⟩ [] earlyChunk pausedBody ⟨"build"⟩
    none rfl rfl rfl (by decide) (by decide) (by decide)
  have rests : (s.operation.controller.state.phase = .paused &&
      (s.feeds[0]?).all (fun f => f.subscription.signals.length == 3 &&
        f.subscription.connection.reader.step?.isNone && f.next?.isNone)) = true := by
    decide +kernel
  replace at_ : s.feeds[0]? = some f := at_
  rw [at_, Option.all_some] at rests
  simp only [Bool.and_eq_true, decide_eq_true_eq, beq_iff_eq, Option.isNone_iff_eq_none] at rests
  obtain ⟨paused, ⟨three, waits⟩, taken⟩ := rests
  exact ⟨paused, f, at_, three, ⟨waits, taken⟩, follows ⟨waits, taken⟩⟩

end Station

end RunWatch
