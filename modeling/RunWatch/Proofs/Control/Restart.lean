import RunWatch.Proofs.Control.Attention
import RunWatch.Proofs.Control.Pairs
import RunWatch.Proofs.Control.Renumbering

/-!
# Starting again

A controller that starts a run after earlier ones goes on like a fresh one: side by side, the two
stations stand alike from the start on. `restart_goes_like_fresh_start` says what can be seen of it.
-/

namespace RunWatch

/-! ### Two that are alike -/

def Effect.arms? : Effect → Option Nat
  | .armTimer watchdog => some watchdog
  | _ => none

def Effect.fetches? : Effect → Option Nat
  | .fetch watchdog _ => some watchdog
  | _ => none

theorem Activity.timers_performAll (effects : List Effect) (a : Activity) :
    (a.performAll effects).timers = a.timers ++ effects.filterMap Effect.arms? := by
  refine foldl_collects (fun a e => ?_) effects a
  cases e with
  | armTimer n => rfl
  | _ => exact (List.append_nil _).symm

theorem Activity.fetches_performAll (effects : List Effect) (a : Activity) :
    (a.performAll effects).fetches.map Fetch.watchdog =
      a.fetches.map Fetch.watchdog ++ effects.filterMap Effect.fetches? := by
  refine foldl_collects (v := fun a : Activity => a.fetches.map Fetch.watchdog) (fun a e => ?_)
    effects a
  cases e with
  | fetch n run => exact List.map_append
  | _ => exact (List.append_nil _).symm

/-- The same but for the numbers, and for what the first has had earlier. -/
structure Activity.Continues (d : Lead) (earlier a b : Activity) : Prop where
  streams : a.streams = earlier.streams ++ b.streams.map (· + d.streams)
  timers : a.timers = earlier.timers ++ b.timers.map (· + d.watchdogs)
  fetches : a.fetches.map Fetch.watchdog =
    earlier.fetches.map Fetch.watchdog ++ (b.fetches.map Fetch.watchdog).map (· + d.watchdogs)

theorem Activity.Continues.performAll {d : Lead} {earlier a b : Activity}
    (h : Continues d earlier a b) {xs ys : List Effect} (same : Effect.Match d xs ys) :
    Continues d earlier (a.performAll xs) (b.performAll ys) where
  streams := by
    have more : xs.filterMap Effect.opens? = (ys.filterMap Effect.opens?).map (· + d.streams) :=
      same.filterMap (fun _ => rfl) fun e => by cases e <;> rfl
    rw [streams_performAll, streams_performAll, h.streams, more, List.map_append, List.append_assoc]
  timers := by
    have more : xs.filterMap Effect.arms? = (ys.filterMap Effect.arms?).map (· + d.watchdogs) :=
      same.filterMap (fun _ => rfl) fun e => by cases e <;> rfl
    rw [timers_performAll, timers_performAll, h.timers, more, List.map_append, List.append_assoc]
  fetches := by
    have more : xs.filterMap Effect.fetches? = (ys.filterMap Effect.fetches?).map (· + d.watchdogs) :=
      same.filterMap (fun _ => rfl) fun e => by cases e <;> rfl
    rw [fetches_performAll, fetches_performAll, h.fetches, more, List.map_append,
      List.append_assoc]

namespace Station

variable {d : Lead} {earlier s t : Station}

/-- A station with earlier runs and a fresh one stand alike. -/
structure Alike (d : Lead) (earlier s t : Station) : Prop where
  controller : Controller.Twin d s.operation.controller t.operation.controller
  clock : (s.operation.now : Int) = t.operation.now + d.clock
  activity : Activity.Continues d earlier.operation.activity s.operation.activity
    t.operation.activity
  log : s.log = earlier.log ++ t.log
  /-- Of the open stream both have taken as much. -/
  taken : ∀ (j : Nat) (f g : Feed),
    s.feeds[earlier.operation.activity.streams.length + j]? = some f → t.feeds[j]? = some g →
      t.operation.controller.streaming = true → g.stream = t.operation.controller.stream →
        f.taken = g.taken

namespace Alike

/-- Feeds at corresponding places have corresponding numbers. -/
theorem number (h : Alike d earlier s t) (here : Sound s) (there : Sound t) {j : Nat} {f g : Feed}
    (at_ : s.feeds[earlier.operation.activity.streams.length + j]? = some f)
    (at_' : t.feeds[j]? = some g) : f.stream = g.stream + d.streams := by
  have first := here.number at_
  have second := there.number at_'
  rw [h.activity.streams, List.getElem?_append_right (Nat.le_add_right _ _), Nat.add_sub_cancel_left,
    List.getElem?_map, second] at first
  exact (Option.some.inj first).symm

theorem length_feeds (h : Alike d earlier s t) (here : Sound s) (there : Sound t) :
    s.feeds.length = earlier.operation.activity.streams.length + t.feeds.length := by
  have first := congrArg List.length here.fed.numbers
  have second := congrArg List.length there.fed.numbers
  rw [List.length_map] at first second
  rw [first, second, h.activity.streams, List.length_append, List.length_map]

/-! #### One of them alone -/

theorem aside_left {s' : Station} (h : Alike d earlier s t) (here : Sound s) (there : Sound t)
    (aside : Aside s s') : Alike d earlier s' t where
  controller := by
    rw [aside.controller]
    exact h.controller
  clock := by
    rw [aside.now]
    exact h.clock
  activity := by
    rw [aside.activity]
    exact h.activity
  log := aside.log.trans h.log
  taken j f' g at_ at_' streaming present := by
    obtain ⟨f, before, -, same⟩ := aside.feeds _ f' at_
    have open_ : f.stream = s.operation.controller.stream := by
      rw [h.number here there before at_', present, h.controller.stream]
    exact (same (h.controller.streaming.trans streaming) open_).trans
      (h.taken j f g before at_' streaming present)

theorem aside_right {t' : Station} (h : Alike d earlier s t) (aside : Aside t t') :
    Alike d earlier s t' where
  controller := by
    rw [aside.controller]
    exact h.controller
  clock := by
    rw [aside.now]
    exact h.clock
  activity := by
    rw [aside.activity]
    exact h.activity
  log := by
    rw [aside.log]
    exact h.log
  taken j f g' at_ at_' streaming present := by
    rw [aside.controller] at streaming present
    obtain ⟨g, before, number, same⟩ := aside.feeds j g' at_'
    have open_ := number.symm.trans present
    exact (h.taken j f g at_ before streaming open_).trans (same streaming open_).symm

/-! #### Both of them -/

/-- Both take an input that is the same but for the numbers. -/
theorem receive (h : Alike d earlier s t) (here : Sound s) (there : Sound t)
    (input : Controller.Input) {a b : Activity} {mail mail' : List Letter}
    (fromHere : a = s.operation.activity ∨ a = s.operation.activity.accept)
    (fromThere : b = t.operation.activity ∨ b = t.operation.activity.accept) :
    Alike d earlier
      (Station.receive (input.renumber d)
        { s with operation := { s.operation with activity := a, mail } })
      (Station.receive input
        { t with operation := { t.operation with activity := b, mail := mail' } }) := by
  have steps := h.controller.step h.clock input
  have continues : Activity.Continues d earlier.operation.activity a b := by
    rcases fromHere with rfl | rfl <;> rcases fromThere with rfl | rfl <;>
      exact ⟨h.activity.streams, h.activity.timers, h.activity.fetches⟩
  refine ⟨{ steps with outbox := rfl }, h.clock, continues.performAll steps.outbox, ?_, ?_⟩
  · have calls : (s.operation.controller.step s.operation.now (input.renumber d)).outbox.filterMap
        Effect.call? = ((t.operation.controller.step t.operation.now input).outbox.filterMap
          Effect.call?).map id :=
      steps.outbox.filterMap (fun _ => rfl) fun e => by cases e <;> rfl
    rw [List.map_id] at calls
    rw [Station.receive, Station.receive, calls, h.log, List.append_assoc]
  · intro j f' g' at_ at_' streaming present
    have length := h.length_feeds here there
    -- Both feeds were there before, or both are new, since as many were there on both sides.
    rcases Feed.heedAll_origin _ at_ with ⟨f, before, same⟩ | ⟨beyond, untaken⟩
    · rcases Feed.heedAll_origin _ at_' with ⟨g, before', same'⟩ | ⟨beyond', -⟩
      · rw [same.taken, same'.taken]
        -- The step has not used up the number, so it was the present one before.
        have grows :=
          (Controller.numbers_step t.operation.now t.operation.controller input).1
        have bound := there.fed.bounded g (List.mem_of_getElem? before')
        have number := same'.stream
        have current : g.stream = t.operation.controller.stream := by
          change g'.stream = (t.operation.controller.step t.operation.now input).stream at present
          omega
        rcases Controller.streaming_of_step streaming with open_ | asked
        · exact h.taken j f g before before' open_ current
        · have asked' : Operation.awaitsStream s.operation.controller = true := by
            rw [Operation.awaitsStream, h.controller.awaiting]
            exact asked
          have current' : f.stream = s.operation.controller.stream := by
            rw [h.number here there before before', current, h.controller.stream]
          rw [here.fed.untouched asked' f (List.mem_of_getElem? before) current',
            there.fed.untouched asked g (List.mem_of_getElem? before') current]
      · have inside := (List.getElem?_eq_some_iff.1 before).1
        change t.feeds.length ≤ j at beyond'
        change _ < s.feeds.length at inside
        omega
    · rcases Feed.heedAll_origin _ at_' with ⟨g, before', -⟩ | ⟨-, untaken'⟩
      · have inside := (List.getElem?_eq_some_iff.1 before').1
        change s.feeds.length ≤ _ at beyond
        change j < t.feeds.length at inside
        omega
      · rw [untaken, untaken']

theorem operate (h : Alike d earlier s t) (here : Sound s) (there : Sound t)
    (e e' : Operation.Event) (input : Controller.Input)
    (takes : s.operation.input? e = some (input.renumber d))
    (takes' : t.operation.input? e' = some input) :
    Alike d earlier (s.operate e) (t.operate e') := by
  obtain ⟨a, mail, from_, -, same⟩ := operate_of_input takes
  obtain ⟨b, mail', from_', -, same'⟩ := operate_of_input takes'
  rw [same, same']
  exact h.receive here there input from_ from_'

theorem shared (h : Alike d earlier s t) (here : Sound s) (there : Sound t) {e : Operation.Event}
    (shared : e.isShared = true) : Alike d earlier (s.step (.operation e)) (t.step (.operation e)) := by
  cases e with
  | command cmd => exact h.operate here there _ _ (.command cmd) rfl rfl
  | shutDown => exact h.operate here there _ _ .shutDown rfl rfl
  | commandAnswer result => exact h.operate here there _ _ (.acknowledged result) rfl rfl
  | streamAnswer result =>
    have asked : Operation.awaitsStream s.operation.controller =
        Operation.awaitsStream t.operation.controller := by
      rw [Operation.awaitsStream, Operation.awaitsStream, h.controller.awaiting]
    cases asks : Operation.awaitsStream t.operation.controller with
    | true =>
      refine h.operate here there (.streamAnswer result) (.streamAnswer result) (.opened result) ?_ ?_
      · rw [Operation.input?, asked, asks]
        rfl
      · rw [Operation.input?, asks]
        rfl
    | false =>
      have unheard : s.step (.operation (.streamAnswer result)) = s :=
        operate_streamAnswer_of_unasked (asked.trans asks) result
      have unheard' : t.step (.operation (.streamAnswer result)) = t :=
        operate_streamAnswer_of_unasked asks result
      rw [unheard, unheard']
      exact h
  | wait duration =>
    have waited (s : Station) : s.step (.operation (.wait duration)) =
        { s with operation := s.operation.step (.wait duration) } := (operate_of_no_input rfl).1
    have later : ((s.operation.now + duration : Nat) : Int) =
        (t.operation.now + duration : Nat) + d.clock := by
      have clock := h.clock
      omega
    rw [waited, waited]
    exact ⟨h.controller, later, h.activity, h.log, h.taken⟩
  | signal | tick | fetched | deliver => cases shared

/-- Letters that say the same carry corresponding numbers. -/
theorem renumber_of_pairs (h : Alike d earlier s t) {l m : Letter}
    (genuine : s.operation.activity.Genuine l) (genuine' : t.operation.activity.Genuine m)
    (same : earlier.operation.activity.pairs l m = true) : l.message = m.message.renumber d := by
  unfold Activity.Genuine at genuine genuine'
  unfold Activity.pairs at same
  split at same
  · rename_i n n' message message'
    rw [decide_eq_true_eq] at same
    simp only [message, message'] at genuine genuine'
    rw [h.activity.timers, same, List.getElem?_append_right (Nat.le_add_right _ _),
      Nat.add_sub_cancel_left, List.getElem?_map, genuine'] at genuine
    rw [message, message', Message.renumber, ← Option.some.inj genuine]
  · rename_i n result n' result' message message'
    rw [Bool.and_eq_true, decide_eq_true_eq, decide_eq_true_eq] at same
    obtain ⟨place, rfl⟩ := same
    simp only [message, message'] at genuine genuine'
    obtain ⟨f, began, rfl⟩ := genuine
    obtain ⟨g, began', rfl⟩ := genuine'
    have number : (s.operation.activity.fetches.map Fetch.watchdog)[l.sender]? = some f.watchdog := by
      rw [List.getElem?_map, began]
      rfl
    have number' : (t.operation.activity.fetches.map Fetch.watchdog)[m.sender]? =
        some g.watchdog := by
      rw [List.getElem?_map, began']
      rfl
    rw [h.activity.fetches, place, List.getElem?_append_right (by simp), List.length_map,
      Nat.add_sub_cancel_left, List.getElem?_map, number'] at number
    rw [message, message', Message.renumber, ← Option.some.inj number]
  · cases same

theorem deliver (h : Alike d earlier s t) (here : Sound s) (there : Sound t) {i j : Nat}
    {l m : Letter} (at_ : s.operation.mail[i]? = some l) (at_' : t.operation.mail[j]? = some m)
    (same : earlier.operation.activity.pairs l m = true) :
    Alike d earlier (s.step (.operation (.deliver i))) (t.step (.operation (.deliver j))) := by
  have message := h.renumber_of_pairs (here.orderly.genuine l (List.mem_of_getElem? at_))
    (there.orderly.genuine m (List.mem_of_getElem? at_')) same
  cases idle : t.operation.controller.awaiting with
  | none =>
    refine h.operate here there (.deliver i) (.deliver j) (.message m.message) ?_ ?_
    · simp only [Operation.input?, h.controller.awaiting, idle, at_, message]
      rfl
    · simp only [Operation.input?, idle, at_']
  | some command =>
    have unheard : s.step (.operation (.deliver i)) = s :=
      operate_deliver_of_waiting (h.controller.awaiting.trans idle) i
    have unheard' : t.step (.operation (.deliver j)) = t := operate_deliver_of_waiting idle j
    rw [unheard, unheard']
    exact h

/-- One more signal of corresponding feeds is taken. -/
theorem takes (h : Alike d earlier s t) (j : Nat) :
    Alike d earlier
      (s.modifyFeed (earlier.operation.activity.streams.length + j) fun f =>
        { f with taken := f.taken + 1 })
      (t.modifyFeed j fun f => { f with taken := f.taken + 1 }) := by
  refine ⟨h.controller, h.clock, h.activity, h.log, fun i f' g' at_ at_' streaming present => ?_⟩
  rw [Station.modifyFeed, List.getElem?_modify, Option.map_eq_map, Option.map_eq_some_iff]
    at at_ at_'
  obtain ⟨f, before, rfl⟩ := at_
  obtain ⟨g, before', rfl⟩ := at_'
  by_cases same : j = i
  · subst same
    simp only [if_true] at present ⊢
    rw [h.taken j f g before before' streaming present]
  · have apart : ¬earlier.operation.activity.streams.length + j =
        earlier.operation.activity.streams.length + i := by omega
    simp only [same, apart, if_false] at present ⊢
    exact h.taken i f g before before' streaming present

/-- Of the open stream both have heard a part of the same, so the next signal is the same too. -/
theorem next_eq (h : Alike d earlier s t) (here : Sound s) (there : Sound t) {b : Body} {j : Nat}
    {f g : Feed} (at_ : s.feeds[earlier.operation.activity.streams.length + j]? = some f)
    (at_' : t.feeds[j]? = some g) (brings : f.Brings b) (brings' : g.Brings b)
    (streaming : t.operation.controller.streaming = true)
    (present : g.stream = t.operation.controller.stream) {x y : StreamSignal}
    (next : f.next? = some x) (next' : g.next? = some y) : x = y := by
  have member := List.mem_of_getElem? at_
  have member' := List.mem_of_getElem? at_'
  have number := h.number here there at_ at_'
  have uncut := here.uncut member (by rw [h.controller.stream, ← present, number])
  have uncut' := there.uncut member' present.symm
  have heard := Activity.getElem?_of_prefix (brings.signals (here.fed.kept f member) uncut) next
  have heard' := Activity.getElem?_of_prefix (brings'.signals (there.fed.kept g member') uncut')
    next'
  rw [h.taken j f g at_ at_' streaming present] at heard
  exact Option.some.inj (heard.symm.trans heard')

theorem take (h : Alike d earlier s t) (here : Sound s) (there : Sound t) {bodies : Nat → Body}
    (delivers : s.Delivers earlier.operation.activity bodies) (delivers' : t.Delivers {} bodies)
    {j : Nat}
    (both : ((s.feeds[earlier.operation.activity.streams.length + j]?).bind Feed.next?).isSome =
      ((t.feeds[j]?).bind Feed.next?).isSome) :
    Alike d earlier (s.step (.take (earlier.operation.activity.streams.length + j)))
      (t.step (.take j)) := by
  cases idle : t.operation.controller.awaiting with
  | some command =>
    rw [take_of_waiting (h.controller.awaiting.trans idle), take_of_waiting idle]
    exact h
  | none =>
    have idle' := h.controller.awaiting.trans idle
    cases told' : (t.feeds[j]?).bind Feed.next? with
    | none =>
      rw [told', Option.isSome_none, Option.isSome_eq_false_iff, Option.isNone_iff_eq_none] at both
      rw [take_of_no_next both, take_of_no_next told']
      exact h
    | some y =>
      rw [told', Option.isSome_some, Option.isSome_iff_exists] at both
      obtain ⟨x, told⟩ := both
      obtain ⟨f, at_, next⟩ := Option.bind_eq_some_iff.1 told
      obtain ⟨g, at_', next'⟩ := Option.bind_eq_some_iff.1 told'
      have number := h.number here there at_ at_'
      -- Only of the open stream do the signals count, so only there have they to be the same.
      by_cases current : t.operation.controller.streaming = true ∧
          g.stream = t.operation.controller.stream
      · obtain ⟨streaming, present⟩ := current
        have brings := delivers_iff.1 delivers j f at_
        have brings' := delivers_iff.1 delivers' j g (by simpa using at_')
        have same := h.next_eq here there at_ at_' brings brings' streaming present next next'
        subst same
        rw [take_eq here idle' at_ next, take_eq there idle at_' next', number]
        exact (h.takes j).receive (here.takes idle' _) (there.takes idle j)
          (.message (.signal g.stream x)) (.inl rfl) (.inl rfl)
      · have past' (n : Nat) (known : t.operation.activity.streams[j]? = some n) (x : StreamSignal) :
            t.operation.controller.concerns (.signal n x) = false := by
          cases Option.some.inj ((there.number at_').symm.trans known)
          refine Bool.eq_false_iff.2 fun concerned => current ?_
          rw [Controller.concerns, Bool.and_eq_true, beq_iff_eq] at concerned
          exact ⟨concerned.2, concerned.1⟩
        have past (n : Nat) (known : s.operation.activity.streams[
            earlier.operation.activity.streams.length + j]? = some n) (x : StreamSignal) :
            s.operation.controller.concerns (.signal n x) = false := by
          cases Option.some.inj ((here.number at_).symm.trans known)
          rw [number]
          exact (h.controller.concerns (.signal g.stream x)).trans (past' _ (there.number at_') x)
        exact (h.aside_left here there (aside_take here past)).aside_right (aside_take there past')

end Alike

end Station

/-! ### From a start on -/

namespace Pair

variable {d : Lead} {earlier : Station} {bodies : Nat → Body} {p : Pair}

/-- The stations of a pair are going, and they stand alike. -/
structure Together (d : Lead) (earlier : Station) (bodies : Nat → Body) (p : Pair) : Prop where
  here : p.here.Going earlier.operation.activity bodies
  there : p.there.Going {} bodies
  alike : Station.Alike d earlier p.here p.there

theorem Together.step (h : Together d earlier bodies p) {m : Move}
    (fits : p.Fits earlier.operation.activity bodies m) :
    Together d earlier bodies (p.step earlier.operation.activity m) := by
  have here := h.here.sound
  have there := h.there.sound
  cases m with
  | shared e =>
    exact ⟨h.here.step (h.here.delivers.operation e), h.there.step (h.there.delivers.operation e),
      h.alike.shared here there fits⟩
  | take j =>
    exact ⟨h.here.step (h.here.delivers.take _), h.there.step (h.there.delivers.take j),
      h.alike.take here there h.here.delivers h.there.delivers fits⟩
  | deliver i j =>
    obtain ⟨l, at_, fits⟩ := (Option.any_eq_true _ _).1 fits
    obtain ⟨m, at_', same⟩ := (Option.any_eq_true _ _).1 fits
    exact ⟨h.here.step (h.here.delivers.operation (.deliver i)),
      h.there.step (h.there.delivers.operation (.deliver j)),
      h.alike.deliver here there at_ at_' same⟩
  | here e =>
    obtain ⟨aside, delivers⟩ := fits
    exact ⟨h.here.step delivers, h.there, h.alike.aside_left here there (h.here.aside aside)⟩
  | there e =>
    obtain ⟨aside, delivers⟩ := fits
    exact ⟨h.here, h.there.step delivers, h.alike.aside_right (h.there.aside aside)⟩

theorem Together.run (h : Together d earlier bodies p) (moves : List Move)
    (fits : p.FitsAll earlier.operation.activity bodies moves) :
    Together d earlier bodies (moves.foldl (Pair.step earlier.operation.activity) p) := by
  induction moves generalizing p with
  | nil => exact h
  | cons m moves ih =>
    obtain ⟨first, later⟩ := fits
    exact ih (h.step first) later

/-- A start uses up the numbers of all that was set going before. -/
theorem going_of_start (times : WatchTimes) (events : List Station.Event)
    (ready : Operation.Ready (Station.after times events).operation)
    (allowed : (Station.after times events).operation.controller.canStart = true) {w : WorkflowId}
    (named : Text.blank w.text = false) (inputs : Option Json.Value) (bodies : Nat → Body) :
    ((Station.after times events).step (.operation (.command (.start w inputs)))).Going
      (Station.after times events).operation.activity bodies := by
  have sound := Station.sound_after times events
  have controller := (Operation.step_start ready allowed named inputs).1
  have reached := Station.after_concat times events (.operation (.command (.start w inputs)))
  generalize Station.after times events = s at sound controller reached
  obtain ⟨streams, watch⟩ := sound.orderly.agrees.of_sent sound.orderly.sent
  have stream : (s.step (.operation (.command (.start w inputs)))).operation.controller.stream =
      s.operation.controller.stream + 1 := congrArg Controller.stream controller
  have watchdog : (s.step (.operation (.command (.start w inputs)))).operation.controller.watchdog =
      s.operation.controller.watchdog + 1 := congrArg Controller.watchdog controller
  have delivers : s.Delivers s.operation.activity bodies := by
    rw [Station.delivers_iff]
    intro j f at_
    have inside := (List.getElem?_eq_some_iff.1 at_).1
    rw [← sound.fed.numbers, List.length_map] at inside
    omega
  refine ⟨⟨times, _, reached.symm⟩, ⟨Activity.grows_performAll _ _, ?_, ?_, ?_⟩,
    delivers.operation _⟩
  · rw [stream]
    exact fun n asked => Nat.lt_succ_of_le (streams.bounded n asked)
  · rw [watchdog]
    exact fun n began => Nat.lt_succ_of_le (watch.timers n began)
  · rw [watchdog]
    exact fun f began => Nat.lt_succ_of_le (watch.fetches f began)

/-- How far a station is ahead of a fresh one. -/
def lead (earlier : Station) (now : Nat) : Lead where
  streams := earlier.operation.controller.stream
  watchdogs := earlier.operation.controller.watchdog
  clock := earlier.operation.now - now

theorem together_of_start (times : WatchTimes) (before : List Station.Event)
    (ready : Operation.Ready (Station.after times before).operation)
    (allowed : (Station.after times before).operation.controller.canStart = true) (now : Nat)
    {w : WorkflowId} (named : Text.blank w.text = false) (inputs : Option Json.Value)
    (bodies : Nat → Body) :
    Together (lead (Station.after times before) now) (Station.after times before) bodies
      (start (Station.after times before) now w inputs) := by
  have here := going_of_start times before ready allowed named inputs bodies
  generalize Station.after times before = s at ready allowed here ⊢
  have ready' : Operation.Ready
      (Station.after s.operation.controller.times [.operation (.wait now)]).operation :=
    Station.ready_of_sound (Station.sound_after _ _) (Station.shown_after _ _) rfl rfl
  have there := going_of_start s.operation.controller.times [.operation (.wait now)] ready' rfl named
    inputs bodies
  have controller := (Operation.step_start ready allowed named inputs).1
  have controller' := (Operation.step_start ready' rfl named inputs).1
  have outbox := Operation.outbox_start ready allowed named inputs
  have outbox' := Operation.outbox_start ready' rfl named inputs
  refine ⟨here, there, ?_, ?_, ?_, ?_, ?_⟩
  · change Controller.Twin _ (s.operation.step _).controller (Operation.step _ _).controller
    rw [controller, controller']
    exact {
      times := rfl
      state := rfl
      streaming := rfl
      stream := Nat.add_comm _ 1
      armed := rfl
      watchdog := Nat.add_comm _ 1
      fetching := rfl
      awaiting := rfl
      closed := ready.unclosed
      outbox := by
        rw [Operation.starting, ready.sent]
        rfl
      lastFrame := nofun }
  · change (s.operation.now : Int) = (0 + now : Nat) + (s.operation.now - now)
    omega
  · have nothing : Activity.Continues (lead s now) s.operation.activity s.operation.activity {} :=
      ⟨(List.append_nil _).symm, (List.append_nil _).symm, (List.append_nil _).symm⟩
    refine nothing.performAll ?_
    rw [outbox, outbox', Nat.add_comm]
    rfl
  · change s.log ++ (Controller.step _ _ _).outbox.filterMap Effect.call? =
      s.log ++ ([] ++ (Controller.step _ _ _).outbox.filterMap Effect.call?)
    rw [outbox, outbox']
    rfl
  · -- No stream is open yet.
    intro j f g _ _ streaming
    have shut := congrArg Controller.streaming controller'
    exact absurd (shut.symm.trans streaming) nofun

/-- A run that is started after earlier ones goes like a run on a fresh controller, whatever of the
earlier runs is still under way: the state is the same throughout, so is the view whenever no request
is out, and the calls since the start are the same. -/
theorem restart_goes_like_fresh_start (times : WatchTimes) (before : List Station.Event) (now : Nat)
    (w : WorkflowId) (inputs : Option Json.Value) (bodies : Nat → Body) (moves : List Move)
    (unclosed : (Station.after times before).operation.controller.closed = false)
    (idle : (Station.after times before).operation.controller.awaiting = none)
    (allowed : (Station.after times before).operation.controller.canStart = true)
    (named : Text.blank w.text = false)
    (fits : (start (Station.after times before) now w inputs).FitsAll
      (Station.after times before).operation.activity bodies moves) :
    let earlier := Station.after times before
    let p := moves.foldl (Pair.step earlier.operation.activity) (start earlier now w inputs)
    p.here.operation.controller.state = p.there.operation.controller.state ∧
      p.here.operation.controller.awaiting = p.there.operation.controller.awaiting ∧
      (p.here.operation.controller.awaiting = none →
        p.here.operation.controller.view = p.there.operation.controller.view) ∧
      p.here.log = earlier.log ++ p.there.log := by
  intro earlier p
  have ready := Station.ready_of_sound (Station.sound_after times before)
    (Station.shown_after times before) unclosed idle
  have together := (together_of_start times before ready allowed now named inputs bodies).run moves
    fits
  have twin := together.alike.controller
  refine ⟨twin.state, twin.awaiting, fun rests => ?_, together.alike.log⟩
  rw [together.here.shown rests, together.there.shown (twin.awaiting.symm.trans rests), twin.present]

/-- A run that has been cancelled. A signal of its stream, a tick and the answer to a fetch are still
under way. -/
def cancelledRun : List Station.Event :=
  [.operation (.command (.start ⟨"probe"⟩ none)), .operation (.streamAnswer (.ok ())),
    .arrive 0 (.chunk "event: start\ndata: \x7b\"run_id\":\"r0\"\x7d\n\n".toUTF8.toList),
    .read 0, .read 0, .read 0, .take 0,
    .arrive 0 (.chunk "event: paused\ndata: 1\n\n".toUTF8.toList), .read 0, .read 0, .read 0, .read 0,
    .operation (.wait 4000), .operation (.tick 0), .operation (.deliver 0), .operation (.tick 0),
    .operation (.fetched 0 (.ok { status := .failed })),
    .operation (.command .cancel), .operation (.commandAnswer (.ok ()))]

def namingBody : Body where
  items := [.chunk "event: start\ndata: \x7b\"run_id\":\"r1\"\x7d\n\n".toUTF8.toList]

/-- The next run is given its id by its stream and its end by a fetch. In between comes what is left
of the run before. -/
def nextRun : List Move :=
  [.shared (.streamAnswer (.ok ())), .here (.operation (.deliver 0)), .here (.take 0),
    .here (.arrive 1 (.chunk "event: start\ndata: \x7b\"run_id\":\"r1\"\x7d\n\n".toUTF8.toList)),
    .here (.read 1), .here (.read 1), .shared (.wait 1000), .here (.read 1),
    .there (.arrive 0 (.chunk "event: start\ndata: \x7b\"run_id\":\"r1\"\x7d\n\n".toUTF8.toList)),
    .there (.read 0), .there (.read 0), .there (.read 0), .take 0,
    .shared (.wait 4000), .here (.operation (.tick 1)), .there (.operation (.tick 0)), .deliver 1 0,
    .here (.operation (.deliver 0)),
    .there (.operation (.fetched 0 (.ok { status := .succeeded }))),
    .here (.operation (.fetched 1 (.ok { status := .succeeded }))), .deliver 0 0]

theorem restart_after_cancelled_run :
    let earlier := Station.after ⟨4000, 2000⟩ cancelledRun
    let p := nextRun.foldl (Pair.step earlier.operation.activity) (start earlier 7 ⟨"build"⟩ none)
    (earlier.operation.mail.length = 2 ∧ earlier.log.length = 3 ∧
      p.here.operation.controller.awaiting = none ∧
      p.there.operation.controller.state.phase = .succeeded ∧ p.there.log.length = 2) ∧
    p.here.operation.controller.state = p.there.operation.controller.state ∧
      p.here.operation.controller.view = p.there.operation.controller.view ∧
      p.here.log = earlier.log ++ p.there.log := by
  have fits : (start (Station.after ⟨4000, 2000⟩ cancelledRun) 7 ⟨"build"⟩ none).FitsAll
      (Station.after ⟨4000, 2000⟩ cancelledRun).operation.activity (fun _ => namingBody) nextRun := by
    decide +kernel
  have ready : (Station.after ⟨4000, 2000⟩ cancelledRun).operation.controller.closed = false ∧
      (Station.after ⟨4000, 2000⟩ cancelledRun).operation.controller.awaiting = none ∧
      (Station.after ⟨4000, 2000⟩ cancelledRun).operation.controller.canStart = true := by
    decide +kernel
  obtain ⟨unclosed, idle, allowed⟩ := ready
  obtain ⟨state, -, view, log⟩ := restart_goes_like_fresh_start ⟨4000, 2000⟩ cancelledRun 7
    ⟨"build"⟩ none (fun _ => namingBody) nextRun unclosed idle allowed (by decide) fits
  refine ⟨?ends, state, view ?rests, log⟩
  case ends => decide +kernel
  case rests => decide +kernel

end Pair

end RunWatch
