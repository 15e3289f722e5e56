import RunWatch.Control.Timetable
import RunWatch.Proofs.Control.Silence

/-!
# Moves of a timetable

A timetable follows its operation: its queue is the mail, and it has a ticker for each timer. While
no time passes, a step does one of four things to the ticks: a timer is started, a timer sends a
tick, the oldest tick makes a fetch begin, or the ticks in the mail become fewer, if anything.
`moves_of_step` says so, and what is proved of timetables is proved of these four.
-/

namespace RunWatch

namespace Ticker

theorem add_period_le_next (period due now : Nat) : due + period ≤ next period due now := by
  unfold next
  split
  · exact Nat.le_refl _
  · have part := Nat.mod_le (now - due) period
    omega

theorem due?_fire {t : Ticker} {due : Nat} (running : t.due? = some due) (endless : t.last = none)
    (now : Nat) : (t.fire now due).due? = some (next t.period due now) := by
  have unstopped : t.stopped = false := by
    refine Bool.eq_false_iff.2 fun stopped => ?_
    rw [due?, if_pos stopped] at running
    cases running
  simp [due?, fire, unstopped, endless]

theorem due?_start {t : Ticker} (waits : t.due? = none) {now due : Nat}
    (starts : (t.start now).due? = some due) : due = now + t.period := by
  unfold start at starts
  split at starts
  · cases waits.symm.trans starts
  · split at starts
    · cases starts
    · exact (Option.some.inj (due?_eq_some starts)).symm

theorem start_eq (now : Nat) (t : Ticker) :
    (t.start now).period = t.period ∧ (t.start now).last = t.last := by
  unfold start
  split
  · exact ⟨rfl, rfl⟩
  · split <;> exact ⟨rfl, rfl⟩

end Ticker

/-! ### Timers of a controller -/

namespace Activity

/-- The armed timer is the last one. -/
def LastArmed (a : Activity) : Prop :=
  ∀ place, a.armed? = some place → place + 1 = a.timers.length

theorem lastArmed_performAll {effects : List Effect} {a : Activity} (h : a.LastArmed) :
    (a.performAll effects).LastArmed := by
  induction effects generalizing a with
  | nil => exact h
  | cons e effects ih =>
    refine ih (a := a.perform e) ?_
    cases e with
    | armTimer =>
      intro place armed
      obtain rfl := Option.some.inj armed
      rw [perform, List.length_append, List.length_singleton]
    | stopTimer => exact nofun
    | openStream | cancelStream | send | fetch | abortFetch | reply | publish => exact h

theorem armed?_performAll {effects : List Effect} {a : Activity} {place : Nat}
    (armed : (a.performAll effects).armed? = some place) :
    a.armed? = some place ∨ a.timers.length ≤ place := by
  induction effects generalizing a with
  | nil => exact .inl armed
  | cons e effects ih =>
    have next : (a.perform e).armed? = some place ∨ (a.perform e).timers.length ≤ place := ih armed
    cases e with
    | armTimer =>
      rcases next with this | beyond
      · exact .inr (Nat.le_of_eq (Option.some.inj this))
      · rw [perform, List.length_append] at beyond
        exact .inr (Nat.le_of_add_right_le beyond)
    | stopTimer => exact next.imp_left nofun
    | openStream | cancelStream | send | fetch | abortFetch | reply | publish => exact next

end Activity

theorem Controller.times_step (now : Nat) (c : Controller) (input : Input) :
    (c.step now input).times = c.times := by
  cases closed : c.closed with
  | true => rw [step_of_closed closed]
  | false =>
    by_cases heard : c.HearsFrame input
    · obtain ⟨n, f, rfl, concerned⟩ := heard
      cases waits : c.awaiting with
      | none => exact (listens_step_frame now closed waits concerned).times
      | some kind => simp [step, closed, waits]
    · by_cases opens : input = .opened (.ok ()) ∧ Operation.awaitsStream c = true
      · obtain ⟨rfl, asked⟩ := opens
        exact (listens_accepted asked closed now).times
      · refine (listens_step now heard fun ok => ?_).times
        exact Bool.eq_false_iff.2 fun asked => opens ⟨ok, asked⟩

namespace Operation

variable {o : Operation} {e : Event}

theorem times_of_step (orderly : Orderly o) (e : Event) :
    (o.step e).controller.times = o.controller.times := by
  rcases step_cases orderly e with ⟨controller, -⟩ | ⟨input, a, mail, taken, -⟩
  · rw [controller]
  · rw [taken]
    exact Controller.times_step o.now o.controller input

/-- An event leaves the timers in their places, and the armed one is the last. -/
theorem timers_of_step (orderly : Orderly o) (last : o.activity.LastArmed) (e : Event) :
    o.activity.timers <+: (o.step e).activity.timers ∧ (o.step e).activity.LastArmed ∧
      ∀ place, (o.step e).activity.armed? = some place →
        o.activity.armed? = some place ∨ o.activity.timers.length ≤ place := by
  rcases step_cases orderly e with ⟨-, activity⟩ | ⟨input, a, mail, taken, from_, -⟩
  · rw [activity]
    exact ⟨List.prefix_refl _, last, fun _ => .inl⟩
  · rw [taken]
    rcases from_ with rfl | rfl
    · exact ⟨(Activity.grows_performAll _ _).timers, Activity.lastArmed_performAll last,
        fun _ => Activity.armed?_performAll⟩
    · exact ⟨(Activity.grows_performAll _ o.activity.accept).timers,
        Activity.lastArmed_performAll (a := o.activity.accept) last,
        fun _ => Activity.armed?_performAll (a := o.activity.accept)⟩

theorem mail_of_tick {place n : Nat} (at_ : o.activity.timers[place]? = some n) :
    (o.step (.tick place)).mail = o.mail ++ [⟨place, .tick n⟩] := by
  simp only [step, send, at_, Option.map_some]

/-- Only timers send ticks. -/
theorem sent_of_step (undelivered : ∀ place, e ≠ .deliver place)
    (unticked : ∀ place, e ≠ .tick place) :
    ∃ sent, (o.step e).mail = o.mail ++ sent ∧ ∀ l ∈ sent, ∀ n, l.message ≠ .tick n := by
  have nothing {o' : Operation} (same : o'.mail = o.mail) :
      ∃ sent, o'.mail = o.mail ++ sent ∧ ∀ l ∈ sent, ∀ n, l.message ≠ .tick n :=
    ⟨[], by rw [same, List.append_nil], fun _ none_ => absurd none_ List.not_mem_nil⟩
  have posted (sender : Nat) (message? : Option Message)
      (other : ∀ n, message? ≠ some (.tick n)) :
      ∃ sent, (o.send sender message?).mail = o.mail ++ sent ∧
        ∀ l ∈ sent, ∀ n, l.message ≠ .tick n := by
    cases message? with
    | none => exact nothing rfl
    | some m =>
      refine ⟨[⟨sender, m⟩], rfl, fun l here n tick => other n ?_⟩
      obtain rfl := List.mem_singleton.1 here
      exact congrArg some tick
  cases e with
  | command | shutDown | commandAnswer | wait => exact nothing rfl
  | streamAnswer result =>
    simp only [step, answerStream]
    split
    · cases result <;> exact nothing rfl
    · exact nothing rfl
  | signal place s =>
    refine posted place _ fun n sent => ?_
    obtain ⟨m, -, same⟩ := Option.map_eq_some_iff.1 sent
    cases same
  | fetched place result =>
    refine posted place _ fun n sent => ?_
    obtain ⟨f, -, same⟩ := Option.map_eq_some_iff.1 sent
    cases same
  | tick place => exact absurd rfl (unticked place)
  | deliver place => exact absurd rfl (undelivered place)

theorem now_of_step (unwaited : ∀ duration, e ≠ .wait duration) : (o.step e).now = o.now := by
  cases e with
  | command | shutDown | commandAnswer => rfl
  | streamAnswer result =>
    simp only [step, answerStream]
    split
    · cases result <;> rfl
    · rfl
  | signal place | tick place | fetched place =>
    simp only [step, send]
    split <;> rfl
  | deliver place =>
    simp only [step, Operation.deliver]
    split <;> rfl
  | wait duration => exact absurd rfl (unwaited duration)

/-- Only a tick of the armed timer makes the controller fetch, and it does so once. -/
theorem fetches_of_step (orderly : Orderly o) (e : Event) :
    (o.calls e).filterMap Call.fetch? = [] ∨
      o.Ticks e ∧ ∃ run, (o.calls e).filterMap Call.fetch? = [run] := by
  rcases List.eq_nil_or_concat' ((o.calls e).filterMap Call.fetch?) with none_ | ⟨_, run, some_⟩
  · exact .inl none_
  · have member : run ∈ (o.calls e).filterMap Call.fetch? := by simp [some_]
    obtain ⟨call, called, fetches⟩ := List.mem_filterMap.1 member
    have fetch : call = .fetch run := by
      cases call with
      | fetch r => exact congrArg Call.fetch (Option.some.inj fetches)
      | openStream | send => cases fetches
    obtain ⟨ticks, -, all⟩ := orderly.ticks_of_poll (fetch ▸ called)
    exact .inr ⟨ticks, run, by rw [all]; rfl⟩

end Operation

/-! ### Timetables and their operations -/

/-- A tick in the mail or one that has arrived. -/
structure Tick where
  /-- The place of its timer. -/
  timer : Nat
  due : Nat
  /-- When the fetch began that it brought about. -/
  begun? : Option Nat

def Stamped.tick? (x : Stamped) : Option Tick :=
  match x.letter.message with
  | .tick _ => some ⟨x.letter.sender, x.due, none⟩
  | _ => none

namespace Timetable

variable {t : Timetable} {period : Nat}

/-- When the timer at a place sends its next tick. -/
def due? (t : Timetable) (place : Nat) : Option Nat :=
  t.tickers[place]?.bind Ticker.due?

/-- A timetable follows its operation. -/
structure Faithful (period : Nat) (t : Timetable) : Prop where
  orderly : t.operation.Orderly
  places : t.tickers.length = t.operation.activity.timers.length
  armed : t.operation.activity.LastArmed
  times : t.operation.controller.times.pollInterval = period
  tickers : ∀ ticker ∈ t.tickers, ticker.period = period ∧ ticker.last = none

theorem Faithful.proceed (h : Faithful period t) (e : Operation.Event) (due engaged : Nat) :
    Faithful period (t.proceed e due engaged) := by
  obtain ⟨grows, last, -⟩ := Operation.timers_of_step h.orderly h.armed e
  have times := (congrArg WatchTimes.pollInterval
    (Operation.times_of_step h.orderly e)).trans h.times
  refine ⟨h.orderly.step e, ?_, last, times, fun ticker here => ?_⟩
  · have longer := grows.length_le
    simp only [Timetable.proceed, List.length_append, List.length_map, List.length_drop, h.places]
    omega
  · rcases List.mem_append.1 here with before | new
    · exact h.tickers ticker before
    · obtain ⟨n, -, rfl⟩ := List.mem_map.1 new
      exact ⟨times, rfl⟩

/-- A new timer has not been started. -/
theorem due?_proceed (e : Operation.Event) (due engaged : Nat) (t : Timetable) :
    (t.proceed e due engaged).due? = t.due? := by
  funext place
  simp only [due?, proceed]
  rcases Nat.lt_or_ge place t.tickers.length with inside | beyond
  · rw [List.getElem?_append_left inside]
  · rw [List.getElem?_append_right beyond, List.getElem?_eq_none beyond, List.getElem?_map]
    cases (List.drop _ _)[place - t.tickers.length]? <;> rfl

theorem queue_proceed {e : Operation.Event} {sent : List Letter}
    (mail : (t.operation.step e).mail = t.queue.map Stamped.letter ++ sent) (due engaged : Nat) :
    (t.proceed e due engaged).queue = t.queue ++ sent.map fun letter => ⟨letter, due, t.engaged⟩ := by
  simp only [proceed, mail]
  rw [List.drop_left' (List.length_map _)]

theorem due?_set {place : Nat} (inside : place < t.tickers.length) (ticker : Ticker) :
    due? { t with tickers := t.tickers.set place ticker } place = ticker.due? ∧
      ∀ other, other ≠ place →
        due? { t with tickers := t.tickers.set place ticker } other = t.due? other := by
  refine ⟨?_, fun other apart => ?_⟩
  · rw [due?, List.getElem?_set_self inside]
    rfl
  · rw [due?, List.getElem?_set_ne apart.symm]
    rfl

theorem Faithful.set (h : Faithful period t) {place : Nat} {ticker : Ticker}
    (period_ : ticker.period = period) (endless : ticker.last = none) :
    Faithful period { t with tickers := t.tickers.set place ticker } where
  orderly := h.orderly
  places := (List.length_set ..).trans h.places
  armed := h.armed
  times := h.times
  tickers other here := by
    rcases List.mem_or_eq_of_mem_set here with before | rfl
    · exact h.tickers other before
    · exact ⟨period_, endless⟩

theorem Faithful.lt_of_started (h : Faithful period t) {place : Nat}
    (started : (t.due? place).isSome = true) : place < t.operation.activity.timers.length := by
  rw [← h.places]
  refine Nat.lt_of_not_le fun beyond => ?_
  rw [due?, List.getElem?_eq_none beyond] at started
  cases started

/-! ### Moves -/

/-- What a step leaves in place while no time passes. Only a new timer is armed in place of the
present one. -/
structure Keeps (period : Nat) (t t' : Timetable) : Prop where
  faithful : Faithful period t'
  mail : t'.operation.mail = t'.queue.map Stamped.letter
  now : t'.operation.now = t.operation.now
  engaged : t'.engaged = t.engaged
  armed : ∀ place, t'.operation.activity.armed? = some place →
    t.operation.activity.armed? = some place ∨ t.operation.activity.timers.length ≤ place

/-- What a step does to the ticks while no time passes. -/
inductive Moves (period : Nat) (t t' : Timetable) : Prop where
  | thin (fewer : (t'.queue.filterMap Stamped.tick?).Sublist (t.queue.filterMap Stamped.tick?))
    (known : ∀ x ∈ t'.queue, x ∈ t.queue ∨ x.tick? = none ∧ x.due = t.operation.now)
    (polls : t'.polls = t.polls) (dues : t'.due? = t.due?)
  | start (place : Nat) (inside : place < t.operation.activity.timers.length)
    (fresh : t.due? place = none)
    (first : ∀ due, t'.due? place = some due → due = t.operation.now + period)
    (others : ∀ p, p ≠ place → t'.due? p = t.due? p)
    (queue : t'.queue = t.queue) (polls : t'.polls = t.polls)
  | send (place due : Nat) (x : Stamped) (sends : t.due? place = some due)
    (now : due ≤ t.operation.now) (tick : x.tick? = some ⟨place, due, none⟩) (stamp : x.due = due)
    (engaged : x.engaged = t.engaged)
    (next : t'.due? place = some (Ticker.next period due t.operation.now))
    (others : ∀ p, p ≠ place → t'.due? p = t.due? p)
    (queue : t'.queue = t.queue ++ [x]) (polls : t'.polls = t.polls)
  | fetch (x : Stamped) (timer : Nat) (a : Poll) (queue : t.queue = x :: t'.queue)
    (tick : x.tick? = some ⟨timer, x.due, none⟩)
    (armed : t.operation.activity.armed? = some timer)
    (of_ : a.timer? = some timer) (due : a.due = x.due) (begun : a.begun = t.operation.now)
    (kept : a.kept = t.engaged - x.engaged) (polls : t'.polls = t.polls ++ [a])
    (dues : t'.due? = t.due?)

theorem Faithful.keeps_proceed (h : Faithful period t) {e : Operation.Event} {sent : List Letter}
    (unwaited : ∀ duration, e ≠ .wait duration)
    (mail : (t.operation.step e).mail = t.queue.map Stamped.letter ++ sent) (due engaged : Nat) :
    Keeps period t (t.proceed e due engaged) where
  faithful := h.proceed e due engaged
  mail := by
    rw [queue_proceed mail, List.map_append, List.map_map]
    exact mail.trans (congrArg _ (List.map_id _).symm)
  now := Operation.now_of_step unwaited
  engaged := rfl
  armed := (Operation.timers_of_step h.orderly h.armed e).2.2

theorem polls_proceed (e : Operation.Event) (due engaged : Nat)
    (silent : (t.operation.calls e).filterMap Call.fetch? = []) :
    (t.proceed e due engaged).polls = t.polls := by
  simp only [proceed, silent, List.map_nil, List.append_nil]

variable (faithful : Faithful period t) (mail : t.operation.mail = t.queue.map Stamped.letter)
include faithful mail

theorem moves_of_look (place : Nat) :
    Keeps period t (t.look place) ∧ Moves period t (t.look place) := by
  have still : Keeps period t t ∧ Moves period t t :=
    ⟨⟨faithful, mail, rfl, rfl, fun _ => .inl⟩, .thin (.refl _) (fun _ => .inl) rfl rfl⟩
  unfold look
  split
  · exact still
  · rename_i ticker at_
    obtain ⟨inside, here⟩ := List.getElem?_eq_some_iff.1 at_
    obtain ⟨period_, endless⟩ := faithful.tickers ticker (here ▸ List.getElem_mem inside)
    have known := faithful.places ▸ inside
    have sends : t.due? place = ticker.due? := by rw [due?, at_, Option.bind_some]
    split
    · rename_i waits
      obtain ⟨same, last⟩ := ticker.start_eq t.operation.now
      obtain ⟨starts, others⟩ := due?_set inside (ticker.start t.operation.now)
      refine ⟨⟨faithful.set (same.trans period_) (last.trans endless), mail, rfl, rfl,
        fun _ => .inl⟩, .start place known (sends.trans waits) (fun due set => ?_) others rfl rfl⟩
      rw [← period_]
      exact Ticker.due?_start waits (starts.symm.trans set)
    · rename_i due running
      split
      · rename_i now
        have fired : Faithful period
            { t with tickers := t.tickers.set place (ticker.fire t.operation.now due) } :=
          faithful.set period_ endless
        obtain ⟨sets, others⟩ := due?_set inside (ticker.fire t.operation.now due)
        have sent := Operation.mail_of_tick (List.getElem?_eq_getElem known)
        rw [mail] at sent
        have unwaited (duration : Nat) : Operation.Event.tick place ≠ .wait duration := by
          rintro ⟨⟩
        have keeps := fired.keeps_proceed unwaited sent due t.engaged
        refine ⟨⟨keeps.faithful, keeps.mail, keeps.now, keeps.engaged, keeps.armed⟩,
          .send place due _ (sends.trans running) now rfl rfl rfl ?_ ?_ (queue_proceed sent due t.engaged)
            (polls_proceed _ _ _ rfl)⟩
        · rw [due?_proceed, sets, Ticker.due?_fire running endless, period_]
        · rw [due?_proceed]
          exact others
      · exact still

theorem moves_of_receive : Keeps period t t.receive ∧ Moves period t t.receive := by
  unfold receive
  split
  · rename_i x queue idle waits
    have at_ : t.operation.mail[0]? = some x.letter := by
      rw [mail, waits]
      rfl
    have rest : (t.operation.step (.deliver 0)).mail = queue.map Stamped.letter ++ [] := by
      have emptied := congrArg (List.eraseIdx · 0) (mail.trans (congrArg _ waits))
      simp only [Operation.step, Operation.deliver, idle, at_, List.append_nil]
      exact emptied
    have opened : Faithful period { t with queue } :=
      ⟨faithful.orderly, faithful.places, faithful.armed, faithful.times, faithful.tickers⟩
    have unwaited (duration : Nat) : Operation.Event.deliver 0 ≠ .wait duration := by
      rintro ⟨⟩
    have keeps := opened.keeps_proceed unwaited rest x.due x.engaged
    have left := queue_proceed (t := { t with queue }) rest x.due x.engaged
    rw [List.map_nil, List.append_nil] at left
    refine ⟨⟨keeps.faithful, keeps.mail, keeps.now, keeps.engaged, keeps.armed⟩, ?_⟩
    rcases Operation.fetches_of_step faithful.orderly (.deliver 0) with silent | ⟨ticks, run, one⟩
    · refine .thin ?_ ?_ (polls_proceed _ _ _ silent) (due?_proceed _ _ _ _)
      · rw [left, waits, List.filterMap_cons]
        split
        · exact .refl _
        · exact List.sublist_cons_self _ _
      · rw [left, waits]
        exact fun y member => .inl (List.mem_cons_of_mem x member)
    · obtain ⟨l, n, arrives, message, armed⟩ := ticks
      obtain rfl : x.letter = l := by
        rw [Operation.letter?, if_pos idle, at_] at arrives
        exact Option.some.inj arrives
      refine .fetch x x.letter.sender
        ⟨run, t.operation.activity.armed?, x.due, t.operation.now, t.engaged - x.engaged⟩
        (waits.trans (congrArg _ left.symm)) ?_ armed armed rfl rfl rfl ?_ (due?_proceed _ _ _ _)
      · rw [Stamped.tick?, message]
      · simp only [proceed, one, List.map_cons, List.map_nil]
  · exact ⟨⟨faithful, mail, rfl, rfl, fun _ => .inl⟩, .thin (.refl _) (fun _ => .inl) rfl rfl⟩

theorem moves_of_other {e : Operation.Event} (undelivered : ∀ place, e ≠ .deliver place)
    (unticked : ∀ place, e ≠ .tick place) (unwaited : ∀ duration, e ≠ .wait duration) :
    Keeps period t (t.proceed e t.operation.now t.engaged) ∧
      Moves period t (t.proceed e t.operation.now t.engaged) := by
  obtain ⟨sent, posted, quiet⟩ := Operation.sent_of_step (o := t.operation) undelivered unticked
  rw [mail] at posted
  refine ⟨faithful.keeps_proceed unwaited posted _ _, ?_⟩
  have silent : (t.operation.calls e).filterMap Call.fetch? = [] := by
    refine (Operation.fetches_of_step faithful.orderly e).resolve_right ?_
    rintro ⟨⟨l, n, arrives, -⟩, -⟩
    cases e with
    | deliver place => exact undelivered place rfl
    | _ => cases arrives
  have none_ (x : Stamped)
      (new : x ∈ sent.map fun letter => ⟨letter, t.operation.now, t.engaged⟩) :
      x.tick? = none ∧ x.due = t.operation.now := by
    obtain ⟨l, member, rfl⟩ := List.mem_map.1 new
    refine ⟨?_, rfl⟩
    unfold Stamped.tick?
    split
    · rename_i n message
      exact absurd message (quiet l member n)
    · rfl
  refine .thin ?_ ?_ (polls_proceed _ _ _ silent) (due?_proceed _ _ _ _)
  · rw [queue_proceed posted, List.filterMap_append,
      List.filterMap_eq_nil_iff.2 fun x new => (none_ x new).1, List.append_nil]
  · rw [queue_proceed posted]
    exact fun x member => (List.mem_append.1 member).imp id (none_ x)

/-- While no time passes, a step does one of four things to the ticks. -/
theorem moves_of_step {e : Operation.Event} (unwaited : ∀ duration, e ≠ .wait duration) :
    Keeps period t (t.step e) ∧ Moves period t (t.step e) := by
  cases e with
  | tick place => exact moves_of_look faithful mail place
  | deliver place => exact moves_of_receive faithful mail
  | wait duration => exact absurd rfl (unwaited duration)
  | command | shutDown | streamAnswer | commandAnswer | signal | fetched =>
    exact moves_of_other faithful mail nofun nofun nofun

end Timetable

end RunWatch
