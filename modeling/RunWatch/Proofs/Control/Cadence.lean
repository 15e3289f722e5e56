import RunWatch.Proofs.Control.Timers

/-!
# The cadence of fetches

The ticks of a timer are due a period apart, and the mail keeps their order, but a tick that has
waited in the mail is taken late and the one after it on time. So a fetch begins a period after the
tick of the one before it was due, and that is not a period after that one began. `Paced` is the
order of the ticks, along the mail and into the fetches; `Punctual` accounts for the time that they
wait.
-/

namespace RunWatch

/-- The next tick of a timer comes a period later, and the first one of a later timer a period after
the fetch. -/
structure Tick.Precedes (period : Nat) (a b : Tick) : Prop where
  same : a.timer = b.timer → a.due + period ≤ b.due
  later : a.timer < b.timer → ∀ begun, a.begun? = some begun → begun + period ≤ b.due

theorem Tick.Precedes.postpone {period : Nat} {a b : Tick} (h : a.Precedes period b) {c : Tick}
    (timer : c.timer = b.timer) (due : b.due ≤ c.due) : a.Precedes period c where
  same eq := Nat.le_trans (h.same (eq.trans timer)) due
  later lt begun fetched := Nat.le_trans (h.later (timer ▸ lt) begun fetched) due

/-- A tick may give its place to one that is due no earlier and precedes what it preceded. -/
theorem Tick.Precedes.replace {period : Nat} {before later : List Tick} {a c : Tick}
    (h : (before ++ a :: later).Pairwise (Tick.Precedes period))
    (timer : c.timer = a.timer) (due : a.due ≤ c.due)
    (precedes : ∀ b ∈ later, a.Precedes period b → c.Precedes period b) :
    (before ++ c :: later).Pairwise (Tick.Precedes period) := by
  obtain ⟨earlier, rest, across⟩ := List.pairwise_append.1 h
  obtain ⟨first, rest⟩ := List.pairwise_cons.1 rest
  refine List.pairwise_append.2 ⟨earlier, List.pairwise_cons.2 ⟨fun b among => ?_, rest⟩, ?_⟩
  · exact precedes b among (first b among)
  · intro b among d there
    rcases List.mem_cons.1 there with rfl | beyond
    · exact (across b among a List.mem_cons_self).postpone timer due
    · exact across b among d (List.mem_cons_of_mem _ beyond)

def Poll.tick? (a : Poll) : Option Tick :=
  a.timer?.map fun timer => ⟨timer, a.due, some a.begun⟩

namespace Timetable

variable {t t' : Timetable} {period : Nat}

/-- The ticks that have made fetches begin, and then those in the mail. -/
def ticks (t : Timetable) : List Tick :=
  t.polls.filterMap Poll.tick? ++ t.queue.filterMap Stamped.tick?

/-! ### The order of ticks -/

/-- The ticks of a timetable keep their distance, and its fetches keep theirs as far as their ticks
make them. -/
structure Paced (period : Nat) (t : Timetable) : Prop where
  spaced : t.ticks.Pairwise (Tick.Precedes period)
  next : ∀ a ∈ t.ticks, ∀ place due, t.due? place = some due → a.Precedes period ⟨place, due, none⟩
  started : ∀ a ∈ t.ticks, (t.due? a.timer).isSome = true
  past : ∀ x ∈ t.queue, x.due ≤ t.operation.now
  begun : ∀ a ∈ t.polls,
    a.due ≤ a.begun ∧ a.begun ≤ t.operation.now ∧ ∃ timer, a.timer? = some timer
  apart : t.polls.Pairwise fun a b =>
    a.due + period ≤ b.begun ∧ (a.timer? ≠ b.timer? → a.begun + period ≤ b.begun)

namespace Paced

theorem begun_le (h : Paced period t) {a : Tick} (sent : a ∈ t.ticks) {begun : Nat}
    (fetched : a.begun? = some begun) : begun ≤ t.operation.now := by
  rcases List.mem_append.1 sent with among | waits
  · obtain ⟨poll, member, of_⟩ := List.mem_filterMap.1 among
    obtain ⟨timer, -, rfl⟩ := Option.map_eq_some_iff.1 of_
    rw [← Option.some.inj fetched]
    exact (h.begun poll member).2.1
  · obtain ⟨x, -, of_⟩ := List.mem_filterMap.1 waits
    unfold Stamped.tick? at of_
    split at of_
    · cases of_
      cases fetched
    · cases of_

/-- Time passes, letters are sent that are no ticks, or ticks are lost. -/
theorem thin (h : Paced period t) (polls : t'.polls = t.polls)
    (fewer : (t'.queue.filterMap Stamped.tick?).Sublist (t.queue.filterMap Stamped.tick?))
    (dues : t'.due? = t.due?) (past : ∀ x ∈ t'.queue, x.due ≤ t'.operation.now)
    (now : t.operation.now ≤ t'.operation.now) : Paced period t' := by
  have ticks : t'.ticks.Sublist t.ticks := by
    rw [ticks, ticks, polls]
    exact (List.Sublist.refl _).append fewer
  refine ⟨h.spaced.sublist ticks, ?_, ?_, past, ?_, polls ▸ h.apart⟩
  · rw [dues]
    exact fun a sent => h.next a (ticks.subset sent)
  · rw [dues]
    exact fun a sent => h.started a (ticks.subset sent)
  · rw [polls]
    intro a member
    obtain ⟨late, before, timer⟩ := h.begun a member
    exact ⟨late, Nat.le_trans before now, timer⟩

theorem start (h : Paced period t) {place : Nat} (fresh : t.due? place = none)
    (first : ∀ due, t'.due? place = some due → due = t.operation.now + period)
    (others : ∀ p, p ≠ place → t'.due? p = t.due? p) (queue : t'.queue = t.queue)
    (polls : t'.polls = t.polls) (now : t'.operation.now = t.operation.now) : Paced period t' := by
  have unsent (a : Tick) (sent : a ∈ t.ticks) : a.timer ≠ place := by
    rintro rfl
    have started := h.started a sent
    rw [fresh] at started
    cases started
  have ticks : t'.ticks = t.ticks := by rw [ticks, ticks, queue, polls]
  refine ⟨ticks ▸ h.spaced, ?_, ?_, ?_, ?_, polls ▸ h.apart⟩
  · rw [ticks]
    intro a sent p due sends
    by_cases same : p = place
    · subst same
      refine ⟨fun same => absurd same (unsent a sent), fun _ begun fetched => ?_⟩
      have before := h.begun_le sent fetched
      have sets := first due sends
      dsimp only
      omega
    · rw [others p same] at sends
      exact h.next a sent p due sends
  · rw [ticks]
    intro a sent
    rw [others _ (unsent a sent)]
    exact h.started a sent
  · rw [queue, now]
    exact h.past
  · rw [polls, now]
    exact h.begun

/-- A timer sends a tick and sets the time for the next one. -/
theorem send (h : Paced period t) {place due next : Nat} {x : Stamped}
    (sends : t.due? place = some due) (tick : x.tick? = some ⟨place, due, none⟩)
    (past : x.due ≤ t.operation.now) (set : t'.due? place = some next) (wait : due + period ≤ next)
    (others : ∀ p, p ≠ place → t'.due? p = t.due? p) (queue : t'.queue = t.queue ++ [x])
    (polls : t'.polls = t.polls) (now : t'.operation.now = t.operation.now) : Paced period t' := by
  have ticks : t'.ticks = t.ticks ++ [⟨place, due, none⟩] := by
    rw [Timetable.ticks, polls, queue, List.filterMap_append, ← List.append_assoc,
      List.filterMap_cons, tick]
    rfl
  have known (a : Tick) (sent : a ∈ t'.ticks) : a ∈ t.ticks ∨ a = ⟨place, due, none⟩ := by
    rw [ticks] at sent
    exact (List.mem_append.1 sent).imp_right List.mem_singleton.1
  refine ⟨?_, fun a sent p d sets => ?_, fun a sent => ?_, ?_, ?_, polls ▸ h.apart⟩
  · rw [ticks]
    refine List.pairwise_append.2 ⟨h.spaced, List.pairwise_singleton _ _, fun a sent b last => ?_⟩
    rw [List.mem_singleton.1 last]
    exact h.next a sent place due sends
  · by_cases same : p = place
    · subst same
      obtain rfl := Option.some.inj (set.symm.trans sets)
      rcases known a sent with before | rfl
      · exact (h.next a before p due sends).postpone rfl (Nat.le_of_add_right_le wait)
      · exact ⟨fun _ => wait, fun _ _ => nofun⟩
    · rw [others p same] at sets
      rcases known a sent with before | rfl
      · exact h.next a before p d sets
      · exact ⟨fun eq => absurd eq.symm same, fun _ _ => nofun⟩
  · by_cases same : a.timer = place
    · rw [same, set]
      rfl
    · rw [others _ same]
      rcases known a sent with before | rfl
      · exact h.started a before
      · exact absurd rfl same
  · rw [queue, now]
    intro y member
    rcases List.mem_append.1 member with before | last
    · exact h.past y before
    · rwa [List.mem_singleton.1 last]
  · rw [polls, now]
    exact h.begun

/-- A fetch that begins now keeps its distance, for the sake of the tick that makes it begin. -/
theorem distance (h : Paced period t) {x : Stamped} {timer : Nat} (posted : x ∈ t.queue)
    (tick : x.tick? = some ⟨timer, x.due, none⟩)
    (last : ∀ place, (t.due? place).isSome = true → place ≤ timer) {a : Poll}
    (member : a ∈ t.polls) :
    a.due + period ≤ t.operation.now ∧
      (a.timer? ≠ some timer → a.begun + period ≤ t.operation.now) := by
  obtain ⟨late, -, place, of_⟩ := h.begun a member
  have among : (⟨place, a.due, some a.begun⟩ : Tick) ∈ t.polls.filterMap Poll.tick? :=
    List.mem_filterMap.2 ⟨a, member, by rw [Poll.tick?, of_, Option.map_some]⟩
  have waits := List.mem_filterMap.2 ⟨x, posted, tick⟩
  have precedes := (List.pairwise_append.1 h.spaced).2.2 _ among _ waits
  have taken := h.past x posted
  rcases Nat.lt_or_eq_of_le (last place (h.started _ (List.mem_append_left _ among))) with
    earlier | rfl
  · have distance : a.begun + period ≤ t.operation.now :=
      Nat.le_trans (precedes.later earlier _ rfl) taken
    exact ⟨by omega, fun _ => distance⟩
  · exact ⟨Nat.le_trans (precedes.same rfl) taken, fun other => absurd of_ other⟩

/-- A tick of the last timer makes a fetch begin. There is no later timer whose ticks could be too
early after it. -/
theorem fetch (h : Paced period t) {x : Stamped} {timer : Nat} {a : Poll}
    (queue : t.queue = x :: t'.queue) (tick : x.tick? = some ⟨timer, x.due, none⟩)
    (last : ∀ place, (t.due? place).isSome = true → place ≤ timer)
    (of_ : a.timer? = some timer) (due : a.due = x.due) (begins : a.begun = t.operation.now)
    (polls : t'.polls = t.polls ++ [a]) (dues : t'.due? = t.due?)
    (now : t'.operation.now = t.operation.now) : Paced period t' := by
  have posted : x ∈ t.queue := queue ▸ List.mem_cons_self
  have before : t.ticks = t.polls.filterMap Poll.tick? ++
      ⟨timer, x.due, none⟩ :: t'.queue.filterMap Stamped.tick? := by
    rw [Timetable.ticks, queue, List.filterMap_cons, tick]
  have ticks : t'.ticks = t.polls.filterMap Poll.tick? ++
      ⟨timer, x.due, some t.operation.now⟩ :: t'.queue.filterMap Stamped.tick? := by
    rw [Timetable.ticks, polls, List.filterMap_append, List.append_assoc, List.filterMap_cons,
      Poll.tick?, of_, due, begins]
    rfl
  have marks {b : Tick} (precedes : Tick.Precedes period ⟨timer, x.due, none⟩ b)
      (bound : b.timer ≤ timer) :
      Tick.Precedes period ⟨timer, x.due, some t.operation.now⟩ b :=
    ⟨precedes.same, fun later => absurd later (Nat.not_lt_of_le bound)⟩
  have unmarked : (⟨timer, x.due, none⟩ : Tick) ∈ t.ticks :=
    before ▸ List.mem_append_right _ List.mem_cons_self
  have known (b : Tick) (sent : b ∈ t'.ticks) :
      b = ⟨timer, x.due, some t.operation.now⟩ ∨ b ∈ t.ticks := by
    rw [ticks, List.mem_append, List.mem_cons] at sent
    rw [before, List.mem_append, List.mem_cons]
    rcases sent with among | same | later
    · exact .inr (.inl among)
    · exact .inl same
    · exact .inr (.inr (.inr later))
  refine ⟨?_, fun b sent place d sends => ?_, fun b sent => ?_, ?_, fun b member => ?_, ?_⟩
  · rw [ticks]
    have spaced := h.spaced
    rw [before] at spaced
    refine Tick.Precedes.replace spaced rfl (Nat.le_refl _) fun b later precedes => ?_
    have sent : b ∈ t.ticks := before ▸ List.mem_append_right _ (List.mem_cons_of_mem _ later)
    exact marks precedes (last _ (h.started b sent))
  · rw [dues] at sends
    rcases known b sent with rfl | sent
    · exact marks (h.next _ unmarked place d sends) (last place (by rw [sends]; rfl))
    · exact h.next b sent place d sends
  · rw [dues]
    rcases known b sent with rfl | sent
    · exact h.started ⟨timer, x.due, none⟩ unmarked
    · exact h.started b sent
  · rw [now]
    exact fun y member => h.past y (queue ▸ List.mem_cons_of_mem x member)
  · rw [polls] at member
    rw [now]
    rcases List.mem_append.1 member with old | new
    · exact h.begun b old
    · obtain rfl := List.mem_singleton.1 new
      refine ⟨?_, Nat.le_of_eq begins, timer, of_⟩
      rw [due, begins]
      exact h.past x posted
  · rw [polls]
    refine List.pairwise_append.2 ⟨h.apart, List.pairwise_singleton _ _, fun b member c new => ?_⟩
    rw [List.mem_singleton.1 new, begins, of_]
    exact h.distance posted tick last member

theorem move (h : Paced period t) (faithful : Faithful period t) (keeps : Keeps period t t')
    (moves : Moves period t t') : Paced period t' := by
  have still := Nat.le_of_eq keeps.now.symm
  cases moves with
  | thin fewer known polls dues =>
    refine h.thin polls fewer dues (fun x posted => ?_) still
    rcases known x posted with before | ⟨-, sent⟩
    · exact Nat.le_trans (h.past x before) still
    · exact Nat.le_trans (Nat.le_of_eq sent) still
  | start place inside fresh first others queue polls =>
    exact h.start fresh first others queue polls keeps.now
  | send place due x sends now tick stamp engaged next others queue polls =>
    exact h.send sends tick (stamp ▸ now) next
      (Ticker.add_period_le_next period due t.operation.now) others queue polls keeps.now
  | fetch x timer a queue tick armed of_ due begun kept polls dues =>
    refine h.fetch queue tick (fun place started => ?_) of_ due begun polls dues keeps.now
    have inside := faithful.lt_of_started started
    have final := faithful.armed timer armed
    omega

end Paced

/-! ### Runs -/

/-- What holds of a timetable at any time. -/
structure Regular (period : Nat) (t : Timetable) : Prop where
  faithful : Faithful period t
  mail : t.operation.mail = t.queue.map Stamped.letter
  paced : Paced period t

theorem Regular.wait (h : Regular period t) (duration : Nat) : Regular period (t.wait duration) := by
  obtain ⟨faithful, mail, paced⟩ := h
  have later := Nat.le_add_right t.operation.now duration
  refine ⟨⟨faithful.orderly.step (.wait duration), faithful.places, faithful.armed, faithful.times,
    faithful.tickers⟩, mail, paced.thin rfl (.refl _) rfl (fun x posted => ?_) later⟩
  exact Nat.le_trans (paced.past x posted) later

theorem Regular.step (h : Regular period t) (e : Operation.Event) : Regular period (t.step e) := by
  have move (unwaited : ∀ duration, e ≠ .wait duration) : Regular period (t.step e) := by
    obtain ⟨keeps, moves⟩ := moves_of_step h.faithful h.mail unwaited
    exact ⟨keeps.faithful, keeps.mail, h.paced.move h.faithful keeps moves⟩
  cases e with
  | wait duration => exact h.wait duration
  | command | shutDown | streamAnswer | commandAnswer | signal | tick | fetched | deliver =>
    exact move nofun

theorem regular_run (events : List Operation.Event) (h : Regular period t) :
    Regular period (events.foldl step t) := by
  induction events generalizing t with
  | nil => exact h
  | cons e events ih => exact ih (h.step e)

theorem regular_initial (times : WatchTimes) :
    Regular times.pollInterval { operation := { controller := { times } } } where
  faithful := ⟨Operation.orderly_initial times, rfl, nofun, rfl, nofun⟩
  mail := rfl
  paced := by
    refine ⟨.nil, fun _ sent => ?_, fun _ sent => ?_, fun _ sent => ?_, nofun, .nil⟩ <;> cases sent

/-! ### Runs without delay -/

/-- The armed timer is on time, and its ticks have waited only while requests were out. -/
structure Punctual (t : Timetable) : Prop where
  mailed : ∀ x ∈ t.queue, ∀ a, x.tick? = some a →
    t.operation.activity.armed? = some a.timer →
      x.engaged ≤ t.engaged ∧ t.operation.now + x.engaged = x.due + t.engaged
  onTime : ∀ place due, t.operation.activity.armed? = some place → t.due? place = some due →
    t.operation.now ≤ due
  polled : ∀ a ∈ t.polls, a.begun = a.due + a.kept

theorem Regular.lt_of_mailed (h : Regular period t) {x : Stamped} (posted : x ∈ t.queue) {a : Tick}
    (tick : x.tick? = some a) : a.timer < t.operation.activity.timers.length :=
  have sent := List.mem_append_right _ (List.mem_filterMap.2 ⟨x, posted, tick⟩)
  h.faithful.lt_of_started (h.paced.started a sent)

theorem Regular.lt_of_due (h : Regular period t) {place due : Nat}
    (sends : t.due? place = some due) : place < t.operation.activity.timers.length :=
  h.faithful.lt_of_started (by rw [sends]; rfl)

namespace Punctual

theorem move (h : Punctual t) (regular : Regular period t) (keeps : Keeps period t t')
    (moves : Moves period t t') : Punctual t' := by
  -- A timer that was there before is armed only if it was armed before.
  have armed {place : Nat} (inside : place < t.operation.activity.timers.length)
      (arms : t'.operation.activity.armed? = some place) :
      t.operation.activity.armed? = some place :=
    (keeps.armed place arms).resolve_right (Nat.not_le_of_lt inside)
  have waits {x : Stamped} (posted : x ∈ t.queue) {a : Tick} (tick : x.tick? = some a)
      (arms : t'.operation.activity.armed? = some a.timer) :
      x.engaged ≤ t'.engaged ∧ t'.operation.now + x.engaged = x.due + t'.engaged := by
    rw [keeps.engaged, keeps.now]
    exact h.mailed x posted a tick (armed (regular.lt_of_mailed posted tick) arms)
  have goes {place due : Nat} (arms : t'.operation.activity.armed? = some place)
      (sends : t.due? place = some due) : t'.operation.now ≤ due := by
    rw [keeps.now]
    exact h.onTime place due (armed (regular.lt_of_due sends) arms) sends
  cases moves with
  | thin fewer known polls dues =>
    refine ⟨fun x posted a tick => ?_, ?_, polls ▸ h.polled⟩
    · rcases known x posted with before | ⟨none_, -⟩
      · exact waits before tick
      · cases tick.symm.trans none_
    · rw [dues]
      exact fun _ _ => goes
  | start place inside fresh first others queue polls =>
    refine ⟨?_, fun p due arms sends => ?_, polls ▸ h.polled⟩
    · rw [queue]
      exact fun _ posted _ => waits posted
    · by_cases same : p = place
      · rw [first due (same ▸ sends), keeps.now]
        exact Nat.le_add_right _ _
      · rw [others p same] at sends
        exact goes arms sends
  | send place due x sends now tick stamp engaged next others queue polls =>
    have exact_ (arms : t'.operation.activity.armed? = some place) : due = t.operation.now :=
      Nat.le_antisymm now (h.onTime place due (armed (regular.lt_of_due sends) arms) sends)
    refine ⟨fun y posted a tick' arms => ?_, fun p d arms sets => ?_, polls ▸ h.polled⟩
    · rw [queue] at posted
      rcases List.mem_append.1 posted with before | last
      · exact waits before tick' arms
      · obtain rfl := List.mem_singleton.1 last
        obtain rfl := Option.some.inj (tick.symm.trans tick')
        rw [stamp, exact_ arms, engaged, keeps.engaged, keeps.now]
        exact ⟨Nat.le_refl _, rfl⟩
    · by_cases same : p = place
      · subst same
        obtain rfl := Option.some.inj (next.symm.trans sets)
        have later := Ticker.add_period_le_next period due t.operation.now
        have punctual := exact_ arms
        rw [keeps.now]
        omega
      · rw [others p same] at sets
        exact goes arms sets
  | fetch x timer a queue tick arms of_ due begun kept polls dues =>
    refine ⟨fun y posted => ?_, ?_, ?_⟩
    · exact fun _ => waits (queue ▸ List.mem_cons_of_mem x posted)
    · rw [dues]
      exact fun _ _ => goes
    · rw [polls]
      intro b member
      rcases List.mem_append.1 member with before | new
      · exact h.polled b before
      · obtain rfl := List.mem_singleton.1 new
        obtain ⟨bound, account⟩ := h.mailed x (queue ▸ List.mem_cons_self) _ tick arms
        rw [begun, due, kept]
        omega

theorem wait (h : Punctual t) {duration : Nat}
    (timely : t.isTimely (.wait duration) = true) : Punctual (t.wait duration) := by
  rw [isTimely, Bool.and_eq_true, Bool.or_eq_true] at timely
  obtain ⟨free, ahead⟩ := timely
  refine ⟨fun x (posted : x ∈ t.queue) a tick arms => ?_,
    fun place due (arms : t.operation.activity.armed? = some place) sends => ?_, h.polled⟩
  · have busy : t.operation.controller.awaiting.isSome = true := by
      refine free.resolve_left fun empty => ?_
      rw [List.isEmpty_iff.1 empty] at posted
      cases posted
    obtain ⟨bound, account⟩ := h.mailed x posted a tick arms
    simp only [Timetable.wait, busy, if_true, Operation.step]
    omega
  · obtain ⟨ticker, (at_ : t.tickers[place]? = some ticker), running⟩ :=
      Option.bind_eq_some_iff.1 sends
    rw [arms, Option.bind_some, at_, Option.all_some, running, Option.any_some] at ahead
    exact of_decide_eq_true ahead

theorem run (events : List Operation.Event) (h : Punctual t) (regular : Regular period t)
    (prompt : t.isPrompt events = true) : Punctual (events.foldl step t) := by
  induction events generalizing t with
  | nil => exact h
  | cons e events ih =>
    rw [isPrompt, Bool.and_eq_true] at prompt
    obtain ⟨timely, later⟩ := prompt
    refine ih ?_ (regular.step e) later
    have move (unwaited : ∀ duration, e ≠ .wait duration) : Punctual (t.step e) := by
      obtain ⟨keeps, moves⟩ := moves_of_step regular.faithful regular.mail unwaited
      exact h.move regular keeps moves
    cases e with
    | wait duration => exact h.wait timely
    | command | shutDown | streamAnswer | commandAnswer | signal | tick | fetched | deliver =>
      exact move nofun

end Punctual

theorem punctual_initial (times : WatchTimes) :
    Punctual { operation := { controller := { times } } } where
  mailed _ posted := absurd posted List.not_mem_nil
  onTime := nofun
  polled := nofun

/-! ### Fetches -/

/-- In any run, a fetch begins a poll interval after the tick was due that made an earlier one
begin; and a poll interval after that one began, if the watchdog was armed anew in between. As long
as timers and letters are not held up, fetches begin a poll interval apart, less the time for which
requests kept the tick of the earlier one in the mail. -/
theorem polls_keep_their_distance (times : WatchTimes) (events : List Operation.Event) :
    let polls := (after times events).polls
    (∀ a ∈ polls, a.due ≤ a.begun) ∧
      polls.Pairwise (fun a b => a.due + times.pollInterval ≤ b.begun ∧
        (a.timer? ≠ b.timer? → a.begun + times.pollInterval ≤ b.begun)) ∧
      (Prompt times events → (∀ a ∈ polls, a.begun = a.due + a.kept) ∧
        polls.Pairwise fun a b => a.begun + times.pollInterval ≤ b.begun + a.kept) := by
  intro polls
  have regular : Regular times.pollInterval (after times events) :=
    regular_run events (regular_initial times)
  refine ⟨fun a member => (regular.paced.begun a member).1, regular.paced.apart, fun prompt => ?_⟩
  have punctual : Punctual (after times events) :=
    Punctual.run events (punctual_initial times) (regular_initial times) prompt
  refine ⟨punctual.polled, regular.paced.apart.imp_of_mem fun {a b} first _ apart => ?_⟩
  have account := punctual.polled a first
  omega

/-- A pause is asked for half a second before a tick, and refused soon before the next one. -/
def pausedInVain : List Operation.Event :=
  [.command (.start ⟨"build"⟩ none), .streamAnswer (.ok ()), .tick 0,
    .signal 0 (.frame ⟨"start", .object [("run_id", .text "r1")]⟩), .deliver 0, .wait 1500,
    .command .pause, .wait 500, .tick 0, .wait 1900, .commandAnswer (.error .closed), .deliver 0,
    .fetched 0 (.ok { status := .running }), .deliver 0, .wait 100, .tick 0, .deliver 0]

/-- The bound is reached: the first fetch begins when the request is out no longer. -/
theorem polls_when_paused_in_vain :
    Prompt ⟨1000, 2000⟩ pausedInVain ∧
      (after ⟨1000, 2000⟩ pausedInVain).polls.map (fun a => (a.due, a.begun, a.kept)) =
        [(2000, 3900, 1900), (4000, 4000, 0)] ∧
      (after ⟨1000, 2000⟩ pausedInVain).polls.Pairwise
        fun a b => a.begun + 2000 ≤ b.begun + a.kept := by
  have prompt : Prompt ⟨1000, 2000⟩ pausedInVain := by decide +kernel
  obtain ⟨-, -, apart⟩ := polls_keep_their_distance ⟨1000, 2000⟩ pausedInVain
  exact ⟨prompt, by decide +kernel, (apart prompt).2⟩

/-- A tick that has waited in the mail is followed by one that is on time. -/
theorem queued_tick_is_followed_early :
    Prompt ⟨1000, 2000⟩ pausedInVain ∧
      ¬(after ⟨1000, 2000⟩ pausedInVain).polls.Pairwise fun a b => a.begun + 2000 ≤ b.begun := by
  decide +kernel

end Timetable

end RunWatch
