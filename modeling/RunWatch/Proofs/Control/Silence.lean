import RunWatch.Proofs.Control.Slot
import RunWatch.Proofs.Control.Touch

/-!
# Polling a silent stream

A controller fetches only when a tick of its timer arrives. It does so just when the run goes on and
has a name, no other fetch is out, and the stream, if there is one, has been silent for the health
window.
-/

namespace RunWatch

namespace Operation

/-- The controller takes a tick of the armed timer. -/
def Ticks (o : Operation) (e : Event) : Prop :=
  ∃ l n, o.letter? e = some l ∧ l.message = .tick n ∧ o.activity.armed? = some l.sender

end Operation

namespace Audit

/-- After some events, a fetch for a run is due on another one. -/
structure PollDue (times : WatchTimes) (events : List Operation.Event) (e : Operation.Event)
    (run : RunId) : Prop where
  ticks : (after times events).operation.Ticks e
  live : (after times events).operation.controller.state.phase.isTerminal = false
  named : (after times events).operation.controller.state.id = some run
  /-- No fetch is live, and no result is on its way to the controller. -/
  idle : (∀ i, ¬(after times events).custody.FetchLive i) ∧ (after times events).results = []
  silent : ∀ place, (after times events).operation.activity.open? = some place →
    ∀ time, HeardAt times events place time →
      time + times.healthWindow ≤ (after times events).operation.now

end Audit

/-! ### Fetches -/

/-- The run that a fetch is for. -/
def Effect.poll? : Effect → Option RunId
  | .fetch _ run => some run
  | _ => none

theorem Effect.mem_calls_iff {effects : List Effect} {run : RunId} :
    .fetch run ∈ effects.filterMap Effect.call? ↔ run ∈ effects.filterMap Effect.poll? := by
  rw [List.mem_filterMap, List.mem_filterMap]
  refine exists_congr fun e => and_congr_right fun _ => ?_
  cases e <;> simp [call?, poll?]

namespace Controller

variable {c : Controller}

def polls (c : Controller) : List RunId :=
  c.outbox.filterMap Effect.poll?

theorem poll?_of_givesUp (e : Effect) (gives : e.givesUp = true) : e.poll? = none := by
  cases e with
  | cancelStream | stopTimer | abortFetch | publish => rfl
  | openStream | send | armTimer | fetch | reply => cases gives

theorem Eases.polls {c c' : Controller} (h : Eases c c') : c'.polls = c.polls :=
  h.filterMap poll?_of_givesUp

theorem polls_reply (result : Except ClientFailure Unit) (c : Controller) :
    (c.reply result).polls = c.polls :=
  (filterMap_reply poll?_of_givesUp result c).trans (List.append_nil _)

theorem polls_armWatchdog (c : Controller) : c.armWatchdog.polls = c.polls :=
  (filterMap_armWatchdog poll?_of_givesUp c).trans (List.append_nil _)

theorem polls_openStream (command : RunCommand) (request : StreamRequest) (c : Controller) :
    (c.openStream command request).polls = c.polls :=
  (filterMap_openStream poll?_of_givesUp command request c).trans (List.append_nil _)

theorem polls_request (command : RunCommand) (run : RunId) (c : Controller) :
    (c.request command run).polls = c.polls :=
  (filterMap_emit Effect.poll? (.send command run) c).trans (List.append_nil _)

theorem polls_command (cmd : Command) (c : Controller) : (c.command cmd).polls = c.polls := by
  cases cmd with
  | start workflow inputs =>
    simp only [command, start]
    split
    · exact polls_reply _ c
    · split
      · exact polls_reply _ c
      · exact (polls_openStream _ _ _).trans (eases_stopWatchdog c).polls
  | pause =>
    simp only [command, pause]
    split
    · exact polls_reply _ c
    · split
      · exact polls_reply _ c
      · exact polls_request _ _ c
  | resume =>
    simp only [command, resume]
    split
    · exact polls_openStream _ _ c
    · exact polls_reply _ c
  | cancel =>
    simp only [command, cancel]
    split
    · exact polls_reply _ c
    · split
      · exact (polls_reply _ _).trans (eases_settle _ c).polls
      · exact polls_request _ _ c

theorem polls_opened (now : Nat) (result : Except StreamFailure Unit) (c : Controller) :
    (c.opened now result).polls = c.polls := by
  unfold opened
  split
  · exact (polls_reply _ _).trans (polls_armWatchdog _)
  · exact polls_reply _ _
  · exact ((polls_reply _ _).trans (polls_armWatchdog _)).trans (eases_settle _ _).polls
  · exact polls_reply _ c
  · rfl

theorem polls_acknowledged (result : Except ClientFailure Unit) (c : Controller) :
    (c.acknowledged result).polls = c.polls := by
  unfold acknowledged
  split
  · exact (polls_reply _ _).trans (eases_settle _ c).polls
  · exact (polls_reply _ _).trans (eases_settle _ c).polls
  · exact polls_reply _ c
  · exact polls_reply _ c
  · rfl

theorem polls_polled (result : Except PollFailure RunSnapshot) (c : Controller) :
    (c.polled result).polls = c.polls := by
  unfold polled
  split
  · exact (eases_settle _ _).polls
  · exact (eases_settle _ _).polls.trans (eases_stopWatchdog _).polls
  · rfl

theorem polls_shutDown (c : Controller) : c.shutDown.polls = c.polls :=
  ((eases_publish _).polls.trans (eases_stopWatchdog _).polls).trans (eases_closeStream c).polls

/-- Only a tick of the present timer makes the controller fetch. -/
theorem polls_step {now : Nat} {input : Input}
    (unticked : ∀ n, input = .message (.tick n) → c.concerns (.tick n) = false) :
    (c.step now input).polls = c.polls := by
  unfold step
  split
  · rfl
  · split
    · exact polls_command _ c
    · rename_i m _
      unfold message
      split
      · rfl
      · rename_i concerned
        refine (eases_publish _).polls.trans ?_
        cases m with
        | signal n s => exact (eases_signal now s c).polls
        | tick n => exact absurd (unticked n rfl) concerned
        | polled n result => exact polls_polled result c
    · exact polls_shutDown c
    · exact polls_opened now _ c
    · exact polls_acknowledged _ c
    · rfl

/-- The controller would fetch on a tick. -/
structure MayPoll (c : Controller) (now : Nat) (run : RunId) : Prop where
  live : c.state.phase.isTerminal = false
  free : c.fetching = false
  stale : c.healthy now = false
  named : c.state.id = some run

theorem tick_of_mayPoll {now : Nat} {run : RunId} (h : c.MayPoll now run) :
    c.tick now = { c with fetching := true }.emit (.fetch c.watchdog run) := by
  rw [tick, RunState.isTerminal, h.live, h.free, h.stale, h.named]
  rfl

theorem mayPoll_of_tick {now : Nat} {run : RunId} (fetches : run ∈ (c.tick now).polls)
    (sent : c.outbox = []) : c.MayPoll now run := by
  have none_ : ¬run ∈ c.polls := by
    rw [polls, sent]
    exact List.not_mem_nil
  unfold tick at fetches
  split at fetches
  · rw [(eases_stopWatchdog c).polls] at fetches
    exact absurd fetches none_
  · rename_i live
    split at fetches
    · exact absurd fetches none_
    · rename_i quiet
      split at fetches
      · exact absurd fetches none_
      · rename_i other named
        rw [Bool.or_eq_true, not_or] at quiet
        rw [polls, filterMap_emit] at fetches
        obtain rfl : run = other := by
          rcases List.mem_append.1 fetches with before | here
          · exact absurd before none_
          · exact List.mem_singleton.1 here
        exact ⟨Bool.eq_false_iff.2 live, Bool.eq_false_iff.2 quiet.1, Bool.eq_false_iff.2 quiet.2,
          named⟩

end Controller

/-! ### Ticks in operation -/

namespace Operation

open Controller

variable {o : Operation} {e : Event} {times : WatchTimes} {heard : Nat → Nat → Prop}

theorem input?_of_letter {l : Letter} (arrives : o.letter? e = some l) :
    l ∈ o.mail ∧ o.controller.awaiting = none ∧ o.input? e = some (.message l.message) := by
  cases e with
  | deliver place =>
    simp only [letter?] at arrives
    split at arrives
    · rename_i idle
      exact ⟨List.mem_of_getElem? arrives, idle, by simp [input?, idle, arrives]⟩
    · cases arrives
  | command | shutDown | streamAnswer | commandAnswer | signal | tick | fetched | wait =>
    cases arrives

theorem letter?_of_input {m : Message} (taken : o.input? e = some (.message m)) :
    ∃ l, o.letter? e = some l ∧ l.message = m := by
  cases e with
  | deliver place =>
    simp only [input?] at taken
    split at taken
    · rename_i l idle at_
      exact ⟨l, by simp [letter?, idle, at_], Input.message.inj (Option.some.inj taken)⟩
    · cases taken
  | streamAnswer result =>
    simp only [input?] at taken
    split at taken
    · cases taken
    · cases taken
  | command | shutDown | commandAnswer | signal | tick | fetched | wait => cases taken

/-- The stream is stale if it has been silent for the health window. -/
theorem Attuned.stale_iff (h : Attuned times heard o) :
    o.controller.healthy o.now = false ↔ ∀ place, o.activity.open? = some place →
      ∀ time, heard place time → time + times.healthWindow ≤ o.now := by
  rw [healthy, h.kept]
  constructor
  · intro stale place open_ time before
    obtain ⟨last, latest⟩ := h.touch.last place open_
    have streaming := (h.touch.mirrors.stream place open_).1
    have past := (h.touch.past place _ last).1
    have earlier := latest time before
    simp only [streaming, Bool.true_and, decide_eq_false_iff_not] at stale
    omega
  · intro silent
    cases streaming : o.controller.streaming with
    | false => rfl
    | true =>
      obtain ⟨place, open_⟩ := h.touch.opened streaming
      have bound := silent place open_ _ (h.touch.last place open_).1
      rw [Bool.true_and, decide_eq_false_iff_not]
      omega

/-- A tick that concerns the controller makes it fetch once, and call nothing else. -/
theorem Orderly.calls_of_tick (orderly : Orderly o) (unclosed : o.controller.closed = false)
    {l : Letter} {n : Nat} (arrives : o.letter? e = some l) (message : l.message = .tick n)
    (concerned : o.controller.concerns l.message = true) {run : RunId}
    (due : o.controller.MayPoll o.now run) : o.calls e = [.fetch run] := by
  obtain ⟨-, idle, taken⟩ := input?_of_letter arrives
  rw [message] at taken concerned
  have shown (c : Controller) :
      c.publish.outbox.filterMap Effect.call? = c.outbox.filterMap Effect.call? := by
    refine (eases_publish c).filterMap fun e gives => ?_
    cases e with
    | cancelStream | stopTimer | abortFetch | publish => rfl
    | openStream | send | armTimer | fetch | reply => cases gives
  simp only [calls, effects, taken, step_message unclosed idle, Controller.message, concerned,
    Bool.true_eq_false, if_false]
  rw [shown, tick_of_mayPoll due, filterMap_emit, orderly.sent]
  rfl

/-- A controller that fetches takes a tick of the armed timer, and calls nothing else. -/
theorem Orderly.ticks_of_poll (orderly : Orderly o) {run : RunId}
    (fetches : .fetch run ∈ o.calls e) :
    o.Ticks e ∧ o.controller.MayPoll o.now run ∧ o.calls e = [.fetch run] := by
  have nothing : o.controller.polls = [] := by rw [polls, orderly.sent]; rfl
  rw [calls, Effect.mem_calls_iff, effects] at fetches
  cases taken : o.input? e with
  | none => rw [taken] at fetches; cases fetches
  | some input =>
    rw [taken] at fetches
    change run ∈ (o.controller.step o.now input).polls at fetches
    -- On any other input the list of fetches stays empty.
    have ticked : ∃ n, input = .message (.tick n) ∧ o.controller.concerns (.tick n) = true := by
      refine Classical.byContradiction fun unticked => ?_
      rw [polls_step fun n same => Bool.eq_false_iff.2 fun concerned =>
        unticked ⟨n, same, concerned⟩, nothing] at fetches
      cases fetches
    obtain ⟨n, rfl, concerned⟩ := ticked
    obtain ⟨l, arrives, message⟩ := letter?_of_input taken
    obtain ⟨posted, idle, -⟩ := input?_of_letter arrives
    have concerns : o.controller.concerns l.message = true := by
      rw [message]
      exact concerned
    have armed := armed_of_concerns orderly posted message concerns
    cases closed : o.controller.closed with
    | true =>
      rw [show o.controller.step o.now (.message (.tick n)) = o.controller from if_pos closed,
        nothing] at fetches
      cases fetches
    | false =>
      rw [step_message closed idle, Controller.message, if_neg (ne_false_of_eq_true concerned),
        (eases_publish _).polls] at fetches
      have due := mayPoll_of_tick fetches orderly.sent
      exact ⟨⟨l, n, arrives, message, armed⟩, due,
        orderly.calls_of_tick closed arrives message concerns due⟩

theorem Attuned.calls_of_tick (h : Attuned times heard o) (orderly : Orderly o)
    (unclosed : o.controller.closed = false) (ticks : o.Ticks e) {run : RunId}
    (due : o.controller.MayPoll o.now run) : o.calls e = [.fetch run] := by
  obtain ⟨l, n, arrives, message, armed⟩ := ticks
  obtain ⟨posted, -, -⟩ := input?_of_letter arrives
  have concerned := (concerns_iff_armed orderly h.touch.mirrors posted message).2 armed
  exact orderly.calls_of_tick unclosed arrives message concerned due

end Operation

namespace Audit

variable {x : Audit}

/-- The slot of the fetch is free if no fetch is live and no result is on its way. -/
theorem Held.free_iff (h : Held x) (sound : Sound x) :
    x.operation.controller.fetching = false ↔
      (∀ i, ¬x.custody.FetchLive i) ∧ x.results = [] := by
  constructor
  · intro free
    refine ⟨fun i live => ?_, ?_⟩
    · cases free.symm.trans (h.of_live sound live).1
    · refine List.eq_nil_iff_forall_not_mem.2 fun l there => ?_
      cases free.symm.trans (sound.of_result there).1
  · rintro ⟨idle, nothing⟩
    refine Bool.eq_false_iff.2 fun taken => ?_
    rcases (h.taken_iff sound).1 taken with ⟨i, out⟩ | one
    · exact idle i out.1
    · rw [nothing] at one
      cases one

theorem mayPoll_iff_due (times : WatchTimes) (events : List Operation.Event) (run : RunId)
    {e : Operation.Event} (ticks : (after times events).operation.Ticks e) :
    (after times events).operation.controller.MayPoll (after times events).operation.now run ↔
      PollDue times events e run := by
  have free := (held_after times events).free_iff (sound_after times events)
  have stale := (attuned_after times events).stale_iff
  exact ⟨fun h => ⟨ticks, h.live, h.named, free.1 h.free, stale.1 h.stale⟩,
    fun h => ⟨h.live, free.2 h.idle, stale.2 h.silent, h.named⟩⟩

/-- On any event after any others, a controller calls for a fetch just when one is due, and then it
calls for this one alone. What silence means is never empty: an open stream has been heard. -/
theorem polls_only_when_due (times : WatchTimes) (events : List Operation.Event)
    (e : Operation.Event) :
    (∀ run, .fetch run ∈ (after times events).operation.calls e ↔ PollDue times events e run) ∧
    (∀ run, PollDue times events e run → (after times events).operation.calls e = [.fetch run]) ∧
    ∀ place, (after times events).operation.activity.open? = some place →
      ∃ time, HeardAt times events place time := by
  have sound := sound_after times events
  have attuned := attuned_after times events
  have calls (run : RunId) (due : PollDue times events e run) :
      (after times events).operation.calls e = [.fetch run] := by
    have unclosed : (after times events).operation.controller.closed = false := by
      obtain ⟨l, n, -, -, armed⟩ := due.ticks
      refine Bool.eq_false_iff.2 fun closed => ?_
      cases (sound.rests closed).armed.symm.trans (attuned.touch.mirrors.timer l.sender armed).1
    exact attuned.calls_of_tick sound.orderly unclosed due.ticks
      ((mayPoll_iff_due times events run due.ticks).2 due)
  refine ⟨fun run => ⟨fun fetches => ?_, fun due => ?_⟩, calls, fun place open_ => ?_⟩
  · obtain ⟨ticks, polls, -⟩ := sound.orderly.ticks_of_poll fetches
    exact (mayPoll_iff_due times events run ticks).1 polls
  · rw [calls run due]
    exact List.mem_singleton_self _
  · exact ⟨_, (attuned.touch.last place open_).1⟩

/-- A stream says something unreadable and then nothing more. A tick comes before the health window
is over, and another one at its end. -/
def fallingSilent : List Operation.Event :=
  [.command (.start ⟨"build"⟩ none), .streamAnswer (.ok ()),
    .signal 0 (.frame ⟨"start", .object [("run_id", .text "r1")]⟩), .deliver 0, .wait 2,
    .signal 0 (.frame ⟨"complete", .null⟩), .deliver 0, .wait 3, .tick 0, .deliver 0, .wait 1,
    .tick 0]

theorem silent_stream_is_polled :
    let early := fallingSilent.take 9
    (after ⟨4, 2⟩ early).operation.calls (.deliver 0) = [] ∧
      ¬PollDue ⟨4, 2⟩ early (.deliver 0) ⟨"r1"⟩ ∧
      PollDue ⟨4, 2⟩ fallingSilent (.deliver 0) ⟨"r1"⟩ ∧
      (after ⟨4, 2⟩ fallingSilent).operation.calls (.deliver 0) = [.fetch ⟨"r1"⟩] ∧
      (after ⟨4, 2⟩ fallingSilent).operation.activity.open? = some 0 ∧
      ∃ time, HeardAt ⟨4, 2⟩ fallingSilent 0 time := by
  intro early
  have nothing : (after ⟨4, 2⟩ early).operation.calls (.deliver 0) = [] := by decide +kernel
  have fetches : .fetch ⟨"r1"⟩ ∈ (after ⟨4, 2⟩ fallingSilent).operation.calls (.deliver 0) := by
    decide +kernel
  have open_ : (after ⟨4, 2⟩ fallingSilent).operation.activity.open? = some 0 := by decide +kernel
  obtain ⟨due, calls, heard⟩ := polls_only_when_due ⟨4, 2⟩ fallingSilent (.deliver 0)
  have now := (due ⟨"r1"⟩).1 fetches
  refine ⟨nothing, fun undue => ?_, now, calls _ now, open_, heard 0 open_⟩
  rw [(polls_only_when_due ⟨4, 2⟩ early (.deliver 0)).2.1 _ undue] at nothing
  cases nothing

end Audit

end RunWatch
