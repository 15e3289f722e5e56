import RunWatch.Proofs.Control.Acts
import RunWatch.Proofs.Control.Refusals
import RunWatch.Proofs.Run.Updates

/-!
# Progress of controllers

A controller between two inputs takes up some command, and if its run is under way it has a stream,
or its watchdog can find out how the run ends. The one exception is a stranded run: such a
controller refuses every command, and nothing but a shutdown changes it. `stuck_only_when_stranded`
states both.
-/

namespace RunWatch

namespace Controller

variable {c : Controller}

/-! ### Runs under way are told about -/

/-- A running run has a stream or an id to ask about. -/
def Tracked (c : Controller) : Prop :=
  c.state.phase = .running → c.streaming = true ∨ c.state.id.isSome = true

theorem Tracked.of_not_running (h : c.state.phase ≠ .running) : Tracked c :=
  fun running => absurd running h

theorem Tracked.of_terminal (h : c.state.phase.isTerminal = true) : Tracked c :=
  .of_not_running fun running => by rw [running] at h; cases h

theorem Tracked.of_eq {c' : Controller} (h : Tracked c) (phase : c'.state.phase = c.state.phase)
    (id : c'.state.id = c.state.id) (streaming : c'.streaming = c.streaming) : Tracked c' := by
  unfold Tracked
  rw [phase, id, streaming]
  exact h

theorem Tracked.publish (h : Tracked c) : Tracked c.publish := by
  rw [publish_eq]
  exact h.of_eq rfl rfl rfl

theorem Tracked.reply (h : Tracked c) (result : Except ClientFailure Unit) :
    Tracked (c.reply result) :=
  publish (h.of_eq rfl rfl rfl)

theorem Tracked.armWatchdog (h : Tracked c) : Tracked c.armWatchdog := by
  rw [armWatchdog_eq]
  exact h.of_eq rfl rfl rfl

theorem settle_of_running {x : RunState × Transition} (advances : c.state.Advances x)
    (running : x.1.phase = .running) : c.settle x = { c with state := x.1 } := by
  have kept : x.2.closeStream = false := by
    refine Bool.eq_false_iff.2 fun closes => ?_
    have ends := (advances.closes.1 closes).2
    rw [running] at ends
    cases ends
  have goesOn : (x.2.changed && x.1.isTerminal) = false := by
    rw [RunState.isTerminal, running]
    exact Bool.and_false _
  simp only [settle, kept, goesOn, Bool.false_eq_true, if_false]

theorem Tracked.settle (h : Tracked c) {u : RunState.Update} (other : u ≠ .resumed)
    (watched : c.state.phase = .pending → c.streaming = true) :
    Tracked (c.settle (u.change c.state)) := by
  intro running
  rw [settle_state] at running
  have advances := RunState.advances_change u c.state
  rw [settle_of_running advances running]
  rcases advances.moves with same | moves
  · rcases h (same.symm.trans running) with streaming | named
    · exact .inl streaming
    · obtain ⟨r, id⟩ := Option.isSome_iff_exists.1 named
      exact .inr (by rw [advances.id r id]; rfl)
  · rw [running] at moves
    generalize before : c.state.phase = p at moves
    cases moves with
    | begin => exact .inl (watched before)
    | resume => exact absurd (RunState.resumed_of_moves before running) other
    | finish live ends => cases ends

theorem Tracked.settle_event (h : Tracked c) (e : RunEvent)
    (watched : c.state.phase = .pending → c.streaming = true) :
    Tracked (c.settle (c.state.applyEvent e)) :=
  h.settle (u := .event e) nofun watched

theorem Coherent.watched (h : Coherent c) (armed : c.armed = true) :
    c.state.phase = .pending → c.streaming = true := by
  intro pending
  rcases h.pending pending with ⟨streaming, -⟩ | ⟨-, unarmed, -⟩
  · exact streaming
  · exact absurd (unarmed.symm.trans armed) nofun

theorem tracked_lose (message : String) (c : Controller) :
    Tracked (c.closeStream.failUnconfirmed message) := by
  unfold failUnconfirmed
  split
  · rename_i known
    rcases Bool.or_eq_true_iff.1 known with named | ends
    · exact fun _ => .inr named
    · exact .of_terminal ends
  · rename_i unknown
    have live := (Bool.or_eq_false_iff.1 (Bool.eq_false_iff.2 unknown)).2
    refine .of_terminal ?_
    have same : (c.closeStream.stopWatchdog).state = c.closeStream.state := by
      rw [stopWatchdog_eq]
    rw [settle_state, same, RunState.fail_eq live]
    rfl

theorem tracked_command (h : Tracked c) (cmd : Command) : Tracked (c.command cmd) := by
  cases cmd with
  | start workflow inputs =>
    simp only [command, start]
    split
    · exact h.reply _
    · split
      · exact h.reply _
      · rw [openStream, closeStream_eq, stopWatchdog_eq]
        exact .of_not_running fun running => by cases running
  | pause =>
    simp only [command, pause]
    split
    · exact h.reply _
    · split
      · exact h.reply _
      · exact h.of_eq rfl rfl rfl
  | resume =>
    simp only [command, resume]
    split
    · rename_i workflow run _ _ id
      have named : c.state.id.isSome = true := by rw [id]; rfl
      rw [openStream, closeStream_eq]
      exact fun _ => .inr named
    · exact h.reply _
  | cancel =>
    simp only [command, cancel]
    split
    · exact h.reply _
    · split
      · refine Tracked.reply (.of_not_running ?_) _
        rw [settle_state, RunState.cancel]
        split
        · rename_i ends
          exact fun running => by rw [running] at ends; cases ends
        · rw [RunState.phase_setPhase]
          decide
      · exact h.of_eq rfl rfl rfl

theorem tracked_opened (h : Tracked c) (now : Nat) (result : Except StreamFailure Unit) :
    Tracked (c.opened now result) := by
  unfold opened
  split
  · have installed : Tracked (c.install now) := fun _ => .inl rfl
    exact installed.armWatchdog.reply _
  · refine Tracked.reply ?_ _
    exact h.of_eq rfl rfl rfl
  · have resumed : Tracked ((c.install now).settle c.state.markResumed) := by
      intro running
      rw [settle_state] at running
      have advances : (c.install now).state.Advances c.state.markResumed :=
        c.state.advances_markResumed
      rw [settle_of_running advances running]
      exact .inl rfl
    exact resumed.armWatchdog.reply _
  · exact h.reply _
  · exact h

theorem tracked_acknowledged (h : Tracked c) (coherent : Coherent c) (asking : Asking c)
    (result : Except ClientFailure Unit) : Tracked (c.acknowledged result) := by
  unfold acknowledged
  split
  · rename_i command
    rw [Asking, command] at asking
    exact (h.settle_event .paused (coherent.watched asking)).reply _
  · rename_i command
    rw [Asking, command] at asking
    exact (h.settle_event .cancelled (coherent.watched asking)).reply _
  · exact h.reply _
  · exact h.reply _
  · exact h

theorem tracked_signal (h : Tracked c) (streaming : c.streaming = true) (now : Nat)
    (s : StreamSignal) : Tracked (c.signal now s) := by
  cases s with
  | frame f =>
    have noted : Tracked { c with lastFrame := now } := h
    simp only [signal]
    split
    · rename_i e _
      exact noted.settle_event e fun _ => streaming
    · exact noted
  | closed => exact tracked_lose _ c
  | failed failure => exact tracked_lose _ c

theorem tracked_tick (h : Tracked c) (now : Nat) : Tracked (c.tick now) := by
  unfold tick
  split
  · rw [stopWatchdog_eq]
    exact h
  · split
    · exact h
    · split
      · exact h
      · exact h.of_eq rfl rfl rfl

theorem tracked_polled (h : Tracked c) (coherent : Coherent c) (armed : c.armed = true)
    (result : Except PollFailure RunSnapshot) : Tracked (c.polled result) := by
  have taken : Tracked { c with fetching := false } := h
  unfold polled
  split
  · rename_i snapshot
    exact taken.settle (u := .snapshot snapshot) nofun (coherent.watched armed)
  · simp only [stopWatchdog_eq]
    refine .of_terminal ?_
    rw [settle_state, RunState.fail_eq (coherent.live_of_armed armed)]
    rfl
  · exact taken

theorem tracked_message (h : Tracked c) (coherent : Coherent c) (now : Nat) (m : Message)
    (expects : Expects c (.message m)) : Tracked (c.message now m) := by
  unfold message
  split
  · exact h
  · rename_i concerned
    refine Tracked.publish ?_
    cases m with
    | signal stream s =>
      simp only [concerns, Bool.and_eq_true, beq_iff_eq, Bool.not_eq_false] at concerned
      exact tracked_signal h concerned.2 now s
    | tick watchdog => exact tracked_tick h now
    | polled watchdog result =>
      simp only [concerns, beq_iff_eq, Bool.not_eq_false] at concerned
      exact tracked_polled h coherent (expects concerned).1 result

theorem tracked_step (h : Tracked c) (coherent : Coherent c) (asking : Asking c) (now : Nat)
    {input : Input} (expects : Expects c input) (unclosed : (c.step now input).closed = false) :
    Tracked (c.step now input) := by
  unfold step at unclosed ⊢
  split
  · exact h
  · rename_i opened
    rw [if_neg opened] at unclosed
    split
    · exact tracked_command h _
    · exact tracked_message h coherent now _ expects
    · rename_i idle
      rw [idle] at unclosed
      cases unclosed
    · exact tracked_opened h now _
    · exact tracked_acknowledged h coherent asking _
    · exact h

/-! ### Polls -/

theorem not_healthy_late (now : Nat) (c : Controller) :
    c.healthy (now + (c.times.healthWindow + c.lastFrame)) = false := by
  have beyond : ¬now + (c.times.healthWindow + c.lastFrame) - c.lastFrame < c.times.healthWindow := by
    omega
  rw [healthy, decide_eq_false beyond, Bool.and_false]

theorem message_tick {now : Nat} (armed : c.armed = true)
    (live : c.state.phase.isTerminal = false) (resting : c.fetching = false)
    (stale : c.healthy now = false) {run : RunId} (named : c.state.id = some run) :
    c.message now (.tick c.watchdog) =
      (({ c with fetching := true } : Controller).emit (.fetch c.watchdog run)).publish := by
  have present : c.concerns (.tick c.watchdog) = true := by
    rw [concerns, armed, beq_self_eq_true, Bool.and_self]
  simp only [message, present, tick, RunState.isTerminal, live, resting, stale, named, Bool.or_self,
    Bool.false_eq_true, Bool.true_eq_false, if_false]

theorem message_polled (now : Nat) (p : RunSnapshot) (c : Controller) :
    (c.message now (.polled c.watchdog (.ok p))).state = (c.state.applySnapshot p).1 := by
  have present : c.concerns (.polled c.watchdog (.ok p)) = true := beq_self_eq_true _
  simp only [message, present, polled, Bool.true_eq_false, if_false]
  rw [publish_eq]
  exact settle_state _ _

/-! ### Stranded runs stay so -/

/-- The controller is open, waits for no answer, and its run is stranded. -/
structure Stuck (c : Controller) : Prop where
  unclosed : c.closed = false
  idle : c.awaiting = none
  stranded : c.state.Stranded

theorem Stuck.refuse (h : Stuck c) (command : RunCommand) :
    Stuck (c.refuse command) ∧ (c.refuse command).state = c.state := by
  rw [Controller.refuse, Controller.reply, publish_eq]
  exact ⟨⟨h.unclosed, rfl, h.stranded⟩, rfl⟩

theorem Stuck.message (h : Stuck c) (coherent : Coherent c) (now : Nat) (m : Message)
    (expects : Expects c (.message m)) : (c.message now m).state = c.state ∧
      (c.message now m).closed = false := by
  unfold Controller.message
  split
  · exact ⟨rfl, h.unclosed⟩
  · rename_i concerned
    rw [publish_eq]
    cases m with
    | signal stream s =>
      -- There is no stream that could send it.
      simp only [concerns, (coherent.paused h.stranded.paused).1, Bool.and_false, not_true] at concerned
    | tick watchdog =>
      simp only [tick, RunState.isTerminal, h.stranded.paused, RunPhase.isTerminal,
        Bool.false_eq_true, if_false, h.stranded.unnamed]
      split <;> exact ⟨rfl, h.unclosed⟩
    | polled watchdog result =>
      simp only [concerns, beq_iff_eq, Bool.not_eq_false] at concerned
      have named := (expects concerned).2
      rw [h.stranded.unnamed] at named
      cases named

theorem Stuck.step (h : Stuck c) (coherent : Coherent c) (now : Nat) {input : Input}
    (expects : Expects c input) (open_ : input ≠ .shutDown) :
    Stuck (c.step now input) ∧ (c.step now input).state = c.state := by
  unfold Controller.step
  rw [h.unclosed, h.idle, if_neg nofun]
  cases input with
  | command cmd =>
    have refused := command_of_not_allowed (coherent.allows_of_stranded h.stranded cmd.kind)
    simp only [refused]
    exact h.refuse cmd.kind
  | message m =>
    obtain ⟨state, unclosed⟩ := h.message coherent now m expects
    have idle := (message_awaiting now m c).trans h.idle
    exact ⟨⟨unclosed, idle, by rw [state]; exact h.stranded⟩, state⟩
  | opened | acknowledged => exact ⟨h, rfl⟩
  | shutDown => exact absurd rfl open_

end Controller

namespace Operation

variable {o : Operation}

open Controller

theorem tracked_operation_step (orderly : Orderly o)
    (h : o.controller.closed = false → Tracked o.controller) (e : Event) :
    (o.step e).controller.closed = false → Tracked (o.step e).controller := by
  intro unclosed
  rcases step_cases orderly e with ⟨same, -⟩ | ⟨input, a, mail, taken, -, expects, -⟩
  · rw [same] at unclosed ⊢
    exact h unclosed
  · rw [taken] at unclosed ⊢
    obtain ⟨coherent, asking⟩ := orderly.coherent (closed_of_step unclosed)
    have tracked := h (closed_of_step unclosed)
    exact tracked_step tracked coherent asking o.now expects unclosed

theorem tracked_after {times : WatchTimes} {events : List Event}
    (unclosed : (after times events).controller.closed = false) :
    Tracked (after times events).controller :=
  run_of_step (p := fun o => o.controller.closed = false → Tracked o.controller) events
    (fun _ e _ orderly h => tracked_operation_step orderly h e) (orderly_initial times)
    (fun _ => .of_not_running nofun) unclosed

theorem stuck_operation_step (orderly : Orderly o) (h : Stuck o.controller) {e : Event}
    (open_ : e ≠ .shutDown) :
    Stuck (o.step e).controller ∧ (o.step e).controller.state = o.controller.state := by
  rcases step_cases orderly e with ⟨same, -⟩ | ⟨input, a, mail, taken, -, expects, shuts⟩
  · rw [same]
    exact ⟨h, rfl⟩
  · have coherent := (orderly.coherent h.unclosed).1
    obtain ⟨⟨unclosed, idle, stranded⟩, state⟩ :=
      h.step coherent o.now expects fun input => open_ (shuts input)
    rw [taken]
    exact ⟨⟨unclosed, idle, stranded⟩, state⟩

theorem stuck_run (events : List Event) (orderly : Orderly o) (h : Stuck o.controller)
    (open_ : ∀ e ∈ events, e ≠ .shutDown) :
    Stuck (events.foldl step o).controller ∧
      (events.foldl step o).controller.state = o.controller.state := by
  refine run_of_step
    (p := fun o' => Stuck o'.controller ∧ o'.controller.state = o.controller.state) events
    (fun o' e member orderly' stays => ?_) orderly ⟨h, rfl⟩
  obtain ⟨stuck, state⟩ := stuck_operation_step orderly' stays.1 (open_ e member)
  exact ⟨stuck, state.trans stays.2⟩

/-! ### Watched runs can be settled -/

/-- Time goes by, the watchdog ticks, a fetch gives the snapshot, or a message arrives. -/
def Event.polls (p : RunSnapshot) : Event → Bool
  | .wait _ | .tick _ | .deliver _ => true
  | .fetched _ result => result = .ok p
  | _ => false

theorem deliver_posted (unclosed : o.controller.closed = false)
    (idle : o.controller.awaiting = none) (l : Letter) :
    (Operation.deliver o.mail.length { o with mail := o.mail ++ [l] }).controller =
      { o.controller.message o.now l.message with outbox := [] } := by
  have at_ : (o.mail ++ [l])[o.mail.length]? = some l := List.getElem?_concat_length
  have taken : o.controller.step o.now (.message l.message) =
      o.controller.message o.now l.message := by
    simp only [Controller.step, unclosed, idle, Bool.false_eq_true, if_false]
  simp only [Operation.deliver, idle, at_, Operation.take, taken, takeOutbox]

theorem settled_by_fetch (supplied : Supplied o.activity o.controller)
    (unclosed : o.controller.closed = false) (idle : o.controller.awaiting = none)
    (fetching : o.controller.fetching = true) {p : RunSnapshot} (ends : p.status.isTerminal = true) :
    ∃ more : List Event, (∀ e ∈ more, e.polls p = true) ∧
      (more.foldl step o).controller.state.phase.isTerminal = true := by
  obtain ⟨f, began, number⟩ := supplied.fetch fetching
  obtain ⟨place, at_⟩ := List.mem_iff_getElem?.1 began
  refine ⟨[.fetched place (.ok p), .deliver o.mail.length], by simp [Event.polls], ?_⟩
  have sent : o.step (.fetched place (.ok p)) =
      { o with mail := o.mail ++ [⟨place, .polled o.controller.watchdog (.ok p)⟩] } := by
    simp only [step, at_, Option.map_some, Operation.send, number]
  have arrives := deliver_posted unclosed idle ⟨place, .polled o.controller.watchdog (.ok p)⟩
  rw [List.foldl_cons, sent, List.foldl_cons, List.foldl_nil, step, arrives]
  have taken := message_polled o.now p o.controller
  exact taken ▸ RunState.applySnapshot_ends ends _

/-- After the health window, the next tick begins a fetch. -/
theorem fetch_begins (supplied : Supplied o.activity o.controller)
    (unclosed : o.controller.closed = false) (idle : o.controller.awaiting = none)
    (live : o.controller.state.phase.isTerminal = false) (armed : o.controller.armed = true)
    (resting : o.controller.fetching = false) {run : RunId}
    (named : o.controller.state.id = some run) (p : RunSnapshot) :
    ∃ more : List Event, (∀ e ∈ more, e.polls p = true) ∧
      (more.foldl step o).controller.closed = false ∧
      (more.foldl step o).controller.awaiting = none ∧
      (more.foldl step o).controller.fetching = true := by
  obtain ⟨place, at_⟩ := List.mem_iff_getElem?.1 (supplied.timer armed)
  let duration := o.controller.times.healthWindow + o.controller.lastFrame
  refine ⟨[.wait duration, .tick place, .deliver o.mail.length], by simp [Event.polls], ?_⟩
  let late : Operation := { o with now := o.now + duration }
  have waited : o.step (.wait duration) = late := rfl
  have sent : late.step (.tick place) =
      { late with mail := o.mail ++ [⟨place, .tick o.controller.watchdog⟩] } := by
    simp only [late, step, at_, Option.map_some, Operation.send]
  have arrives := deliver_posted (o := late) unclosed idle ⟨place, .tick o.controller.watchdog⟩
  have fetches := message_tick armed live resting (not_healthy_late o.now o.controller) named
  rw [List.foldl_cons, waited, List.foldl_cons, sent, List.foldl_cons, List.foldl_nil, step,
    arrives, fetches, publish_eq]
  exact ⟨unclosed, idle, rfl⟩

/-- A watched run with an id ends by polling alone as soon as the server says that it is over. -/
theorem settled_by_polling (orderly : Orderly o) (supplied : Supplied o.activity o.controller)
    (unclosed : o.controller.closed = false) (idle : o.controller.awaiting = none)
    (armed : o.controller.armed = true) {run : RunId} (named : o.controller.state.id = some run)
    {p : RunSnapshot} (ends : p.status.isTerminal = true) :
    ∃ more : List Event, (∀ e ∈ more, e.polls p = true) ∧
      (more.foldl step o).controller.state.phase.isTerminal = true := by
  cases fetching : o.controller.fetching with
  | true => exact settled_by_fetch supplied unclosed idle fetching ends
  | false =>
    have live := (orderly.coherent unclosed).1.live_of_armed armed
    obtain ⟨begins, polls, unclosed', idle', fetching'⟩ :=
      fetch_begins supplied unclosed idle live armed fetching named p
    have supplied' := supplied_run begins orderly supplied
    obtain ⟨arrives, polls', ended⟩ := settled_by_fetch supplied' unclosed' idle' fetching' ends
    refine ⟨begins ++ arrives, ?_, ?_⟩
    · intro e member
      rcases List.mem_append.1 member with first | later
      · exact polls e first
      · exact polls' e later
    · rw [List.foldl_append]
      exact ended

/-! ### All controllers but the stuck ones make progress -/

/-- The run of the controller is under way. -/
def UnderWay (o : Operation) : Prop :=
  o.controller.state.phase = .running ∨ o.controller.state.phase = .paused

structure Progresses (o : Operation) : Prop where
  takes : ∃ kind, ∀ cmd : Command, cmd.kind = kind → o.controller.refuses o.now cmd = false
  told : UnderWay o → o.controller.streaming = true ∨
    o.controller.state.id.isSome = true ∧ o.controller.armed = true
  /-- A run with an id needs no more than polls, once the server says how it has ended. -/
  settles : UnderWay o → o.controller.state.id.isSome = true →
    ∀ p : RunSnapshot, p.status.isTerminal = true →
      ∃ more : List Event, (∀ e ∈ more, e.polls p = true) ∧
        (more.foldl step o).controller.state.phase.isTerminal = true

theorem armed_of_underWay (coherent : Coherent o.controller) (h : UnderWay o) :
    o.controller.armed = true := by
  rcases h with running | paused
  · exact coherent.running running
  · exact (coherent.paused paused).2

theorem progresses (orderly : Orderly o) (supplied : Supplied o.activity o.controller)
    (tracked : Tracked o.controller) (unclosed : o.controller.closed = false)
    (idle : o.controller.awaiting = none) (unstranded : ¬o.controller.state.Stranded) :
    Progresses o := by
  have coherent := (orderly.coherent unclosed).1
  constructor
  case takes =>
    obtain ⟨kind, allowed⟩ := coherent.exists_allowed unstranded
    refine ⟨kind, fun cmd same => ?_⟩
    rw [refuses_eq unclosed idle orderly.sent, same, allowed]
    rfl
  case told =>
    intro underWay
    have armed := armed_of_underWay coherent underWay
    rcases underWay with running | paused
    · rcases tracked running with streaming | named
      · exact .inl streaming
      · exact .inr ⟨named, armed⟩
    · have named : o.controller.state.id ≠ none := fun unnamed => unstranded ⟨paused, unnamed⟩
      exact .inr ⟨Option.isSome_iff_ne_none.2 named, armed⟩
  case settles =>
    intro underWay named p ends
    have armed := armed_of_underWay coherent underWay
    obtain ⟨run, id⟩ := Option.isSome_iff_exists.1 named
    exact settled_by_polling orderly supplied unclosed idle armed id ends

/-- Between two inputs every open controller makes progress, unless its run was paused before it had
an id. Then all commands are refused, there is no stream, and so it remains until the shutdown. -/
theorem stuck_only_when_stranded (times : WatchTimes) (events : List Event)
    (unclosed : (after times events).controller.closed = false)
    (idle : (after times events).controller.awaiting = none) :
    (¬(after times events).controller.state.Stranded → Progresses (after times events)) ∧
    ((after times events).controller.state.Stranded →
      ∀ more, (∀ e ∈ more, e ≠ .shutDown) →
        (after times (events ++ more)).controller.state = (after times events).controller.state ∧
        (after times (events ++ more)).controller.streaming = false ∧
        ∀ cmd, (after times (events ++ more)).controller.refuses
          (after times (events ++ more)).now cmd = true) := by
  have orderly := orderly_after times events
  have supplied := supplied_after times events
  refine ⟨progresses orderly supplied (tracked_after unclosed) unclosed idle, ?_⟩
  intro stranded more open_
  have orderly' := orderly_after times (events ++ more)
  have later : after times (events ++ more) = more.foldl step (after times events) :=
    List.foldl_append
  obtain ⟨stuck, state⟩ := stuck_run more orderly ⟨unclosed, idle, stranded⟩ open_
  rw [← later] at stuck state
  have coherent := (orderly'.coherent stuck.unclosed).1
  refine ⟨state, (coherent.paused stuck.stranded.paused).1, fun cmd => ?_⟩
  rw [refuses_eq stuck.unclosed stuck.idle orderly'.sent,
    coherent.allows_of_stranded stuck.stranded]
  rfl

theorem resumed_run_progresses :
    (after ⟨2, 1⟩ pausedAndResumed).controller.closed = false ∧
      (after ⟨2, 1⟩ pausedAndResumed).controller.awaiting = none ∧
      Progresses (after ⟨2, 1⟩ pausedAndResumed) := by
  have unclosed : (after ⟨2, 1⟩ pausedAndResumed).controller.closed = false := by decide +kernel
  have idle : (after ⟨2, 1⟩ pausedAndResumed).controller.awaiting = none := by decide +kernel
  have running : (after ⟨2, 1⟩ pausedAndResumed).controller.state.phase = .running := by
    decide +kernel
  have progresses := (stuck_only_when_stranded _ _ unclosed idle).1 fun stranded =>
    nomatch running.symm.trans stranded.paused
  exact ⟨unclosed, idle, progresses⟩

/-- The server confirms a run without naming it and then pauses it. -/
def pausedUnnamed : List Event :=
  [.command (.start ⟨"build"⟩ none), .streamAnswer (.ok ()),
    .signal 0 (.frame ⟨"start", .object []⟩), .deliver 0,
    .signal 0 (.frame ⟨"paused", .object []⟩), .deliver 0, .wait 20000, .tick 0, .deliver 0]

theorem paused_before_named_is_stuck :
    (after ⟨4000, 2000⟩ pausedUnnamed).controller.closed = false ∧
      (after ⟨4000, 2000⟩ pausedUnnamed).controller.awaiting = none ∧
      (after ⟨4000, 2000⟩ pausedUnnamed).controller.state.phase = .paused ∧
      (after ⟨4000, 2000⟩ pausedUnnamed).controller.streaming = false ∧
      (after ⟨4000, 2000⟩ pausedUnnamed).controller.state.id = none ∧
      ∀ cmd, (after ⟨4000, 2000⟩ pausedUnnamed).controller.refuses
        (after ⟨4000, 2000⟩ pausedUnnamed).now cmd = true := by
  have orderly := orderly_after ⟨4000, 2000⟩ pausedUnnamed
  have unclosed : (after ⟨4000, 2000⟩ pausedUnnamed).controller.closed = false := by decide +kernel
  have idle : (after ⟨4000, 2000⟩ pausedUnnamed).controller.awaiting = none := by decide +kernel
  have paused : (after ⟨4000, 2000⟩ pausedUnnamed).controller.state.phase = .paused := by
    decide +kernel
  have unnamed : (after ⟨4000, 2000⟩ pausedUnnamed).controller.state.id = none := by decide +kernel
  have coherent := (orderly.coherent unclosed).1
  refine ⟨unclosed, idle, paused, (coherent.paused paused).1, unnamed, fun cmd => ?_⟩
  rw [refuses_eq unclosed idle orderly.sent, coherent.allows_of_stranded ⟨paused, unnamed⟩]
  rfl

end Operation

end RunWatch
