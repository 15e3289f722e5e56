import Mathlib.Logic.Relation
import RunWatch.Proofs.Control.Provenance

/-!
# What a controller does

Whatever a controller takes, it does to its stream, its watchdog and its fetch one of a few things
after the other, once it has noted that its fetch is back. `acts_step` says so; what each of them
keeps is kept by every step. The first use is `supplied_after`: an armed watchdog has a timer, and a
fetch that is out has been begun.
-/

namespace RunWatch

/-- The effect starts and stops nothing. -/
def Effect.isAside : Effect → Bool
  | .send .. | .reply _ | .publish _ => true
  | .openStream .. | .cancelStream _ | .armTimer _ | .stopTimer _ | .fetch .. | .abortFetch _ =>
    false

namespace Controller

/-- A controller leaves its stream, its watchdog and its fetch alone. -/
structure Aside (c c' : Controller) : Prop where
  streaming : c'.streaming = c.streaming
  stream : c'.stream = c.stream
  armed : c'.armed = c.armed
  watchdog : c'.watchdog = c.watchdog
  fetching : c'.fetching = c.fetching
  outbox : ∃ more, c'.outbox = c.outbox ++ more ∧ ∀ e ∈ more, e.isAside = true

inductive Act (c : Controller) : Controller → Prop where
  | aside {c' : Controller} (h : c.Aside c') : Act c c'
  | closeStream : Act c c.closeStream
  | ask (request : StreamRequest) : Act c (c.emit (.openStream c.stream request))
  | install (now : Nat) : Act c (c.install now)
  | stopWatchdog : Act c c.stopWatchdog
  | arm (unarmed : c.armed = false) (idle : c.fetching = false) :
    Act c ({ c with armed := true }.emit (.armTimer c.watchdog))
  | fetch (run : RunId) (armed : c.armed = true) (known : c.state.id = some run)
    (idle : c.fetching = false) :
    Act c ({ c with fetching := true }.emit (.fetch c.watchdog run))

/-- One act after another. -/
abbrev Acts : Controller → Controller → Prop :=
  Relation.ReflTransGen Act

theorem acts_of_eq {c c' : Controller} (streaming : c'.streaming = c.streaming)
    (stream : c'.stream = c.stream) (armed : c'.armed = c.armed)
    (watchdog : c'.watchdog = c.watchdog) (fetching : c'.fetching = c.fetching)
    (outbox : c'.outbox = c.outbox) : Acts c c' :=
  .single <| .aside
    ⟨streaming, stream, armed, watchdog, fetching, [], by rw [outbox, List.append_nil],
      List.forall_mem_nil _⟩

theorem acts_of_state (c : Controller) (s : RunState) : Acts c { c with state := s } :=
  acts_of_eq rfl rfl rfl rfl rfl rfl

theorem acts_emit (c : Controller) {e : Effect} (aside : e.isAside = true) : Acts c (c.emit e) :=
  .single <| .aside ⟨rfl, rfl, rfl, rfl, rfl, [e], rfl, fun e' member => by
    rw [List.mem_singleton.1 member, aside]⟩

variable {c : Controller}

theorem acts_publish (c : Controller) : Acts c c.publish := by
  unfold publish
  split
  · exact .refl
  · have shown : Acts c { c with view := c.present } := acts_of_eq rfl rfl rfl rfl rfl rfl
    exact shown.trans (acts_emit _ rfl)

theorem acts_reply (result : Except ClientFailure Unit) (c : Controller) :
    Acts c (c.reply result) := by
  have answered : Acts c { c with awaiting := none } :=
    acts_of_eq rfl rfl rfl rfl rfl rfl
  unfold reply
  exact (answered.trans (acts_emit _ rfl)).trans (acts_publish _)

theorem acts_closeStream (c : Controller) : Acts c c.closeStream :=
  .single .closeStream

theorem acts_stopWatchdog (c : Controller) : Acts c c.stopWatchdog :=
  .single .stopWatchdog

theorem acts_armWatchdog (c : Controller) : Acts c c.armWatchdog := by
  refine (acts_stopWatchdog c).trans (.single ?_)
  unfold armWatchdog
  exact .arm (by rw [stopWatchdog_eq]) (by rw [stopWatchdog_eq])

theorem acts_openStream (command : RunCommand) (request : StreamRequest) (c : Controller) :
    Acts c (c.openStream command request) := by
  have asks : Acts c.closeStream { c.closeStream with awaiting := some command } :=
    acts_of_eq rfl rfl rfl rfl rfl rfl
  unfold openStream
  exact ((acts_closeStream c).trans asks).trans (.single (.ask request))

theorem acts_request (command : RunCommand) (run : RunId) (c : Controller) :
    Acts c (c.request command run) := by
  have asks : Acts c { c with awaiting := some command } :=
    acts_of_eq rfl rfl rfl rfl rfl rfl
  unfold request
  exact asks.trans (acts_emit _ rfl)

theorem acts_settle (x : RunState × Transition) (c : Controller) : Acts c (c.settle x) := by
  have changed := acts_of_state c x.1
  unfold settle
  split
  · split
    · exact ((changed.trans (acts_closeStream _)).trans (acts_closeStream _)).trans
        (acts_stopWatchdog _)
    · exact changed.trans (acts_closeStream _)
  · split
    · exact (changed.trans (acts_closeStream _)).trans (acts_stopWatchdog _)
    · exact changed

/-! ### Steps -/

theorem acts_command (cmd : Command) (c : Controller) : Acts c (c.command cmd) := by
  cases cmd with
  | start workflow inputs =>
    simp only [command, start]
    split
    · exact acts_reply _ c
    · split
      · exact acts_reply _ c
      · have placed := acts_of_state c.stopWatchdog (RunState.placeholder workflow)
        exact ((acts_stopWatchdog c).trans placed).trans (acts_openStream _ _ _)
  | pause =>
    simp only [command, pause]
    split
    · exact acts_reply _ c
    · split
      · exact acts_reply _ c
      · exact acts_request _ _ c
  | resume =>
    simp only [command, resume]
    split
    · exact acts_openStream _ _ c
    · exact acts_reply _ c
  | cancel =>
    simp only [command, cancel]
    split
    · exact acts_reply _ c
    · split
      · exact (acts_settle _ c).trans (acts_reply _ _)
      · exact acts_request _ _ c

theorem acts_opened (now : Nat) (result : Except StreamFailure Unit) (c : Controller) :
    Acts c (c.opened now result) := by
  have installed : Acts c (c.install now) := .single (.install now)
  unfold opened
  split
  · exact (installed.trans (acts_armWatchdog _)).trans (acts_reply _ _)
  · exact (acts_of_state c _).trans (acts_reply _ _)
  · exact ((installed.trans (acts_settle _ _)).trans (acts_armWatchdog _)).trans (acts_reply _ _)
  · exact acts_reply _ c
  · exact .refl

theorem acts_acknowledged (result : Except ClientFailure Unit) (c : Controller) :
    Acts c (c.acknowledged result) := by
  unfold acknowledged
  split
  · exact (acts_settle _ c).trans (acts_reply _ _)
  · exact (acts_settle _ c).trans (acts_reply _ _)
  · exact acts_reply _ c
  · exact acts_reply _ c
  · exact .refl

theorem acts_failUnconfirmed (message : String) (c : Controller) :
    Acts c (c.failUnconfirmed message) := by
  unfold failUnconfirmed
  split
  · exact .refl
  · exact (acts_stopWatchdog c).trans (acts_settle _ _)

theorem acts_signal (now : Nat) (s : StreamSignal) (c : Controller) : Acts c (c.signal now s) := by
  cases s with
  | frame f =>
    have noted : Acts c { c with lastFrame := now } := acts_of_eq rfl rfl rfl rfl rfl rfl
    simp only [signal]
    split
    · exact noted.trans (acts_settle _ _)
    · exact noted
  | closed => exact (acts_closeStream c).trans (acts_failUnconfirmed _ _)
  | failed failure => exact (acts_closeStream c).trans (acts_failUnconfirmed _ _)

theorem acts_tick (now : Nat) (armed : c.armed = true) : Acts c (c.tick now) := by
  unfold tick
  split
  · exact acts_stopWatchdog c
  · split
    · exact .refl
    · rename_i quiet
      split
      · exact .refl
      · rename_i run known
        rw [Bool.or_eq_true, not_or] at quiet
        exact .single (.fetch run armed known (Bool.eq_false_iff.2 quiet.1))

theorem acts_polled (result : Except PollFailure RunSnapshot) (c : Controller) :
    Acts { c with fetching := false } (c.polled result) := by
  unfold polled
  split
  · exact acts_settle _ _
  · exact (acts_stopWatchdog _).trans (acts_settle _ _)
  · exact .refl

/-- The input says that the fetch of the present watchdog is back. -/
def IsBack (c : Controller) (input : Input) : Prop :=
  ∃ result, input = .message (.polled c.watchdog result)

theorem acts_message (now : Nat) (m : Message) (c : Controller) :
    Acts c (c.message now m) ∨
      IsBack c (.message m) ∧ Acts { c with fetching := false } (c.message now m) := by
  unfold message
  split
  · exact .inl .refl
  · rename_i concerned
    cases m with
    | signal stream s => exact .inl ((acts_signal now s c).trans (acts_publish _))
    | tick watchdog =>
      simp only [concerns, Bool.and_eq_true, beq_iff_eq, Bool.not_eq_false] at concerned
      exact .inl ((acts_tick now concerned.2).trans (acts_publish _))
    | polled watchdog result =>
      simp only [concerns, beq_iff_eq, Bool.not_eq_false] at concerned
      exact .inr ⟨⟨result, by rw [concerned]⟩, (acts_polled result c).trans (acts_publish _)⟩

theorem acts_shutDown (c : Controller) : Acts c c.shutDown := by
  have given : Acts c (c.closeStream.stopWatchdog).publish :=
    ((acts_closeStream c).trans (acts_stopWatchdog _)).trans (acts_publish _)
  exact given.trans (acts_of_eq rfl rfl rfl rfl rfl rfl)

theorem acts_step (now : Nat) (c : Controller) (input : Input) :
    Acts c (c.step now input) ∨
      IsBack c input ∧ Acts { c with fetching := false } (c.step now input) := by
  unfold step
  split
  · exact .inl .refl
  · split
    · exact .inl (acts_command _ c)
    · exact acts_message now _ c
    · exact .inl (acts_shutDown c)
    · exact .inl (acts_opened now _ c)
    · exact .inl (acts_acknowledged _ c)
    · exact .inl .refl

theorem numbers_act {c' : Controller} (act : Act c c') :
    c.stream ≤ c'.stream ∧ c.watchdog ≤ c'.watchdog := by
  cases act with
  | aside aside => exact ⟨Nat.le_of_eq aside.stream.symm, Nat.le_of_eq aside.watchdog.symm⟩
  | closeStream =>
    rw [closeStream_eq]
    exact ⟨Nat.le_succ _, Nat.le_refl _⟩
  | stopWatchdog =>
    rw [stopWatchdog_eq]
    exact ⟨Nat.le_refl _, Nat.le_succ _⟩
  | ask | install | arm | fetch => exact ⟨Nat.le_refl _, Nat.le_refl _⟩

/-- Numbers are never given back. -/
theorem numbers_acts {c' : Controller} (acts : Acts c c') :
    c.stream ≤ c'.stream ∧ c.watchdog ≤ c'.watchdog := by
  induction acts with
  | refl => exact ⟨Nat.le_refl _, Nat.le_refl _⟩
  | tail _ act ih =>
    obtain ⟨stream, watchdog⟩ := numbers_act act
    exact ⟨Nat.le_trans ih.1 stream, Nat.le_trans ih.2 watchdog⟩

theorem numbers_step (now : Nat) (c : Controller) (input : Input) :
    c.stream ≤ (c.step now input).stream ∧ c.watchdog ≤ (c.step now input).watchdog := by
  rcases acts_step now c input with acts | ⟨-, acts⟩
  · exact numbers_acts acts
  · exact numbers_acts (c := { c with fetching := false }) acts

end Controller

/-! ### Timers and fetches behind a controller -/

/-- An armed watchdog has a timer, and a fetch that is out has been begun. -/
structure Supplied (a : Activity) (c : Controller) : Prop where
  timer : c.armed = true → c.watchdog ∈ a.timers
  fetch : c.fetching = true → ∃ f ∈ a.fetches, f.watchdog = c.watchdog

theorem Activity.performAll_aside {effects : List Effect} (aside : ∀ e ∈ effects, e.isAside = true)
    (a : Activity) : a.performAll effects = a := by
  induction effects with
  | nil => rfl
  | cons e effects ih =>
    have same : a.perform e = a := by
      have first := aside e List.mem_cons_self
      cases e with
      | send | reply | publish => rfl
      | openStream | cancelStream | armTimer | stopTimer | fetch | abortFetch => cases first
    rw [performAll, List.foldl_cons, same]
    exact ih fun e later => aside e (List.mem_cons_of_mem _ later)

namespace Supplied

variable {a : Activity} {c c' : Controller}

open Controller

theorem act (h : Supplied (a.carryOut c) c) (act : Act c c') : Supplied (a.carryOut c') c' := by
  cases act with
  | aside aside =>
    obtain ⟨more, outbox, quiet⟩ := aside.outbox
    have same : a.carryOut c' = a.carryOut c := by
      rw [Activity.carryOut, outbox, Activity.performAll, List.foldl_append]
      exact Activity.performAll_aside quiet _
    refine ⟨fun armed => ?_, fun fetching => ?_⟩
    · rw [same, aside.watchdog]
      exact h.timer (aside.armed.symm.trans armed)
    · rw [same, aside.watchdog]
      exact h.fetch (aside.fetching.symm.trans fetching)
  | closeStream =>
    obtain ⟨open?, e⟩ := a.carryOut_closeStream c
    rw [e, closeStream_eq]
    exact ⟨h.timer, h.fetch⟩
  | ask request =>
    rw [a.carryOut_emit]
    exact ⟨h.timer, h.fetch⟩
  | install now => exact ⟨h.timer, h.fetch⟩
  | stopWatchdog =>
    rw [stopWatchdog_eq]
    exact ⟨(absurd · Bool.false_ne_true), (absurd · Bool.false_ne_true)⟩
  | arm unarmed idle =>
    rw [a.carryOut_emit]
    exact ⟨fun _ => List.mem_append_right _ List.mem_cons_self,
      fun fetching => absurd (idle.symm.trans fetching) (by decide)⟩
  | fetch run armed known idle =>
    rw [a.carryOut_emit]
    exact ⟨h.timer, fun _ => ⟨_, List.mem_append_right _ List.mem_cons_self, rfl⟩⟩

theorem acts (h : Supplied (a.carryOut c) c) (acts : Acts c c') : Supplied (a.carryOut c') c' := by
  induction acts with
  | refl => exact h
  | tail _ act ih => exact ih.act act

end Supplied

namespace Operation

variable {o : Operation}

/-- An event reaches the controller as one input, or not at all. -/
theorem step_cases (orderly : Orderly o) (e : Event) :
    ((o.step e).controller = o.controller ∧ (o.step e).activity = o.activity) ∨
      ∃ input activity mail, o.step e = Operation.take input { o with activity, mail } ∧
        (activity = o.activity ∨ activity = o.activity.accept) ∧
        Controller.Expects o.controller input ∧ (input = .shutDown → e = .shutDown) := by
  have posted (sender : Nat) (message? : Option Message) :
      (o.send sender message?).controller = o.controller ∧
        (o.send sender message?).activity = o.activity := by
    unfold Operation.send
    split <;> exact ⟨rfl, rfl⟩
  cases e with
  | command c => exact .inr ⟨_, _, _, rfl, .inl rfl, trivial, nofun⟩
  | shutDown => exact .inr ⟨_, _, _, rfl, .inl rfl, trivial, fun _ => rfl⟩
  | streamAnswer result =>
    simp only [step, answerStream]
    split
    · cases result with
      | ok => exact .inr ⟨_, _, _, rfl, .inr rfl, trivial, nofun⟩
      | error failure => exact .inr ⟨_, _, _, rfl, .inl rfl, trivial, nofun⟩
    · exact .inl ⟨rfl, rfl⟩
  | commandAnswer result => exact .inr ⟨_, _, _, rfl, .inl rfl, trivial, nofun⟩
  | signal place s => exact .inl (posted _ _)
  | tick place => exact .inl (posted _ _)
  | fetched place result => exact .inl (posted _ _)
  | deliver place =>
    simp only [step, Operation.deliver]
    split
    · rename_i l _ at_
      have genuine := orderly.genuine l (List.mem_of_getElem? at_)
      exact .inr ⟨_, _, _, rfl, .inl rfl, orderly.agrees.expects orderly.sent genuine, nofun⟩
    · exact .inl ⟨rfl, rfl⟩
  | wait duration => exact .inl ⟨rfl, rfl⟩

theorem supplied_step (orderly : Orderly o) (h : Supplied o.activity o.controller) (e : Event) :
    Supplied (o.step e).activity (o.step e).controller := by
  rcases step_cases orderly e with ⟨controller, activity⟩ | ⟨input, a, mail, taken, from_, -⟩
  · rw [controller, activity]
    exact h
  · have supplied : Supplied a o.controller := by
      rcases from_ with rfl | rfl
      · exact h
      · exact ⟨h.timer, h.fetch⟩
    have before : Supplied (a.carryOut o.controller) o.controller := by
      rw [Activity.carryOut, orderly.sent]
      exact supplied
    have later : Supplied (a.carryOut (o.controller.step o.now input))
        (o.controller.step o.now input) := by
      rcases Controller.acts_step o.now o.controller input with acts | ⟨-, acts⟩
      · exact before.acts acts
      · exact Supplied.acts (c := { o.controller with fetching := false })
          ⟨before.timer, (absurd · Bool.false_ne_true)⟩ acts
    rw [taken]
    exact ⟨later.timer, later.fetch⟩

theorem run_of_step {p : Operation → Prop} (events : List Event)
    (kept : ∀ o, ∀ e ∈ events, Orderly o → p o → p (o.step e)) (orderly : Orderly o) (h : p o) :
    p (events.foldl step o) := by
  induction events generalizing o with
  | nil => exact h
  | cons e events ih =>
    have later (o' : Operation) (e' : Event) (member : e' ∈ events) :=
      kept o' e' (List.mem_cons_of_mem _ member)
    exact ih later (orderly.step e) (kept o e List.mem_cons_self orderly h)

theorem supplied_run (events : List Event) (orderly : Orderly o)
    (h : Supplied o.activity o.controller) :
    Supplied (events.foldl step o).activity (events.foldl step o).controller :=
  run_of_step (p := fun o => Supplied o.activity o.controller) events
    (fun _ e _ orderly h => supplied_step orderly h e) orderly h

theorem supplied_after (times : WatchTimes) (events : List Event) :
    Supplied (after times events).activity (after times events).controller :=
  supplied_run events (orderly_initial times) ⟨nofun, nofun⟩

end Operation

end RunWatch
