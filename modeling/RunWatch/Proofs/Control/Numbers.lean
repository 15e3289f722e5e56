import RunWatch.Control.Operation
import RunWatch.Proofs.Control.Coherence

/-!
# Numbers of streams and watchdogs

A controller agrees with what it has set going: whatever carries its present numbers is the open
stream, the armed timer, or a fetch for the run at hand that began since the watchdog was armed.
Every step keeps the agreement, because a number is used up before it is given again.
-/

namespace RunWatch

namespace Activity

/-! ### Senders keep their places -/

structure Grows (a b : Activity) : Prop where
  streams : a.streams <+: b.streams
  timers : a.timers <+: b.timers
  fetches : a.fetches <+: b.fetches

theorem Grows.refl (a : Activity) : a.Grows a :=
  ⟨List.prefix_refl _, List.prefix_refl _, List.prefix_refl _⟩

theorem Grows.trans {a b c : Activity} (h : a.Grows b) (h' : b.Grows c) : a.Grows c :=
  ⟨h.streams.trans h'.streams, h.timers.trans h'.timers, h.fetches.trans h'.fetches⟩

theorem grows_perform (a : Activity) (e : Effect) : a.Grows (a.perform e) := by
  have same := Grows.refl a
  cases e with
  | openStream => exact ⟨List.prefix_append _ _, same.timers, same.fetches⟩
  | armTimer => exact ⟨same.streams, List.prefix_append _ _, same.fetches⟩
  | fetch => exact ⟨same.streams, same.timers, List.prefix_append _ _⟩
  | cancelStream | stopTimer | send | abortFetch | reply | publish =>
    exact ⟨same.streams, same.timers, same.fetches⟩

theorem grows_performAll (effects : List Effect) (a : Activity) :
    a.Grows (a.performAll effects) := by
  induction effects generalizing a with
  | nil => exact .refl a
  | cons e effects ih => exact (grows_perform a e).trans (ih (a.perform e))

theorem grows_accept (a : Activity) : a.Grows a.accept :=
  ⟨List.prefix_refl _, List.prefix_refl _, List.prefix_refl _⟩

/-- The message carries the number of its sender. -/
def Genuine (a : Activity) (l : Letter) : Prop :=
  match l.message with
  | .signal n _ => a.streams[l.sender]? = some n
  | .tick n => a.timers[l.sender]? = some n
  | .polled n _ => ∃ f, a.fetches[l.sender]? = some f ∧ f.watchdog = n

theorem getElem?_of_prefix {α : Type} {xs ys : List α} {i : Nat} {x : α} (h : xs <+: ys)
    (at_ : xs[i]? = some x) : ys[i]? = some x := by
  obtain ⟨inside, rfl⟩ := List.getElem?_eq_some_iff.1 at_
  exact List.prefix_iff_getElem?.1 h i inside

theorem mem_of_place {α : Type} {xs ys : List α} {i : Nat} {x : α} (h : xs <+: ys)
    (inside : i < xs.length) (at_ : ys[i]? = some x) : x ∈ xs := by
  have same := getElem?_of_prefix h (List.getElem?_eq_getElem inside)
  rw [Option.some.inj (at_.symm.trans same)]
  exact List.getElem_mem inside

theorem Genuine.grows {a b : Activity} {l : Letter} (h : a.Genuine l) (grows : a.Grows b) :
    b.Genuine l := by
  unfold Genuine at h ⊢
  split at h
  · exact getElem?_of_prefix grows.streams h
  · exact getElem?_of_prefix grows.timers h
  · obtain ⟨f, at_, number⟩ := h
    exact ⟨f, getElem?_of_prefix grows.fetches at_, number⟩

/-! ### The outbox -/

/-- The activity once the outbox has been carried out. -/
def carryOut (a : Activity) (c : Controller) : Activity :=
  a.performAll c.outbox

variable (a : Activity) (c : Controller)

theorem carryOut_emit (e : Effect) : a.carryOut (c.emit e) = (a.carryOut c).perform e := by
  simp only [carryOut, performAll, Controller.emit, List.foldl_append, List.foldl_cons,
    List.foldl_nil]

theorem carryOut_closeStream :
    ∃ open?, a.carryOut c.closeStream = { a.carryOut c with open? } := by
  unfold Controller.closeStream
  split
  · exact ⟨none, carryOut_emit a c _⟩
  · exact ⟨_, rfl⟩

theorem carryOut_stopWatchdog :
    ∃ armed? turn, a.carryOut c.stopWatchdog = { a.carryOut c with armed?, turn } := by
  have aborts (d : Controller) :
      a.carryOut (if d.fetching then d.emit (.abortFetch d.watchdog) else d) = a.carryOut d := by
    split
    · exact carryOut_emit a d _
    · rfl
  unfold Controller.stopWatchdog
  split
  · exact ⟨none, _, (aborts _).trans (carryOut_emit a c _)⟩
  · exact ⟨_, _, aborts c⟩

theorem carryOut_publish : a.carryOut c.publish = a.carryOut c := by
  unfold Controller.publish
  split
  · rfl
  · exact carryOut_emit a _ _

end Activity

/-! ### Numbers -/

/-- The present number of a controller and the streams that it has asked for. -/
structure StreamsAgree (a : Activity) (c : Controller) : Prop where
  bounded : ∀ n ∈ a.streams, n ≤ c.stream
  opened : c.streaming = true → ∀ i, a.streams[i]? = some c.stream → a.open? = some i
  /-- The stream that the controller waits for was asked for last. -/
  asked : Operation.awaitsStream c = true →
    ∀ i, a.streams[i]? = some c.stream → i + 1 = a.streams.length

/-- The present watchdog of a controller, the timers and the fetches. -/
structure WatchAgrees (a : Activity) (c : Controller) : Prop where
  timers : ∀ n ∈ a.timers, n ≤ c.watchdog
  armed : c.armed = true → ∀ i, a.timers[i]? = some c.watchdog → a.armed? = some i
  fetches : ∀ f ∈ a.fetches, f.watchdog ≤ c.watchdog
  /-- A fetch with the present number is for the run at hand, and began since the watchdog was
  armed. -/
  current : ∀ f ∈ a.fetches, f.watchdog = c.watchdog →
    c.armed = true ∧ c.state.id = some f.run ∧ f.turn = a.turn

theorem StreamsAgree.of_past {a : Activity} {c : Controller}
    (past : ∀ n ∈ a.streams, n < c.stream) : StreamsAgree a c where
  bounded n asked := Nat.le_of_lt (past n asked)
  opened _ _ at_ := absurd (past _ (List.mem_of_getElem? at_)) (Nat.lt_irrefl _)
  asked _ _ at_ := absurd (past _ (List.mem_of_getElem? at_)) (Nat.lt_irrefl _)

theorem WatchAgrees.of_past {a : Activity} {c : Controller}
    (timers : ∀ n ∈ a.timers, n < c.watchdog)
    (fetches : ∀ f ∈ a.fetches, f.watchdog < c.watchdog) : WatchAgrees a c where
  timers n began := Nat.le_of_lt (timers n began)
  armed _ _ at_ := absurd (timers _ (List.mem_of_getElem? at_)) (Nat.lt_irrefl _)
  fetches f began := Nat.le_of_lt (fetches f began)
  current f began same := absurd (fetches f began) (by rw [same]; exact Nat.lt_irrefl _)

/-- A number that is new to a list stands only at its end. -/
theorem place_of_new {xs : List Nat} {m i : Nat} (new : ∀ n ∈ xs, n < m)
    (at_ : (xs ++ [m])[i]? = some m) : i = xs.length := by
  rcases Nat.lt_trichotomy i xs.length with before | here | beyond
  · rw [List.getElem?_append_left before] at at_
    exact absurd (new m (List.mem_of_getElem? at_)) (Nat.lt_irrefl m)
  · exact here
  · have inside := (List.getElem?_eq_some_iff.1 at_).1
    rw [List.length_append, List.length_singleton] at inside
    omega

/-- A controller agrees with what it has set going, once its outbox has been carried out. -/
structure Agrees (a : Activity) (c : Controller) : Prop where
  streams : StreamsAgree (a.carryOut c) c
  watch : WatchAgrees (a.carryOut c) c

namespace Agrees

variable {a : Activity} {c : Controller}

open Controller

theorem past_closeStream (h : Agrees a c) :
    ∀ n ∈ (a.carryOut c.closeStream).streams, n < c.closeStream.stream := by
  obtain ⟨open?, e⟩ := a.carryOut_closeStream c
  rw [e, closeStream_eq]
  exact fun n asked => Nat.lt_succ_of_le (h.streams.bounded n asked)

theorem closeStream (h : Agrees a c) : Agrees a c.closeStream where
  streams := .of_past h.past_closeStream
  watch := by
    obtain ⟨open?, e⟩ := a.carryOut_closeStream c
    rw [e, closeStream_eq]
    exact ⟨h.watch.timers, h.watch.armed, h.watch.fetches, h.watch.current⟩

theorem past_stopWatchdog (h : Agrees a c) :
    (∀ n ∈ (a.carryOut c.stopWatchdog).timers, n < c.stopWatchdog.watchdog) ∧
      ∀ f ∈ (a.carryOut c.stopWatchdog).fetches, f.watchdog < c.stopWatchdog.watchdog := by
  obtain ⟨armed?, turn, e⟩ := a.carryOut_stopWatchdog c
  rw [e, stopWatchdog_eq]
  exact ⟨fun n began => Nat.lt_succ_of_le (h.watch.timers n began),
    fun f began => Nat.lt_succ_of_le (h.watch.fetches f began)⟩

theorem stopWatchdog (h : Agrees a c) : Agrees a c.stopWatchdog where
  streams := by
    obtain ⟨armed?, turn, e⟩ := a.carryOut_stopWatchdog c
    rw [e, stopWatchdog_eq]
    exact ⟨h.streams.bounded, h.streams.opened, h.streams.asked⟩
  watch := .of_past h.past_stopWatchdog.1 h.past_stopWatchdog.2

theorem openStream (h : Agrees a c) (command : RunCommand) (request : StreamRequest) :
    Agrees a (c.openStream command request) := by
  have past := h.past_closeStream
  have closed := h.closeStream.watch
  have shut : c.closeStream.streaming = false := by rw [closeStream_eq]
  rw [Controller.openStream]
  generalize c.closeStream = d at past closed shut
  have e : a.carryOut ({ d with awaiting := some command }.emit (.openStream d.stream request)) =
      { a.carryOut d with streams := (a.carryOut d).streams ++ [d.stream] } :=
    a.carryOut_emit _ _
  refine ⟨?_, ?_⟩
  · rw [e]
    exact {
      bounded := fun n asked => by
        rcases List.mem_append.1 asked with before | here
        · exact Nat.le_of_lt (past n before)
        · exact Nat.le_of_eq (List.mem_singleton.1 here)
      opened := fun streaming => absurd (shut.symm.trans streaming) (by decide)
      -- All earlier numbers are smaller, so this one stands at the end only.
      asked := fun _ i at_ => by
        rw [place_of_new past at_, List.length_append, List.length_singleton] }
  · rw [e]
    exact ⟨closed.timers, closed.armed, closed.fetches, closed.current⟩

theorem armWatchdog (h : Agrees a c) : Agrees a c.armWatchdog := by
  obtain ⟨timers, fetches⟩ := h.past_stopWatchdog
  have streams := h.stopWatchdog.streams
  rw [Controller.armWatchdog]
  generalize c.stopWatchdog = d at timers fetches streams
  have e : a.carryOut ({ d with armed := true }.emit (.armTimer d.watchdog)) =
      { a.carryOut d with
        timers := (a.carryOut d).timers ++ [d.watchdog]
        armed? := some (a.carryOut d).timers.length
        turn := (a.carryOut d).turn + 1 } :=
    a.carryOut_emit _ _
  refine ⟨?_, ?_⟩
  · rw [e]
    exact ⟨streams.bounded, streams.opened, streams.asked⟩
  · rw [e]
    exact {
      timers := fun n began => by
        rcases List.mem_append.1 began with before | here
        · exact Nat.le_of_lt (timers n before)
        · exact Nat.le_of_eq (List.mem_singleton.1 here)
      armed := fun _ i at_ => by rw [place_of_new timers at_]
      fetches := fun f began => Nat.le_of_lt (fetches f began)
      current := fun f began same => absurd (fetches f began) (Nat.not_lt_of_ge (Nat.le_of_eq same.symm)) }

theorem of_sent (h : Agrees a c) (sent : c.outbox = []) :
    StreamsAgree a c ∧ WatchAgrees a c := by
  have e : a.carryOut c = a := by rw [Activity.carryOut, sent]; rfl
  obtain ⟨streams, watch⟩ := h
  rw [e] at streams watch
  exact ⟨streams, watch⟩

theorem of_eq {c' : Controller} (h : Agrees a c) (outbox : a.carryOut c' = a.carryOut c)
    (stream : c'.stream = c.stream) (streaming : c'.streaming = c.streaming)
    (asked : Operation.awaitsStream c' = true → Operation.awaitsStream c = true)
    (watchdog : c'.watchdog = c.watchdog) (armed : c'.armed = c.armed)
    (id : ∀ r, c.state.id = some r → c'.state.id = some r) : Agrees a c' where
  streams := by
    rw [outbox]
    refine ⟨?_, ?_, ?_⟩
    · rw [stream]; exact h.streams.bounded
    · rw [stream, streaming]; exact h.streams.opened
    · rw [stream]; exact fun asks => h.streams.asked (asked asks)
  watch := by
    rw [outbox]
    refine ⟨?_, ?_, ?_, ?_⟩
    · rw [watchdog]; exact h.watch.timers
    · rw [watchdog, armed]; exact h.watch.armed
    · rw [watchdog]; exact h.watch.fetches
    · rw [watchdog, armed]
      intro f began same
      obtain ⟨present, run, turn⟩ := h.watch.current f began same
      exact ⟨present, id f.run run, turn⟩

theorem publish (h : Agrees a c) : Agrees a c.publish := by
  refine h.of_eq (a.carryOut_publish c) ?_ ?_ ?_ ?_ ?_ ?_
  all_goals rw [publish_eq]
  · exact id
  · exact fun _ known => known

theorem reply (h : Agrees a c) (result : Except ClientFailure Unit) :
    Agrees a (c.reply result) :=
  publish (h.of_eq (a.carryOut_emit _ _) rfl rfl nofun rfl rfl fun _ known => known)

theorem settle (h : Agrees a c) {x : RunState × Transition} (advances : c.state.Advances x) :
    Agrees a (c.settle x) := by
  have changed : Agrees a { c with state := x.1 } := h.of_eq rfl rfl rfl id rfl rfl advances.id
  have shut : Agrees a (if x.2.closeStream then ({ c with state := x.1 } : Controller).closeStream
      else { c with state := x.1 }) := by
    split
    · exact changed.closeStream
    · exact changed
  have ended {d : Controller} (h : Agrees a d) :
      Agrees a (if x.2.changed && x.1.isTerminal then d.closeStream.stopWatchdog else d) := by
    split
    · exact h.closeStream.stopWatchdog
    · exact h
  exact ended shut

/-- A stopped watchdog leaves nothing that would bind the state. -/
theorem restart (h : Agrees a c) (s : RunState) :
    Agrees a { c.stopWatchdog with state := s } where
  streams :=
    have kept := h.stopWatchdog.streams
    ⟨kept.bounded, kept.opened, kept.asked⟩
  watch := .of_past h.past_stopWatchdog.1 h.past_stopWatchdog.2

theorem accept (h : Agrees a c) (sent : c.outbox = []) (asks : Operation.awaitsStream c = true)
    (streaming : Bool) (lastFrame : Nat) : Agrees a.accept { c with streaming, lastFrame } := by
  obtain ⟨streams, watch⟩ := h.of_sent sent
  -- The stream that is open from now on is the last that was asked for.
  have e : a.accept.carryOut { c with streaming, lastFrame } = a.accept := by
    rw [Activity.carryOut, sent]; rfl
  refine ⟨?_, ?_⟩
  · rw [e]
    exact {
      bounded := streams.bounded
      opened := fun _ i at_ => by
        rw [Activity.accept, ← streams.asked asks i at_, Nat.add_sub_cancel]
      asked := streams.asked }
  · rw [e]
    exact ⟨watch.timers, watch.armed, watch.fetches, watch.current⟩

/-! ### Steps -/

theorem command (h : Agrees a c) (cmd : Command) : Agrees a (c.command cmd) := by
  cases cmd with
  | start workflow inputs =>
    simp only [Controller.command, start]
    split
    · exact h.reply _
    · split
      · exact h.reply _
      · exact (h.restart _).openStream _ _
  | pause =>
    simp only [Controller.command, pause]
    split
    · exact h.reply _
    · split
      · exact h.reply _
      · exact h.of_eq (a.carryOut_emit _ _) rfl rfl (absurd · Bool.false_ne_true) rfl rfl
          fun _ known => known
  | resume =>
    simp only [Controller.command, resume]
    split
    · exact h.openStream _ _
    · exact h.reply _
  | cancel =>
    simp only [Controller.command, cancel]
    split
    · exact h.reply _
    · split
      · exact (h.settle c.state.advances_cancel).reply _
      · exact h.of_eq (a.carryOut_emit _ _) rfl rfl (absurd · Bool.false_ne_true) rfl rfl
          fun _ known => known

theorem opened_ok (h : Agrees a c) (sent : c.outbox = [])
    (asks : Operation.awaitsStream c = true) (now : Nat) :
    Agrees a.accept (c.opened now (.ok ())) := by
  have installed := h.accept sent asks true now
  unfold opened
  split
  · exact installed.armWatchdog.reply _
  · rename_i e; cases e
  · exact (installed.settle (RunState.advances_markResumed _)).armWatchdog.reply _
  · rename_i e; cases e
  · exact h.accept sent asks c.streaming c.lastFrame

theorem opened_error (h : Agrees a c) (now : Nat) (failure : StreamFailure) :
    Agrees a (c.opened now (.error failure)) := by
  unfold opened
  split
  · rename_i e; cases e
  · refine reply ?_ _
    exact h.of_eq rfl rfl rfl id rfl rfl fun _ known => known
  · rename_i e; cases e
  · exact h.reply _
  · exact h

theorem acknowledged (h : Agrees a c) (result : Except ClientFailure Unit) :
    Agrees a (c.acknowledged result) := by
  unfold Controller.acknowledged
  split
  · exact (h.settle (c.state.advances_applyEvent _)).reply _
  · exact (h.settle (c.state.advances_applyEvent _)).reply _
  · exact h.reply _
  · exact h.reply _
  · exact h

theorem failUnconfirmed (h : Agrees a c) (message : String) :
    Agrees a (c.failUnconfirmed message) := by
  unfold Controller.failUnconfirmed
  split
  · exact h
  · exact h.stopWatchdog.settle (by rw [stopWatchdog_eq]; exact c.state.advances_fail message)

theorem signal (h : Agrees a c) (now : Nat) (s : StreamSignal) :
    Agrees a (c.signal now s) := by
  cases s with
  | frame f =>
    have noted : Agrees a { c with lastFrame := now } :=
      h.of_eq rfl rfl rfl id rfl rfl fun _ known => known
    simp only [Controller.signal]
    split
    · exact noted.settle (c.state.advances_applyEvent _)
    · exact noted
  | closed => exact h.closeStream.failUnconfirmed _
  | failed failure => exact h.closeStream.failUnconfirmed _

theorem tick (h : Agrees a c) (armed : c.armed = true) (now : Nat) : Agrees a (c.tick now) := by
  unfold Controller.tick
  split
  · exact h.stopWatchdog
  · split
    · exact h
    · split
      · exact h
      · rename_i run known
        have e : a.carryOut (({ c with fetching := true }).emit (.fetch c.watchdog run)) =
            { a.carryOut c with
              fetches := (a.carryOut c).fetches ++ [⟨c.watchdog, run, (a.carryOut c).turn⟩] } :=
          a.carryOut_emit _ _
        obtain ⟨streams, watch⟩ := h
        refine ⟨?_, ?_⟩
        · rw [e]
          exact ⟨streams.bounded, streams.opened, streams.asked⟩
        · rw [e]
          exact {
            timers := watch.timers
            armed := watch.armed
            fetches := fun f began => by
              rcases List.mem_append.1 began with before | here
              · exact watch.fetches f before
              · rw [List.mem_singleton.1 here]; exact Nat.le_refl _
            current := fun f began same => by
              rcases List.mem_append.1 began with before | here
              · exact watch.current f before same
              · rw [List.mem_singleton.1 here]; exact ⟨armed, known, rfl⟩ }

theorem polled (h : Agrees a c) (result : Except PollFailure RunSnapshot) :
    Agrees a (c.polled result) := by
  have taken : Agrees a { c with fetching := false } :=
    h.of_eq rfl rfl rfl id rfl rfl fun _ known => known
  unfold Controller.polled
  split
  · exact taken.settle (c.state.advances_applySnapshot _)
  · exact taken.stopWatchdog.settle (by rw [stopWatchdog_eq]; exact c.state.advances_fail _)
  · exact taken

theorem message (h : Agrees a c) (now : Nat) (m : Message) : Agrees a (c.message now m) := by
  unfold Controller.message
  split
  · exact h
  · rename_i concerned
    refine publish ?_
    cases m with
    | signal stream s => exact h.signal now s
    | tick watchdog =>
      simp only [concerns, Bool.and_eq_true, beq_iff_eq, Bool.not_eq_false] at concerned
      exact h.tick concerned.2 now
    | polled watchdog result => exact h.polled result

theorem shutDown (h : Agrees a c) : Agrees a c.shutDown :=
  h.closeStream.stopWatchdog.publish.of_eq rfl rfl rfl id rfl rfl fun _ known => known

theorem step (h : Agrees a c) (now : Nat) {input : Input}
    (other : input ≠ .opened (.ok ())) : Agrees a (c.step now input) := by
  unfold Controller.step
  split
  · exact h
  · split
    · exact h.command _
    · exact h.message now _
    · exact h.shutDown
    · rename_i result _
      cases result with
      | ok => exact absurd rfl other
      | error failure => exact h.opened_error now failure
    · exact h.acknowledged _
    · exact h

theorem step_opened_ok (h : Agrees a c) (sent : c.outbox = [])
    (asks : Operation.awaitsStream c = true) (now : Nat) :
    Agrees a.accept (c.step now (.opened (.ok ()))) := by
  unfold Controller.step
  split
  · exact h.accept sent asks c.streaming c.lastFrame
  · cases awaiting : c.awaiting with
    | none => rw [Operation.awaitsStream, awaiting] at asks; cases asks
    | some command => exact h.opened_ok sent asks now

theorem expects (h : Agrees a c) (sent : c.outbox = []) {l : Letter} (genuine : a.Genuine l) :
    Expects c (.message l.message) := by
  cases message : l.message with
  | signal | tick => trivial
  | polled n result =>
    intro present
    rw [Activity.Genuine, message] at genuine
    obtain ⟨f, began, number⟩ := genuine
    obtain ⟨armed, id, -⟩ := (h.of_sent sent).2.current f (List.mem_of_getElem? began)
      (number.trans present)
    exact ⟨armed, by rw [id]; rfl⟩

end Agrees

end RunWatch
