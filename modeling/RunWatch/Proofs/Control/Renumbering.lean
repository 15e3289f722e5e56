import RunWatch.Control.Traffic
import RunWatch.Proofs.Control.Coherence

/-!
# Renumbering

Two controllers that differ in no more than the numbers of their streams and watchdogs, in what their
clocks show, and in what they have shown last, take the same inputs in the same way: `Twin.step`. A
controller carries nothing else from one run to the next.
-/

namespace RunWatch

/-- By how much the numbers and the clock of one controller are ahead of those of another. -/
structure Lead where
  streams : Nat
  watchdogs : Nat
  clock : Int

variable {d : Lead}

/-! ### Effects -/

namespace Effect

def renumber (d : Lead) : Effect → Effect
  | .openStream stream request => .openStream (stream + d.streams) request
  | .cancelStream stream => .cancelStream (stream + d.streams)
  | .armTimer watchdog => .armTimer (watchdog + d.watchdogs)
  | .stopTimer watchdog => .stopTimer (watchdog + d.watchdogs)
  | .fetch watchdog run => .fetch (watchdog + d.watchdogs) run
  | .abortFetch watchdog => .abortFetch (watchdog + d.watchdogs)
  | .send command run => .send command run
  | .reply result => .reply result
  | .publish view => .publish view

/-- The effect is more than a new view. -/
def counts : Effect → Bool
  | .publish _ => false
  | _ => true

/-- Two outboxes with the same effects, views aside. -/
def Match (d : Lead) (xs ys : List Effect) : Prop :=
  xs.filter counts = (ys.filter counts).map (renumber d)

theorem Match.append {xs ys xs' ys' : List Effect} (h : Match d xs ys) (h' : Match d xs' ys') :
    Match d (xs ++ xs') (ys ++ ys') := by
  rw [Match, List.filter_append, List.filter_append, List.map_append, h, h']

theorem match_renumber (d : Lead) (e : Effect) : Match d [e.renumber d] [e] := by
  cases e <;> rfl

/-- What is read off the effects one by one, and not off the views, is the same up to the numbers. -/
theorem Match.filterMap {α : Type} {xs ys : List Effect} (h : Match d xs ys)
    {f : Effect → Option α} {shift : α → α} (silent : ∀ view, f (.publish view) = none)
    (shifts : ∀ e, f (e.renumber d) = (f e).map shift) :
    xs.filterMap f = (ys.filterMap f).map shift := by
  have counted (es : List Effect) : (es.filter counts).filterMap f = es.filterMap f := by
    rw [List.filterMap_filter]
    congr 1
    funext e
    cases e with
    | publish view => exact (silent view).symm
    | _ => rfl
  rw [← counted xs, h, List.filterMap_map, ← counted ys, List.map_filterMap]
  congr 1
  funext e
  exact shifts e

end Effect

open Effect

def Message.renumber (d : Lead) : Message → Message
  | .signal stream s => .signal (stream + d.streams) s
  | .tick watchdog => .tick (watchdog + d.watchdogs)
  | .polled watchdog result => .polled (watchdog + d.watchdogs) result

namespace Controller

def Input.renumber (d : Lead) : Input → Input
  | .message m => .message (m.renumber d)
  | input => input

/-- The controllers agree in all that bears on what they do. -/
structure Twin (d : Lead) (a b : Controller) : Prop where
  times : a.times = b.times
  state : a.state = b.state
  streaming : a.streaming = b.streaming
  stream : a.stream = b.stream + d.streams
  armed : a.armed = b.armed
  watchdog : a.watchdog = b.watchdog + d.watchdogs
  fetching : a.fetching = b.fetching
  awaiting : a.awaiting = b.awaiting
  closed : a.closed = b.closed
  outbox : Match d a.outbox b.outbox
  /-- An open stream has been silent for the same time. -/
  lastFrame : b.streaming = true → (a.lastFrame : Int) = b.lastFrame + d.clock

namespace Twin

variable {a b : Controller}

theorem canStart (h : Twin d a b) : a.canStart = b.canStart := by
  rw [Controller.canStart, Controller.canStart, h.state, h.streaming]

theorem present (h : Twin d a b) : a.present = b.present := by
  simp only [Controller.present, h.canStart, h.state, h.streaming, h.armed]

/-! ### Operations -/

theorem emit (h : Twin d a b) (e : Effect) : Twin d (a.emit (e.renumber d)) (b.emit e) :=
  { h with outbox := h.outbox.append (match_renumber d e) }

theorem withState (h : Twin d a b) (s : RunState) :
    Twin d { a with state := s } { b with state := s } :=
  { h with state := rfl }

theorem withAwaiting (h : Twin d a b) (awaiting : Option RunCommand) :
    Twin d { a with awaiting } { b with awaiting } :=
  { h with awaiting := rfl }

theorem publish (h : Twin d a b) : Twin d a.publish b.publish := by
  have unseen (c : Controller) : (if c.view = c.present then [] else [Effect.publish c.present]).filter
      counts = [] := by
    split <;> rfl
  have shown : Match d a.publish.outbox b.publish.outbox := by
    rw [publish_eq, publish_eq]
    refine h.outbox.append ?_
    rw [Match, unseen, unseen]
    rfl
  rw [publish_eq, publish_eq] at shown ⊢
  exact { h with outbox := shown }

theorem reply (h : Twin d a b) (result : Except ClientFailure Unit) :
    Twin d (a.reply result) (b.reply result) :=
  ((h.withAwaiting none).emit (.reply result)).publish

theorem closeStream (h : Twin d a b) : Twin d a.closeStream b.closeStream := by
  have cut : Twin d (if a.streaming then a.emit (.cancelStream a.stream) else a)
      (if b.streaming then b.emit (.cancelStream b.stream) else b) := by
    rw [h.streaming, h.stream]
    split
    · exact h.emit (.cancelStream b.stream)
    · exact h
  exact { cut with
    streaming := rfl
    stream := by
      rw [closeStream_eq, closeStream_eq]
      show a.stream + 1 = b.stream + 1 + d.streams
      rw [h.stream]
      omega
    lastFrame := nofun }

theorem stopWatchdog (h : Twin d a b) : Twin d a.stopWatchdog b.stopWatchdog := by
  have stopped : Twin d (if a.armed then a.emit (.stopTimer a.watchdog) else a)
      (if b.armed then b.emit (.stopTimer b.watchdog) else b) := by
    rw [h.armed, h.watchdog]
    split
    · exact h.emit (.stopTimer b.watchdog)
    · exact h
  have aborted {a b : Controller} (h : Twin d a b) :
      Twin d (if a.fetching then a.emit (.abortFetch a.watchdog) else a)
        (if b.fetching then b.emit (.abortFetch b.watchdog) else b) := by
    rw [h.fetching, h.watchdog]
    split
    · exact h.emit (.abortFetch b.watchdog)
    · exact h
  have both := aborted stopped
  exact { both with
    armed := rfl
    fetching := rfl
    watchdog := by
      rw [stopWatchdog_eq, stopWatchdog_eq]
      show a.watchdog + 1 = b.watchdog + 1 + d.watchdogs
      rw [h.watchdog]
      omega }

theorem armWatchdog (h : Twin d a b) : Twin d a.armWatchdog b.armWatchdog := by
  have stopped := h.stopWatchdog
  have armed : Twin d { a.stopWatchdog with armed := true } { b.stopWatchdog with armed := true } :=
    { stopped with armed := rfl }
  have sent := armed.emit (.armTimer b.stopWatchdog.watchdog)
  rw [Effect.renumber, ← stopped.watchdog] at sent
  exact sent

theorem openStream (h : Twin d a b) (command : RunCommand) (request : StreamRequest) :
    Twin d (a.openStream command request) (b.openStream command request) := by
  have closed := h.closeStream
  have sent := (closed.withAwaiting (some command)).emit (.openStream b.closeStream.stream request)
  rw [Effect.renumber, ← closed.stream] at sent
  exact sent

theorem request (h : Twin d a b) (command : RunCommand) (run : RunId) :
    Twin d (a.request command run) (b.request command run) :=
  (h.withAwaiting (some command)).emit (.send command run)

theorem settle (h : Twin d a b) (x : RunState × Transition) : Twin d (a.settle x) (b.settle x) := by
  have shut : Twin d
      (if x.2.closeStream then ({ a with state := x.1 } : Controller).closeStream
        else { a with state := x.1 })
      (if x.2.closeStream then ({ b with state := x.1 } : Controller).closeStream
        else { b with state := x.1 }) := by
    split
    · exact (h.withState x.1).closeStream
    · exact h.withState x.1
  have ended {a b : Controller} (h : Twin d a b) :
      Twin d (if x.2.changed && x.1.isTerminal then a.closeStream.stopWatchdog else a)
        (if x.2.changed && x.1.isTerminal then b.closeStream.stopWatchdog else b) := by
    split
    · exact h.closeStream.stopWatchdog
    · exact h
  exact ended shut

theorem move (h : Twin d a b) (f : RunState → RunState × Transition) :
    Twin d (a.settle (f a.state)) (b.settle (f b.state)) := by
  rw [h.state]
  exact h.settle _

/-! ### Steps -/

theorem command (h : Twin d a b) (cmd : Command) : Twin d (a.command cmd) (b.command cmd) := by
  cases cmd with
  | start workflow inputs =>
    simp only [Controller.command, start, refuse, h.canStart, h.state]
    split
    · exact h.reply _
    · split
      · exact h.reply _
      · exact (h.stopWatchdog.withState _).openStream _ _
  | pause =>
    simp only [Controller.command, pause, refuse, h.state]
    split
    · exact h.reply _
    · split
      · exact h.reply _
      · exact h.request _ _
  | resume =>
    simp only [Controller.command, resume, refuse, h.state]
    split
    · exact h.openStream _ _
    · exact h.reply _
  | cancel =>
    simp only [Controller.command, cancel, refuse, h.state, h.streaming]
    split
    · exact h.reply _
    · split
      · exact (h.settle _).reply _
      · exact h.request _ _

theorem opened (h : Twin d a b) {now now' : Nat} (clock : (now : Int) = now' + d.clock)
    (result : Except StreamFailure Unit) :
    Twin d (a.opened now result) (b.opened now' result) := by
  have installed : Twin d (a.install now) (b.install now') :=
    { h with streaming := rfl, lastFrame := fun _ => clock }
  unfold Controller.opened
  rw [h.awaiting, h.state]
  split
  · exact installed.armWatchdog.reply _
  · exact (h.withState _).reply _
  · exact (installed.settle _).armWatchdog.reply _
  · exact h.reply _
  · exact h

theorem acknowledged (h : Twin d a b) (result : Except ClientFailure Unit) :
    Twin d (a.acknowledged result) (b.acknowledged result) := by
  unfold Controller.acknowledged
  rw [h.awaiting, h.state]
  split
  · exact (h.settle _).reply _
  · exact (h.settle _).reply _
  · exact h.reply _
  · exact h.reply _
  · exact h

theorem failUnconfirmed (h : Twin d a b) (message : String) :
    Twin d (a.failUnconfirmed message) (b.failUnconfirmed message) := by
  unfold Controller.failUnconfirmed
  rw [h.state]
  split
  · exact h
  · exact h.stopWatchdog.move _

theorem signal (h : Twin d a b) {now now' : Nat} (clock : (now : Int) = now' + d.clock)
    (s : StreamSignal) : Twin d (a.signal now s) (b.signal now' s) := by
  cases s with
  | frame f =>
    have noted : Twin d { a with lastFrame := now } { b with lastFrame := now' } :=
      { h with lastFrame := fun _ => clock }
    simp only [Controller.signal]
    split
    · exact noted.move _
    · exact noted
  | closed => exact h.closeStream.failUnconfirmed _
  | failed failure => exact h.closeStream.failUnconfirmed _

/-- What counts is how long the stream has been silent, and not since when. -/
theorem healthy (h : Twin d a b) {now now' : Nat} (clock : (now : Int) = now' + d.clock) :
    a.healthy now = b.healthy now' := by
  rw [Controller.healthy, Controller.healthy, h.streaming, h.times]
  cases streaming : b.streaming with
  | false => rfl
  | true =>
    have last := h.lastFrame streaming
    have silence : now - a.lastFrame = now' - b.lastFrame := by omega
    rw [silence]

theorem tick (h : Twin d a b) {now now' : Nat} (clock : (now : Int) = now' + d.clock) :
    Twin d (a.tick now) (b.tick now') := by
  have ended : a.state.isTerminal = b.state.isTerminal := by rw [h.state]
  have covered : (a.fetching || a.healthy now) = (b.fetching || b.healthy now') := by
    rw [h.fetching, h.healthy clock]
  have id : a.state.id = b.state.id := by rw [h.state]
  unfold Controller.tick
  rw [ended, covered, id]
  split
  · exact h.stopWatchdog
  · split
    · exact h
    · split
      · exact h
      · rename_i run _
        have fetches : Twin d { a with fetching := true } { b with fetching := true } :=
          { h with fetching := rfl }
        have sent := fetches.emit (.fetch b.watchdog run)
        rw [Effect.renumber, ← h.watchdog] at sent
        exact sent

theorem polled (h : Twin d a b) (result : Except PollFailure RunSnapshot) :
    Twin d (a.polled result) (b.polled result) := by
  have taken : Twin d { a with fetching := false } { b with fetching := false } :=
    { h with fetching := rfl }
  unfold Controller.polled
  split
  · exact taken.move _
  · exact taken.stopWatchdog.move _
  · exact taken

theorem concerns (h : Twin d a b) (m : Message) : a.concerns (m.renumber d) = b.concerns m := by
  have same (m n k : Nat) : (m + k == n + k) = (m == n) := by
    rw [Bool.eq_iff_iff, beq_iff_eq, beq_iff_eq, Nat.add_right_cancel_iff]
  cases m with
  | signal n s => rw [Message.renumber, Controller.concerns, h.stream, h.streaming, same]; rfl
  | tick n => rw [Message.renumber, Controller.concerns, h.watchdog, h.armed, same]; rfl
  | polled n result => rw [Message.renumber, Controller.concerns, h.watchdog, same]; rfl

theorem message (h : Twin d a b) {now now' : Nat} (clock : (now : Int) = now' + d.clock)
    (m : Message) : Twin d (a.message now (m.renumber d)) (b.message now' m) := by
  unfold Controller.message
  rw [h.concerns]
  split
  · exact h
  · cases m with
    | signal n s => exact (h.signal clock s).publish
    | tick n => exact (h.tick clock).publish
    | polled n result => exact (h.polled result).publish

theorem shutDown (h : Twin d a b) : Twin d a.shutDown b.shutDown :=
  { h.closeStream.stopWatchdog.publish with closed := rfl }

/-- The same inputs, up to the numbers, at the same times have the same effects, up to the numbers. -/
theorem step (h : Twin d a b) {now now' : Nat} (clock : (now : Int) = now' + d.clock)
    (input : Input) : Twin d (a.step now (input.renumber d)) (b.step now' input) := by
  unfold Controller.step
  rw [h.closed, h.awaiting]
  split
  · exact h
  · cases awaiting : b.awaiting with
    | none =>
      cases input with
      | command cmd => exact h.command cmd
      | message m => exact h.message clock m
      | shutDown => exact h.shutDown
      | opened | acknowledged => exact h
    | some command =>
      cases input with
      | opened result => exact h.opened clock result
      | acknowledged result => exact h.acknowledged result
      | command | message | shutDown => exact h

end Twin

end Controller

end RunWatch
