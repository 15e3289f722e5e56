import RunWatch.Clock.Ticker
import RunWatch.Control.Traffic

/-!
# Timetables

A controller in operation whose timers go by the clock and whose mail arrives in order. A timer
looks at the clock when its task gets to run, and sends a tick if one is due. While the controller
waits for the answer to a request it takes no letter, and a tick may grow old in the mail.
-/

namespace RunWatch

def Call.fetch? : Call → Option RunId
  | .fetch run => some run
  | _ => none

/-- A letter in the mail. -/
structure Stamped where
  letter : Letter
  /-- When the tick was due. Any other letter is due when it is sent. -/
  due : Nat
  /-- How long requests had been out by the time it was sent. -/
  engaged : Nat

/-- A fetch that has begun. -/
structure Poll where
  run : RunId
  /-- The place of the timer that was armed. -/
  timer? : Option Nat
  /-- When the tick was due that brought it about. -/
  due : Nat
  begun : Nat
  /-- How long requests were out while the tick was in the mail. -/
  kept : Nat

structure Timetable where
  operation : Operation
  /-- The timers by their places. -/
  tickers : List Ticker := []
  queue : List Stamped := []
  /-- How long requests have been out. -/
  engaged : Nat := 0
  /-- The fetches, the oldest first. -/
  polls : List Poll := []

namespace Timetable

/-- An event takes place. What brings it about was due at a time, and requests had been out for so
long when it was sent. -/
def proceed (e : Operation.Event) (due engaged : Nat) (t : Timetable) : Timetable :=
  let o := t.operation.step e
  let started := o.activity.timers.drop t.tickers.length
  let sent := o.mail.drop t.queue.length
  let runs := (t.operation.calls e).filterMap Call.fetch?
  { t with
    operation := o
    tickers := t.tickers ++ started.map fun _ => { period := o.controller.times.pollInterval }
    queue := t.queue ++ sent.map fun letter => { letter, due, engaged := t.engaged }
    polls := t.polls ++ runs.map fun run =>
      { run
        timer? := t.operation.activity.armed?
        due
        begun := t.operation.now
        kept := t.engaged - engaged } }

/-- The task of a timer runs. At first it starts the timer, later it sends a tick if one is due. -/
def look (place : Nat) (t : Timetable) : Timetable :=
  match t.tickers[place]? with
  | none => t
  | some ticker =>
    match ticker.due? with
    | none => { t with tickers := t.tickers.set place (ticker.start t.operation.now) }
    | some due =>
      if due ≤ t.operation.now then
        let fired := ticker.fire t.operation.now due
        { t with tickers := t.tickers.set place fired }.proceed (.tick place) due t.engaged
      else t

/-- The oldest letter arrives, unless the controller waits for an answer. -/
def receive (t : Timetable) : Timetable :=
  match t.operation.controller.awaiting, t.queue with
  | none, x :: queue => { t with queue }.proceed (.deliver 0) x.due x.engaged
  | _, _ => t

/-- Time passes. -/
def wait (duration : Nat) (t : Timetable) : Timetable :=
  { t with
    operation := t.operation.step (.wait duration)
    engaged := t.engaged + if t.operation.controller.awaiting.isSome then duration else 0 }

/-- Letters are delivered in order, wherever an event would take them from. -/
def step (t : Timetable) : Operation.Event → Timetable
  | .tick place => t.look place
  | .deliver _ => t.receive
  | .wait duration => t.wait duration
  | e => t.proceed e t.operation.now t.engaged

/-- A fresh controller after some events. -/
def after (times : WatchTimes) (events : List Operation.Event) : Timetable :=
  events.foldl step { operation := { controller := { times } } }

/-- The event makes nothing late. Time may pass while the controller has no letter that it could
take, and no longer than until the armed timer is due. -/
def isTimely (t : Timetable) : Operation.Event → Bool
  | .wait duration =>
    (t.queue.isEmpty || t.operation.controller.awaiting.isSome) &&
      ((t.operation.activity.armed?.bind fun place => t.tickers[place]?).all fun ticker =>
        ticker.due?.any (t.operation.now + duration ≤ ·))
  | _ => true

def isPrompt (t : Timetable) : List Operation.Event → Bool
  | [] => true
  | e :: events => t.isTimely e && (t.step e).isPrompt events

/-- The armed timer goes on time, and letters are taken as soon as the controller is free. -/
def Prompt (times : WatchTimes) (events : List Operation.Event) : Prop :=
  isPrompt { operation := { controller := { times } } } events = true

instance (times : WatchTimes) (events : List Operation.Event) : Decidable (Prompt times events) :=
  inferInstanceAs (Decidable (_ = true))

end Timetable

end RunWatch
