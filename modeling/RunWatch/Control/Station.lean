import RunWatch.Control.Traffic
import RunWatch.Stream.Subscription

/-!
# Stations

A controller in operation together with the readers of its streams. Items arrive on a stream, its
reader makes signals of them, and the controller takes these one at a time and in order. The readers
and the controller move independently of each other. A stream that the controller gives up is
cancelled and its handle dropped.
-/

namespace RunWatch

/-- The subscription to a stream that a controller has asked for. -/
structure Feed where
  /-- The number of the stream. -/
  stream : Nat
  subscription : Subscription := {}
  /-- How many of its signals the controller has taken. -/
  taken : Nat := 0

namespace Feed

/-- The next signal for the controller. -/
def next? (f : Feed) : Option StreamSignal :=
  f.subscription.signals[f.taken]?

def drop (f : Feed) : Feed :=
  { f with subscription := (f.subscription.use .cancel).use .release }

def cancelled (f : Feed) : Bool :=
  f.subscription.connection.reader.cancelled

def ended (f : Feed) : Bool :=
  f.subscription.connection.reader.ended

/-- The reader waits or is over, and the controller has taken all its signals. -/
def Rests (f : Feed) : Prop :=
  f.subscription.connection.reader.step? = none ∧ f.next? = none

/-- What an effect of the controller means for its feeds. -/
def heed (feeds : List Feed) : Effect → List Feed
  | .openStream stream _ => feeds ++ [{ stream }]
  | .cancelStream stream => feeds.map fun f => if f.stream = stream then f.drop else f
  | _ => feeds

end Feed

structure Station where
  operation : Operation
  /-- The feeds by the places of their streams. -/
  feeds : List Feed := []
  /-- The calls that were made, the oldest first. -/
  log : List Call := []

namespace Station

inductive Event where
  /-- Signals aside, which come from the feeds. -/
  | operation (e : Operation.Event)
  | arrive (place : Nat) (item : StreamItem)
  | finish (place : Nat)
  /-- The reader of a stream moves. -/
  | read (place : Nat)
  /-- The controller takes the next signal of a stream. -/
  | take (place : Nat)

def operate (e : Operation.Event) (o : Station) : Station where
  operation := o.operation.step e
  feeds := (o.operation.effects e).foldl Feed.heed o.feeds
  log := o.log ++ o.operation.calls e

def modifyFeed (place : Nat) (f : Feed → Feed) (o : Station) : Station :=
  { o with feeds := o.feeds.modify place f }

def onSubscription (place : Nat) (f : Subscription → Subscription) (o : Station) : Station :=
  o.modifyFeed place fun feed => { feed with subscription := f feed.subscription }

/-- A signal is sent and arrives at once. -/
def hand (place : Nat) (s : StreamSignal) (o : Station) : Station :=
  (o.operate (.signal place s)).operate (.deliver o.operation.mail.length)

def step (o : Station) : Event → Station
  | .operation (.signal ..) => o
  | .operation e => o.operate e
  | .arrive place item => o.onSubscription place (Subscription.arrive item)
  | .finish place => o.onSubscription place (·.step .finish)
  | .read place => o.onSubscription place (Subscription.read [])
  | .take place =>
    match o.operation.controller.awaiting, (o.feeds[place]?).bind Feed.next? with
    | none, some s => (o.modifyFeed place fun f => { f with taken := f.taken + 1 }).hand place s
    | _, _ => o

/-- A station with a fresh controller after some events. -/
def after (times : WatchTimes) (events : List Event) : Station :=
  events.foldl step { operation := { controller := { times } } }

end Station

end RunWatch
