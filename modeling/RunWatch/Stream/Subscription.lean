import RunWatch.Stream.Connection

/-!
# Subscriptions

A connection together with the source that feeds it, those who use its handle, and the observer. The
reader moves in single steps. Between any two of them, and before the first, items may arrive and
the handle may be used; what the observer does from inside a signal comes right after the step
that signals. While the source hands something over, the handle may be used within the step.
-/

namespace RunWatch

inductive HandleUse where
  | cancel
  /-- The handle is dropped. -/
  | release
  deriving DecidableEq

/-- Those of some uses that find the handle: none behind the one that drops it. -/
def HandleUse.found : List HandleUse → List HandleUse
  | [] => []
  | .cancel :: uses => .cancel :: found uses
  | .release :: _ => [.release]

/-- What can be seen of a subscription. -/
inductive Occurrence where
  | signal (s : StreamSignal)
  /-- A call of cancel, and whether it says that it was the one that cancelled. -/
  | cancel (first : Bool)
  | release
  deriving DecidableEq

namespace Occurrence

def signal? : Occurrence → Option StreamSignal
  | .signal s => some s
  | _ => none

/-- The answer to a call of cancel. -/
def answer? : Occurrence → Option Bool
  | .cancel first => some first
  | _ => none

/-- The use of the handle. -/
def use? : Occurrence → Option HandleUse
  | .signal _ => none
  | .cancel _ => some .cancel
  | .release => some .release

/-- The reading is cancelled by a call or by the end of the handle. -/
def cancels : Occurrence → Bool
  | .signal _ => false
  | .cancel _ => true
  | .release => true

end Occurrence

def StreamSignal.frame? : StreamSignal → Option Frame
  | .frame f => some f
  | _ => none

structure Subscription where
  connection : Connection := {}
  /-- What the source has brought forth, the oldest first. -/
  items : List StreamItem := []
  /-- What has been seen, the oldest first. -/
  history : List Occurrence := []

namespace Subscription

inductive Event where
  | arrive (item : StreamItem)
  /-- The body ends. -/
  | finish
  | use (u : HandleUse)
  /-- The reader moves. What is given happens while the source hands something over. -/
  | read (meanwhile : List HandleUse)

/-- The source brings forth an item, unless the body has ended. -/
def arrive (item : StreamItem) (o : Subscription) : Subscription :=
  if o.connection.reader.ended then o
  else { o with connection := o.connection.receive [{ item }], items := o.items ++ [item] }

def use (o : Subscription) : HandleUse → Subscription
  | .cancel =>
    let (connection, first) := o.connection.cancel
    { o with connection, history := o.history ++ (first.map .cancel).toList }
  | .release =>
    if o.connection.held then
      { o with connection := o.connection.release, history := o.history ++ [.release] }
    else o

/-- The observer hears a signal. -/
def hear (signal : Option StreamSignal) (o : Subscription) : Subscription :=
  { o with history := o.history ++ (signal.map .signal).toList }

/-- The reader makes its next step, if there is one. It asks the source only between two items. -/
def read (meanwhile : List HandleUse) (o : Subscription) : Subscription :=
  match o.connection.reader.step? with
  | none => o
  | some (reader, signal) =>
    let moved := { o with connection.reader := reader }
    if o.connection.reader.stage = .ready then (meanwhile.foldl use moved).hear signal
    else moved.hear signal

def step (o : Subscription) : Event → Subscription
  | .arrive item => o.arrive item
  | .finish => { o with connection := o.connection.finish }
  | .use u => o.use u
  | .read meanwhile => o.read meanwhile

/-- A fresh subscription after some events. -/
def after (events : List Event) : Subscription :=
  events.foldl step {}

/-! ### Uses of the handle -/

/-- The uses of the handle that an event brings. Those of a read are made only if the reader asks
the source. -/
def usesOf (o : Subscription) : Event → List HandleUse
  | .arrive _ | .finish => []
  | .use u => [u]
  | .read meanwhile =>
    if o.connection.reader.stage = .ready ∧ o.connection.reader.step?.isSome then meanwhile else []

/-- The uses of the handle in the course of some events, in order. -/
def usesIn (o : Subscription) : List Event → List HandleUse
  | [] => []
  | e :: events => o.usesOf e ++ (o.step e).usesIn events

/-! ### What has been seen -/

def signals (o : Subscription) : List StreamSignal :=
  o.history.filterMap Occurrence.signal?

def frames (o : Subscription) : List Frame :=
  o.signals.filterMap StreamSignal.frame?

def answers (o : Subscription) : List Bool :=
  o.history.filterMap Occurrence.answer?

end Subscription

end RunWatch
