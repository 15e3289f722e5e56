import RunWatch.Stream.Reader

/-!
# Connections

A reader and the handle on it. Letting go of the handle cancels the reading.
-/

namespace RunWatch

structure Connection where
  reader : Reader := {}
  patience : Reader.Patience := none
  /-- The handle still exists. -/
  held : Bool := true
  deriving DecidableEq

namespace Connection

/-- Several items arrive. -/
def receive (c : Connection) (arrivals : List Arrival) : Connection :=
  { c with reader := arrivals.foldl Reader.receive c.reader }

def finish (c : Connection) : Connection :=
  { c with reader := c.reader.finish }

/-- Cancels through the handle and says whether it was this call that cancelled; nothing without a
handle. -/
def cancel (c : Connection) : Connection × Option Bool :=
  if c.held then ({ c with reader := c.reader.cancel }, some !c.reader.cancelled) else (c, none)

/-- Lets go of the handle. -/
def release (c : Connection) : Connection :=
  if c.held then { c with reader := c.reader.cancel, held := false } else c

/-- Lets the reader run. -/
def settle (c : Connection) : Connection × List StreamSignal :=
  let (reader, patience, signals) := c.reader.run c.patience
  ({ c with reader, patience }, signals)

/-- Nobody cancels from inside any more: neither an item on its way nor the observer. -/
def undisturbed (c : Connection) : Connection :=
  { c with
    reader.arrivals := c.reader.arrivals.map fun a => { a with cancels := false }
    patience := none }

/-- Waits for the reader to be over, without cancelling it, and lets go of the handle. Whoever waits
has the handle, so nobody else cancels meanwhile. Says whether the reader was over in time; nothing
without a handle. -/
def join (c : Connection) : Connection × List StreamSignal × Option Bool :=
  if c.held then
    let (c, signals) := c.undisturbed.settle
    (c.release, signals, some c.reader.isOver)
  else (c, [], none)

end Connection

end RunWatch
