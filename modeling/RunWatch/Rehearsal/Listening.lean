import RunWatch.Stream.Connection

/-!
# Listening step by step

A connection between a sender and a handle: what is done to it, and what its two ends and the
observer see after each step.
-/

namespace RunWatch.Rehearsal

/-- A connection, and whether the sender has let go of it. -/
structure Listening where
  connection : Connection := {}
  senderGone : Bool := false
  deriving DecidableEq

namespace Listening

inductive Step where
  | arrive (arrivals : List Arrival)
  /-- The sender ends the body and lets go. -/
  | finish
  | cancel
  /-- The handle is dropped. -/
  | release
  | join
  | rest
  deriving DecidableEq

inductive Result where
  | nothing
  /-- Whether it was this cancel that cancelled. -/
  | cancelled (first : Bool)
  /-- Whether the reader was over in time. -/
  | joined (inTime : Bool)
  deriving DecidableEq

/-- What the handle shows. -/
structure HandleView where
  cancelled : Bool
  finished : Bool
  deriving DecidableEq

structure Report where
  result : Result
  signals : List StreamSignal
  /-- None once the handle is gone. -/
  handle : Option HandleView
  /-- Whether the reader takes nothing more; none once the sender is gone. -/
  readerGone : Option Bool
  deriving DecidableEq

/-- What a step does at once. -/
def act (l : Listening) : Step → Listening × List StreamSignal × Result
  | .arrive arrivals => ({ l with connection := l.connection.receive arrivals }, [], .nothing)
  | .finish => (⟨l.connection.finish, true⟩, [], .nothing)
  | .cancel =>
    let (c, first) := l.connection.cancel
    ({ l with connection := c }, [], first.elim .nothing .cancelled)
  | .release => ({ l with connection := l.connection.release }, [], .nothing)
  | .join =>
    let (c, signals, inTime) := l.connection.join
    ({ l with connection := c }, signals, inTime.elim .nothing .joined)
  | .rest => (l, [], .nothing)

/-- What is to be seen after a step. -/
def report (l : Listening) (result : Result) (signals : List StreamSignal) : Report where
  result
  signals
  handle :=
    if l.connection.held then some ⟨l.connection.reader.cancelled, l.connection.reader.isOver⟩
    else none
  readerGone := if l.senderGone then none else some l.connection.reader.isOver

/-- Takes a step; afterwards the reader runs, if it is let. -/
def play (l : Listening) (step : Step) (settles : Bool) : Listening × Report :=
  let (l, signals, result) := l.act step
  let (c, more) := if settles then l.connection.settle else (l.connection, [])
  let l := { l with connection := c }
  (l, l.report result (signals ++ more))

end Listening

end RunWatch.Rehearsal
