import RunWatch.Control.Traffic

/-!
# Handles of a controller

A controller holds one handle of each kind at most, and of each kind it is the one that it got last.
`Custody` counts the streams, the timers and the fetches as they come and notes at which place in
that order one has been given up. `Audit` keeps this account of an operation. A fetch gives its
result once and is over then.
-/

namespace RunWatch

structure Custody where
  /-- How many streams have been opened. -/
  opened : Nat := 0
  cancelled : List Nat := []
  /-- How many timers have been started. -/
  armed : Nat := 0
  stopped : List Nat := []
  /-- How many fetches have begun. -/
  begun : Nat := 0
  aborted : List Nat := []
  /-- The fetches that have given their results. -/
  reported : List Nat := []
  deriving DecidableEq, Repr

namespace Custody

/-- The place of the last of so many, if there are any. -/
def last : Nat → List Nat
  | 0 => []
  | n + 1 => [n]

/-- An effect is carried out. What is given up is what came last. -/
def enter (k : Custody) : Effect → Custody
  | .cancelStream _ => { k with cancelled := k.cancelled ++ last k.opened }
  | .armTimer _ => { k with armed := k.armed + 1 }
  | .stopTimer _ => { k with stopped := k.stopped ++ last k.armed }
  | .fetch .. => { k with begun := k.begun + 1 }
  | .abortFetch _ => { k with aborted := k.aborted ++ last k.begun }
  | .openStream .. | .send .. | .reply _ | .publish _ => k

def enterAll (k : Custody) (effects : List Effect) : Custody :=
  effects.foldl enter k

/-! ### What is live -/

/-- The stream has been opened and not cancelled. -/
def StreamLive (k : Custody) (i : Nat) : Prop :=
  i < k.opened ∧ i ∉ k.cancelled

/-- The timer has been started and not stopped. -/
def TimerLive (k : Custody) (i : Nat) : Prop :=
  i < k.armed ∧ i ∉ k.stopped

/-- The fetch has begun, has not been aborted and has not given its result. -/
def FetchLive (k : Custody) (i : Nat) : Prop :=
  i < k.begun ∧ i ∉ k.aborted ∧ i ∉ k.reported

end Custody

/-- An operation and what became of the handles of its controller. -/
structure Audit where
  operation : Operation
  custody : Custody := {}

namespace Audit

/-- What an event brings about by itself: an accepted request opens a stream, and a fetch gives its
result. -/
def note (h : Audit) : Operation.Event → Custody
  | .streamAnswer (.ok ()) =>
    if Operation.awaitsStream h.operation.controller then
      { h.custody with opened := h.custody.opened + 1 }
    else h.custody
  | .fetched place _ =>
    if place < h.custody.begun then
      { h.custody with reported := h.custody.reported ++ [place] }
    else h.custody
  | _ => h.custody

/-- A fetch would give a result once more. -/
def repeats (h : Audit) : Operation.Event → Bool
  | .fetched place _ => h.custody.reported.contains place
  | _ => false

/-- An event, unless it cannot happen. -/
def step (h : Audit) (e : Operation.Event) : Audit :=
  if h.repeats e then h
  else
    { operation := h.operation.step e
      custody := (h.note e).enterAll (h.operation.effects e) }

/-- A fresh controller after some events. -/
def after (times : WatchTimes) (events : List Operation.Event) : Audit :=
  events.foldl step { operation := { controller := { times } } }

end Audit

end RunWatch
