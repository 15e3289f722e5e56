import RunWatch.Control.Registry
import RunWatch.Control.Traffic
import RunWatch.Terminal.Watch

/-!
# Vigils

A watch over a run, together with the controller that it watches. What the controller puts out goes
through one effect after the other, and the watch may look between any two of them: the answer to a
command comes before the view of its outcome.
-/

namespace RunWatch.Terminal

/-- How far a watch has come. -/
inductive Stage where
  /-- It waits for the answer to its start. -/
  | starting
  /-- The start has failed, and the watch with it. -/
  | refused (failure : ClientFailure)
  | following (w : Watcher)
  /-- It has been interrupted, and its cancel waits for the controller. -/
  | interrupted (seen : Nat)
  /-- It waits for the answer to its cancel. -/
  | cancelling (seen : Nat)
  /-- The cancel has failed, and the watch follows no longer. -/
  | givenUp
  deriving DecidableEq, Repr

/-- The answer to the command that the watch has given. -/
def Stage.answered (result : Except ClientFailure Unit) : Stage → Stage
  | .starting =>
    match result with
    | .ok () => .following .opening
    | .error failure => .refused failure
  | .cancelling seen =>
    match result with
    | .ok () => .following (.waiting seen)
    | .error _ => .givenUp
  | stage => stage

structure Vigil where
  operation : Operation
  /-- What the controller has put out and what has not gone through. -/
  pending : List Effect := []
  latest : Latest := ⟨{}, 0⟩
  stage : Stage := .starting
  /-- The views that have been printed. -/
  printed : List RunView := []

namespace Vigil

inductive Event where
  /-- Something happens to the controller without the watch. -/
  | around (e : Operation.Event)
  /-- The next effect goes through. -/
  | carry
  | look
  | interrupt
  /-- The controller takes the cancel of an interrupted watch. -/
  | cancel
  deriving DecidableEq

/-- Commands and the shutdown come from the watch alone. -/
def isAround : Operation.Event → Bool
  | .command _ | .shutDown => false
  | _ => true

def operate (e : Operation.Event) (v : Vigil) : Vigil :=
  { v with operation := v.operation.step e, pending := v.pending ++ v.operation.effects e }

/-- The controller takes nothing until all that it has put out has gone through. -/
def around (e : Operation.Event) (v : Vigil) : Vigil :=
  if isAround e ∧ (v.pending = [] ∨ v.operation.input? e = none) then v.operate e else v

def carry (v : Vigil) : Vigil :=
  match v.pending with
  | [] => v
  | e :: pending =>
    { v with
      pending
      latest := v.latest.take [e]
      stage := (e.reply?.map fun result => v.stage.answered result).getD v.stage }

def look (v : Vigil) : Vigil :=
  match v.stage with
  | .following w =>
    match w.look? v.latest with
    | some (w, _) => { v with stage := .following w, printed := v.printed ++ [v.latest.view] }
    | none => v
  | _ => v

def interrupt (v : Vigil) : Vigil :=
  match v.stage with
  | .following (.waiting seen) => { v with stage := .interrupted seen }
  | _ => v

def cancel (v : Vigil) : Vigil :=
  match v.stage with
  | .interrupted seen =>
    if v.pending = [] ∧ v.operation.controller.awaiting = none then
      { v.operate (.command .cancel) with stage := .cancelling seen }
    else v
  | _ => v

def step (v : Vigil) : Event → Vigil
  | .around e => v.around e
  | .carry => v.carry
  | .look => v.look
  | .interrupt => v.interrupt
  | .cancel => v.cancel

def run (v : Vigil) (events : List Event) : Vigil :=
  events.foldl step v

/-- A watch that has sent its start to a fresh controller. -/
def opening (times : WatchTimes) (workflow : WorkflowId) (inputs : Option Json.Value) : Vigil :=
  operate (.command (.start workflow inputs)) { operation := { controller := { times } } }

def after (times : WatchTimes) (workflow : WorkflowId) (inputs : Option Json.Value)
    (events : List Event) : Vigil :=
  (opening times workflow inputs).run events

/-- The last lines and the exit status of a watch that follows no longer. The controller is then
shut down, and gives its last state. -/
def outcome? (v : Vigil) : Option (List String × Nat) :=
  match v.stage with
  | .following .ended | .givenUp =>
    let s := v.operation.controller.lastState
    some (finalLines s, watchStatus s)
  | _ => none

end Vigil

end RunWatch.Terminal
