import RunWatch.Control.Registry
import RunWatch.Control.Traffic

/-!
# Rosters

The operations of a process by key, and a registry that tracks some of them. All handles of a
controller reach it alike. A registry is a map: its entries come in any order, and in another one
the next time.
-/

namespace RunWatch

/-! ### Handles -/

namespace Operation

/-- What a handle gives for a command, once that is answered in the course of some events. -/
def answer? (o : Operation) (cmd : Command) (more : List Event) :
    Option (Except ClientFailure Unit) :=
  if o.controller.closed then some (.error .closed)
  else (o.outcome? (.command cmd :: more)).map Prod.fst

/-- What a handle gives for a shutdown: the last state, unless the controller is closed. -/
def shutdown? (o : Operation) : Option RunState :=
  if o.controller.closed then none else some (o.step .shutDown).controller.state

/-- What a handle gives for a shutdown, or what the controller showed last if it cannot answer. -/
def lastWord (o : Operation) : RunState :=
  o.shutdown?.getD o.controller.view.state

end Operation

/-! ### Rosters -/

structure Roster where
  operations : List (RunKey × Operation) := []
  registry : Registry := {}

namespace Roster

def operation? (x : Roster) (key : RunKey) : Option Operation :=
  x.operations.lookup key

def fleet (x : Roster) : Fleet :=
  ⟨x.operations.map fun (key, o) => (key, o.controller)⟩

/-- The keys of the tracked controllers that are done. -/
def finished (x : Roster) : List RunKey :=
  x.registry.keys.filter (Registry.isFinished x.fleet)

inductive Event where
  /-- A controller is made, with a key of its own. -/
  | hire (key : RunKey) (times : WatchTimes)
  | happen (key : RunKey) (e : Operation.Event)
  | track (key : RunKey)
  | forget (key : RunKey)
  /-- The entries come in another order. -/
  | shuffle (keys : List RunKey)
  deriving DecidableEq

def step (x : Roster) : Event → Roster
  | .hire key times =>
    if (x.operation? key).isSome then x
    else { x with operations := x.operations ++ [(key, { controller := { times } })] }
  | .happen key e =>
    { x with operations := x.operations.map fun (k, o) => (k, if k = key then o.step e else o) }
  | .track key =>
    if (x.operation? key).isSome then { x with registry := x.registry.insert key } else x
  | .forget key => { x with registry := x.registry.remove key }
  | .shuffle keys => if keys.Perm x.registry.keys then { x with registry := ⟨keys⟩ } else x

def run (x : Roster) (events : List Event) : Roster :=
  events.foldl step x

/-- A process after some events. -/
def after (events : List Event) : Roster :=
  run {} events

/-! ### Retiring -/

/-- Takes an entry out of the registry and shuts its controller down. -/
def dismiss (key : RunKey) (x : Roster) : Roster × Option RunState :=
  if x.registry.tracks key then
    (x.run [.forget key, .happen key .shutDown], (x.operation? key).map Operation.lastWord)
  else (x, none)

def dismissAll : List RunKey → Roster → Roster × List RunState
  | [], x => (x, [])
  | key :: keys, x =>
    let (x, state?) := x.dismiss key
    let (x, states) := dismissAll keys x
    (x, state?.toList ++ states)

/-- Dismisses the entries that are finished at the outset, one after the other. -/
def retire (x : Roster) : Roster × List RunState :=
  dismissAll x.finished x

end Roster

end RunWatch
