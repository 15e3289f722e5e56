import RunWatch.Terminal.Report

/-!
# Watching

A watcher prints the views of a run as they come. Only the latest view is kept for it: of several
that come between two looks it sees the last one.
-/

namespace RunWatch.Terminal

/-- The latest view, with the number of views so far. -/
structure Latest where
  view : RunView
  version : Nat := 0
  deriving DecidableEq

namespace Latest

def publish (l : Latest) (view : RunView) : Latest :=
  ⟨view, l.version + 1⟩

/-- Takes the views among the effects of a controller. -/
def take (l : Latest) (effects : List Effect) : Latest :=
  effects.foldl (fun l e => match e with
    | .publish view => l.publish view
    | _ => l) l

end Latest

inductive Watcher where
  /-- It has not looked yet. -/
  | opening
  /-- It waits for a view newer than the one it saw last. -/
  | waiting (seen : Nat)
  /-- It has seen the run end. -/
  | ended
  deriving DecidableEq, Repr

namespace Watcher

/-- A look at the latest view: the line that it prints. Nothing while there is nothing new. The
first look never ends the watching. -/
def look? (w : Watcher) (l : Latest) : Option (Watcher × String) :=
  match w with
  | .opening => some (.waiting l.version, viewLine l.view)
  | .waiting seen =>
    if l.version = seen then none
    else some (if l.view.state.isTerminal then .ended else .waiting l.version, viewLine l.view)
  | .ended => none

/-- A look, if there is anything to see. -/
def look (w : Watcher) (l : Latest) : Watcher × List String :=
  match w.look? l with
  | some (w, line) => (w, [line])
  | none => (w, [])

end Watcher

/-- The lines for the steps of a run that is over. -/
def finalLines (s : RunState) : List String :=
  s.steps.map stepLine

/-- The exit status of a watch. -/
def watchStatus (s : RunState) : Nat :=
  if s.phase = .succeeded then 0 else 1

end RunWatch.Terminal
