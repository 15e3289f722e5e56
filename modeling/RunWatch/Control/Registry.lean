import RunWatch.Control.Controller

/-!
# Registries of runs

A process has a fleet of controllers, each with a key. A registry tracks some of them, finds one by
the id of its run, and retires those that are done.
-/

namespace RunWatch

/-! ### Fleets -/

/-- Controllers by key, in the order in which they were made. -/
structure Fleet where
  controllers : List (RunKey × Controller) := []

namespace Fleet

def get? (f : Fleet) (key : RunKey) : Option Controller :=
  f.controllers.lookup key

def add (f : Fleet) (key : RunKey) (c : Controller) : Fleet :=
  ⟨f.controllers ++ [(key, c)]⟩

/-- Changes the controller with a key. -/
def modify (key : RunKey) (change : Controller → Controller) (f : Fleet) : Fleet :=
  ⟨f.controllers.map fun (k, c) => (k, if k = key then change c else c)⟩

end Fleet

namespace Controller

/-- The run is over or nobody looks after it any more. -/
def finished (c : Controller) : Bool :=
  c.view.state.isTerminal || c.closed

/-- The state that a controller ends with: its last word, or what it showed last if it is closed. -/
def lastState (c : Controller) : RunState :=
  if c.closed then c.view.state else c.shutDown.state

end Controller

/-! ### Registries -/

/-- What a registry tracks, in numbers. -/
structure RegistrySummary where
  tracked : Nat
  /-- Runs that are not over. -/
  active : Nat
  streaming : Nat
  terminal : Nat
  deriving DecidableEq, Repr

/-- The keys of the tracked controllers. -/
structure Registry where
  keys : List RunKey := []
  deriving DecidableEq, Repr

namespace Registry

def tracks (r : Registry) (key : RunKey) : Bool :=
  r.keys.contains key

/-- Tracks a controller, which may be tracked already. -/
def insert (r : Registry) (key : RunKey) : Registry :=
  if r.tracks key then r else ⟨r.keys ++ [key]⟩

def remove (r : Registry) (key : RunKey) : Registry :=
  ⟨r.keys.filter (· ≠ key)⟩

/-- The views of the tracked controllers. -/
def views (r : Registry) (f : Fleet) : List RunView :=
  r.keys.filterMap fun key => (f.get? key).map Controller.view

/-- The tracked controller whose run has an id. -/
def find? (r : Registry) (f : Fleet) (run : RunId) : Option RunKey :=
  r.keys.find? fun key => (f.get? key).any fun c => c.view.state.id == some run

def summary (r : Registry) (f : Fleet) : RegistrySummary where
  tracked := r.keys.length
  active := (r.views f).countP fun v => !v.state.isTerminal
  streaming := (r.views f).countP RunView.streaming
  terminal := (r.views f).countP fun v => v.state.isTerminal

/-- Whether a key belongs to a controller that is done. -/
def isFinished (f : Fleet) (key : RunKey) : Bool :=
  (f.get? key).any Controller.finished

/-- Shuts down the controllers that are done, forgets them, and gives their last states. -/
def retire (r : Registry) (f : Fleet) : Registry × Fleet × List RunState :=
  let done := r.keys.filter (isFinished f)
  (⟨r.keys.filter fun key => !isFinished f key⟩,
    done.foldl (fun f key => f.modify key fun c => c.step 0 .shutDown) f,
    done.filterMap fun key => (f.get? key).map Controller.lastState)

end Registry

end RunWatch
