/-!
# Phases of a run

`RunPhase.Moves` is the relation of a phase to the phases that may directly follow it.
-/

namespace RunWatch

/-- Where a run stands. A run is pending before the server has confirmed it. -/
inductive RunPhase where
  | pending
  | running
  | paused
  | succeeded
  | failed
  | cancelled
  deriving DecidableEq, Repr

namespace RunPhase

def isTerminal : RunPhase → Bool
  | .succeeded | .failed | .cancelled => true
  | _ => false

def text : RunPhase → String
  | .pending => "pending"
  | .running => "running"
  | .paused => "paused"
  | .succeeded => "succeeded"
  | .failed => "failed"
  | .cancelled => "cancelled"

def ofText? (s : String) : Option RunPhase :=
  [pending, running, paused, succeeded, failed, cancelled].find? (·.text = s)

/-- A run that enters this phase needs its stream no longer. -/
def endsStream (p : RunPhase) : Bool :=
  p = .paused || p.isTerminal

/-- The moves from a phase to another one. -/
inductive Moves : RunPhase → RunPhase → Prop where
  | begin : Moves .pending .running
  | pause : Moves .running .paused
  | resume : Moves .paused .running
  | finish {p q : RunPhase} : p.isTerminal = false → q.isTerminal = true → Moves p q

theorem ofText?_text (p : RunPhase) : ofText? p.text = some p := by
  cases p <;> decide

end RunPhase

/-! ### Steps -/

inductive StepStatus where
  | running
  | completed
  | failed
  deriving DecidableEq, Repr

namespace StepStatus

def text : StepStatus → String
  | .running => "running"
  | .completed => "completed"
  | .failed => "failed"

/-- The status as a heading. -/
def label : StepStatus → String
  | .running => "Running"
  | .completed => "Completed"
  | .failed => "Failed"

def ofText? (s : String) : Option StepStatus :=
  [running, completed, failed].find? (·.text = s)

theorem ofText?_text (s : StepStatus) : ofText? s.text = some s := by
  cases s <;> decide

end StepStatus

/-- How the record of a step came to be. -/
inductive StepOrigin where
  /-- The step was seen to start. -/
  | live
  /-- The step was first seen to complete. -/
  | replayed
  /-- The step was first named by a progress, an error or a snapshot. -/
  | inferred
  deriving DecidableEq, Repr

namespace StepOrigin

def text : StepOrigin → String
  | .live => "live"
  | .replayed => "replayed"
  | .inferred => "inferred"

/-- The origin as a heading. -/
def label : StepOrigin → String
  | .live => "Live"
  | .replayed => "Replayed"
  | .inferred => "Inferred"

def ofText? (s : String) : Option StepOrigin :=
  [live, replayed, inferred].find? (·.text = s)

theorem ofText?_text (o : StepOrigin) : ofText? o.text = some o := by
  cases o <;> decide

end StepOrigin

end RunWatch
