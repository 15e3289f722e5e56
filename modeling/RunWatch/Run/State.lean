import RunWatch.Run.Event
import RunWatch.Run.Phase
import RunWatch.Run.Snapshot

/-!
# The state of a run

A run is known by its events and its snapshots. Each of them is a change of the state, together
with what it asks of the owner. A terminal phase is final, and only a resume leaves a pause.
-/

namespace RunWatch

/-- What is known of one step. -/
structure StepRecord where
  node : String
  status : StepStatus
  origin : StepOrigin
  error : Option String := none
  output : Option Json.Value := none
  deriving DecidableEq

/-- What a client knows of one run. -/
structure RunState where
  id : Option RunId := none
  workflowId : Option WorkflowId := none
  phase : RunPhase := .pending
  progress : Option Float := none
  currentStep : Option String := none
  error : Option String := none
  steps : List StepRecord := []
  deriving DecidableEq

/-- What a change asks of the owner of the state. -/
structure Transition where
  changed : Bool := false
  closeStream : Bool := false
  deriving DecidableEq, Repr

def Transition.join (a b : Transition) : Transition :=
  ⟨a.changed || b.changed, a.closeStream || b.closeStream⟩

/-- A change of a state. -/
abbrev Change := RunState → RunState × Transition

namespace Change

/-- Leaves the state alone. -/
def skip : Change := fun s => (s, {})

/-- One change after another. -/
def andThen (f g : Change) : Change := fun s =>
  let (s, t) := f s
  let (s, u) := g s
  (s, t.join u)

/-- The change that a value asks for, if there is a value. -/
def whenSome {α : Type} (a : Option α) (f : α → Change) : Change :=
  match a with
  | some a => f a
  | none => skip

end Change

namespace RunState

/-- A run that has not been started. -/
def idle : RunState := {}

/-- A run that has been asked for but not confirmed. -/
def placeholder (w : WorkflowId) : RunState := { workflowId := some w }

def step? (s : RunState) (node : String) : Option StepRecord :=
  s.steps.find? (·.node = node)

/-- The run or one of its steps has failed. -/
def hasError (s : RunState) : Bool :=
  s.error.isSome || s.steps.any (·.status = .failed)

def isTerminal (s : RunState) : Bool :=
  s.phase.isTerminal

def canStart (s : RunState) : Bool :=
  s.phase = .pending || s.phase.isTerminal

def canPause (s : RunState) : Bool :=
  s.phase = .running

def canResume (s : RunState) : Bool :=
  s.phase = .paused && s.id.isSome && s.workflowId.isSome

/-- The phase of a run that ended by itself. -/
def finishedPhase (s : RunState) : RunPhase :=
  if s.hasError then .failed else .succeeded

/-! ### Changes of one field -/

def setPhase (p : RunPhase) : Change := fun s =>
  if s.phase = p then (s, {})
  else ({ s with phase := p }, { changed := true, closeStream := p.endsStream })

/-- A run keeps the first id that it is given. -/
def adoptRunId (id : Option RunId) : Change := fun s =>
  match id, s.id with
  | some id, none => ({ s with id := some id }, { changed := true })
  | _, _ => (s, {})

def adoptWorkflowId (id : Option WorkflowId) : Change := fun s =>
  match id, s.workflowId with
  | some id, none => ({ s with workflowId := some id }, { changed := true })
  | _, _ => (s, {})

/-- Cuts a number to the range of a percentage. -/
def percent (x : Float) : Float :=
  let x := if x < 0 then 0 else x
  if 100 < x then 100 else x

def setProgress (x : Option Float) : Change := fun s =>
  match x with
  | some x =>
    if x.isFinite = false then (s, {})
    else if s.progress.any (· == percent x) then (s, {})
    else ({ s with progress := some (percent x) }, { changed := true })
  | none => (s, {})

def setError (e : String) : Change := fun s =>
  if s.error = some e then (s, {}) else ({ s with error := some e }, { changed := true })

def setCurrentStep (node : String) : Change := fun s =>
  if s.currentStep = some node then (s, {})
  else ({ s with currentStep := some node }, { changed := true })

/-! ### Changes of the ledger -/

/-- Changes the first record of a node. -/
def updateStep (node : String) (f : StepRecord → StepRecord) : List StepRecord → List StepRecord
  | [] => []
  | r :: rest => if r.node = node then f r :: rest else r :: updateStep node f rest

/-- Opens a record for a node that has none. -/
def openStep (node : String) (status : StepStatus) (origin : StepOrigin) : Change := fun s =>
  match s.step? node with
  | some _ => (s, {})
  | none =>
    ({ s with steps := s.steps ++ [{ node, status, origin }] }, { changed := true })

/-- The run is at a node. -/
def enterStep (origin : StepOrigin) (node : String) : Change :=
  (setCurrentStep node).andThen (openStep node .running origin)

/-- A step is complete; a step that is so already keeps its output. -/
def completeStep (node : String) (output : Option Json.Value) : Change := fun s =>
  match s.step? node with
  | some r =>
    if r.status = .completed then (s, {})
    else
      let steps := updateStep node (fun r => { r with status := .completed, output }) s.steps
      ({ s with steps }, { changed := true })
  | none =>
    let r : StepRecord := { node, status := .completed, origin := .replayed, output }
    ({ s with steps := s.steps ++ [r] }, { changed := true })

/-- A step has failed with an error. -/
def failStep (error : String) (node : String) : Change := fun s =>
  match s.step? node with
  | some r =>
    if r.status = .failed ∧ r.error = some error then (s, {})
    else
      let fail (r : StepRecord) := { r with status := .failed, error := some error }
      ({ s with steps := updateStep node fail s.steps }, { changed := true })
  | none =>
    let r : StepRecord := { node, status := .failed, origin := .inferred, error := some error }
    ({ s with steps := s.steps ++ [r] }, { changed := true })

/-- An error counts for its step and for the run. -/
def recordError (node : Option String) (error : String) : Change :=
  (Change.whenSome node (failStep error)).andThen (setError error)

/-! ### Events and snapshots -/

/-- Moves to a phase, but only from another given one. -/
def moveFrom (p q : RunPhase) : Change := fun s =>
  if s.phase = p then setPhase q s else (s, {})

/-- The run ends as its errors say. -/
def settle : Change := fun s => setPhase s.finishedPhase s

/-- What an event changes in a run that takes it. -/
def eventChange : RunEvent → Change
  | .start id node =>
    ((adoptRunId id).andThen (moveFrom .pending .running)).andThen
      (Change.whenSome node (enterStep .live))
  | .progress p node => (setProgress p).andThen (Change.whenSome node (enterStep .inferred))
  | .complete node output => completeStep node output
  | .error node error => recordError node error
  | .finished status =>
    match status.map RunStatus.ofText with
    | some .failed => setPhase .failed
    | some .cancelled => setPhase .cancelled
    | _ => settle
  | .paused => moveFrom .running .paused
  | .cancelled => setPhase .cancelled
  | .unknown _ _ => Change.skip

/-- Takes an event. A terminal run takes none, a paused one only those that end it. -/
def applyEvent (e : RunEvent) : Change := fun s =>
  if s.phase.isTerminal then (s, {})
  else if s.phase = .paused ∧ e.isTerminal = false then (s, {})
  else eventChange e s

/-- What a failed run without a reason is given as its error. -/
def failedWithoutReason : String := "run failed"

/-- What the status of a snapshot changes. -/
def statusChange : RunStatus → Change
  | .pending => Change.skip
  | .running => moveFrom .pending .running
  | .paused => moveFrom .running .paused
  | .succeeded => settle
  | .failed => fun s =>
    setPhase .failed (if s.error = none then { s with error := some failedWithoutReason } else s)
  | .cancelled => setPhase .cancelled
  | .other _ => Change.skip

/-- What a snapshot changes in a run that takes it. -/
def snapshotChange (p : RunSnapshot) : Change :=
  (((((adoptRunId p.runId).andThen (adoptWorkflowId p.workflowId)).andThen
    (setProgress p.progress)).andThen (Change.whenSome p.currentNode (enterStep .inferred))).andThen
    (Change.whenSome p.error setError)).andThen (statusChange p.status)

/-- Takes a snapshot, as a replay of the present truth. -/
def applySnapshot (p : RunSnapshot) : Change := fun s =>
  if s.phase.isTerminal then (s, {})
  else if s.phase = .paused ∧ p.status.isTerminal = false then (s, {})
  else snapshotChange p s

/-! ### Changes by the client -/

def markResumed : Change :=
  moveFrom .paused .running

def fail (message : String) : Change := fun s =>
  if s.phase.isTerminal then (s, {})
  else setPhase .failed { s with error := some message }

def cancel : Change := fun s =>
  if s.phase.isTerminal then (s, {}) else setPhase .cancelled s

/-- Notes an error beside the phase. -/
def noteError (message : String) (s : RunState) : RunState :=
  { s with error := some message }

end RunState

end RunWatch
