import RunWatch.Failure
import RunWatch.Frame.Decoder

/-!
# Readers of a stream

A reader takes what a connection delivers, decodes it and signals frames and the end. It moves in
single steps, so that a cancel may fall between any two of them.
`Reader.run` moves a reader until it waits or is over.
-/

namespace RunWatch

/-- What a reader tells its observer. -/
inductive StreamSignal where
  | frame (f : Frame)
  /-- The server ended the body. -/
  | closed
  | failed (failure : StreamFailure)
  deriving DecidableEq

/-- One item from the connection. -/
inductive StreamItem where
  | chunk (bytes : List UInt8)
  | failure (f : StreamFailure)
  deriving DecidableEq, Repr

/-- An item on its way. -/
structure Arrival where
  item : StreamItem
  /-- The reading is cancelled while the item is handed over. -/
  cancels : Bool := false
  deriving DecidableEq, Repr

/-- Where a reader stands. -/
inductive ReaderStage where
  /-- Between two items. -/
  | ready
  /-- It has taken an item and not yet looked at it. -/
  | holding (item : StreamItem)
  /-- It is signalling the frames of a chunk. -/
  | delivering (frames : List Frame)
  /-- It takes nothing more. -/
  | over
  deriving DecidableEq

structure Reader where
  /-- What has arrived and is not yet taken. -/
  arrivals : List Arrival := []
  /-- Nothing arrives any more. -/
  ended : Bool := false
  cancelled : Bool := false
  decoder : Frame.Decoder := {}
  stage : ReaderStage := .ready
  deriving DecidableEq

namespace Reader

def isOver (r : Reader) : Bool :=
  r.stage = .over

/-! ### What happens to a reader -/

/-- Something arrives. It is lost on a reader that is over and after the end of the body. -/
def receive (r : Reader) (a : Arrival) : Reader :=
  if r.ended || r.isOver then r else { r with arrivals := r.arrivals ++ [a] }

/-- The body ends. -/
def finish (r : Reader) : Reader :=
  { r with ended := true }

def cancel (r : Reader) : Reader :=
  { r with cancelled := true }

/-! ### What a reader does -/

/-- A cancelled reader looks at what is left: chunks and then the end of the body are a clean close,
anything else stays silent. -/
def endsClean (arrivals : List Arrival) (ended : Bool) : Bool :=
  ended && arrivals.all fun a => match a.item with
    | .chunk _ => true
    | .failure _ => false

/-- The next thing that a reader does, with its signal; nothing while it waits and once it is
over. -/
def step? (r : Reader) : Option (Reader × Option StreamSignal) :=
  match r.stage with
  | .over => none
  | .ready =>
    if r.cancelled then
      some ({ r with stage := .over },
        if endsClean r.arrivals r.ended then some .closed else none)
    else match r.arrivals with
      | [] => if r.ended then some ({ r with stage := .over }, some .closed) else none
      | a :: rest =>
        some ({ r with arrivals := rest, stage := .holding a.item, cancelled := a.cancels }, none)
  | .holding (.chunk bytes) =>
    let (decoder, frames) := r.decoder.feed bytes
    some ({ r with decoder, stage := .delivering frames }, none)
  | .holding (.failure f) =>
    some ({ r with stage := .over }, if r.cancelled then none else some (.failed f))
  | .delivering [] => some ({ r with stage := .ready }, none)
  | .delivering (f :: frames) =>
    if r.cancelled then some ({ r with stage := .over }, none)
    else some ({ r with stage := .delivering frames }, some (.frame f))

/-! ### Running -/

/-- How much is left of a stage, the items not counted. -/
def rank : ReaderStage → Nat
  | .over | .holding _ => 0
  | .ready => 1
  | .delivering frames => 2 + frames.length

/-- How much a reader may still do: its items, whether it holds one, and the rest of its stage. -/
def weight (r : Reader) : Nat × Nat × Nat :=
  (r.arrivals.length, match r.stage with | .holding _ => 1 | _ => 0, rank r.stage)

/-- A step leaves less to do. -/
theorem step?_lighter {r s : Reader} {signal : Option StreamSignal}
    (h : r.step? = some (s, signal)) :
    Prod.Lex (· < ·) (Prod.Lex (· < ·) (· < ·)) s.weight r.weight := by
  rcases r with ⟨arrivals, ended, cancelled, decoder, stage⟩
  unfold step? at h
  split at h <;> rename_i hs <;> simp only at hs <;> subst hs
  · simp at h
  · split at h
    · cases h
      exact .right _ (.right _ (by simp [rank]))
    · split at h
      · split at h
        · cases h
          exact .right _ (.right _ (by simp [rank]))
        · simp at h
      · rename_i ha; simp only at ha; subst ha
        cases h
        exact .left _ _ (by simp)
  · cases h
    exact .right _ (.left _ _ (by simp))
  · cases h
    exact .right _ (.left _ _ (by simp))
  · cases h
    exact .right _ (.right _ (by simp [rank]))
  · split at h <;> cases h <;> exact .right _ (.right _ (by simp [rank]; try omega))

/-- How many frames an observer takes before it cancels the reading from inside the last of them;
none if it never does. -/
abbrev Patience := Option Nat

/-- What a signal leaves of the patience, and whether the observer cancels on it. -/
def Patience.after : Patience → Option StreamSignal → Patience × Bool
  | some 1, some (.frame _) => (none, true)
  | some (n + 2), some (.frame _) => (some (n + 1), false)
  | p, _ => (p, false)

/-- Moves a reader until it waits or is over; gives its signals in order. -/
def run (p : Patience) (r : Reader) : Reader × Patience × List StreamSignal :=
  match h : r.step? with
  | none => (r, p, [])
  | some (s, signal) =>
    have := step?_lighter h
    let (p, cancels) := p.after signal
    let rest := run p { s with cancelled := s.cancelled || cancels }
    (rest.1, rest.2.1, signal.toList ++ rest.2.2)
termination_by r.weight
decreasing_by exact this

end Reader

end RunWatch
