import RunWatch.Control.Controller

/-!
# Scripted servers

A server for rehearsals. It answers each request by the next script of its kind, keeps the streams
that it has opened, and notes what has reached it.
-/

namespace RunWatch.Rehearsal

/-- How a request for a stream is answered. -/
structure OpenScript where
  delay : Nat := 0
  rejection : Option StreamFailure := none
  /-- What the stream sends at once. -/
  chunks : List (List UInt8) := []
  /-- The stream ends after that. -/
  ends : Bool := false

/-- How a fetch is answered. -/
structure FetchScript where
  delay : Nat := 0
  result : Except PollFailure RunSnapshot

/-- How a one-shot command is answered. -/
structure CommandScript where
  delay : Nat := 0
  result : Except ClientFailure Unit := .ok ()

/-- The answer to a fetch without a script. -/
def FetchScript.missing : FetchScript :=
  { result := .error (.transient "no snapshot queued") }

/-- What has reached a server. -/
inductive Call where
  | openStream (request : StreamRequest)
  | fetch (run : RunId)
  | command (command : RunCommand) (run : RunId)

/-- A call and its time. -/
structure Entry where
  time : Nat
  call : Call

/-- A stream of the server: whose it is, its number there, and its reader. -/
structure Line where
  owner : RunKey
  stream : Nat
  reader : Reader := {}

/-- The server has not ended the stream and its reader still takes items. -/
def Line.isOpen (l : Line) : Bool :=
  !l.reader.ended && !l.reader.isOver

structure Server where
  opens : List OpenScript := []
  fetches : List FetchScript := []
  commands : List CommandScript := []
  lines : List Line := []
  log : List Entry := []

namespace Server

def note (time : Nat) (call : Call) (s : Server) : Server :=
  { s with log := s.log ++ [⟨time, call⟩] }

/-- The next script of a queue, and the queue after it. -/
def next {α : Type} (fallback : α) : List α → α × List α
  | [] => (fallback, [])
  | a :: rest => (a, rest)

def takeOpen (s : Server) : OpenScript × Server :=
  let (script, opens) := next {} s.opens
  (script, { s with opens })

def takeFetch (s : Server) : FetchScript × Server :=
  let (script, fetches) := next .missing s.fetches
  (script, { s with fetches })

def takeCommand (s : Server) : CommandScript × Server :=
  let (script, commands) := next {} s.commands
  (script, { s with commands })

/-- Opens a stream as its script says. -/
def addLine (owner : RunKey) (stream : Nat) (script : OpenScript) (s : Server) : Server :=
  let sent := script.chunks.foldl (fun r bytes => r.receive { item := .chunk bytes }) ({} : Reader)
  { s with lines := s.lines ++ [⟨owner, stream, if script.ends then sent.finish else sent⟩] }

/-- Changes the reader of the `n`th stream. -/
def modifyLine (n : Nat) (f : Reader → Reader) (s : Server) : Server :=
  { s with lines := s.lines.modify n fun l => { l with reader := f l.reader } }

/-- Cancels a stream that a controller has opened. -/
def cancelLine (owner : RunKey) (stream : Nat) (s : Server) : Server :=
  { s with lines := s.lines.map fun l =>
      if l.owner = owner ∧ l.stream = stream then { l with reader := l.reader.cancel } else l }

/-- Lets all readers run; gives their signals. -/
def runLines (s : Server) : Server × List (RunKey × Message) :=
  let ran := s.lines.map fun l => (l, l.reader.run none)
  ({ s with lines := ran.map fun (l, r) => { l with reader := r.1 } },
    ran.flatMap fun (l, r) => r.2.2.map fun signal => (l.owner, .signal l.stream signal))

/-- The numbers of the open streams. -/
def openLines (s : Server) : List Nat :=
  (s.lines.zipIdx.filter fun (l, _) => l.isOpen).map Prod.snd

end Server

end RunWatch.Rehearsal
