import RunWatch.Http.Patches
import RunWatch.Http.Proxy
import RunWatch.Http.Runs
import RunWatch.Settings.LogPath
import RunWatch.Settings.Logging
import RunWatch.Terminal.DotEnv
import RunWatch.Terminal.Help
import RunWatch.Terminal.Watch
import RunWatch.Text.Escapes

/-!
# The program

What the program does, step by step, as a value. Whoever runs it carries out one step at a time and
goes on with the answer.
-/

namespace RunWatch.Terminal

open Http

inductive Program where
  | exit (status : Nat)
  /-- Prints a text and ends the line. -/
  | print (text : String) (next : Program)
  /-- The same on the error stream. -/
  | complain (text : String) (next : Program)
  /-- Creates the log file in a directory; goes on with whether that succeeded. -/
  | createLog (directory file : String) (next : Bool → Program)
  /-- Reads a file. -/
  | readFile (path : String) (next : Option (List UInt8) → Program)
  | exchange (proxies : Proxies) (r : Request) (next : Reply → Program)
  /-- Starts a run, follows it to its end, and exits. -/
  | watch (proxies : Proxies) (c : Config) (workflow : WorkflowId) (inputs : Option Json.Value)

namespace Program

def printAll (lines : List String) (next : Program) : Program :=
  lines.foldr print next

def complainAll (lines : List String) (next : Program) : Program :=
  lines.foldr complain next

/-- Tells of a failure and exits. -/
def fail (message : String) : Program :=
  complain (failureLine message) (exit 1)

/-! ### Tasks -/

/-- Fetches and prints the status of a run. -/
def status (p : Proxies) (c : Config) (run : RunId) : Program :=
  exchange p (fetchRequest c run) fun reply =>
    match readSnapshot run reply with
    | .ok s => printAll (snapshotLines s) (exit 0)
    | .error failure => fail failure.message

/-- Leads a dialogue about a document. -/
def converse {α : Type} (p : Proxies) (c : Config) (resource : String)
    (next : Except PatchFailure α → Program) : Dialogue α → Program
  | .done r => next r
  | .submit s go => exchange p (patchRequest c resource s) fun reply =>
    converse p c resource next (go (readVerdict reply))

def afterPreview : Except PatchFailure Preview → Program
  | .ok p => printAll (previewLines p) (exit (if p.valid then 0 else 1))
  | .error failure => fail failure.message

def afterApply : Except PatchFailure Applied → Program
  | .ok (.committed r diff) => printAll (committedLines r diff) (exit 0)
  | .ok (.rebased p) => printAll (previewLines p ++ [notAppliedLine p]) (exit 1)
  | .error (.invalid errors) => complainAll (errors.map errorLine) (exit 1)
  | .error failure => fail failure.message

/-- Previews or applies the replacement of a document by the content of a file. -/
def patch (p : Proxies) (c : Config) (resource : String) (base : Revision) (file : String)
    (commit : Bool) : Program :=
  readFile file fun content =>
    match content.filter Text.Utf8.valid with
    | none => fail ("cannot read " ++ file)
    | some bytes =>
      let proposal : Proposal := ⟨base, [.replace (Text.Utf8.decodeText bytes)]⟩
      if commit then converse p c resource afterApply proposal.apply
      else converse p c resource afterPreview proposal.preview

/-- Reads the inputs of a run and starts watching. -/
def startWatch (p : Proxies) (c : Config) (workflow : WorkflowId) : Option String → Program
  | none => watch p c workflow none
  | some text =>
    match Json.Value.ofString? text with
    | some v => watch p c workflow (some v)
    | none => fail (ClientFailure.input .inputsNotJson).message

def task (p : Proxies) (c : Config) : Task → Program
  | .watch workflow inputs => startWatch p c workflow inputs
  | .status run => status p c run
  | .patch resource base file commit => patch p c resource base file commit

/-! ### The whole -/

/-- The exit status of a program that broke down. -/
def brokenDown : Nat := 101

/-- Sets up the log before anything else. -/
def withLog (sink : LogSink) (next : Program) : Program :=
  match sink with
  | .jsonFile path =>
    let (directory, file) := LogPath.split path
    createLog directory file fun created => if created then next else exit brokenDown
  | _ => next

/-- Does what an invocation asks for, if its configuration is sound. -/
def invoke (p : Proxies) (i : Invocation) : Program :=
  match i.config.check with
  | .error fault => fail (ClientFailure.config fault).message
  | .ok () => task p i.config i.task

/-- The program for an environment and the arguments behind its name. -/
def start (env : Environment) (args : List String) : Program :=
  match Reading.ofArguments env args with
  | .usage fault => complain (Text.Escapes.leaveOut fault.message) (exit 2)
  | .version => print (programName ++ " " ++ programVersion) (exit 0)
  | .help command => print (Text.Escapes.leaveOut (helpText env command)) (exit 0)
  | .run i => withLog (LogSettings.ofEnvironment env).sink (invoke (Proxies.ofEnvironment env) i)

/-- The file that may add variables to the environment. -/
def environmentFile : String := ".env"

/-- Reads the environment file first. -/
def main (env : Environment) (args : List String) : Program :=
  readFile environmentFile fun content =>
    match content with
    | some bytes => (DotEnv.load bytes env).elim (exit brokenDown) fun env => start env args
    | none => start env args

end Program

end RunWatch.Terminal
