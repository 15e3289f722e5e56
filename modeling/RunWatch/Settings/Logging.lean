import RunWatch.Settings.Environment
import RunWatch.Text.Alphanumeric
import RunWatch.Text.Utf8

/-!
# Logging

Where log records go and which of them are kept, as variables of the environment say.
-/

namespace RunWatch

inductive LogSink where
  | stderr
  | jsonFile (path : String)
  | off
  deriving DecidableEq, Repr

structure LogSettings where
  sink : LogSink := .stderr
  /-- The directives that choose records, before they are read. -/
  filter : Option String := none
  deriving DecidableEq, Repr

/-- Reads a switch. -/
def switch? (s : String) : Option Bool :=
  let word := Text.lowerAscii (Text.trim s)
  if ["1", "true", "yes", "on"].contains word then some true
  else if ["0", "false", "no", "off"].contains word then some false
  else none

namespace LogSettings

def switchVariable : String := "ORCHESTRATOR_LIVE_LOG"

def levelVariable : String := "ORCHESTRATOR_LIVE_LOG_LEVEL"

def fileVariable : String := "ORCHESTRATOR_LIVE_JSON_LOG_PATH"

/-- The settings of an environment. Logging is on unless it is switched off. -/
def ofEnvironment (env : Environment) : LogSettings where
  filter := env.filled? levelVariable
  sink :=
    if ((env.lookup switchVariable).bind switch?).getD true then
      match env.filled? fileVariable with
      | some path => .jsonFile path
      | none => .stderr
    else .off

end LogSettings

/-! ### Directives -/

/-- Which records are kept: one level for all, or a level for a target, for a span, or for a span of
a target. -/
structure LogDirective where
  target : Option String := none
  span : Option String := none
  level : String
  deriving DecidableEq, Repr

namespace LogDirective

/-- The levels in the order of their numbers. -/
def levels : List String := ["off", "error", "warn", "info", "debug", "trace"]

/-- The level of a directive that names none. -/
def fullest : String := "trace"

/-- Reads a level in any case, or its number. -/
def level? (s : String) : Option String :=
  match Decimal.natBelow Decimal.limit64 s.toList with
  | .ok n => levels[n]?
  | .error _ => levels.find? (· == Text.lowerAscii s)

/-- Where the reading of a directive stands, with the position at which the present piece began. -/
inductive Place where
  | start
  /-- In a level or a target. -/
  | word (begin : Nat)
  | span (begin : Nat)
  | behindSpan
  | level (begin : Nat)
  deriving DecidableEq, Repr

/-- The first character of a level or a target. -/
def isWordStart (c : Char) : Bool :=
  c == '-' || c == ':' || c == '_' || Text.isAlphanumeric c

/-- The text between two positions. -/
def cut (bytes : List UInt8) (start stop : Nat) : String :=
  Text.Utf8.decodeText ((bytes.take stop).drop start)

/-- What a directive is when its text ends at a place. -/
def finish? (bytes : List UInt8) (d : LogDirective) : Place → Option LogDirective
  | .start | .span _ => none
  | .behindSpan => some d
  | .word start =>
    let word := cut bytes start bytes.length
    match level? word with
    | some level => some { level }
    | none => some { target := some word, level := fullest }
  | .level start =>
    let word := cut bytes start bytes.length
    if word = "" then some { d with level := fullest }
    else (level? word).map fun level => { d with level }

/-- Reads the characters of a directive, of which the next one is at a position. -/
def readFrom (bytes : List UInt8) (d : LogDirective) (p : Place) (i : Nat) :
    List Char → Option LogDirective
  | [] => finish? bytes d p
  | c :: cs =>
    let go (d : LogDirective) (p : Place) := readFrom bytes d p (i + c.utf8Size) cs
    match p with
    | .start =>
      if c = '[' then go d (.span (i + 1))
      else if isWordStart c then go d (.word i)
      else none
    | .word start =>
      let target := some (cut bytes start i)
      if c = '=' then go { d with target } (.level (i + 1))
      else if c = '[' then go { d with target } (.span (i + 1))
      else go d p
    | .span start =>
      if c = ']' then go { d with span := some (cut bytes start i) } .behindSpan
      else if c = '\x7b' then none
      else go d p
    | .behindSpan => if c = '=' then go d (.level (i + 1)) else none
    | .level _ => go d p

/-- Reads a directive. Blanks around it are passed by, but they count as positions. -/
def ofString? (s : String) : Option LogDirective :=
  readFrom (Text.Utf8.encode s) { level := fullest } .start 0 (Text.trim s).toList

def text (d : LogDirective) : String :=
  let place := d.target.getD "" ++ d.span.elim "" fun s => "[" ++ s ++ "]"
  if place = "" then d.level else place ++ "=" ++ d.level

/-- The more telling of two directives is the greater one: a longer target, then a span, then by the
alphabet. -/
def order (a b : LogDirective) : Ordering :=
  (compare (a.target.map String.utf8ByteSize) (b.target.map String.utf8ByteSize)).then <|
    (compare a.span.isSome b.span.isSome).then <|
      (compare a.target b.target).then (compare a.span b.span)

/-- Puts a directive among others, the greater one first; it takes the place of its equal. -/
def place (d : LogDirective) : List LogDirective → List LogDirective
  | [] => [d]
  | e :: rest =>
    match order d e with
    | .gt => d :: e :: rest
    | .eq => d :: rest
    | .lt => e :: place d rest

/-- The directives in the order in which they are looked at: those on spans come last. -/
def arrange (ds : List LogDirective) : List LogDirective :=
  let sorted := ds.foldl (fun sorted d => place d sorted) []
  sorted.filter (·.span.isNone) ++ sorted.filter (·.span.isSome)

/-- Reads directives with commas between them. -/
def list? (s : String) : Option (List LogDirective) :=
  let pieces := (Text.splitAtChar ',' s.toList).filter (· ≠ [])
  (pieces.mapM fun cs => ofString? (String.ofList cs)).map arrange

end LogDirective

namespace LogSettings

/-- The directives without any setting. -/
def defaultDirectives : List LogDirective :=
  LogDirective.arrange
    [{ level := "warn" }, { target := some "orchestrator_live", level := "info" }]

/-- The variable that holds the directives of all programs. -/
def sharedVariable : String := "RUST_LOG"

/-- The directives in force: those of the settings or of the shared variable, whichever can be read
first, or the default ones. -/
def directives (settings : LogSettings) (env : Environment) : List LogDirective :=
  let own := settings.filter.bind LogDirective.list?
  let shared := (env.lookup sharedVariable).bind LogDirective.list?
  (own <|> shared).getD defaultDirectives

def filterText (settings : LogSettings) (env : Environment) : String :=
  ",".intercalate ((settings.directives env).map LogDirective.text)

end LogSettings

end RunWatch
