import RunWatch.Terminal.Usage
import RunWatch.Text.Similar

/-!
# Arguments

The grammar of a command line: options with or without a value, positional arguments, and
subcommands. Arguments are read from the left, and the first thing that ends the reading counts. The
value of an option that stands apart from it is looked at only when something else comes.
-/

namespace RunWatch.Terminal

/-- Why a value is refused. -/
inductive Refusal where
  /-- It counts as none. -/
  | blank
  | because (reason : String)
  deriving DecidableEq, Repr

structure OptionSpec where
  /-- The name behind two hyphens. -/
  name : String
  /-- What the value is called; a flag takes none. -/
  valueName : Option String := none
  refuse : String → Option Refusal := fun _ => none
  /-- The variable that gives a value when the command line does not. -/
  source : Option String := none
  required : Bool := false

structure CommandSpec where
  options : List OptionSpec := []
  /-- The names of the positional arguments, all of them required. -/
  positionals : List String := []
  /-- The names of subcommands, one of which is then required. -/
  subcommands : List String := []
  /-- The command tells its version. -/
  hasVersion : Bool := false

/-- Why the reading of arguments ended early. -/
inductive Stop where
  | usage (fault : UsageFault)
  | help
  | version
  deriving DecidableEq, Repr

/-- What has been given. -/
structure Given where
  /-- Options in the order of the command line; a flag has an empty value. -/
  options : List (String × String) := []
  positionals : List String := []
  /-- A subcommand and the arguments behind it. -/
  sub : Option (String × List String) := none
  deriving DecidableEq, Repr

namespace Given

def value? (g : Given) (name : String) : Option String :=
  g.options.lookup name

def has (g : Given) (name : String) : Bool :=
  (g.value? name).isSome

end Given

namespace OptionSpec

def takesValue (o : OptionSpec) : Bool :=
  o.valueName.isSome

/-- The option as it is written. -/
def text (o : OptionSpec) : String :=
  "--" ++ o.name ++ o.valueName.elim "" fun v => " <" ++ v ++ ">"

/-- What is wrong with a value. -/
def fault? (o : OptionSpec) (v : String) : Option UsageFault :=
  (o.refuse v).map fun
    | .blank => .noValue o.text
    | .because reason => .badValue v o.text reason

end OptionSpec

/-- An option that waits, with the value that came for it. -/
structure Waiting where
  option : OptionSpec
  value : Option String := none

namespace CommandSpec

def option? (c : CommandSpec) (name : String) : Option OptionSpec :=
  c.options.find? (·.name == name)

/-- Gives an option a value; an option is given once, and what it does not accept is refused. -/
def set (g : Given) (o : OptionSpec) (v : String) : Except Stop Given :=
  if g.has o.name then .error (.usage (.repeated o.text))
  else match o.fault? v with
    | some fault => .error (.usage fault)
    | none => .ok { g with options := g.options ++ [(o.name, v)] }

/-- Gives the option that waits its value. -/
def resolve (g : Given) : Option Waiting → Except Stop Given
  | none => .ok g
  | some ⟨o, some v⟩ => set g o v
  | some ⟨o, none⟩ => .error (.usage (.noValue o.text))

/-- The name and the attached value of an argument that begins with two hyphens. -/
def splitLong (cs : List Char) : String × Option String :=
  match cs.dropWhile (· ≠ '=') with
  | [] => (String.ofList cs, none)
  | _ :: v => (String.ofList (cs.takeWhile (· ≠ '=')), some (String.ofList v))

/-- The flags that every command has. -/
def builtin? (c : CommandSpec) (name : String) : Option Stop :=
  if name = "help" then some .help
  else if name = "version" ∧ c.hasVersion then some .version
  else none

/-- The flags that every command has, by their letters. -/
def short? (c : CommandSpec) (letter : Char) : Option Stop :=
  if letter = 'h' then some .help
  else if letter = 'V' ∧ c.hasVersion then some .version
  else none

/-- The names of all options. -/
def optionNames (c : CommandSpec) : List String :=
  c.options.map OptionSpec.name ++ "help" :: (if c.hasVersion then ["version"] else [])

/-- A positional argument may have been meant. -/
def hint? (c : CommandSpec) : Option Hint :=
  if c.positionals = [] then none else some .asValue

/-- An option that there is not. -/
def unknownOption (c : CommandSpec) (name : String) : UsageFault :=
  let similar := c.optionNames.find? (Text.Similar.areSimilar name)
  .unexpected ("--" ++ name) ((similar.map fun s => .similar ("--" ++ s)) <|> c.hint?)

/-- A positional argument for which there is no place. -/
def tooMany (c : CommandSpec) (arg : String) : UsageFault :=
  if c.subcommands = [] then .unexpected arg none else .unknownCommand arg

/-- A positional argument. -/
def place (c : CommandSpec) (g : Given) (waiting : Option Waiting) (arg : String) :
    Except Stop Given :=
  if g.positionals.length < c.positionals.length then do
    let g ← resolve g waiting
    return { g with positionals := g.positionals ++ [arg] }
  else .error (.usage (c.tooMany arg))

/-- Reads arguments after `--`, which are all positional. -/
def readPlain (c : CommandSpec) (g : Given) (waiting : Option Waiting) :
    List String → Except Stop (Given × Option Waiting)
  | [] => .ok (g, waiting)
  | arg :: rest => do c.readPlain (← c.place g waiting arg) none rest

/-- Reads arguments, up to a subcommand. -/
def read (c : CommandSpec) (g : Given) (waiting : Option Waiting) :
    List String → Except Stop (Given × Option Waiting)
  | [] => .ok (g, waiting)
  | arg :: rest =>
    let open? := waiting.filter (·.value.isNone)
    if open?.isNone ∧ c.subcommands.contains arg then
      .ok ({ g with sub := some (arg, rest) }, waiting)
    else match arg.toList with
      | ['-', '-'] => c.readPlain g waiting rest
      | '-' :: '-' :: cs =>
        let (name, attached) := splitLong cs
        match c.builtin? name, c.option? name, attached with
        | some stop, _, none => do
          let _ ← resolve g waiting
          .error stop
        | some _, _, some v => .error (.usage (.needlessValue v ("--" ++ name)))
        | none, none, _ => .error (.usage (c.unknownOption name))
        | none, some o, some v =>
          if o.takesValue then do c.read (← set (← resolve g waiting) o v) none rest
          else .error (.usage (.needlessValue v o.text))
        | none, some o, none => do
          let g ← resolve g waiting
          if o.takesValue then c.read g (some { option := o }) rest
          else c.read (← set g o "") none rest
      | '-' :: letter :: _ =>
        match c.short? letter with
        | some stop => do
          let _ ← resolve g waiting
          .error stop
        | none => .error (.usage (.unexpected (String.ofList ['-', letter]) c.hint?))
      | _ =>
        match open? with
        | some w => c.read g (some { w with value := some arg }) rest
        | none => do c.read (← c.place g waiting arg) none rest

/-- What is required and has not been given. -/
def missing (c : CommandSpec) (g : Given) : List String :=
  (c.options.filter fun o => o.required && !g.has o.name).map OptionSpec.text ++
    (c.positionals.drop g.positionals.length).map fun name => "<" ++ name ++ ">"

/-- Reads all arguments of a command without subcommands. -/
def readAll (c : CommandSpec) (args : List String) : Except Stop Given := do
  let (g, waiting) ← c.read {} none args
  let g ← resolve g waiting
  match c.missing g with
  | [] => .ok g
  | names => .error (.usage (.missing names))

end CommandSpec

end RunWatch.Terminal
