/-!
# Usage faults

What may be wrong with the arguments of a program, and how it is told.
-/

namespace RunWatch.Terminal

/-- What may have been meant by an argument that was not expected. -/
inductive Hint where
  /-- An option of a similar name. -/
  | similar (option : String)
  /-- The argument itself, behind two hyphens. -/
  | asValue
  deriving DecidableEq, Repr

/-- What is wrong with the arguments. -/
inductive UsageFault where
  /-- There is no such option, or no place for one more positional argument. -/
  | unexpected (arg : String) (hint : Option Hint)
  | unknownCommand (name : String)
  | badValue (value option reason : String)
  /-- A value for an option that takes none. -/
  | needlessValue (value option : String)
  | noValue (option : String)
  | repeated (option : String)
  | missing (names : List String)
  | noCommand
  deriving DecidableEq, Repr

def quoted (s : String) : String :=
  "'" ++ s ++ "'"

namespace UsageFault

def hintText (arg : String) : Hint → String
  | .similar option => "a similar argument exists: " ++ quoted option
  | .asValue => "to pass " ++ quoted arg ++ " as a value, use " ++ quoted ("-- " ++ arg)

def cause : UsageFault → String
  | unexpected arg hint =>
    "unexpected argument " ++ quoted arg ++ " found" ++
      hint.elim "" fun h => "\n\n  tip: " ++ hintText arg h
  | unknownCommand name => "unrecognized subcommand " ++ quoted name
  | badValue value option reason =>
    "invalid value " ++ quoted value ++ " for " ++ quoted option ++ ": " ++ reason
  | needlessValue value option =>
    "unexpected value " ++ quoted value ++ " for " ++ quoted option ++
      " found; no more were expected"
  | noValue option => "a value is required for " ++ quoted option ++ " but none was supplied"
  | repeated option => "the argument " ++ quoted option ++ " cannot be used multiple times"
  | missing names =>
    "\n  ".intercalate ("the following required arguments were not provided:" :: names)
  | noCommand => "a subcommand is required but one was not provided"

def message (f : UsageFault) : String :=
  "error: " ++ f.cause ++ "\n\nFor more information, try '--help'."

end UsageFault

end RunWatch.Terminal
