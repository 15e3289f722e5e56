import RunWatch.Json.Number
import RunWatch.Text.Hex

/-!
# JSON tokens

A text is cut into tokens one character at a time. A string token keeps its text only if every
escaped surrogate has its partner; where the token is skipped that does not matter.
-/

namespace RunWatch.Json

inductive Token where
  | openArray
  | closeArray
  | openObject
  | closeObject
  | comma
  | colon
  | null
  | bool (b : Bool)
  | number (l : Literal)
  /-- A string, without text if a lone surrogate was escaped in it. -/
  | text (s : Option String)
  deriving DecidableEq, Repr

/-! ### Strings -/

/-- A piece of a string: a character or an escaped UTF-16 unit. -/
inductive Piece where
  | char (c : Char)
  | unit (u : Nat)
  deriving DecidableEq, Repr

/-- Joins escaped surrogate pairs; nothing if a surrogate stands alone. -/
def joinPieces : List Piece → Option (List Char)
  | [] => some []
  | .char c :: rest => (joinPieces rest).map (c :: ·)
  | .unit u :: rest =>
    if 0xD800 ≤ u ∧ u < 0xDC00 then
      match rest with
      | .unit v :: rest =>
        if 0xDC00 ≤ v ∧ v < 0xE000 then
          (joinPieces rest).map (Char.ofNat (0x10000 + (u - 0xD800) * 0x400 + (v - 0xDC00)) :: ·)
        else none
      | _ => none
    else if 0xDC00 ≤ u ∧ u < 0xE000 then none
    else (joinPieces rest).map (Char.ofNat u :: ·)

/-- Where the reader stands inside a string. -/
inductive Escape where
  | plain
  /-- After a backslash. -/
  | opened
  /-- Inside the four digits of a unit, `left` of them to come. -/
  | unit (left : Nat) (value : Nat)
  deriving DecidableEq, Repr

/-- The character that a one-letter escape stands for. -/
def escaped? (c : Char) : Option Char :=
  match c with
  | '"' => some '"'
  | '\\' => some '\\'
  | '/' => some '/'
  | 'b' => some '\x08'
  | 'f' => some '\x0c'
  | 'n' => some '\n'
  | 'r' => some '\r'
  | 't' => some '\t'
  | _ => none

/-! ### The lexer -/

/-- What has been begun; gathered characters stand in reverse. -/
inductive Begun where
  | none
  | word (cs : List Char)
  | number (cs : List Char)
  | text (pieces : List Piece) (escape : Escape)
  deriving DecidableEq, Repr

/-- The lexer: tokens so far, the latest first, and what has been begun. -/
structure Lexer where
  tokens : List Token := []
  begun : Begun := .none
  deriving DecidableEq, Repr

def isSpace (c : Char) : Bool :=
  c = ' ' || c = '\t' || c = '\n' || c = '\r'

def isNumberChar (c : Char) : Bool :=
  c.isDigit || c = '-' || c = '+' || c = '.' || c = 'e' || c = 'E'

def isWordChar (c : Char) : Bool :=
  'a' ≤ c ∧ c ≤ 'z'

def word? (cs : List Char) : Option Token :=
  if cs = "null".toList then some .null
  else if cs = "true".toList then some (.bool true)
  else if cs = "false".toList then some (.bool false)
  else none

def Lexer.push (l : Lexer) (t : Token) : Lexer :=
  { tokens := t :: l.tokens }

/-- A character between tokens. -/
def Lexer.start? (l : Lexer) (c : Char) : Option Lexer :=
  match c with
  | '[' => some (l.push .openArray)
  | ']' => some (l.push .closeArray)
  | '\x7b' => some (l.push .openObject)
  | '\x7d' => some (l.push .closeObject)
  | ',' => some (l.push .comma)
  | ':' => some (l.push .colon)
  | '"' => some { l with begun := .text [] .plain }
  | c =>
    if isSpace c then some l
    else if c.isDigit || c = '-' then some { l with begun := .number [c] }
    else if isWordChar c then some { l with begun := .word [c] }
    else none

/-- A character inside a string. -/
def Lexer.inText? (l : Lexer) (pieces : List Piece) (escape : Escape) (c : Char) :
    Option Lexer :=
  match escape with
  | .plain =>
    if c = '"' then some (l.push (.text ((joinPieces pieces.reverse).map String.ofList)))
    else if c = '\\' then some { l with begun := .text pieces .opened }
    else if c.toNat < 0x20 then none
    else some { l with begun := .text (.char c :: pieces) .plain }
  | .opened =>
    if c = 'u' then some { l with begun := .text pieces (.unit 4 0) }
    else (escaped? c).map fun e => { l with begun := .text (.char e :: pieces) .plain }
  | .unit left value => do
    let value := value * 16 + (← Text.hexValue? c)
    if left ≤ 1 then some { l with begun := .text (.unit value :: pieces) .plain }
    else some { l with begun := .text pieces (.unit (left - 1) value) }

/-- Ends a word or a number that has been begun. -/
def Lexer.finish? (l : Lexer) : Option Lexer :=
  match l.begun with
  | .none => some l
  | .word cs => (word? cs.reverse).map l.push
  | .number cs => (Literal.ofChars? cs.reverse).map (l.push ∘ .number)
  | .text _ _ => none

/-- One character. -/
def Lexer.step? (l : Lexer) (c : Char) : Option Lexer :=
  match l.begun with
  | .none => l.start? c
  | .text pieces escape => l.inText? pieces escape c
  | .word cs =>
    if isWordChar c then some { l with begun := .word (c :: cs) }
    else l.finish?.bind (·.start? c)
  | .number cs =>
    if isNumberChar c then some { l with begun := .number (c :: cs) }
    else l.finish?.bind (·.start? c)

/-- The tokens of a text. -/
def tokens? (cs : List Char) : Option (List Token) := do
  let l ← cs.foldlM Lexer.step? {}
  let l ← l.finish?
  return l.tokens.reverse

end RunWatch.Json
