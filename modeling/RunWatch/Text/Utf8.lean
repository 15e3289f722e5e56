/-!
# Lossy UTF-8

Bytes become characters one at a time. Each longest beginning of a character that turns out
broken becomes one U+FFFD, and the byte that broke it is read afresh.
`step_ascii` says that an ASCII byte ends whatever came before it.
-/

namespace RunWatch.Text.Utf8

/-- A character whose first bytes have been read: `need` more bytes are due, and the next one
lies between `low` and `high`. -/
structure Partial where
  need : Nat
  low : UInt8
  high : UInt8
  point : Nat
  deriving DecidableEq, Repr

/-- The character that stands for broken bytes. -/
def replacement : Char := '\uFFFD'

/-- Reads the first byte of a character. -/
def begin (b : UInt8) : Option Partial × List Char :=
  if b < 0x80 then (none, [Char.ofNat b.toNat])
  else if b < 0xC2 then (none, [replacement])
  else if b < 0xE0 then (some ⟨1, 0x80, 0xBF, b.toNat - 0xC0⟩, [])
  else if b = 0xE0 then (some ⟨2, 0xA0, 0xBF, 0⟩, [])
  else if b = 0xED then (some ⟨2, 0x80, 0x9F, 0xD⟩, [])
  else if b < 0xF0 then (some ⟨2, 0x80, 0xBF, b.toNat - 0xE0⟩, [])
  else if b = 0xF0 then (some ⟨3, 0x90, 0xBF, 0⟩, [])
  else if b < 0xF4 then (some ⟨3, 0x80, 0xBF, b.toNat - 0xF0⟩, [])
  else if b = 0xF4 then (some ⟨3, 0x80, 0x8F, 4⟩, [])
  else (none, [replacement])

/-- One byte: the new state and the characters that it completes. -/
def step (state : Option Partial) (b : UInt8) : Option Partial × List Char :=
  match state with
  | none => begin b
  | some p =>
    if p.low ≤ b ∧ b ≤ p.high then
      let point := p.point * 64 + (b.toNat - 0x80)
      if p.need ≤ 1 then (none, [Char.ofNat point])
      else (some ⟨p.need - 1, 0x80, 0xBF, point⟩, [])
    else
      let (state, chars) := begin b
      (state, replacement :: chars)

/-- The characters of the bytes from a state on, a broken end included. -/
def decodeFrom (state : Option Partial) : List UInt8 → List Char
  | [] => if state.isSome then [replacement] else []
  | b :: bytes => (step state b).2 ++ decodeFrom (step state b).1 bytes

/-- The characters of the bytes. -/
def decode (bytes : List UInt8) : List Char :=
  decodeFrom none bytes

/-- The text of the bytes. -/
def decodeText (bytes : List UInt8) : String :=
  String.ofList (decode bytes)

/-- The bytes of the text. -/
def encode (s : String) : List UInt8 :=
  s.toUTF8.data.toList

/-- Whether the bytes are a text, with nothing replaced. -/
def valid (bytes : List UInt8) : Bool :=
  encode (decodeText bytes) == bytes

theorem step_ascii (state : Option Partial) {b : UInt8} (hb : b < 0x80)
    (hlow : ∀ p, state = some p → 0x80 ≤ p.low) :
    step state b =
      (none, (if state.isSome then [replacement] else []) ++ [Char.ofNat b.toNat]) := by
  cases state with
  | none => simp [step, begin, hb]
  | some p =>
    have h : ¬(p.low ≤ b ∧ b ≤ p.high) := fun h =>
      absurd (UInt8.lt_of_lt_of_le hb (UInt8.le_trans (hlow p rfl) h.1)) (UInt8.lt_irrefl b)
    simp [step, begin, hb, h]

end RunWatch.Text.Utf8
