import RunWatch.Text.Hex
import RunWatch.Text.Utf8

/-!
# Percent-encoding

Bytes that an address must not hold are written as a percent sign and two hexadecimal digits.
-/

namespace RunWatch.Http.Percent

/-- Characters that are encoded in a path. -/
def pathReserved : List Char := [' ', '"', '#', '<', '>', '?', '\x60', '\x7b', '\x7d']

/-- Characters that are encoded in a query. -/
def queryReserved : List Char := [' ', '"', '#', '<', '>', '\'']

/-- Characters that are encoded in a fragment. -/
def fragmentReserved : List Char := [' ', '"', '<', '>', '\x60']

/-- A byte as a percent sign and two digits. -/
def escapeByte (b : UInt8) : List Char :=
  '%' :: (Text.hexDigits 2 b.toNat).map Char.toUpper

/-- A character that may stay; all others are encoded byte by byte. -/
def stays (reserved : List Char) (c : Char) : Bool :=
  0x20 ≤ c.toNat && c.toNat < 0x7F && !reserved.contains c

def escape (reserved : List Char) (cs : List Char) : List Char :=
  cs.flatMap fun c =>
    if stays reserved c then [c]
    else (Text.Utf8.encode (String.ofList [c])).flatMap escapeByte

/-- The bytes of a text in which bytes may be encoded. A percent sign without two digits behind it
stands for itself. -/
def decode : List Char → List UInt8
  | [] => []
  | '%' :: a :: b :: cs =>
    match Text.hexValue? a, Text.hexValue? b with
    | some high, some low => UInt8.ofNat (high * 16 + low) :: decode cs
    | _, _ => 37 :: decode (a :: b :: cs)
  | c :: cs => Text.Utf8.encode (String.ofList [c]) ++ decode cs

/-- The same as a text, if the bytes are one. -/
def decodeText? (cs : List Char) : Option String :=
  let bytes := decode cs
  if Text.Utf8.valid bytes then some (Text.Utf8.decodeText bytes) else none

end RunWatch.Http.Percent
