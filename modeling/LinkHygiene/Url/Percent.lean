import LinkHygiene.Text.Utf8
import LinkHygiene.Unicode.Table

/-!
# Percent encoding

Bytes written as `%` and two hexadecimal digits. What is written so depends on
the place in the URL; each place has its set of characters that are escaped, and
characters beyond ASCII always are.
-/

namespace LinkHygiene

namespace Percent

def hexChar (n : Nat) : Char :=
  if n < 10 then Char.ofNat ('0'.toNat + n) else Char.ofNat ('A'.toNat + (n - 10))

def escapeByte (b : UInt8) : List Char :=
  ['%', hexChar (b.toNat / 16), hexChar (b.toNat % 16)]

def escapeChar (c : Char) : List Char :=
  (Utf8.encodeChar c).flatMap escapeByte

/-- Escapes the characters for which `escaped` holds. -/
def encode (escaped : Char → Bool) (s : List Char) : List Char :=
  s.flatMap fun c => if escaped c then escapeChar c else [c]

def percentByte : UInt8 := 0x25

def byteDigit? (b : UInt8) : Option Nat :=
  Unicode.hexDigit? (Char.ofNat b.toNat)

/-- The bytes meant by an escaped byte string; a `%` without two digits means itself. -/
def decode : List UInt8 → List UInt8
  | [] => []
  | [a] => [a]
  | [a, b] => [a, b]
  | a :: h :: l :: rest =>
      if a = percentByte then
        match byteDigit? h, byteDigit? l with
        | some high, some low => (high * 16 + low).toUInt8 :: decode rest
        | _, _ => a :: decode (h :: l :: rest)
      else a :: decode (h :: l :: rest)

def inControls (c : Char) : Bool :=
  c.toNat < 0x20 || 0x7F ≤ c.toNat

def inFragment (c : Char) : Bool :=
  inControls c || [' ', '"', '<', '>', '`'].contains c

def inQuery (c : Char) : Bool :=
  inControls c || [' ', '"', '#', '<', '>'].contains c

def inSpecialQuery (c : Char) : Bool :=
  inQuery c || c == '\''

def inPath (c : Char) : Bool :=
  inFragment c || ['#', '?', '\x7b', '\x7d'].contains c

def inUserinfo (c : Char) : Bool :=
  inPath c || ['/', ':', ';', '=', '@', '[', '\\', ']', '^', '|'].contains c

end Percent

end LinkHygiene
