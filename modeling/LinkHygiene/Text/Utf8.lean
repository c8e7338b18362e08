/-!
# UTF-8

Characters as bytes and bytes as characters. Decoding never fails: a byte
sequence that no character has is replaced by U+FFFD, once for every maximal
subpart, that is, for the longest run of bytes that could have begun a character
or else for one byte.

`front` is the step that all decoders share. It reads one character off a byte
string, or tells that the bytes are broken, or that they end too early.
-/

namespace LinkHygiene

namespace Utf8

def replacement : Char := '\uFFFD'

def encodeChar (c : Char) : List UInt8 :=
  let n := c.toNat
  if n < 0x80 then [n.toUInt8]
  else if n < 0x800 then [(0xC0 + n / 64).toUInt8, (0x80 + n % 64).toUInt8]
  else if n < 0x10000 then
    [(0xE0 + n / 4096).toUInt8, (0x80 + n / 64 % 64).toUInt8, (0x80 + n % 64).toUInt8]
  else
    [(0xF0 + n / 262144).toUInt8, (0x80 + n / 4096 % 64).toUInt8,
      (0x80 + n / 64 % 64).toUInt8, (0x80 + n % 64).toUInt8]

def encode (s : List Char) : List UInt8 :=
  s.flatMap encodeChar

theorem encode_append (s t : List Char) : encode (s ++ t) = encode s ++ encode t := by
  simp [encode]

inductive Front where
  /-- No byte is left. -/
  | done
  /-- A whole character, and the bytes after it. -/
  | char (c : Char) (rest : List UInt8)
  /-- Bytes that begin no character, and the bytes after them. -/
  | broken (rest : List UInt8)
  /-- All bytes together are the beginning of a character. -/
  | unfinished

def isTail (b : UInt8) : Bool :=
  0x80 ≤ b && b ≤ 0xBF

/-- Whether `b` may follow the lead byte `lead` of a sequence of three or four bytes. -/
def isSecond (lead b : UInt8) : Bool :=
  if lead = 0xE0 then 0xA0 ≤ b && b ≤ 0xBF
  else if lead = 0xED then 0x80 ≤ b && b ≤ 0x9F
  else if lead = 0xF0 then 0x90 ≤ b && b ≤ 0xBF
  else if lead = 0xF4 then 0x80 ≤ b && b ≤ 0x8F
  else isTail b

/-- How many bytes a character with this first byte has; 0 if there is none. -/
def width (lead : UInt8) : Nat :=
  if lead < 0x80 then 1
  else if 0xC2 ≤ lead && lead ≤ 0xDF then 2
  else if 0xE0 ≤ lead && lead ≤ 0xEF then 3
  else if 0xF0 ≤ lead && lead ≤ 0xF4 then 4
  else 0

def low6 (b : UInt8) : Nat :=
  b.toNat % 64

def expect (fits : UInt8 → Bool) (bytes : List UInt8)
    (found : UInt8 → List UInt8 → Front) : Front :=
  match bytes with
  | [] => .unfinished
  | b :: rest => if fits b then found b rest else .broken (b :: rest)

/-- Reads one character, or as many bytes as could have begun one. -/
def front : List UInt8 → Front
  | [] => .done
  | a :: rest =>
      match width a with
      | 1 => .char (Char.ofNat a.toNat) rest
      | 2 =>
          expect isTail rest fun b rest =>
            .char (Char.ofNat (a.toNat % 32 * 64 + low6 b)) rest
      | 3 =>
          expect (isSecond a) rest fun b rest =>
          expect isTail rest fun c rest =>
            .char (Char.ofNat (a.toNat % 16 * 4096 + low6 b * 64 + low6 c)) rest
      | 4 =>
          expect (isSecond a) rest fun b rest =>
          expect isTail rest fun c rest =>
          expect isTail rest fun d rest =>
            .char (Char.ofNat
              (a.toNat % 8 * 262144 + low6 b * 4096 + low6 c * 64 + low6 d)) rest
      | _ => .broken rest

/--
Lossy decoding, with the text read so far in reverse. Every step takes a byte,
so the length of the input is enough fuel.
-/
def decodeFrom : (fuel : Nat) → (text : List Char) → List UInt8 → List Char
  | 0, text, _ => text.reverse
  | fuel + 1, text, bytes =>
      match front bytes with
      | .done => text.reverse
      | .char c rest => decodeFrom fuel (c :: text) rest
      | .broken rest => decodeFrom fuel (replacement :: text) rest
      | .unfinished => (replacement :: text).reverse

/-- The text of a byte string; broken pieces become U+FFFD. -/
def decodeLossy (bytes : List UInt8) : List Char :=
  decodeFrom (bytes.length + 1) [] bytes

def validFrom : (fuel : Nat) → List UInt8 → Bool
  | 0, _ => false
  | fuel + 1, bytes =>
      match front bytes with
      | .done => true
      | .char _ rest => validFrom fuel rest
      | .broken _ => false
      | .unfinished => false

def isValid (bytes : List UInt8) : Bool :=
  validFrom (bytes.length + 1) bytes

/-- The text of a byte string that is UTF-8 throughout. -/
def decode? (bytes : List UInt8) : Option (List Char) :=
  if isValid bytes then some (decodeLossy bytes) else none

end Utf8

end LinkHygiene
