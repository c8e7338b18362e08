import LinkHygiene.Text.Utf8

/-!
# UTF-8 in pieces

A decoder for a byte string that arrives in pieces. The bytes at the end of a
piece that could still become a character are held back until the next piece, or
the end of the input, decides them.
-/

namespace LinkHygiene

namespace Utf8

/-- The text decoded so far, in reverse, and the bytes held back. -/
structure Stream where
  text : List Char := []
  held : List UInt8 := []
deriving Repr, DecidableEq

namespace Stream

def empty : Stream := {}

/--
Decodes what is complete or broken and holds back the rest. Every step takes a
byte, so the length of the input is enough fuel.
-/
def absorb : (fuel : Nat) → (text : List Char) → List UInt8 → Stream
  | 0, text, bytes => ⟨text, bytes⟩
  | fuel + 1, text, bytes =>
      match front bytes with
      | .done => ⟨text, []⟩
      | .char c rest => absorb fuel (c :: text) rest
      | .broken rest => absorb fuel (replacement :: text) rest
      | .unfinished => ⟨text, bytes⟩

def push (s : Stream) (piece : List UInt8) : Stream :=
  let bytes := s.held ++ piece
  absorb (bytes.length + 1) s.text bytes

/-- The text decoded so far, without the bytes held back. -/
def soFar (s : Stream) : List Char :=
  s.text.reverse

def finish (s : Stream) : List Char :=
  s.text.reverse ++ decodeLossy s.held

end Stream

end Utf8

end LinkHygiene
