import LinkHygiene.Pattern.Basic
import LinkHygiene.Text.Split

/-!
# Replacements

What a match is replaced by. A template is text in which a dollar sign refers to
a group, by number or by name, with or without braces; two dollar signs stand for
one. A reference to a group that does not exist or takes no part stands for
nothing.
-/

namespace LinkHygiene

namespace Pattern

inductive Piece where
  | char (c : Char)
  | group (index : Nat)
  | named (name : String)
deriving Repr, DecidableEq

namespace Piece

def isNameChar (c : Char) : Bool :=
  c.isAlphanum || c == '_'

/-- Group numbers beyond this are read as names. -/
def maxIndex : Nat := 18446744073709551615

def digitsValue (digits : List Char) : Nat :=
  digits.foldl (fun n c => n * 10 + (c.toNat - '0'.toNat)) 0

/-- A number; a plus sign may stand before it. -/
def index? (s : List Char) : Option Nat :=
  let digits := match s with
    | '+' :: digits => digits
    | digits => digits
  if digits.isEmpty || !digits.all Char.isDigit then none
  else if maxIndex < digitsValue digits then none
  else some (digitsValue digits)

def ofReference (s : List Char) : Piece :=
  match index? s with
  | some index => group index
  | none => named (String.ofList s)

def reference? (s : List Char) : Option (Piece × List Char) :=
  match s with
  | '\x7b' :: s =>
      match Text.breakAt (· == '\x7d') s with
      | (_, []) => none
      | (inside, _ :: s) => some (ofReference inside, s)
  | s =>
      match Text.breakAt (fun c => !isNameChar c) s with
      | ([], _) => none
      | (name, s) => some (ofReference name, s)

/-- The pieces of a template. Every round takes a character. -/
def ofTextFuel : (fuel : Nat) → List Char → List Piece
  | 0, _ => []
  | _ + 1, [] => []
  | fuel + 1, '$' :: '$' :: s => char '$' :: ofTextFuel fuel s
  | fuel + 1, '$' :: s =>
      match reference? s with
      | some (piece, s) => piece :: ofTextFuel fuel s
      | none => char '$' :: ofTextFuel fuel s
  | fuel + 1, c :: s => char c :: ofTextFuel fuel s

def ofText (template : List Char) : List Piece :=
  ofTextFuel (template.length + 1) template

def expand (names : List (String × Nat)) (m : Match) : Piece → List Char
  | char c => [c]
  | group index => (m.group? index).getD []
  | named name =>
      match names.find? (·.1 == name) with
      | some (_, index) => (m.group? index).getD []
      | none => []

end Piece

def expand (p : Pattern) (template : String) (m : Match) : List Char :=
  (Piece.ofText template.toList).flatMap (Piece.expand p.names m)

/-- A text with the first match replaced; the text itself if there is none. -/
def replaceFirst (p : Pattern) (template : String) (text : List Char) : List Char :=
  match p.find? text with
  | some m => m.before ++ p.expand template m ++ m.after
  | none => text

def capture? (p : Pattern) (index : Nat) (text : List Char) : Option (List Char) :=
  (p.find? text).bind fun m => m.group? index

end Pattern

end LinkHygiene
