import LinkHygiene.Pattern.Reader

/-!
# Sets in brackets

The sets that a pattern spells out: characters, ranges, named sets and sets in
brackets of their own, joined by union, or combined by intersection, difference
and symmetric difference, which all bind alike and to the left.
-/

namespace LinkHygiene

namespace Pattern

/-- A set, and how deep its expression is nested. -/
structure SetPart where
  set : CharSet
  depth : Nat

inductive SetOp where
  | inter
  | diff
  | symmDiff
deriving Repr, DecidableEq

def SetOp.apply (op : SetOp) (a b : CharSet) : CharSet :=
  match op with
  | .inter => .inter a b
  | .diff => .diff a b
  | .symmDiff => .symmDiff a b

structure Bracket where
  negated : Bool
  /-- The members since the last operator, the latest first. -/
  members : List SetPart
  /-- What stands before the last operator. -/
  left : Option (SetOp × SetPart)

def deepest (depths : List Nat) : Nat :=
  depths.foldl max 0

namespace Bracket

def add (b : Bracket) (part : SetPart) : Bracket :=
  { b with members := part :: b.members }

def union (b : Bracket) : SetPart :=
  match b.members with
  | [] => ⟨.none, 0⟩
  | [part] => part
  | parts => ⟨.ofList (parts.reverse.map (·.set)), deepest (parts.map (·.depth)) + 1⟩

def value (f : Flags) (b : Bracket) : SetPart :=
  match b.left with
  | none => b.union
  | some (op, left) =>
      ⟨op.apply (f.fold left.set) (f.fold b.union.set),
        max left.depth b.union.depth + 1⟩

def operator (f : Flags) (b : Bracket) (op : SetOp) : Bracket :=
  { b with members := [], left := some (op, b.value f) }

def close? (f : Flags) (b : Bracket) : Option SetPart := do
  let part := b.value f
  let set ← f.finish? b.negated part.set
  pure ⟨set, part.depth + 1⟩

end Bracket

def charMember (f : Flags) (c : Char) : Option SetPart :=
  if !f.unicode && 128 ≤ c.toNat then none else some ⟨.one c, 0⟩

/-- Opens a bracket: hyphens first, or else one closing bracket, stand for themselves. -/
def openBracket : Read Bracket := do
  advance
  let negated ← (do
    if (← peek) = '^' then
      advance
      pure true
    else pure false)
  let f ← flags
  let hyphens ← span (· != '-')
  let _ ← peek
  if !hyphens.isEmpty then
    pure ⟨negated, hyphens.map fun _ => ⟨.one '-', 0⟩, none⟩
  else if (← peek) = ']' then
    advance
    pure ⟨negated, (charMember f ']').toList, none⟩
  else pure ⟨negated, [], none⟩

/-- A named set such as `[:alpha:]`, and what follows it. -/
def namedSet? (s : List Char) : Option (Bool × CharSet × List Char) := do
  let s ← Text.afterPrefix? ['[', ':'] s
  let (negated, s) := match s with
    | '^' :: s => (true, s)
    | s => (false, s)
  let name := s.takeWhile (· != ':')
  let s ← Text.afterPrefix? [':', ']'] (s.dropWhile (· != ':'))
  let set ← CharSet.asciiNamed? (String.ofList name)
  pure (negated, set, s)

def readMember : Read Atom := do
  let c ← peek
  if c = '\\' then readEscape
  else
    pass
    pure (.char c false)

def Atom.member? (f : Flags) : Atom → Option SetPart
  | .char c _ => charMember f c
  | .set s => some ⟨s, 0⟩
  | .look _ => none

def Atom.bound? (f : Flags) : Atom → Option Char
  | .char c _ => if !f.unicode && 128 ≤ c.toNat then none else some c
  | _ => none

/-- The sign after the next one; blanks and one comment sign do not count. -/
def signAfter (f : Flags) (s : List Char) : Option Char :=
  if f.extended then
    match s.tail.dropWhile Text.isBlank with
    | '#' :: s => (s.dropWhile Text.isBlank).head?
    | s => s.head?
  else s.tail.head?

def readRange : Read SetPart := do
  let f ← flags
  let first ← readMember
  skip
  let c ← peek
  let beyond := signAfter f (← rest)
  if c != '-' || beyond = some ']' || beyond = some '-' then demand (first.member? f)
  else
    advance
    let last ← readMember
    let a ← demand (first.bound? f)
    let b ← demand (last.bound? f)
    if b < a then failure else pure ⟨.range a b, 0⟩

/-- The rest of a set in brackets. Every round takes a character. -/
def readSet : (fuel : Nat) → Bracket → Read SetPart
  | 0, _ => failure
  | fuel + 1, b => do
      skip
      let f ← flags
      match ← rest with
      | [] => failure
      | '[' :: _ =>
          match namedSet? (← rest) with
          | some (negated, set, s) =>
              setRest s
              readSet fuel (b.add ⟨← demand (f.finish? negated set), 0⟩)
          | none =>
              let inner ← readSet fuel (← openBracket)
              readSet fuel (b.add inner)
      | ']' :: s =>
          setRest s
          demand (b.close? f)
      | '&' :: '&' :: s =>
          setRest s
          readSet fuel (b.operator f .inter)
      | '-' :: '-' :: s =>
          setRest s
          readSet fuel (b.operator f .diff)
      | '~' :: '~' :: s =>
          setRest s
          readSet fuel (b.operator f .symmDiff)
      | _ => readSet fuel (b.add (← readRange))

end Pattern

end LinkHygiene
