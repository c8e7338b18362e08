import LinkHygiene.Pattern.Bracket

/-!
# Reading patterns

A written pattern becomes a node: pieces in a row, branches between bars, groups
in parentheses, and counts behind what they repeat. Text that is no pattern is
refused, and so is a pattern that is nested too deep or unfolds into too much.
-/

namespace LinkHygiene

namespace Pattern

/-- A node, how deep it is nested, and whether a count may follow it. -/
structure Part where
  node : Node
  depth : Nat
  repeatable : Bool

def maxDepth : Nat := 250

namespace Part

def leaf (node : Node) : Part :=
  ⟨node, 0, true⟩

/-- A change of flags stands for nothing and cannot be repeated. -/
def flagChange : Part :=
  ⟨.empty, 0, false⟩

def seqOf : List Node → Node
  | [] => .empty
  | [a] => a
  | a :: rest => .seq a (seqOf rest)

def altOf : List Node → Node
  | [] => .empty
  | [a] => a
  | a :: rest => .alt a (altOf rest)

def inRow (parts : List Part) : Part :=
  match parts with
  | [part] => part
  | [] => leaf .empty
  | parts =>
      ⟨seqOf ((parts.reverse.filter (·.repeatable)).map (·.node)),
        deepest (parts.map (·.depth)) + 1, true⟩

def branches (parts : List Part) : Part :=
  match parts with
  | [part] => part
  | parts => ⟨altOf (parts.reverse.map (·.node)), deepest (parts.map (·.depth)) + 1, true⟩

end Part

/-! ## Counts -/

structure Count where
  least : Nat
  most : Option Nat

def readBraces : Read Count := do
  advance
  let least ← readCount
  match ← peek with
  | ',' =>
      advance
      let least ← demand least
      if (← peek) = '\x7d' then pure ⟨least, none⟩
      else
        let most ← demand (← readCount)
        if (← peek) = '\x7d' && least ≤ most then pure ⟨least, some most⟩ else failure
  | '\x7d' =>
      let n ← demand least
      pure ⟨n, some n⟩
  | _ => failure

/-- A count, after which a question mark makes the repetition lazy. -/
def readRepetition (sign : Char) : Read (Count × Bool) := do
  let count ← (match sign with
    | '?' => pure ⟨0, some 1⟩
    | '*' => pure ⟨0, none⟩
    | '+' => pure ⟨1, none⟩
    | _ => readBraces)
  pass
  if sign = '\x7b' then skip
  let lazy ← accept ['?']
  pure (count, !lazy)

def repeatLast (f : Flags) (count : Count) (greedy : Bool) :
    List Part → Option (List Part)
  | [] => none
  | part :: parts =>
      if part.repeatable then
        some (⟨part.node.times count.least count.most (greedy != f.swapGreed),
          part.depth + 1, true⟩ :: parts)
      else none

/-! ## Groups -/

inductive Opening where
  | flagChange
  | plain
  | capture (index : Nat)

/-- Reads up to the contents of a group. The flags of a group hold inside it. -/
def openGroup : Read Opening := do
  pass
  skip
  match ← rest with
  | '?' :: '=' :: _ => failure
  | '?' :: '!' :: _ => failure
  | '?' :: '<' :: '=' :: _ => failure
  | '?' :: '<' :: '!' :: _ => failure
  | '?' :: 'P' :: '<' :: s => do
      setRest s
      pure (.capture (← newGroup (some (← readName))))
  | '?' :: '<' :: s => do
      setRest s
      pure (.capture (← newGroup (some (← readName))))
  | '?' :: s =>
      let (found, s) ← demand (flagsUntil s [])
      setRest s.tail
      setFlags ((← flags).update true found)
      if s.head? = some ':' then pure .plain
      else if found.isEmpty then failure
      else pure .flagChange
  | _ => pure (.capture (← newGroup none))

def Opening.wrap (opening : Opening) (body : Part) : Part :=
  match opening with
  | .capture index => ⟨.group index body.node, body.depth + 1, true⟩
  | _ => ⟨body.node, body.depth + 1, true⟩

/-! ## Whole patterns -/

def Atom.part? (f : Flags) : Atom → Option Part
  | .char c byte =>
      if byte && !f.unicode && 128 ≤ c.toNat then none
      else some (.leaf (.one (f.char c)))
  | .set s => some (.leaf (.one s))
  | .look what => some (.leaf (.look what))

def readPiece (c : Char) : Read Part := do
  let f ← flags
  match c with
  | '\\' => demand ((← readEscape).part? f)
  | '.' => do
      pass
      pure (.leaf (.one (← demand f.dot?)))
  | '^' => do
      pass
      pure (.leaf (.look f.caret))
  | '$' => do
      pass
      pure (.leaf (.look f.dollar))
  | c => do
      pass
      pure (.leaf (.one (f.char c)))

/--
The branches up to a closing parenthesis or the end of the text. `done` holds the
branches before this one and `parts` what has been read of it, the latest first.
Every round takes a character.
-/
def readBranches : (fuel : Nat) → (done parts : List Part) → Read Part
  | 0, _, _ => failure
  | fuel + 1, done, parts => do
      skip
      match ← rest with
      | [] => pure (.branches (.inRow parts :: done))
      | ')' :: _ => pure (.branches (.inRow parts :: done))
      | '|' :: s =>
          setRest s
          readBranches fuel (.inRow parts :: done) []
      | '(' :: _ =>
          let outside ← flags
          match ← openGroup with
          | .flagChange => readBranches fuel done (.flagChange :: parts)
          | opening =>
              let body ← readBranches fuel [] []
              if ← accept [')'] then
                setFlags outside
                readBranches fuel done (opening.wrap body :: parts)
              else failure
      | '[' :: _ =>
          let part ← readSet fuel (← openBracket)
          readBranches fuel done (⟨.one part.set, part.depth, true⟩ :: parts)
      | c :: _ =>
          if c = '?' || c = '*' || c = '+' || c = '\x7b' then
            let (count, greedy) ← readRepetition c
            let f ← flags
            readBranches fuel done (← demand (repeatLast f count greedy parts))
          else readBranches fuel done ((← readPiece c) :: parts)

end Pattern

/-! ## How much a pattern unfolds into -/

namespace CharSet

def breadth : CharSet → Nat
  | none => 1
  | range _ _ => 1
  | table set => set.ranges.size
  | union a b => a.breadth + b.breadth
  | inter a b => a.breadth + b.breadth
  | compl a => a.breadth + 16
  | folded a => a.breadth + 1
  | asciiFolded a => a.breadth + 1

end CharSet

namespace Pattern

def repeatedCost (cost least : Nat) (most : Option Nat) : Nat :=
  match most with
  | some most => least * cost + (most - least) * (cost + 1)
  | none => max least 1 * cost + 2

/-- The size of a pattern when all its counts are written out. -/
def Node.cost : Node → Nat
  | .empty => 1
  | .one set => set.breadth
  | .look _ => 1
  | .seq a b => a.cost + b.cost
  | .alt a b => a.cost + b.cost + 1
  | .group _ a => a.cost + 2
  | .run set least most _ => repeatedCost set.breadth least most
  | .loop a least most _ => repeatedCost a.cost least most

def maxCost : Nat := 327680

def ofText? (text : String) : Option Pattern :=
  let fuel := 2 * text.length + 2
  match (readBranches fuel [] []).run { rest := text.toList } with
  | none => none
  | some (part, reader) =>
      if reader.rest.isEmpty && part.depth ≤ maxDepth && part.node.cost ≤ maxCost then
        some ⟨text, part.node, reader.names⟩
      else none

end Pattern

end LinkHygiene
