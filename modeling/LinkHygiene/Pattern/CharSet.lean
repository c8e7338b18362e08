import LinkHygiene.Unicode.Folding

/-!
# Sets of characters

What one position of a pattern may match. A set is kept as the expression that
builds it, and membership is computed along that expression.
-/

namespace LinkHygiene

inductive CharSet where
  | none
  | range (first last : Char)
  | table (set : Unicode.RangeSet)
  | union (a b : CharSet)
  | inter (a b : CharSet)
  | compl (a : CharSet)
  /-- Closed under case variants of all letters. -/
  | folded (a : CharSet)
  /-- Closed under case variants of the letters A to Z. -/
  | asciiFolded (a : CharSet)
deriving Inhabited

namespace CharSet

/-- The other case of a letter A to Z; any other character itself. -/
def otherCase (c : Char) : Char :=
  if 'A' ≤ c && c ≤ 'Z' then Char.ofNat (c.toNat + 32)
  else if 'a' ≤ c && c ≤ 'z' then Char.ofNat (c.toNat - 32)
  else c

def mem (c : Char) : CharSet → Bool
  | none => false
  | range first last => first ≤ c && c ≤ last
  | table set => set.contains c
  | union a b => a.mem c || b.mem c
  | inter a b => a.mem c && b.mem c
  | compl a => !a.mem c
  | folded a => (Unicode.caseVariants c).any fun d => a.mem d
  | asciiFolded a => a.mem c || a.mem (otherCase c)

@[simp] theorem mem_range (c first last : Char) :
    (range first last).mem c = (decide (first ≤ c) && decide (c ≤ last)) := rfl

@[simp] theorem mem_union (c : Char) (a b : CharSet) :
    (union a b).mem c = (a.mem c || b.mem c) := rfl

def one (c : Char) : CharSet :=
  range c c

def any : CharSet :=
  compl none

def diff (a b : CharSet) : CharSet :=
  inter a (compl b)

def symmDiff (a b : CharSet) : CharSet :=
  union (diff a b) (diff b a)

def ofList : List CharSet → CharSet
  | [] => none
  | [a] => a
  | a :: rest => union a (ofList rest)

def ofChars (cs : List Char) : CharSet :=
  ofList (cs.map one)

/-! ## Sets of ASCII characters -/

def digits : CharSet := range '0' '9'
def lowers : CharSet := range 'a' 'z'
def uppers : CharSet := range 'A' 'Z'
def letters : CharSet := union uppers lowers

/-- The sets that go by a name between brackets and colons. -/
def asciiNamed? (name : String) : Option CharSet :=
  match name with
  | "alnum" => some (union digits letters)
  | "alpha" => some letters
  | "ascii" => some (range '\x00' '\x7F')
  | "blank" => some (ofChars ['\t', ' '])
  | "cntrl" => some (union (range '\x00' '\x1F') (one '\x7F'))
  | "digit" => some digits
  | "graph" => some (range '!' '~')
  | "lower" => some lowers
  | "print" => some (range ' ' '~')
  | "punct" =>
      some (ofList [range '!' '/', range ':' '@', range '[' (Char.ofNat 0x60),
        range '\x7b' '~'])
  | "space" => some (union (range '\t' '\r') (one ' '))
  | "upper" => some uppers
  | "word" => some (ofList [digits, letters, one '_'])
  | "xdigit" => some (ofList [digits, range 'A' 'F', range 'a' 'f'])
  | _ => Option.none

end CharSet

end LinkHygiene
