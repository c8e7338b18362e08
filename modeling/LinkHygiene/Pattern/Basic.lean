import LinkHygiene.Pattern.Property

/-!
# Patterns and their matches

A pattern describes texts; a match is a place in a text that it describes.
Alternatives are tried from left to right and repetitions prefer as many rounds
as possible, or as few when they are lazy; the first way to match that is found
this way is the match.

`Node.walk` is written with a continuation: it tries the ways in which a node can
match at a place, in order of preference, until what follows accepts one. All
recursion is on the node, on a round count, or on the characters that are left.
-/

namespace LinkHygiene

namespace Pattern

inductive Look where
  | textStart
  | textEnd
  | lineStart
  | lineEnd
  /-- As `lineStart`, where a carriage return also ends a line. -/
  | returnLineStart
  | returnLineEnd
  | wordEdge (unicode : Bool)
  | wordInside (unicode : Bool)
  | wordStart (unicode : Bool)
  | wordEnd (unicode : Bool)
  | noWordBefore (unicode : Bool)
  | noWordAfter (unicode : Bool)
deriving Repr, DecidableEq

inductive Node where
  | empty
  | one (set : CharSet)
  | look (what : Look)
  | seq (a b : Node)
  | alt (a b : Node)
  | group (index : Nat) (a : Node)
  /-- One character of a set, again and again. -/
  | run (set : CharSet) (least : Nat) (most : Option Nat) (greedy : Bool)
  | loop (a : Node) (least : Nat) (most : Option Nat) (greedy : Bool)
deriving Inhabited

/-- A place in a text: the character before it and what follows it. -/
structure Place where
  index : Nat
  before : Option Char
  rest : List Char
deriving Repr, DecidableEq

namespace Place

def start (text : List Char) : Place :=
  ⟨0, none, text⟩

def step? (set : CharSet) (p : Place) : Option Place :=
  match p.rest with
  | c :: rest => if set.mem c then some ⟨p.index + 1, some c, rest⟩ else none
  | [] => none

def textTo (p q : Place) : List Char :=
  p.rest.take (q.index - p.index)

def isWordBefore (unicode : Bool) (p : Place) : Bool :=
  match p.before with
  | some c => (if unicode then CharSet.wordChars else CharSet.asciiWordChars).mem c
  | none => false

def isWordAfter (unicode : Bool) (p : Place) : Bool :=
  match p.rest with
  | c :: _ => (if unicode then CharSet.wordChars else CharSet.asciiWordChars).mem c
  | [] => false

def after? (p : Place) : Option Char :=
  p.rest.head?

end Place

def Look.holds (p : Place) : Look → Bool
  | .textStart => p.before.isNone
  | .textEnd => p.rest.isEmpty
  | .lineStart => p.before.isNone || p.before == some '\n'
  | .lineEnd => p.rest.isEmpty || p.after? == some '\n'
  | .returnLineStart =>
      p.before.isNone || p.before == some '\n' ||
        (p.before == some '\r' && p.after? != some '\n')
  | .returnLineEnd =>
      p.rest.isEmpty || p.after? == some '\r' ||
        (p.after? == some '\n' && p.before != some '\r')
  | .wordEdge u => p.isWordBefore u != p.isWordAfter u
  | .wordInside u => p.isWordBefore u == p.isWordAfter u
  | .wordStart u => !p.isWordBefore u && p.isWordAfter u
  | .wordEnd u => p.isWordBefore u && !p.isWordAfter u
  | .noWordBefore u => !p.isWordBefore u
  | .noWordAfter u => !p.isWordAfter u

/-- Where the groups of a pattern have matched, from place to place, the latest first. -/
abbrev Groups := List (Nat × Place × Place)

abbrev After := Place → Groups → Option (Place × Groups)

def either (prefer : Bool) (a b : Unit → Option (Place × Groups)) :
    Option (Place × Groups) :=
  if prefer then (a ()).or (b ()) else (b ()).or (a ())

/-! ## Repeating one character -/

/-- The places reached by characters of a set, the farthest first, at most `most` of them. -/
def reachFrom (set : CharSet) : (most : Option Nat) → (passed : List Place) →
    (p : Place) → (rest : List Char) → List Place
  | _, passed, p, [] => p :: passed
  | most, passed, p, c :: rest =>
      if most = some 0 then p :: passed
      else if set.mem c then
        reachFrom set (most.map (· - 1)) (p :: passed) ⟨p.index + 1, some c, rest⟩ rest
      else p :: passed

/-- The places where a repetition of characters may end, in order of preference. -/
def runEnds (set : CharSet) (least : Nat) (most : Option Nat) (greedy : Bool)
    (p : Place) : List Place :=
  let reached := reachFrom set most [] p p.rest
  let allowed := reached.take (reached.length - least)
  if greedy then allowed else allowed.reverse

/-! ## Repeating a node -/

abbrev Step := After → After

def rounds (step : Step) : (n : Nat) → Step
  | 0, next => next
  | n + 1, next => step (rounds step n next)

def upTo (step : Step) (greedy : Bool) : (n : Nat) → Step
  | 0, next => next
  | n + 1, next => fun p gs =>
      either greedy (fun _ => step (upTo step greedy n next) p gs) (fun _ => next p gs)

/--
More rounds after one that has moved on. Each of them has to move on as well, so
the characters that are left bound their number.
-/
def more (step : Step) (greedy : Bool) (next : After) : (left : List Char) → After
  | [], p, gs => next p gs
  | _ :: left, p, gs =>
      either greedy
        (fun _ => step
          (fun q gs => if p.index < q.index then more step greedy next left q gs else none)
          p gs)
        (fun _ => next p gs)

/-- One round or more. A first round that stays where it is ends the repetition. -/
def oneOrMore (step : Step) (greedy : Bool) : Step :=
  fun next p gs => step
    (fun q gs =>
      if p.index < q.index then more step greedy next q.rest q gs else next q gs)
    p gs

def anyRounds (step : Step) (greedy : Bool) : Step :=
  fun next p gs =>
    either greedy (fun _ => oneOrMore step greedy next p gs) (fun _ => next p gs)

def repeated (step : Step) (least : Nat) (most : Option Nat) (greedy : Bool) : Step :=
  match most with
  | some most => fun next => rounds step least (upTo step greedy (most - least) next)
  | none =>
      match least with
      | 0 => anyRounds step greedy
      | n + 1 => fun next => rounds step n (oneOrMore step greedy next)

namespace Node

def walk : Node → Step
  | empty, next => next
  | one set, next => fun p gs =>
      match p.step? set with
      | some q => next q gs
      | none => none
  | look what, next => fun p gs => if what.holds p then next p gs else none
  | seq a b, next => a.walk (b.walk next)
  | alt a b, next => fun p gs => (a.walk next p gs).or (b.walk next p gs)
  | group index a, next => fun p gs =>
      a.walk (fun q gs => next q ((index, p, q) :: gs)) p gs
  | run set least most greedy, next => fun p gs =>
      (runEnds set least most greedy p).findSome? fun q => next q gs
  | loop a least most greedy, next => repeated a.walk least most greedy next

/-- Repeats a node; a single character is repeated without branching. -/
def times (a : Node) (least : Nat) (most : Option Nat) (greedy : Bool) : Node :=
  match a with
  | one set => run set least most greedy
  | a => loop a least most greedy

end Node

end Pattern

structure Pattern where
  source : String
  node : Pattern.Node
  names : List (String × Nat)

structure Match where
  before : List Char
  matched : List Char
  after : List Char
  groups : Pattern.Groups
deriving Repr, DecidableEq

namespace Match

def group? (m : Match) (index : Nat) : Option (List Char) :=
  if index = 0 then some m.matched
  else (m.groups.find? fun entry => entry.1 == index).map fun entry =>
    entry.2.1.textTo entry.2.2

end Match

namespace Pattern

def matchAt (node : Node) (p : Place) : Option (Place × Groups) :=
  node.walk (fun q gs => some (q, gs)) p []

/-- The first match at or after a place; `passed` holds the text before it, in reverse. -/
def searchFrom (node : Node) : (passed : List Char) → (p : Place) →
    (rest : List Char) → Option Match
  | passed, p, rest =>
      match matchAt node p with
      | some (q, gs) => some ⟨passed.reverse, p.textTo q, q.rest, gs⟩
      | none =>
          match rest with
          | [] => none
          | c :: rest => searchFrom node (c :: passed) ⟨p.index + 1, some c, rest⟩ rest

def find? (p : Pattern) (text : List Char) : Option Match :=
  searchFrom p.node [] (.start text) text

def isMatch (p : Pattern) (text : String) : Bool :=
  (p.find? text.toList).isSome

/-- All matches, each behind the one before; every search begins farther on. -/
def matchesFrom (p : Pattern) : (fuel : Nat) → Place → List Match
  | 0, _ => []
  | fuel + 1, place =>
      match searchFrom p.node [] place place.rest with
      | none => []
      | some m =>
          match m.matched.reverse with
          | last :: _ =>
              m :: matchesFrom p fuel
                ⟨place.index + m.before.length + m.matched.length, some last, m.after⟩
          | [] =>
              match m.after with
              | [] => [m]
              | c :: after =>
                  m :: matchesFrom p fuel ⟨place.index + m.before.length + 1, some c, after⟩

/-- All matches, from left to right; each says what stands between it and the one before. -/
def matchesIn (p : Pattern) (text : List Char) : List Match :=
  matchesFrom p (text.length + 1) (.start text)

def findAll (p : Pattern) (text : List Char) : List (List Char) :=
  (p.matchesIn text).map (·.matched)

end Pattern

end LinkHygiene
