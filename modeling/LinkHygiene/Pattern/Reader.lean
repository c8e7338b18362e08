import LinkHygiene.Pattern.Flags
import LinkHygiene.Text.Blank
import LinkHygiene.Text.Split
import LinkHygiene.Unicode.Table

/-!
# Reading pieces of patterns

The pieces a written pattern consists of: escapes, names, numbers, flags. A reader
carries what is left of the text, the flags in force and the groups opened so far;
it fails on text that is no pattern.

With the flag `extended` on, blanks and comments between the pieces do not count.
-/

namespace LinkHygiene

namespace Pattern

structure Reader where
  rest : List Char
  flags : Flags := {}
  groups : Nat := 0
  names : List (String × Nat) := []

abbrev Read := StateT Reader Option

def dropRemarks : (inComment : Bool) → List Char → List Char
  | _, [] => []
  | true, c :: s => dropRemarks (c != '\n') s
  | false, c :: s =>
      if Text.isBlank c then dropRemarks false s
      else if c = '#' then dropRemarks true s
      else c :: s

def rest : Read (List Char) :=
  Reader.rest <$> get

def flags : Read Flags :=
  Reader.flags <$> get

def setRest (s : List Char) : Read Unit :=
  modify fun r => { r with rest := s }

def setFlags (f : Flags) : Read Unit :=
  modify fun r => { r with flags := f }

def skip : Read Unit :=
  modify fun r => if r.flags.extended then { r with rest := dropRemarks false r.rest } else r

def pass : Read Unit :=
  modify fun r => { r with rest := r.rest.tail }

/-- Passes one character and moves on to the next one that counts; there must be one. -/
def advance : Read Unit := do
  pass
  skip
  match ← rest with
  | [] => failure
  | _ :: _ => pure ()

def peek : Read Char := do
  match ← rest with
  | [] => failure
  | c :: _ => pure c

def accept (lead : List Char) : Read Bool := do
  match Text.afterPrefix? lead (← rest) with
  | some s =>
      setRest s
      pure true
  | none => pure false

def demand {α : Type} : Option α → Read α
  | some a => pure a
  | none => failure

/-! ## Characters that count, one after the other -/

/-- The characters up to one for which `stop` holds; those left out do not count. -/
def spanFuel (stop : Char → Bool) : (fuel : Nat) → Reader → List Char × Reader
  | 0, r => ([], r)
  | fuel + 1, r =>
      match r.rest with
      | [] => ([], r)
      | c :: s =>
          if stop c then ([], r)
          else
            let s := if r.flags.extended then dropRemarks false s else s
            let (cs, r) := spanFuel stop fuel { r with rest := s }
            (c :: cs, r)

def span (stop : Char → Bool) : Read (List Char) :=
  fun r => some (spanFuel stop r.rest.length r)

/-! ## Numbers -/

def isDigit (c : Char) : Bool :=
  '0' ≤ c && c ≤ '9'

def maxCount : Nat := 4294967295

def decimalValue (digits : List Char) : Nat :=
  digits.foldl (fun n c => n * 10 + (c.toNat - '0'.toNat)) 0

/-- A number with blanks around it; `none` if there are no digits. -/
def readCount : Read (Option Nat) := do
  modify fun r => { r with rest := r.rest.dropWhile Text.isBlank }
  let digits ← span (fun c => !isDigit c)
  let _ ← span (fun c => !Text.isBlank c)
  if digits.isEmpty then pure none
  else
    let n := decimalValue digits
    if maxCount < n then failure else pure (some n)

def hexValue? (digits : List Char) : Option Nat :=
  digits.foldl (fun n c => do
    let n ← n
    let d ← Unicode.hexDigit? c
    pure (n * 16 + d)) (some 0)

def charOf? (n : Nat) : Option Char :=
  if n.isValidChar then some (Char.ofNat n) else none

def readDigits : (count : Nat) → Read (List Char)
  | 0 => pure []
  | 1 => do
      let c ← peek
      pass
      skip
      pure [c]
  | count + 1 => do
      let c ← peek
      advance
      let rest ← readDigits count
      pure (c :: rest)

/-! ## Escapes -/

inductive Atom where
  /-- A character; `byte` tells that it is written as two hexadecimal digits. -/
  | char (c : Char) (byte : Bool)
  | set (s : CharSet)
  | look (what : Look)

def hexWidth (letter : Char) : Nat :=
  if letter = 'x' then 2 else if letter = 'u' then 4 else 8

def readHex (letter : Char) : Read Atom := do
  advance
  if (← peek) = '\x7b' then
    advance
    let digits ← span (· == '\x7d')
    let _ ← peek
    pass
    skip
    if digits.isEmpty then failure
    else pure (.char (← demand ((hexValue? digits).bind charOf?)) false)
  else
    let digits ← readDigits (hexWidth letter)
    pure (.char (← demand ((hexValue? digits).bind charOf?)) (letter == 'x'))

/-- A property name taken apart at the sign between property and value. -/
def propertyOf? (name : List Char) : Option (Bool × CharSet) :=
  let valued := fun (parts : List Char × List Char) =>
    CharSet.valued? (CharSet.plainName parts.1) (CharSet.plainName parts.2)
  match Text.cut? ['!', '='] name with
  | some parts => (valued parts).map (true, ·)
  | none =>
      match (Text.cut? [':'] name).or (Text.cut? ['='] name) with
      | some parts => (valued parts).map (false, ·)
      | none => (CharSet.named? (CharSet.plainName name)).map (false, ·)

def readProperty (letter : Char) : Read Atom := do
  advance
  let c ← peek
  let name ←
    if c = '\x7b' then do
      advance
      let name ← span (· == '\x7d')
      let _ ← peek
      pass
      pure name
    else if c = '\\' then failure
    else do
      pass
      skip
      pure [c]
  let f ← flags
  if !f.unicode then failure
  else
    let (flipped, s) ← demand (propertyOf? name)
    pure (.set (← demand (f.finish? ((letter == 'P') != flipped) s)))

/-- Edges of words that are named in braces. -/
def namedEdge? (unicode : Bool) (name : List Char) : Option Look :=
  if name = "start".toList then some (.wordStart unicode)
  else if name = "end".toList then some (.wordEnd unicode)
  else if name = "start-half".toList then some (.noWordBefore unicode)
  else if name = "end-half".toList then some (.noWordAfter unicode)
  else none

def isEdgeChar (c : Char) : Bool :=
  c.isAlpha || c == '-'

/-- The edge of a word; braces that hold no name are left for a count. -/
def readEdge : Read Atom := do
  let unicode := (← flags).unicode
  match ← rest with
  | '\x7b' :: _ =>
      let before ← rest
      advance
      if isEdgeChar (← peek) then
        let name ← span (fun c => !isEdgeChar c)
        if (← peek) = '\x7d' then
          pass
          pure (.look (← demand (namedEdge? unicode name)))
        else failure
      else
        setRest before
        pure (.look (.wordEdge unicode))
  | _ => pure (.look (.wordEdge unicode))

def isEscapable (c : Char) : Bool :=
  c.toNat < 128 && !c.isAlphanum && c != '<' && c != '>'

def readEscape : Read Atom := do
  pass
  let c ← peek
  if isDigit c then failure
  else if c = 'x' || c = 'u' || c = 'U' then readHex c
  else if c = 'p' || c = 'P' then readProperty c
  else
    pass
    let f ← flags
    if isEscapable c then pure (.char c false)
    else
      match c with
      | 'a' => pure (.char '\x07' false)
      | 'f' => pure (.char '\x0C' false)
      | 't' => pure (.char '\t' false)
      | 'n' => pure (.char '\n' false)
      | 'r' => pure (.char '\r' false)
      | 'v' => pure (.char '\x0B' false)
      | 'A' => pure (.look .textStart)
      | 'z' => pure (.look .textEnd)
      | 'b' => readEdge
      | 'B' => pure (.look (.wordInside f.unicode))
      | '<' => pure (.look (.wordStart f.unicode))
      | '>' => pure (.look (.wordEnd f.unicode))
      | c => pure (.set (← demand (f.lettered? c)))

/-! ## Flags and names -/

def flagsUntil : List Char → List Flag → Option (List Flag × List Char)
  | [], _ => none
  | c :: s, found =>
      if c = ':' || c = ')' then
        if found.head? = some .negation then none else some (found.reverse, c :: s)
      else do
        let flag ← Flag.ofChar? c
        if found.contains flag then none else flagsUntil s (flag :: found)

def isNameStart (c : Char) : Bool :=
  c == '_' || CharSet.alphabetic.mem c

def isNameChar (c : Char) : Bool :=
  isNameStart c || c == '.' || c == '[' || c == ']' || CharSet.numbers.mem c

/-- The name of a group, which must be new. -/
def readName : Read String := do
  let s ← rest
  let name := s.takeWhile (· != '>')
  match s.dropWhile (· != '>') with
  | [] => failure
  | _ :: s =>
      match name with
      | [] => failure
      | c :: cs =>
          if isNameStart c && cs.all isNameChar then
            let name := String.ofList name
            if (← get).names.any (·.1 == name) then failure
            else
              setRest s
              pure name
          else failure

def newGroup (name : Option String) : Read Nat := do
  let r ← get
  let index := r.groups + 1
  let names := match name with
    | some name => r.names ++ [(name, index)]
    | none => r.names
  set { r with groups := index, names }
  pure index

end Pattern

end LinkHygiene
