import LinkHygiene.Pattern.Basic

/-!
# Flags

The switches that decide what the parts of a pattern mean: whether case counts,
what a line is, which characters there are. With `unicode` off a pattern speaks
of ASCII only, and whatever could match anything else is refused.
-/

namespace LinkHygiene

namespace Pattern

structure Flags where
  ignoreCase : Bool := false
  multiLine : Bool := false
  dotAll : Bool := false
  swapGreed : Bool := false
  unicode : Bool := true
  returns : Bool := false
  extended : Bool := false
deriving Repr, DecidableEq

inductive Flag where
  | ignoreCase
  | multiLine
  | dotAll
  | swapGreed
  | unicode
  | returns
  | extended
  /-- What follows is switched off. -/
  | negation
deriving Repr, DecidableEq

def Flag.ofChar? (c : Char) : Option Flag :=
  match c with
  | 'i' => some .ignoreCase
  | 'm' => some .multiLine
  | 's' => some .dotAll
  | 'U' => some .swapGreed
  | 'u' => some .unicode
  | 'R' => some .returns
  | 'x' => some .extended
  | '-' => some .negation
  | _ => none

namespace Flags

def set (f : Flags) (flag : Flag) (value : Bool) : Flags :=
  match flag with
  | .ignoreCase => { f with ignoreCase := value }
  | .multiLine => { f with multiLine := value }
  | .dotAll => { f with dotAll := value }
  | .swapGreed => { f with swapGreed := value }
  | .unicode => { f with unicode := value }
  | .returns => { f with returns := value }
  | .extended => { f with extended := value }
  | .negation => f

def update : (f : Flags) → (value : Bool) → List Flag → Flags
  | f, _, [] => f
  | f, value, flag :: rest =>
      match flag with
      | .negation => update f false rest
      | flag => update (f.set flag value) value rest

/-! ## What the parts of a pattern mean -/

/-- A set with its case variants, if case does not count. -/
def fold (f : Flags) (s : CharSet) : CharSet :=
  if f.ignoreCase then
    if f.unicode then .folded s else .asciiFolded s
  else s

/-- The complement of a set, which reaches beyond ASCII. -/
def negate? (f : Flags) (negated : Bool) (s : CharSet) : Option CharSet :=
  if negated then
    if f.unicode then some (.compl s) else none
  else some s

def finish? (f : Flags) (negated : Bool) (s : CharSet) : Option CharSet :=
  f.negate? negated (f.fold s)

def lettered? (f : Flags) (letter : Char) : Option CharSet :=
  match letter with
  | 'd' | 'D' => f.negate? (letter == 'D') (if f.unicode then .decimals else .digits)
  | 's' | 'S' =>
      f.negate? (letter == 'S')
        (if f.unicode then .blanks else .union (.range '\t' '\r') (.one ' '))
  | 'w' | 'W' =>
      f.negate? (letter == 'W') (if f.unicode then .wordChars else .asciiWordChars)
  | _ => none

/-- Whether a character can have other cases here. -/
def foldsChar (f : Flags) (c : Char) : Bool :=
  f.ignoreCase && (f.unicode || c.toNat < 128)

def char (f : Flags) (c : Char) : CharSet :=
  if f.foldsChar c then f.fold (.one c) else .one c

def dot? (f : Flags) : Option CharSet :=
  if !f.unicode then none
  else if f.dotAll then some .any
  else if f.returns then some (.compl (.ofChars ['\n', '\r']))
  else some (.compl (.one '\n'))

def caret (f : Flags) : Look :=
  if f.multiLine then if f.returns then .returnLineStart else .lineStart else .textStart

def dollar (f : Flags) : Look :=
  if f.multiLine then if f.returns then .returnLineEnd else .lineEnd else .textEnd

end Flags

end Pattern

end LinkHygiene
