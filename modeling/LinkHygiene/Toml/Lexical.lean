import LinkHygiene.Document.Datum
import LinkHygiene.Unicode.Table

/-!
# TOML: blanks, comments and strings

The pieces of a TOML document below the level of values. A reader takes the front
off a text and gives what is left; it fails on text that is no such piece. Control
characters other than the tab are refused everywhere.
-/

namespace LinkHygiene

namespace Toml

abbrev Read := StateT (List Char) Option

def isBlank (c : Char) : Bool :=
  c == ' ' || c == '\t'

def isPlain (c : Char) : Bool :=
  c == '\t' || (0x20 ≤ c.toNat && c.toNat != 0x7F)

def skipBlanks : Read Unit :=
  modify (·.dropWhile isBlank)

def atEnd : Read Bool :=
  List.isEmpty <$> get

def peek : Read (Option Char) :=
  List.head? <$> get

def take (c : Char) : Read Unit := do
  match ← get with
  | d :: s => if c = d then set s else failure
  | [] => failure

def takeNewline : Read Unit := do
  match ← get with
  | '\n' :: s => set s
  | '\r' :: '\n' :: s => set s
  | _ => failure

def takeComment : Read Unit := do
  take '#'
  modify (·.dropWhile isPlain)

/-- Takes what may follow on a line: blanks, a comment, and the line end or the end of all. -/
def takeLineEnd : Read Unit := do
  skipBlanks
  if (← peek) = some '#' then takeComment
  if ← atEnd then pure () else takeNewline

/-- Blanks, line ends and comments; every round takes a character. -/
def skipLinesFuel : (fuel : Nat) → Read Unit
  | 0 => pure ()
  | fuel + 1 => do
      skipBlanks
      match ← get with
      | '#' :: _ =>
          takeComment
          takeNewline
          skipLinesFuel fuel
      | '\n' :: s =>
          set s
          skipLinesFuel fuel
      | '\r' :: _ =>
          takeNewline
          skipLinesFuel fuel
      | _ => pure ()

def skipLines : Read Unit := do
  skipLinesFuel ((← get).length + 1)

/-! ## Strings -/

def charOf? (digits : List Char) : Option Char := do
  let n ← digits.foldl (fun n c => do
    let n ← n
    let d ← Unicode.hexDigit? c
    pure (n * 16 + d)) (some 0)
  if n.isValidChar then some (Char.ofNat n) else none

def escape? : List Char → Option (Char × List Char)
  | 'b' :: s => some ('\x08', s)
  | 't' :: s => some ('\t', s)
  | 'n' :: s => some ('\n', s)
  | 'f' :: s => some ('\x0C', s)
  | 'r' :: s => some ('\r', s)
  | '"' :: s => some ('"', s)
  | '\\' :: s => some ('\\', s)
  | 'u' :: s =>
      if s.length < 4 then none else (charOf? (s.take 4)).map (·, s.drop 4)
  | 'U' :: s =>
      if s.length < 8 then none else (charOf? (s.take 8)).map (·, s.drop 8)
  | _ => none

def basicFuel : (fuel : Nat) → (text : List Char) → List Char →
    Option (List Char × List Char)
  | 0, _, _ => none
  | _ + 1, _, [] => none
  | _ + 1, text, '"' :: s => some (text.reverse, s)
  | fuel + 1, text, '\\' :: s => do
      let (c, s) ← escape? s
      basicFuel fuel (c :: text) s
  | fuel + 1, text, c :: s => if isPlain c then basicFuel fuel (c :: text) s else none

/-- Whether a backslash ends its line, and the text after the line ends and blanks behind it. -/
def continuation? (s : List Char) : Option (List Char) :=
  let isBreak := fun c => isBlank c || c == '\n'
  match s.dropWhile isBlank with
  | '\n' :: s => some (s.dropWhile isBreak)
  | '\r' :: '\n' :: s => some (s.dropWhile isBreak)
  | _ => none

/--
A string over several lines, after its quotes. Up to two quotes before the
closing ones belong to it, and a backslash at the end of a line joins the lines.
-/
def multiBasicFuel : (fuel : Nat) → (text : List Char) → List Char →
    Option (List Char × List Char)
  | 0, _, _ => none
  | _ + 1, _, [] => none
  | _ + 1, text, '"' :: '"' :: '"' :: '"' :: '"' :: s => some (('"' :: '"' :: text).reverse, s)
  | _ + 1, text, '"' :: '"' :: '"' :: '"' :: s => some (('"' :: text).reverse, s)
  | _ + 1, text, '"' :: '"' :: '"' :: s => some (text.reverse, s)
  | fuel + 1, text, '\\' :: s =>
      match continuation? s with
      | some s => multiBasicFuel fuel text s
      | none => do
          let (c, s) ← escape? s
          multiBasicFuel fuel (c :: text) s
  | fuel + 1, text, '\n' :: s => multiBasicFuel fuel ('\n' :: text) s
  | fuel + 1, text, '\r' :: '\n' :: s => multiBasicFuel fuel ('\n' :: text) s
  | fuel + 1, text, c :: s => if isPlain c then multiBasicFuel fuel (c :: text) s else none

def literal : (text : List Char) → List Char → Option (List Char × List Char)
  | _, [] => none
  | text, '\'' :: s => some (text.reverse, s)
  | text, c :: s => if isPlain c then literal (c :: text) s else none

def multiLiteral : (text : List Char) → List Char → Option (List Char × List Char)
  | _, [] => none
  | text, '\'' :: '\'' :: '\'' :: '\'' :: '\'' :: s => some (('\'' :: '\'' :: text).reverse, s)
  | text, '\'' :: '\'' :: '\'' :: '\'' :: s => some (('\'' :: text).reverse, s)
  | text, '\'' :: '\'' :: '\'' :: s => some (text.reverse, s)
  | text, '\n' :: s => multiLiteral ('\n' :: text) s
  | text, '\r' :: '\n' :: s => multiLiteral ('\n' :: text) s
  | text, c :: s => if isPlain c then multiLiteral (c :: text) s else none

/-- Without the line end that may follow opening quotes. -/
def dropFirstNewline : List Char → List Char
  | '\n' :: s => s
  | '\r' :: '\n' :: s => s
  | s => s

/-- A string in quotes that do not span lines; keys are such strings. -/
def shortString? (s : List Char) : Option (List Char × List Char) :=
  match s with
  | '"' :: s => basicFuel (s.length + 1) [] s
  | '\'' :: s => literal [] s
  | _ => none

def string? (s : List Char) : Option (List Char × List Char) :=
  match s with
  | '"' :: '"' :: '"' :: s =>
      let s := dropFirstNewline s
      multiBasicFuel (s.length + 1) [] s
  | '\'' :: '\'' :: '\'' :: s => multiLiteral [] (dropFirstNewline s)
  | s => shortString? s

def lift {α : Type} (read : List Char → Option (α × List Char)) : Read α :=
  fun s => read s

/-! ## Keys -/

def isBareKeyChar (c : Char) : Bool :=
  c.isAlphanum || c == '-' || c == '_'

def simpleKey? (s : List Char) : Option (List Char × List Char) :=
  match s with
  | '"' :: _ => shortString? s
  | '\'' :: _ => shortString? s
  | s =>
      match s.takeWhile isBareKeyChar with
      | [] => none
      | key => some (key, s.dropWhile isBareKeyChar)

def readSimpleKey : Read String := do
  skipBlanks
  let key ← lift simpleKey?
  skipBlanks
  pure (String.ofList key)

def readMoreKeys : (fuel : Nat) → Read (List String)
  | 0 => pure []
  | fuel + 1 => do
      if (← peek) = some '.' then
        take '.'
        let key ← readSimpleKey
        let keys ← readMoreKeys fuel
        pure (key :: keys)
      else pure []

/-- How many names a key may have, and how deep values may be nested. -/
def depthLimit : Nat := 80

def readKey : Read (List String) := do
  let key ← readSimpleKey
  let keys ← readMoreKeys ((← get).length + 1)
  if keys.length + 1 < depthLimit then pure (key :: keys) else failure

end Toml

end LinkHygiene
