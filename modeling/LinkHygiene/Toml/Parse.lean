import LinkHygiene.Toml.Number
import LinkHygiene.Toml.Tree

/-!
# TOML: values and documents

A document is a sequence of lines: keys with values, and the headers of tables
that the keys after them belong to.
-/

namespace LinkHygiene

namespace Toml

def takeWord (word : String) : Read Unit :=
  word.toList.forM take

/-- The items of a list up to its bracket. Every round takes a character. -/
def readItems (value : Read Datum) : (fuel : Nat) → Read (List Datum)
  | 0 => failure
  | fuel + 1 => do
      skipLines
      if (← peek) = some ']' then
        take ']'
        pure []
      else
        let item ← value
        skipLines
        match ← peek with
        | some ',' =>
            take ','
            let items ← readItems value fuel
            pure (item :: items)
        | _ =>
            take ']'
            pure [item]

def readPair (value : Read Datum) : Read (List String × Datum) := do
  let key ← readKey
  take '='
  skipBlanks
  let item ← value
  skipBlanks
  pure (key, item)

def define (fields : Fields) (key : List String) (d : Datum) : Option Fields :=
  match key.reverse with
  | [] => none
  | last :: before => fields.defineDotted last (.value d) before.reverse

def readPairs (value : Read Datum) : (fuel : Nat) → Fields → Read Fields
  | 0, _ => failure
  | fuel + 1, fields => do
      let (key, item) ← readPair value
      let fields ← (match define fields key item with
        | some fields => pure fields
        | none => failure)
      match ← peek with
      | some ',' =>
          take ','
          readPairs value fuel fields
      | _ => pure fields

def readBraced (value : Read Datum) : Read Datum := do
  skipBlanks
  if (← peek) = some '\x7d' then
    take '\x7d'
    pure (.table [])
  else
    let fields ← readPairs value ((← get).length + 1) []
    take '\x7d'
    pure (.table (data fields))

def isNumberStart (c : Char) : Bool :=
  isDigit c || c == '+' || c == '-' || c == 'i' || c == 'n'

/-- A value; `inner` reads the values in lists and tables, where those are allowed. -/
def readValueOf (inner : Option (Read Datum)) : Read Datum := do
  match ← peek with
  | none => failure
  | some c =>
      if c = '"' || c = '\'' then
        let text ← lift string?
        pure (.text (String.ofList text))
      else if c = 't' then
        takeWord "true"
        pure (.bool true)
      else if c = 'f' then
        takeWord "false"
        pure (.bool false)
      else if isNumberStart c then lift number?
      else
        match inner with
        | none => failure
        | some value =>
            if c = '[' then
              take '['
              let items ← readItems value ((← get).length + 1)
              pure (.list items)
            else if c = '\x7b' then
              take '\x7b'
              readBraced value
            else failure

def readValue : (depth : Nat) → Read Datum
  | 0 => readValueOf none
  | depth + 1 => readValueOf (some (readValue depth))

def maxNesting : Nat := depthLimit - 1

/-- A document in the making: its tables, and the table that keys belong to now. -/
structure Draft where
  root : Fields
  path : List String

def Draft.header (d : Draft) (path : List String) (isNext : Bool) : Option Draft :=
  match path.reverse with
  | [] => none
  | last :: before => do
      let change := if isNext then Fields.openNext last else Fields.openTable last
      let root ← d.root.within change before.reverse
      pure ⟨root, path⟩

def Draft.define (d : Draft) (key : List String) (item : Datum) : Option Draft := do
  let root ← d.root.within (fun fields => Toml.define fields key item) d.path
  pure { d with root }

def liftOption {α : Type} : Option α → Read α
  | some a => pure a
  | none => failure

def readHeader (d : Draft) : Read Draft := do
  take '['
  if (← peek) = some '[' then
    take '['
    let path ← readKey
    take ']'
    take ']'
    takeLineEnd
    liftOption (d.header path true)
  else
    let path ← readKey
    take ']'
    takeLineEnd
    liftOption (d.header path false)

def readLines : (fuel : Nat) → Draft → Read Draft
  | 0, _ => failure
  | fuel + 1, d => do
      skipBlanks
      match ← peek with
      | none => pure d
      | some '#' =>
          takeComment
          takeLineEnd
          readLines fuel d
      | some '\n' =>
          takeNewline
          readLines fuel d
      | some '\r' =>
          takeNewline
          readLines fuel d
      | some '[' =>
          let d ← readHeader d
          readLines fuel d
      | some _ =>
          let (key, item) ← readPair (readValue maxNesting)
          takeLineEnd
          let d ← liftOption (d.define key item)
          readLines fuel d

/-- A sign that some editors put in front of a text. -/
def byteOrderMark : Char := '\uFEFF'

def dropByteOrderMark : List Char → List Char
  | c :: s => if c = byteOrderMark then s else c :: s
  | [] => []

/-- The fields of the document that a text spells, if it spells one. -/
def parse? (text : String) : Option (List (String × Datum)) :=
  let s := dropByteOrderMark text.toList
  match (readLines (s.length + 1) ⟨[], []⟩).run s with
  | some (d, _) => some (data d.root)
  | none => none

end Toml

end LinkHygiene
