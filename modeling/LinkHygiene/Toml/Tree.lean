import LinkHygiene.Document.Datum

/-!
# TOML: tables

The tables of a document while they are filled. A table can be opened by a header,
come about on the way to another table, or come about through the dots of a key;
which of them may be opened or extended later depends on how they came about.
-/

namespace LinkHygiene

namespace Toml

/-- How a table has come about. -/
inductive Origin where
  /-- By a header of its own, or as a value in braces. -/
  | opened
  /-- On the way to a table with a header. -/
  | passed
  /-- Through a dotted key. -/
  | dotted
deriving Repr, DecidableEq

inductive Item where
  | value (d : Datum)
  | table (origin : Origin) (fields : List (String × Item))
  /-- Tables of one name, the latest first. -/
  | tables (list : List (List (String × Item)))
deriving Inhabited

abbrev Fields := List (String × Item)

namespace Fields

def get? (fields : Fields) (key : String) : Option Item :=
  (fields.find? fun entry => entry.1 == key).map (·.2)

/-- Puts an item under a key, in the place of what is there or else at the end. -/
def put : Fields → String → Item → Fields
  | [], key, item => [(key, item)]
  | (k, old) :: rest, key, item =>
      if k = key then (k, item) :: rest else (k, old) :: put rest key item

/-- Changes a table reached by headers; what is missing on the way comes about. -/
def within (change : Fields → Option Fields) : (path : List String) → Fields → Option Fields
  | [], fields => change fields
  | key :: path, fields =>
      match fields.get? key with
      | none => do
          let inner ← within change path []
          pure (fields.put key (.table .passed inner))
      | some (.table origin inner) => do
          let inner ← within change path inner
          pure (fields.put key (.table origin inner))
      | some (.tables (latest :: before)) => do
          let latest ← within change path latest
          pure (fields.put key (.tables (latest :: before)))
      | some _ => none

/-- Opens a table by its header. A table can be opened once. -/
def openTable (key : String) (fields : Fields) : Option Fields :=
  match fields.get? key with
  | none => some (fields.put key (.table .opened []))
  | some (.table .passed inner) => some (fields.put key (.table .opened inner))
  | some _ => none

def openNext (key : String) (fields : Fields) : Option Fields :=
  match fields.get? key with
  | none => some (fields.put key (.tables [[]]))
  | some (.tables list) => some (fields.put key (.tables ([] :: list)))
  | some _ => none

def define (key : String) (item : Item) (fields : Fields) : Option Fields :=
  match fields.get? key with
  | none => some (fields.put key item)
  | some _ => none

/-- Gives a dotted key a value. Dots reach only into tables that came about through dots. -/
def defineDotted (last : String) (item : Item) : (path : List String) → Fields →
    Option Fields
  | [], fields => fields.define last item
  | key :: path, fields =>
      match fields.get? key with
      | none => do
          let inner ← defineDotted last item path []
          pure (fields.put key (.table .dotted inner))
      | some (.table .dotted inner) => do
          let inner ← defineDotted last item path inner
          pure (fields.put key (.table .dotted inner))
      | some (.table .passed inner) =>
          match path with
          | [] => none
          | path => do
              let inner ← defineDotted last item path inner
              pure (fields.put key (.table .passed inner))
      | some (.table .opened _) => none
      | some (.value _) => none
      | some (.tables (latest :: before)) =>
          match path with
          | [] => none
          | path => do
              let latest ← defineDotted last item path latest
              pure (fields.put key (.tables (latest :: before)))
      | some (.tables []) => none

end Fields

mutual

def Item.datum : Item → Datum
  | .value d => d
  | .table _ fields => .table (data fields)
  | .tables list => .list (tablesData list).reverse

def data : List (String × Item) → List (String × Datum)
  | [] => []
  | (key, item) :: rest => (key, item.datum) :: data rest

def tablesData : List (List (String × Item)) → List Datum
  | [] => []
  | fields :: rest => .table (data fields) :: tablesData rest

end

end Toml

end LinkHygiene
