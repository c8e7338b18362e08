/-!
# Data without a schema

What a settings file or a rule table holds before it is known what it should
hold: texts, numbers, lists, tables of named values. The readers in this folder's
neighbours turn it into domain types or refuse it.
-/

namespace LinkHygiene

inductive Datum where
  | null
  | bool (value : Bool)
  | integer (value : Int)
  /-- A number from a notation that tells unsigned numbers apart. -/
  | natural (value : Nat)
  /-- A number with a fraction or an exponent; no setting uses one. -/
  | float
  /-- A date or a time of day; no setting uses one. -/
  | moment
  | text (value : String)
  | list (items : List Datum)
  | table (fields : List (String × Datum))
deriving Inhabited

namespace Datum

def field? (fields : List (String × Datum)) (name : String) : Option Datum :=
  (fields.find? fun entry => entry.1 == name).map (·.2)

def text? : Datum → Option String
  | text value => some value
  | _ => none

def list? : Datum → Option (List Datum)
  | list items => some items
  | _ => none

def table? : Datum → Option (List (String × Datum))
  | table fields => some fields
  | _ => none

def count? : Datum → Option Nat
  | integer (.ofNat n) => some n
  | natural n => some n
  | _ => none

def texts? (d : Datum) : Option (List String) := do
  (← d.list?).mapM text?

def textTable? (d : Datum) : Option (List (String × String)) := do
  (← d.table?).mapM fun (name, value) => do
    pure (name, ← value.text?)

/-! ## Fields that may be missing -/

/-- A field that stands for a default when it is missing. -/
def fieldOr {α : Type} (fields : List (String × Datum)) (name : String)
    (read : Datum → Option α) (default : α) : Option α :=
  match field? fields name with
  | none => some default
  | some value => read value

/-- A field that may be missing or null. -/
def optional {α : Type} (fields : List (String × Datum)) (name : String)
    (read : Datum → Option α) : Option (Option α) :=
  match field? fields name with
  | none => some none
  | some null => some none
  | some value => (read value).map some

def required {α : Type} (fields : List (String × Datum)) (name : String)
    (read : Datum → Option α) : Option α :=
  (field? fields name).bind read

end Datum

end LinkHygiene
