import LinkHygiene.Store.Row

/-!
# The rule store

A table of tracking rules that is replaced as a whole, within one transaction. The
rows come in batches, and a batch with a row that the database refuses is refused; then
the transaction is dropped, and nothing has changed.
A table that has been removed behind the store's back comes back, empty, when the
store is opened again.
-/

namespace LinkHygiene

structure Store where
  /-- The rows in the order of their insertion; `none` if there is no table. -/
  table : Option (List Row) := some []
  /-- The parameters whose rows the database refuses. -/
  refused : List String := []
deriving Repr, DecidableEq

inductive StoreError where
  | unreadable
  | notCleared
  /-- A batch was refused after so many rows. -/
  | notInserted (rows : Nat)
deriving Repr, DecidableEq

namespace StoreError

/-- What the database has to say, without its own words. -/
def cause : String := "error returned from database"

def message : StoreError → String
  | unreadable => cause
  | notCleared => "clear tracking_rules: " ++ cause
  | notInserted rows => "insert batch after " ++ toString rows ++ " rows: " ++ cause

end StoreError

namespace Store

def empty : Store := {}

def maxBindings : Nat := 32766

def maxBatch : Nat := maxBindings / Row.bindings

def clampBatch (size : Nat) : Nat :=
  max 1 (min size maxBatch)

theorem clampBatch_pos (size : Nat) : 0 < clampBatch size := by
  unfold clampBatch
  omega

theorem clampBatch_le (size : Nat) : clampBatch size ≤ maxBatch := by
  have : 1 ≤ maxBatch := by decide
  unfold clampBatch
  omega

/-! ## Replacing all rules -/

/-- The list in batches of `size`, the last of which may be smaller. -/
def batchesOf {α : Type} (size : Nat) : (fuel : Nat) → List α → List (List α)
  | 0, _ => []
  | _ + 1, [] => []
  | fuel + 1, rows => rows.take size :: batchesOf size fuel (rows.drop size)

def batches {α : Type} (size : Nat) (rows : List α) : List (List α) :=
  batchesOf (clampBatch size) rows.length rows

def accepts (s : Store) (batch : List TrackingRule) : Bool :=
  batch.all fun rule => !s.refused.contains rule.param

/-- A transaction: the rows as it sees them, and how many of them it has inserted. -/
structure Transaction where
  rows : List Row
  inserted : Nat := 0
deriving Repr, DecidableEq

namespace Transaction

def clear (t : Transaction) : Transaction :=
  { t with rows := [] }

def insert (t : Transaction) (batch : List TrackingRule) : Transaction :=
  ⟨t.rows ++ batch.map Row.ofRule, t.inserted + batch.length⟩

end Transaction

/-- Inserts batches one by one; the transaction then, or where it ended. -/
def insertAll (s : Store) : Transaction → List (List TrackingRule) →
    Except StoreError Transaction
  | t, [] => .ok t
  | t, batch :: rest =>
      if s.accepts batch then insertAll s (t.insert batch) rest
      else .error (.notInserted t.inserted)

/-- Deletes all rows in a transaction that has just begun, and inserts the rules. -/
def rewritten (s : Store) (rows : List Row) (rules : List TrackingRule) (batch : Nat) :
    Except StoreError Transaction :=
  s.insertAll (Transaction.mk rows 0).clear (batches batch rules)

def commit (s : Store) (t : Transaction) : Store :=
  { s with table := some t.rows }

/--
The number of rows inserted, and the store afterwards. A transaction that comes to an
error is dropped.
-/
def replaceAll (s : Store) (rules : List TrackingRule) (batch : Nat) :
    Except StoreError Nat × Store :=
  match s.table with
  | none => (.error .notCleared, s)
  | some rows =>
      match s.rewritten rows rules batch with
      | .error e => (.error e, s)
      | .ok t => (.ok t.inserted, s.commit t)

/-! ## Reading -/

def count (s : Store) : Except StoreError Nat :=
  match s.table with
  | none => .error .unreadable
  | some rows => .ok rows.length

def find (s : Store) (domains : List String) : Except StoreError (List TrackingRule) :=
  if domains.isEmpty then .ok []
  else
    match s.table with
    | none => .error .unreadable
    | some rows =>
        if maxBindings < domains.length then .error .unreadable
        else .ok ((rows.filter fun row => domains.contains row.domain).map Row.rule)

/-! ## What happens to a store -/

/-- Closed and opened again: a missing table is made anew. -/
def reopen (s : Store) : Store :=
  match s.table with
  | some _ => s
  | none => { s with table := some [] }

/-- Without its table, and without what belonged to the table. -/
def dropTable (_ : Store) : Store :=
  ⟨none, []⟩

/-- From now on the rows of one more parameter are refused. -/
def refuse (s : Store) (param : String) : Store :=
  { s with refused := param :: s.refused }

def allow (s : Store) (param : String) : Store :=
  { s with refused := s.refused.filter (· != param) }

def refuseNothing (s : Store) : Store :=
  { s with refused := [] }

end Store

end LinkHygiene
