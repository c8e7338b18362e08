import LinkHygiene.Filter.Line
import LinkHygiene.Store.Basic

/-!
# Refreshing the store

The rules of a filter list take the place of the stored ones. The store is touched
only after the list has been read and has given at least one rule.
-/

namespace LinkHygiene

inductive Report where
  | ok (count : Nat)
  | skipped (message : String)
  | error (message : String)
deriving Repr, DecidableEq

namespace Report

def nothingParsed : Report :=
  skipped "no valid rules parsed"

end Report

namespace Store

/-- Puts the rules of a filter list into the store, if it holds any. -/
def refreshFromText (s : Store) (text : String) (batch : Nat) : Report × Store :=
  match parseFilterList text with
  | [] => (.nothingParsed, s)
  | rules =>
      match s.replaceAll rules batch with
      | (.ok count, s) => (.ok count, s)
      | (.error e, s) => (.error e.message, s)

/-- A refresh with what a download has brought: a list, or the words of its failure. -/
def refresh (s : Store) (download : Except String String) (batch : Nat) : Report × Store :=
  match download with
  | .ok text => s.refreshFromText text batch
  | .error message => (.error message, s)

end Store

end LinkHygiene
