import LinkHygiene.Store.Basic
import LinkHygiene.Text.Quoted
import LinkHygiene.Toml.Parse

/-!
# Stores as files

The rows of a store as a TOML document with a table for each row, so that they
outlive the program.
-/

namespace LinkHygiene

namespace Row

def fileText (row : Row) : String :=
  "[[row]]\n" ++
  "domain = " ++ Quoted.toml row.domain ++ "\n" ++
  (match row.path with
    | some path => "path = " ++ Quoted.toml path ++ "\n"
    | none => "") ++
  "param = " ++ Quoted.toml row.param ++ "\n" ++
  "effect = " ++ toString row.effect ++ "\n" ++
  "is_regex = " ++ toString row.isRegex ++ "\n"

def integer? : Datum → Option Int
  | .integer value => some value
  | _ => none

def ofDatum? (d : Datum) : Option Row := do
  let fields ← d.table?
  pure {
    domain := ← Datum.required fields "domain" Datum.text?
    path := ← Datum.optional fields "path" Datum.text?
    param := ← Datum.required fields "param" Datum.text?
    effect := ← Datum.required fields "effect" integer?
    isRegex := ← Datum.required fields "is_regex" integer? }

end Row

namespace Store

def fileText (s : Store) : String :=
  String.join ((s.table.getD []).map Row.fileText)

/-- The store whose rows a file holds; `none` if the text is no such file. -/
def ofFileText? (text : String) : Option Store := do
  let fields ← Toml.parse? text
  let rows ← Datum.fieldOr fields "row" (fun d => d.list?.bind (·.mapM Row.ofDatum?)) []
  pure { table := some rows }

end Store

end LinkHygiene
