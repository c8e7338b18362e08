/-!
# Where a store is kept

The address under which the database opens the file of a store. Characters that
mean something in an address are escaped, the escape sign among them, so that
different paths have different addresses.
-/

namespace LinkHygiene

namespace Store

def escapePathChar (c : Char) : List Char :=
  match c with
  | '%' => ['%', '2', '5']
  | ' ' => ['%', '2', '0']
  | '#' => ['%', '2', '3']
  | '?' => ['%', '3', 'F']
  | '&' => ['%', '2', '6']
  | c => [c]

def addressLead : List Char := "sqlite://".toList

def addressMode : List Char := "?mode=rwc".toList

def pathAddress (path : String) : String :=
  String.ofList (addressLead ++ path.toList.flatMap escapePathChar)

/-- The address under which the file is opened, and made if it is missing. -/
def openAddress (path : String) : String :=
  pathAddress path ++ String.ofList addressMode

end Store

end LinkHygiene
