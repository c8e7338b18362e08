import LinkHygiene.Text.Lowercase
import LinkHygiene.Text.Split

/-!
# Lookup keys of a host

Tracking rules are stored under a domain. A host is looked up under the domain
of the rules that hold everywhere, under the ends of its own name, and under
those ends with a wildcard label in front.
-/

namespace LinkHygiene

namespace Candidates

def globalDomain : String := "global"

/-- How many labels of a host name count, from its end. -/
def maxLabels : Nat := 4

/-- The labels of a host name, in lowercase, without empty ones. -/
def labels (host : String) : List (List Char) :=
  (Text.splitOn '.' (host.toList.map Text.asciiLower)).filter (fun label => !label.isEmpty)

def lastLabels (host : String) : List (List Char) :=
  let all := labels host
  all.drop (all.length - maxLabels)

def domain (labels : List (List Char)) : String :=
  String.ofList (Text.joinWith ['.'] labels)

def wildcard (domain : String) : String :=
  "*." ++ domain

/-- The keys of every end of a list of labels, the longest end first. -/
def suffixKeys : List (List Char) → List String
  | [] => []
  | [label] => [domain [label]]
  | label :: rest =>
      domain (label :: rest) :: wildcard (domain (label :: rest)) :: suffixKeys rest

def addNew (keys : List String) (key : String) : List String :=
  if keys.contains key then keys else keys ++ [key]

/-- The keys under which the rules for a host are stored. -/
def ofHost (host : String) : List String :=
  (suffixKeys (lastLabels host)).foldl addNew [globalDomain]

end Candidates

end LinkHygiene
