import LinkHygiene.Url.Parse

/-!
# Before and after

What cleaning has done to a link, and how single parameters are taken back or
dropped again.
-/

namespace LinkHygiene

namespace Message

def dropSlashes (s : List Char) : List Char :=
  (s.reverse.dropWhile (· == '/')).reverse

/-- Whether a link has changed; slashes at its end do not count. -/
def isChanged (raw cleaned : String) : Bool :=
  match Url.parse raw, Url.parse cleaned with
  | .ok a, .ok b => dropSlashes a.render != dropSlashes b.render
  | _, _ => raw != cleaned

def namesOf : (seen : List String) → List Form.Pair → List String
  | seen, [] => seen.reverse
  | seen, pair :: rest =>
      if seen.contains pair.name then namesOf seen rest else namesOf (pair.name :: seen) rest

/-- The parameters that can be taken back; none when the link has moved to another host. -/
def restorableParams (raw cleaned : String) : List String :=
  match Url.parse raw, Url.parse cleaned with
  | .ok before, .ok after =>
      if before.hostText? = after.hostText? then namesOf [] before.queryPairs else []
  | _, _ => []

structure LinkError where
  link : String
  cause : UrlError
deriving Repr, DecidableEq

def LinkError.message (e : LinkError) : String :=
  "invalid URL " ++ e.link ++ ": " ++ e.cause.message

def readLink (link : String) : Except LinkError Url :=
  match Url.parse link with
  | .ok u => .ok u
  | .error cause => .error ⟨link, cause⟩

/-- Pairs in the order of their names; pairs of one name keep their order. -/
def sortPairs (pairs : List Form.Pair) : List Form.Pair :=
  pairs.mergeSort fun a b => decide (a.name ≤ b.name)

def toggledPairs (pairs : List Form.Pair) (raw : String) (param : String) :
    Except LinkError (List Form.Pair) :=
  if pairs.any (·.name == param) then .ok (pairs.filter fun pair => pair.name != param)
  else
    match readLink raw with
    | .error e => .error e
    | .ok u => .ok (pairs ++ (u.queryPairs.find? (·.name == param)).toList)

/-- The link without a parameter if it has it, and with it if the raw link has it. -/
def toggleParam (current raw param : String) : Except LinkError String := do
  let u ← readLink current
  let pairs ← toggledPairs u.queryPairs raw param
  pure (u.setQueryPairs (sortPairs pairs)).text

end Message

end LinkHygiene
