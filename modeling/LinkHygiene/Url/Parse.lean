import LinkHygiene.Url.Basic

/-!
# Reading URLs

A text becomes a URL on its own or relative to a base. The fragment and the query
are split off first; what is left is a scheme, an authority and a path, of which
a relative reference may leave out the leading ones.
-/

namespace LinkHygiene

namespace Url

/-- Control characters and blanks around a URL are ignored. -/
def isMargin (c : Char) : Bool :=
  c.toNat ≤ 0x20

/-- Tabs and line ends are ignored wherever they stand. -/
def isIgnored (c : Char) : Bool :=
  c == '\t' || c == '\n' || c == '\r'

def normalizeInput (s : List Char) : List Char :=
  let s := s.dropWhile isMargin
  (s.reverse.dropWhile isMargin).reverse.filter (fun c => !isIgnored c)

/-- A reference taken apart: what stands before the query, and the parts that are there. -/
structure Reference where
  front : List Char
  query : Option (List Char)
  fragment : Option (List Char)

/-- The part up to `stop`, and what follows it, if it occurs. -/
def cutAt (stop : Char) (s : List Char) : List Char × Option (List Char) :=
  match Text.breakAt (· == stop) s with
  | (before, []) => (before, none)
  | (before, _ :: after) => (before, some after)

def Reference.ofText (s : List Char) : Reference :=
  let (main, fragment) := cutAt '#' s
  let (front, query) := cutAt '?' main
  ⟨front, query, fragment⟩

def Reference.continues (r : Reference) : Bool :=
  r.query.isSome || r.fragment.isSome

def escapeQuery (kind : SchemeKind) (s : List Char) : String :=
  String.ofList (Percent.encode
    (if kind.isSpecial then Percent.inSpecialQuery else Percent.inQuery) s)

def escapeFragment (s : List Char) : String :=
  String.ofList (Percent.encode Percent.inFragment s)

def isAlpha (c : Char) : Bool :=
  ('a' ≤ c && c ≤ 'z') || ('A' ≤ c && c ≤ 'Z')

def isSchemeChar (c : Char) : Bool :=
  isAlpha c || Address.isDigit c || c == '+' || c == '-' || c == '.'

def scheme? (s : List Char) : Option (String × List Char) :=
  match s with
  | [] => none
  | c :: _ =>
      if isAlpha c then
        match s.dropWhile isSchemeChar with
        | ':' :: rest =>
            some (String.ofList ((s.takeWhile isSchemeChar).map Text.asciiLower), rest)
        | _ => none
      else none

/-! ## Paths -/

def isSlash (kind : SchemeKind) (c : Char) : Bool :=
  c == '/' || (c == '\\' && kind.isSpecial)

def splitSegments (kind : SchemeKind) (s : List Char) : List (List Char) :=
  Text.splitOn '/' (s.map fun c => if isSlash kind c then '/' else c)

def isDriveLetter : List Char → Bool
  | [c, d] => isAlpha c && (d == ':' || d == '|')
  | _ => false

def isNormalDriveLetter : List Char → Bool
  | [c, d] => isAlpha c && d == ':'
  | _ => false

def dots : List Char → List Char
  | '%' :: '2' :: 'e' :: s => '.' :: dots s
  | '%' :: '2' :: 'E' :: s => '.' :: dots s
  | c :: s => c :: dots s
  | [] => []

def isSingleDot (segment : List Char) : Bool :=
  dots segment == ['.']

def isDoubleDot (segment : List Char) : Bool :=
  dots segment == ['.', '.']

/-- One segment up; a drive letter stays. -/
def shorten (passed : List String) : List String :=
  match passed with
  | [] => []
  | segment :: rest => if isDriveLetter segment.toList then passed else rest

/--
Walks along the segments; `passed` holds the path so far, in reverse. Dots move
in the path instead of lengthening it, and a path that ends in dots ends in a
slash.
-/
def walk (kind : SchemeKind) : (passed : List String) → List (List Char) → List String
  | passed, [] => passed
  | passed, segment :: rest =>
      let escaped := Percent.encode Percent.inPath segment
      if isDoubleDot escaped then
        walk kind (if rest.isEmpty then "" :: shorten passed else shorten passed) rest
      else if isSingleDot escaped then
        walk kind (if rest.isEmpty then "" :: passed else passed) rest
      else if kind = .file && passed.isEmpty && isDriveLetter escaped then
        walk kind (String.ofList (escaped.take 1 ++ [':']) :: passed) rest
      else walk kind (String.ofList escaped :: passed) rest

/-- Paths of files do not begin with empty segments. -/
def dropEmptyLead (segments : List String) : List String :=
  match segments.dropWhile (·.isEmpty) with
  | [] => [""]
  | list => list

def resolveSegments (kind : SchemeKind) (before : List String) (pieces : List (List Char)) :
    List String :=
  match kind with
  | .file =>
      let pieces := if before.isEmpty then pieces.dropWhile (·.isEmpty) else pieces
      dropEmptyLead (walk kind before.reverse pieces).reverse
  | _ => (walk kind before.reverse pieces).reverse

def pathAfterAuthority (kind : SchemeKind) (s : List Char) : List String :=
  match kind, s with
  | .other, [] => []
  | .other, '/' :: rest => resolveSegments kind [] (splitSegments kind rest)
  | _, [] => resolveSegments kind [] [[]]
  | _, c :: rest =>
      if isSlash kind c then resolveSegments kind [] (splitSegments kind rest)
      else resolveSegments kind [] (splitSegments kind (c :: rest))

def plainPath (s : List Char) : Path :=
  .plain (String.ofList (Percent.encode Percent.inControls s))

/-! ## Authorities -/

/-- Splits at the last `@`, if there is one. -/
def splitCredentials (s : List Char) : Option (List Char × List Char) :=
  let r := s.reverse
  match r.dropWhile (· != '@') with
  | [] => none
  | _ :: before => some (before.reverse, (r.takeWhile (· != '@')).reverse)

def readCredentials (s : List Char) : String × String :=
  let (name, password) := cutAt ':' s
  (String.ofList (Percent.encode Percent.inUserinfo name),
    String.ofList (Percent.encode Percent.inUserinfo (password.getD [])))

/-- The text of the host: a colon ends it, except inside brackets. -/
def hostLength : (inBrackets : Bool) → List Char → Nat
  | _, [] => 0
  | inBrackets, c :: s =>
      if c = ':' && !inBrackets then 0
      else if c = '[' then 1 + hostLength true s
      else if c = ']' then 1 + hostLength false s
      else 1 + hostLength inBrackets s

def maxPort : Nat := 65535

/-- Reads a port; the default port of the scheme and a missing number both mean none. -/
def readPort (scheme : String) (s : List Char) :
    Except UrlError (Option Nat × List Char) :=
  let digits := s.takeWhile Address.isDigit
  let rest := s.dropWhile Address.isDigit
  match Address.numberIn? 10 0 digits with
  | none => .error .invalidPort
  | some n =>
      if maxPort < n then .error .invalidPort
      else
        let port := if digits.isEmpty || some n = defaultPort scheme then none else some n
        match rest with
        | [] => .ok (port, rest)
        | c :: _ => if c = '/' || c = '\\' then .ok (port, rest) else .error .invalidPort

def readHostPort (scheme : String) (s : List Char) :
    Except UrlError (Option Host × Option Nat × List Char) :=
  let kind := SchemeKind.ofScheme scheme
  let here := s.takeWhile (fun c => !isSlash kind c)
  let length := hostLength false here
  let hostText := here.take length
  let rest := s.drop length
  let parsed : Except UrlError (Option Host) :=
    if kind.isSpecial then
      if hostText.isEmpty then .error .emptyHost else (Host.parse hostText).map some
    else
      match Host.parseOpaque hostText with
      | .error e => .error e
      | .ok host =>
          if hostText.isEmpty then
            match rest with
            | ':' :: _ => .error .emptyHost
            | _ => .ok none
          else .ok (some host)
  match parsed with
  | .error e => .error e
  | .ok host =>
      match rest with
      | ':' :: rest =>
          match readPort scheme rest with
          | .error e => .error e
          | .ok (port, rest) => .ok (host, port, rest)
      | rest => .ok (host, none, rest)

/-- An authority and the path after it; `continues` tells whether a query or fragment follows. -/
def readAuthority (scheme : String) (continues : Bool) (s : List Char) :
    Except UrlError (Authority × List Char) :=
  let kind := SchemeKind.ofScheme scheme
  let here := s.takeWhile (fun c => !isSlash kind c)
  let beyond := s.dropWhile (fun c => !isSlash kind c)
  let credentials := splitCredentials here
  let rest := match credentials with
    | some (_, rest) => rest ++ beyond
    | none => s
  let noHost := match credentials with
    | some ([], []) => !beyond.isEmpty || continues
    | _ => false
  if noHost then .error .emptyHost
  else
    let (username, password) := match credentials with
      | some (text, _) => readCredentials text
      | none => ("", "")
    match readHostPort scheme rest with
    | .error e => .error e
    | .ok (host, port, path) =>
        if host.isNone && !(username.isEmpty && password.isEmpty) then .error .emptyHost
        else .ok (⟨username, password, host, port⟩, path)

/-! ## References -/

def assemble (scheme : String) (authority : Option Authority) (path : Path)
    (r : Reference) : Url :=
  { scheme, authority, path
    query := r.query.map (escapeQuery (SchemeKind.ofScheme scheme))
    fragment := r.fragment.map escapeFragment }

def readNetwork (scheme : String) (r : Reference) (s : List Char) : Except UrlError Url :=
  match readAuthority scheme r.continues s with
  | .error e => .error e
  | .ok (authority, path) =>
      .ok (assemble scheme (some authority)
        (.segments (pathAfterAuthority (SchemeKind.ofScheme scheme) path)) r)

def isAnySlash (c : Char) : Bool :=
  c == '/' || c == '\\'

def baseSegments (base : Url) : List String :=
  match base.path with
  | .segments list => list
  | .plain _ => []

/-- The directory of a base path; a drive letter is not left. -/
def directory (base : Url) : List String :=
  match (baseSegments base).reverse with
  | [] => []
  | last :: before =>
      if base.kind = .file && isNormalDriveLetter last.toList then baseSegments base
      else before.reverse

/-- A reference that leaves the location as it is in the base. -/
def readSameLocation (base : Url) (r : Reference) : Url :=
  match r.query with
  | some _ => assemble base.scheme base.authority base.path r
  | none =>
      { assemble base.scheme base.authority base.path r with query := base.query }

def readRelative (base : Url) (r : Reference) : Except UrlError Url :=
  let kind := base.kind
  match r.front with
  | [] => .ok (readSameLocation base r)
  | c :: rest =>
      if isAnySlash c then
        match rest with
        | d :: after =>
            if isAnySlash d then
              if c = '/' && d = '/' then readNetwork base.scheme r after
              else readNetwork base.scheme r (r.front.dropWhile isAnySlash)
            else .ok (assemble base.scheme base.authority
              (.segments (resolveSegments kind [] (splitSegments kind rest))) r)
        | [] => .ok (assemble base.scheme base.authority
            (.segments (resolveSegments kind [] (splitSegments kind rest))) r)
      else .ok (assemble base.scheme base.authority
        (.segments (resolveSegments kind (directory base) (splitSegments kind r.front))) r)

def fileScheme : String := "file"

def startsWithDrive (s : List Char) : Bool :=
  match s with
  | c :: d :: rest =>
      isDriveLetter [c, d] && (match rest with
        | [] => true
        | e :: _ => isAnySlash e)
  | _ => false

/-- What follows `file://`: a host, unless it is a drive letter, and a path. -/
def readFileNetwork (r : Reference) (s : List Char) : Except UrlError Url :=
  let hostText := s.takeWhile (fun c => !isAnySlash c)
  if hostText.isEmpty || isDriveLetter hostText then
    .ok (assemble fileScheme (some {})
      (.segments (resolveSegments .file [] (splitSegments .file s))) r)
  else
    match Host.parse hostText with
    | .error e => .error e
    | .ok host =>
        let path := resolveSegments .file []
          (splitSegments .file (s.dropWhile (fun c => !isAnySlash c)))
        let local_ := host = .name "localhost" || (match path with
          | first :: _ => isNormalDriveLetter first.toList
          | [] => false)
        .ok (assemble fileScheme
          (some { host := if local_ then none else some host }) (.segments path) r)

def readFile (base : Option Url) (r : Reference) : Except UrlError Url :=
  match r.front with
  | [] =>
      match base with
      | some base => .ok (readSameLocation base r)
      | none => .ok (assemble fileScheme (some {}) (.segments [""]) r)
  | c :: rest =>
      if isAnySlash c then
        match rest with
        | d :: after =>
            if isAnySlash d then readFileNetwork r after else .ok (rooted rest)
        | [] => .ok (rooted rest)
      else
        match base with
        | some base =>
            if startsWithDrive r.front then .ok (alone r.front)
            else .ok (assemble fileScheme base.authority
              (.segments (resolveSegments .file (directory base)
                (splitSegments .file r.front))) r)
        | none => .ok (alone r.front)
where
  alone (s : List Char) : Url :=
    assemble fileScheme (some {})
      (.segments (resolveSegments .file [] (splitSegments .file s))) r
  rooted (rest : List Char) : Url :=
    match base with
    | none => alone rest
    | some base =>
        if startsWithDrive rest then alone rest
        else match baseSegments base with
          | first :: _ =>
              if isNormalDriveLetter first.toList then
                assemble fileScheme (some {})
                  (.segments (resolveSegments .file [first] (splitSegments .file rest))) r
              else onHost base rest
          | [] => onHost base rest
  onHost (base : Url) (rest : List Char) : Url :=
    assemble fileScheme (some { host := base.host? })
      (.segments (resolveSegments .file [] (splitSegments .file rest))) r

def readWithScheme (base : Option Url) (scheme : String) (r : Reference) :
    Except UrlError Url :=
  match SchemeKind.ofScheme scheme with
  | .file => readFile (base.filter (fun b => b.scheme == fileScheme)) r
  | .web =>
      let slashes := (r.front.takeWhile isAnySlash).length
      match base with
      | some b =>
          if slashes < 2 && b.scheme = scheme then readRelative b r
          else readNetwork scheme r (r.front.dropWhile isAnySlash)
      | none => readNetwork scheme r (r.front.dropWhile isAnySlash)
  | .other =>
      match r.front with
      | '/' :: '/' :: rest => readNetwork scheme r rest
      | '/' :: rest =>
          .ok (assemble scheme none
            (.segments (resolveSegments .other [] (splitSegments .other rest))) r)
      | front => .ok (assemble scheme none (plainPath front) r)

def readWithoutScheme (base : Option Url) (r : Reference) : Except UrlError Url :=
  match base with
  | none => .error .noBase
  | some base =>
      if r.front.isEmpty && r.query.isNone && r.fragment.isSome then
        .ok (readSameLocation base r)
      else if base.isPlain then .error .opaqueBase
      else if base.kind = .file then readFile (some base) r
      else readRelative base r

def readReference (base : Option Url) (text : List Char) : Except UrlError Url :=
  let s := normalizeInput text
  match scheme? s with
  | some (scheme, rest) => readWithScheme base scheme (.ofText rest)
  | none => readWithoutScheme base (.ofText s)

def parse (text : String) : Except UrlError Url :=
  readReference none text.toList

def join (base : Url) (reference : String) : Except UrlError Url :=
  readReference (some base) reference.toList

end Url

end LinkHygiene
