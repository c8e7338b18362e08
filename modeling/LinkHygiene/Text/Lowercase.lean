import LinkHygiene.Unicode.CaseTable

/-!
# Lowercase

The lowercase form of a text, for all of Unicode: a letter may become several,
and a capital sigma at the end of a word becomes the final form. `asciiLower`
touches the letters A to Z only.
-/

namespace LinkHygiene

namespace Text

/-- The lowercase form of the letters A to Z; any other character stays. -/
def asciiLower (c : Char) : Char :=
  if 'A' ≤ c && c ≤ 'Z' then Char.ofNat (c.toNat + 32) else c

def isAscii (c : Char) : Bool :=
  c.toNat < 128

def lowerChar (c : Char) : List Char :=
  if isAscii c then [asciiLower c]
  else match Unicode.lowercaseRuns.find? c.toNat with
    | some image => image.map Char.ofNat
    | none => [c]

def capitalSigma : Char := 'Σ'

/-- Whether the next letter that is not passed over has case. -/
def nextIsCased (s : List Char) : Bool :=
  match s.dropWhile Unicode.caseIgnorableSet.contains with
  | [] => false
  | c :: _ => Unicode.casedSet.contains c

/-- The lowercase form of `s` after the characters `before`, given in reverse. -/
def lowerFrom : (before s : List Char) → List Char
  | _, [] => []
  | before, c :: s =>
      let form :=
        if c = capitalSigma then
          if nextIsCased before && !nextIsCased s then ['ς'] else ['σ']
        else lowerChar c
      form ++ lowerFrom (c :: before) s

def lower (s : List Char) : List Char :=
  lowerFrom [] s

def lowered (s : String) : String :=
  String.ofList (lower s.toList)

/-- A string with the letters A to Z in lowercase. -/
def asciiLowered (s : String) : String :=
  String.ofList (s.toList.map asciiLower)

end Text

end LinkHygiene
