import LinkHygiene.Text.Composed
import LinkHygiene.Text.Split
import LinkHygiene.Text.Lowercase
import LinkHygiene.Unicode.Direction
import LinkHygiene.Unicode.HostMapping
import LinkHygiene.Unicode.Joining
import LinkHygiene.Url.Punycode

/-!
# Domain names

The ASCII form of a host name. Letters are folded and compatibility characters
replaced, the result is composed, and each label that is still not ASCII is
written in Punycode behind `xn--`. Names whose characters, joiners or writing
directions are not allowed have no ASCII form.
-/

namespace LinkHygiene

namespace Domain

/-- The characters that end or structure a URL and so cannot occur in a domain. -/
def isForbidden (c : Char) : Bool :=
  c.toNat ≤ 0x20 || c.toNat == 0x7F ||
    ['#', '%', '/', ':', '<', '>', '?', '@', '[', '\\', ']', '^', '|'].contains c

def mapChar? (c : Char) : Option (List Char) :=
  if Text.isAscii c then some [Text.asciiLower c]
  else if Unicode.hostKept.contains c then some [c]
  else if Unicode.hostDropped.contains c then some []
  else (Unicode.hostReplaced.find? c.toNat).map (·.map Char.ofNat)

def mapChars? : List Char → Option (List Char)
  | [] => some []
  | c :: s =>
      match mapChar? c, mapChars? s with
      | some form, some rest => some (form ++ rest)
      | _, _ => none

def aceLead : List Char := "xn--".toList

def isLetterOfRightToLeft (c : Char) : Bool :=
  Unicode.bidiR.contains c || Unicode.bidiAL.contains c

/-- Whether a character makes the rules on writing direction apply; none of ASCII does. -/
def isRightToLeft (c : Char) : Bool :=
  !Text.isAscii c && (isLetterOfRightToLeft c || Unicode.bidiAN.contains c)

def isNeutral (c : Char) : Bool :=
  Unicode.bidiES.contains c || Unicode.bidiCS.contains c || Unicode.bidiET.contains c ||
    Unicode.bidiON.contains c || Unicode.bidiBN.contains c || Unicode.bidiNSM.contains c

def lastBase? (label : List Char) : Option Char :=
  (label.reverse.dropWhile Unicode.bidiNSM.contains).head?

/-- A label keeps to one direction: it begins, continues and ends as that direction allows. -/
def directionAllowed (label : List Char) : Bool :=
  match label with
  | [] => true
  | first :: _ =>
      if isLetterOfRightToLeft first then
        label.all (fun c => isRightToLeft c || Unicode.bidiEN.contains c || isNeutral c) &&
          (match lastBase? label with
            | some c => isRightToLeft c || Unicode.bidiEN.contains c
            | none => false) &&
          !(label.any Unicode.bidiEN.contains && label.any Unicode.bidiAN.contains)
      else if Unicode.bidiL.contains first then
        label.all (fun c => Unicode.bidiL.contains c || Unicode.bidiEN.contains c || isNeutral c) &&
          (match lastBase? label with
            | some c => Unicode.bidiL.contains c || Unicode.bidiEN.contains c
            | none => false)
      else false

def joinsAcross (before after : List Char) : Bool :=
  (match before.dropWhile Unicode.joiningT.contains with
    | c :: _ => Unicode.joiningL.contains c || Unicode.joiningD.contains c
    | [] => false) &&
  (match after.dropWhile Unicode.joiningT.contains with
    | c :: _ => Unicode.joiningR.contains c || Unicode.joiningD.contains c
    | [] => false)

/-- Invisible joiners may stand only where they change the writing. -/
def joinersAllowedFrom : (before label : List Char) → Bool
  | _, [] => true
  | before, c :: rest =>
      (if c.toNat = 0x200C || c.toNat = 0x200D then
        (match before with
          | b :: _ => Unicode.viramaSet.contains b
          | [] => false) || (c.toNat == 0x200C && joinsAcross before rest)
      else true) && joinersAllowedFrom (c :: before) rest

def startsWithMark : List Char → Bool
  | [] => false
  | c :: _ => Unicode.markSet.contains c

def labelAllowed (label : List Char) : Bool :=
  !startsWithMark label && joinersAllowedFrom [] label

/-- A label that was given in Punycode has to be one that the mapping leaves alone. -/
def decodedAllowed (label : List Char) : Bool :=
  !label.all Text.isAscii && mapChars? label == some label &&
    Text.composed label == label && labelAllowed label

structure Label where
  text : List Char
  ascii : List Char

def readLabel? (label : List Char) : Option Label :=
  match Text.afterPrefix? aceLead label with
  | some digits =>
      match Punycode.decode? digits with
      | some text => if decodedAllowed text then some ⟨text, label⟩ else none
      | none => none
  | none =>
      if label.all Text.isAscii then some ⟨label, label⟩
      else if labelAllowed label then some ⟨label, aceLead ++ Punycode.encode label⟩
      else none

def readLabels? : List (List Char) → Option (List Label)
  | [] => some []
  | label :: rest =>
      match readLabel? label, readLabels? rest with
      | some l, some ls => some (l :: ls)
      | _, _ => none

def toAscii? (name : List Char) : Option (List Char) :=
  match mapChars? name with
  | none => none
  | some mapped =>
      let name := if mapped.all Text.isAscii then mapped else Text.composed mapped
      match readLabels? (Text.splitOn '.' name) with
      | none => none
      | some labels =>
          let ascii := Text.joinWith ['.'] (labels.map Label.ascii)
          let directed := labels.any (fun l => l.text.any isRightToLeft)
          if ascii.any isForbidden then none
          else if directed && !labels.all (fun l => directionAllowed l.text) then none
          else some ascii

end Domain

end LinkHygiene
