import LinkHygiene.Unicode.Decomposition

/-!
# Composed form

Canonically equivalent texts get one spelling: every character is decomposed,
the marks that follow a letter are put in the order of their classes, and what
composes is composed again. Hangul syllables follow their arithmetic.
-/

namespace LinkHygiene

namespace Text

/-- The class that orders a combining mark; zero for everything else. -/
def combiningClasses : List (Nat × Unicode.RangeSet) :=
  Unicode.combiningClassRows.map fun (cls, rows) => (cls, .ofRows rows)

def combiningClass (c : Char) : Nat :=
  if c.toNat < 0x300 then 0
  else match combiningClasses.find? (fun entry => entry.2.contains c) with
    | some (cls, _) => cls
    | none => 0

def hangulBase : Nat := 0xAC00
def hangulLead : Nat := 0x1100
def hangulVowel : Nat := 0x1161
def hangulTail : Nat := 0x11A7
def hangulTails : Nat := 28
def hangulVowels : Nat := 21
def hangulLeads : Nat := 19

def hangulParts? (n : Nat) : Option (List Nat) :=
  if hangulBase ≤ n && n < hangulBase + hangulLeads * hangulVowels * hangulTails then
    let offset := n - hangulBase
    let lead := hangulLead + offset / (hangulVowels * hangulTails)
    let vowel := hangulVowel + offset % (hangulVowels * hangulTails) / hangulTails
    let tail := hangulTail + offset % hangulTails
    some (if tail = hangulTail then [lead, vowel] else [lead, vowel, tail])
  else none

def decomposeChar (c : Char) : List Char :=
  if c.toNat < 0xC0 then [c]
  else match hangulParts? c.toNat with
    | some parts => parts.map Char.ofNat
    | none =>
        match Unicode.decompositionRuns.find? c.toNat with
        | some parts => parts.map Char.ofNat
        | none => [c]

/-- Inserts a mark behind all marks of a class that is not greater. -/
def insertMark (mark : Nat × Char) : List (Nat × Char) → List (Nat × Char)
  | [] => [mark]
  | m :: marks => if mark.1 < m.1 then mark :: m :: marks else m :: insertMark mark marks

def orderFrom : (marks : List (Nat × Char)) → List Char → List (Nat × Char)
  | marks, [] => marks
  | marks, c :: s =>
      let cls := combiningClass c
      if cls = 0 then marks ++ (0, c) :: orderFrom [] s
      else orderFrom (insertMark (cls, c) marks) s

def compositions : List (Nat × Nat × Nat) :=
  let runs := (Unicode.RunMap.ofRows (Unicode.compositionRows.map
    fun row => row.map fun c => if c = '+' then '>' else if c = '>' then '+' else c)).runs
  runs.toList.filterMap fun run => match run.image with
    | [second, composite] => some (run.first, second, composite)
    | _ => none

def compose? (first second : Char) : Option Char :=
  let a := first.toNat
  let b := second.toNat
  if hangulLead ≤ a && a < hangulLead + hangulLeads
      && hangulVowel ≤ b && b < hangulVowel + hangulVowels then
    some (Char.ofNat (hangulBase +
      ((a - hangulLead) * hangulVowels + (b - hangulVowel)) * hangulTails))
  else if hangulBase ≤ a && a < hangulBase + hangulLeads * hangulVowels * hangulTails
      && (a - hangulBase) % hangulTails = 0
      && hangulTail < b && b < hangulTail + hangulTails then
    some (Char.ofNat (a + (b - hangulTail)))
  else match compositions.find? (fun (f, s, _) => f = a && s = b) with
    | some (_, _, composite) => some (Char.ofNat composite)
    | none => none

/-- What composing has read: text before the last starter, the starter, its marks. -/
structure Composing where
  before : List Char
  starter : Option Char
  marks : List Char
  lastClass : Nat

def Composing.flush (c : Composing) : List Char :=
  c.before ++ c.starter.toList ++ c.marks

/--
A character composes with the last starter unless a mark of the same or a
greater class, or another starter, stands between them.
-/
def Composing.add (state : Composing) (item : Nat × Char) : Composing :=
  let (cls, c) := item
  let open_ := state.marks.isEmpty || (state.lastClass != 0 && state.lastClass < cls)
  match state.starter with
  | some starter =>
      match (if open_ then compose? starter c else none) with
      | some composite => { state with starter := some composite }
      | none =>
          if cls = 0 then ⟨state.flush, some c, [], 0⟩
          else { state with marks := state.marks ++ [c], lastClass := cls }
  | none =>
      if cls = 0 then ⟨state.flush, some c, [], 0⟩
      else { state with marks := state.marks ++ [c], lastClass := cls }

def composed (s : List Char) : List Char :=
  ((orderFrom [] (s.flatMap decomposeChar)).foldl Composing.add ⟨[], none, [], 0⟩).flush

end Text

end LinkHygiene
