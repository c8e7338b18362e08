import LinkHygiene.Unicode.CaseTable

/-!
# Case folding

Two characters differ in case only when they fold to the same character. The
simple folding used here never changes the length of a text.
-/

namespace LinkHygiene

namespace Unicode

def simpleFold (c : Char) : Char :=
  match foldingRuns.find? c.toNat with
  | some [image] => Char.ofNat image
  | _ => c

/-- All case variants of a character, the character itself among them. -/
def caseVariants (c : Char) : List Char :=
  let folded := simpleFold c
  folded :: (foldingRuns.sources folded.toNat).map Char.ofNat

end Unicode

end LinkHygiene
