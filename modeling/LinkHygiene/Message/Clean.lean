import LinkHygiene.Message.Links
import LinkHygiene.Text.Split

/-!
# Cleaning messages

Several links are cleaned at a time, each by a task of its own; the results come
in any order, and a task that fails leaves its link. A message is cleaned by
putting cleaned links in the place of raw ones.
-/

namespace LinkHygiene

namespace Message

/-- The end of the task for one link; without a result it has failed. -/
structure Completion where
  index : Nat
  result : Option String
deriving Repr, DecidableEq

def complete (links : List String) (c : Completion) : List String :=
  match c.result with
  | some result => links.set c.index result
  | none => links

def gather (links : List String) (completions : List Completion) : List String :=
  completions.foldl complete links

/-- The completions when all tasks succeed and end in order. -/
def completionsInOrder (results : List String) : List Completion :=
  results.zipIdx.map fun (result, index) => ⟨index, some result⟩

def cleanLinks (resolve : String → String) (links : List String) : List String :=
  gather links (completionsInOrder (links.map resolve))

structure Replacement where
  raw : String
  cleaned : String
deriving Repr, DecidableEq

/-- The text with the first occurrence of each raw link replaced, one after the other. -/
def replaceLinks (text : String) (replacements : List Replacement) : String :=
  String.ofList (replacements.foldl
    (fun text r => Text.replaceFirst r.raw.toList r.cleaned.toList text) text.toList)

def cleanedLinks (resolve : String → String) (text : String) : List Replacement :=
  let links := extractLinks text
  links.zipWith Replacement.mk (cleanLinks resolve links)

def cleanText (resolve : String → String) (text : String) : String :=
  replaceLinks text (cleanedLinks resolve text)

end Message

end LinkHygiene
