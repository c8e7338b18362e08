import LinkHygiene.Text.Blank
import LinkHygiene.Text.Split

/-!
# Tracking rules

A tracking rule names a query parameter, or a pattern for such names, and tells
whether it is removed from links or protected. It holds for a domain and, when it
gives a path, for the paths that begin with it.
-/

namespace LinkHygiene

inductive Effect where
  | remove
  | allow
deriving Repr, DecidableEq

namespace Effect

def code : Effect → Int
  | remove => 0
  | allow => 1

/-- The effect stored as a number; numbers that stand for none remove. -/
def ofCode (code : Int) : Effect :=
  if code = 1 then allow else remove

@[simp] theorem ofCode_code (e : Effect) : ofCode e.code = e := by
  cases e <;> rfl

end Effect

structure TrackingRule where
  domain : String
  /-- Where paths have to begin; `none` holds for every path. -/
  path : Option String
  /-- A parameter name, or a pattern between slashes. -/
  param : String
  effect : Effect
  isRegex : Bool
deriving Repr, DecidableEq

namespace TrackingRule

def slashed? (param : List Char) : Option (List Char) :=
  match param with
  | '/' :: rest =>
      match rest.reverse with
      | '/' :: c :: body => some (c :: body).reverse
      | _ => none
  | _ => none

def isSlashed (param : String) : Bool :=
  (slashed? param.toList).isSome

def unslashed (param : String) : String :=
  match slashed? param.toList with
  | some body => String.ofList body
  | none => param

def regexBody (r : TrackingRule) : String :=
  unslashed r.param

/-- Whether a rule holds for a path. Blanks around the beginning it asks for do not count. -/
def appliesTo (r : TrackingRule) (path : String) : Bool :=
  match r.path with
  | none => true
  | some lead => Text.startsWith (Text.trim lead.toList) path.toList

end TrackingRule

end LinkHygiene
