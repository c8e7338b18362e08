import LinkHygiene.Text.Blank
import LinkHygiene.Url.Parse

/-!
# Redirect probes

What a request that follows no redirects brings back: a status and perhaps a
location. The two permanent and temporary redirects of old, 301 and 302, are the
ones that lead on.
-/

namespace LinkHygiene

/-- The answer to a request that follows no redirects. -/
structure Probe where
  status : Nat
  location : Option String
deriving Repr, DecidableEq

namespace Probe

def uneventful : Probe := ⟨200, none⟩

def isRedirect (p : Probe) : Bool :=
  p.status == 301 || p.status == 302

/-- Where the answer to a request for `base` leads, if it leads anywhere. -/
def target? (p : Probe) (base : Url) : Option Url :=
  if p.isRedirect then
    match p.location.map Text.trimmed with
    | none => none
    | some location =>
        if location.isEmpty then none else (base.join location).toOption
  else none

@[simp] theorem target?_uneventful (base : Url) : uneventful.target? base = none := rfl

end Probe

end LinkHygiene
