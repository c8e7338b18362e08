import LinkHygiene.Filter.Strip
import LinkHygiene.Resolve.Network
import LinkHygiene.Rule.Apply
import LinkHygiene.Rule.Registry
import LinkHygiene.Store.Basic

/-!
# Resolving links

A link is resolved in steps. A step applies the rule for the host, strips tracking
parameters and asks the network where the link leads; it ends the resolution or
hands on the next link. The number of steps is bounded, so circles of redirects
end, and whatever goes wrong leaves the best link so far.
-/

namespace LinkHygiene

/-- What links are resolved with; without a store nothing is looked up. -/
structure Resolver where
  registry : Registry
  lookup : Option (Url.RuleLookup StoreError)
  network : Network

/-- What a resolution has asked of the network and of the store, the latest first. -/
structure Trace where
  calls : List Call := []
  lookups : List (List String) := []
deriving Repr, DecidableEq

namespace Trace

def called (t : Trace) (call : Call) : Trace :=
  { t with calls := call :: t.calls }

def lookedUp (t : Trace) (domains : List String) : Trace :=
  { t with lookups := domains :: t.lookups }

end Trace

/-- What comes of a step: the end of the resolution, or the next link. -/
inductive Step where
  | done (link : String)
  | follow (link : String)
deriving Repr, DecidableEq

/-- What a resolution ends with, and whether it came to its end by itself. -/
structure Outcome where
  link : String
  finished : Bool
  trace : Trace
deriving Repr, DecidableEq

namespace Resolver

def followProbe (u : Url) (probe : Option Probe) : Step :=
  match probe.bind (·.target? u) with
  | some next => .follow next.text
  | none => .done u.text

/-- Asks where a URL leads, without following. Only web addresses are asked. -/
def probeHead (r : Resolver) (t : Trace) (u : Url) : Step × Trace :=
  if u.isHttp then
    (followProbe u (r.network.head t.calls u.text), t.called (.head u.text))
  else (.done u.text, t)

def probeGet (r : Resolver) (t : Trace) (u : Url) : Step × Trace :=
  if u.isHttp then
    (followProbe u (r.network.get t.calls u.text), t.called (.get u.text))
  else (.done u.text, t)

/-- The link that a page leads to: what the selector finds, or else its address. -/
def pageLink? (u : Url) (selector : Option Pattern) (page : Page) : Option String :=
  match selector with
  | some pattern =>
      match pattern.capture? 1 page.body.toList with
      | some (c :: found) => some (String.ofList (c :: found))
      | _ => none
  | none => if page.finalUrl = u.text then none else some page.finalUrl

def readPage (r : Resolver) (t : Trace) (u : Url) (selector : Option Pattern) :
    Step × Trace :=
  if u.isHttp then
    (match (r.network.page t.calls u.text).bind (pageLink? u selector) with
      | some next => .follow next
      | none => .done u.text, t.called (.page u.text))
  else (.done u.text, t)

/-- The domains that are looked up for a URL: none for one without host or query. -/
def domains? (u : Url) : Option (List String) :=
  if u.query.isNone then none else u.hostText?.map Candidates.ofHost

def clean (r : Resolver) (t : Trace) (u : Url) : Url × Trace :=
  match r.lookup with
  | none => (u, t)
  | some lookup =>
      (u.clean lookup, match domains? u with
        | some domains => t.lookedUp domains
        | none => t)

/-- The tiers behind the rules: stored tracking rules, then the redirect probe. -/
def finish (r : Resolver) (t : Trace) (u : Url) : Step × Trace :=
  let (u, t) := r.clean t u
  r.probeHead t u

def useRule (r : Resolver) (t : Trace) (link : String) (u : Url) (rule : Rule) :
    Step × Trace :=
  match rule.action with
  | .noOp => (.done link, t)
  | .domExtract selector => r.readPage t u selector
  | .getRedirect => r.probeGet t u
  | .paramExtract param =>
      match u.firstParam? param with
      | some inner => (.follow inner, t)
      | none => r.finish t (rule.apply u)
  | _ => r.finish t (rule.apply u)

def ruleFor? (r : Resolver) (u : Url) : Option Rule :=
  (r.registry.find? (u.hostText?.getD "")).filter (·.matchesPath u.pathText)

/-- One step. What is no URL stays as it is. -/
def step (r : Resolver) (t : Trace) (link : String) : Step × Trace :=
  match Url.parse link with
  | .error _ => (.done link, t)
  | .ok u =>
      match r.ruleFor? u with
      | some rule => r.useRule t link u rule
      | none => r.finish t u

def run (r : Resolver) : (budget : Nat) → Trace → String → Outcome
  | 0, t, link => ⟨link, false, t⟩
  | budget + 1, t, link =>
      match r.step t link with
      | (.done link, t) => ⟨link, true, t⟩
      | (.follow link, t) => run r budget t link

/-- The deepest level at which a step is made. -/
def maxDepth : Nat := 3

/-- Resolves a link that was reached through `depth` earlier steps. -/
def resolveFrom (r : Resolver) (depth : Nat) (link : String) : Outcome :=
  r.run (maxDepth + 1 - depth) {} link

def resolve (r : Resolver) (link : String) : String :=
  (r.resolveFrom 0 link).link

def calls (o : Outcome) : List Call :=
  o.trace.calls.reverse

end Resolver

end LinkHygiene
