import LinkHygiene.Proofs.Resolve.Rest

/-!
# What steps do

What a step does with a link is settled by the link and the rules before anything is
looked up or asked: it ends there, goes on with a link inside, or asks the network about one
URL. A resolution is the list of the links at which it makes a step, and what it asks is
what these steps ask, in order.
-/

namespace LinkHygiene

/-- What is going to be done with a link. -/
inductive Plan where
  /-- The resolution ends with the link as it is. -/
  | leave
  /-- It goes on with a link that the link holds. -/
  | unwrap (inner : String)
  | readPage (u : Url) (selector : Option Pattern)
  | probeGet (u : Url)
  /-- The URL is cleaned and probed. -/
  | sift (u : Url)

/-- A request, by the URL that it is made for. -/
inductive Asked where
  | head (u : Url)
  | get (u : Url)
  | page (u : Url)
deriving Repr, DecidableEq

namespace Asked

def url : Asked → Url
  | head u => u
  | get u => u
  | page u => u

def call : Asked → Call
  | head u => .head u.text
  | get u => .get u.text
  | page u => .page u.text

theorem url_call (a : Asked) : a.call.url = a.url.text := by
  cases a <;> rfl

end Asked

def Rule.plan (rule : Rule) (u : Url) : Plan :=
  match rule.action with
  | .noOp => .leave
  | .domExtract selector => .readPage u selector
  | .getRedirect => .probeGet u
  | .paramExtract param =>
      match u.firstParam? param with
      | some inner => .unwrap inner
      | none => .sift (rule.apply u)
  | _ => .sift (rule.apply u)

namespace Resolver

variable {r : Resolver} {t : Trace} {link : String}

/-! ## Single steps -/

def plan (r : Resolver) (link : String) : Plan :=
  match Url.parse link with
  | .error _ => .leave
  | .ok u =>
      match r.ruleFor? u with
      | some rule => rule.plan u
      | none => .sift u

def carryOut (r : Resolver) (t : Trace) (link : String) : Plan → Step × Trace
  | .leave => (.done link, t)
  | .unwrap inner => (.follow inner, t)
  | .readPage u selector => r.readPage t u selector
  | .probeGet u => r.probeGet t u
  | .sift u => r.finish t u

theorem useRule_eq_carryOut (r : Resolver) (t : Trace) (link : String) (u : Url) (rule : Rule) :
    r.useRule t link u rule = r.carryOut t link (rule.plan u) := by
  unfold useRule Rule.plan
  cases rule.action with
  | noOp => rfl
  | domExtract selector => rfl
  | getRedirect => rfl
  | paramExtract param =>
      dsimp only
      cases u.firstParam? param <;> rfl
  | hostReplace newHost policy => rfl
  | paramClean policy => rfl

theorem step_eq_carryOut (r : Resolver) (t : Trace) (link : String) :
    r.step t link = r.carryOut t link (r.plan link) := by
  unfold step plan
  cases Url.parse link with
  | error e => rfl
  | ok u =>
      dsimp only
      cases r.ruleFor? u with
      | none => rfl
      | some rule => exact useRule_eq_carryOut r t link u rule

def intended? (r : Resolver) : Plan → Option Asked
  | .leave => none
  | .unwrap _ => none
  | .readPage u _ => some (.page u)
  | .probeGet u => some (.get u)
  | .sift u => some (.head (r.cleaned u))

/-- The request that is made at a link: what is planned there, if it is for the web. -/
def ask? (r : Resolver) (link : String) : Option Asked :=
  (r.intended? (r.plan link)).filter (·.url.isHttp)

theorem intended?_of_ask? {a : Asked} (h : r.ask? link = some a) :
    r.intended? (r.plan link) = some a :=
  (Option.filter_eq_some_iff.1 h).1

theorem isHttp_of_ask? {a : Asked} (h : r.ask? link = some a) : a.url.isHttp = true :=
  (Option.filter_eq_some_iff.1 h).2

theorem calls_clean (r : Resolver) (t : Trace) (u : Url) : (r.clean t u).2.calls = t.calls := by
  unfold clean
  split
  · rfl
  · split <;> rfl

theorem finish_eq (r : Resolver) (t : Trace) (u : Url) :
    r.finish t u = r.probeHead (r.clean t u).2 (r.cleaned u) := by
  rw [← clean_fst r t u]
  rfl

/-- A step asks what is planned, and nothing else. -/
theorem calls_step (r : Resolver) (t : Trace) (link : String) :
    (r.step t link).2.calls = ((r.ask? link).map Asked.call).toList ++ t.calls := by
  rw [step_eq_carryOut, ask?]
  cases r.plan link with
  | leave => rfl
  | unwrap inner => rfl
  | readPage u selector =>
      simp only [carryOut, readPage, intended?, Option.filter_some, Asked.url]
      split <;> rfl
  | probeGet u =>
      simp only [carryOut, probeGet, intended?, Option.filter_some, Asked.url]
      split <;> rfl
  | sift u =>
      rw [carryOut, finish_eq, ← calls_clean r t u]
      simp only [probeHead, intended?, Option.filter_some, Asked.url]
      split <;> rfl

/-! ## Earlier requests -/

section EarlierRequests

variable {t' : Trace} (hcalls : t.calls = t'.calls)

include hcalls

theorem probeHead_congr (r : Resolver) (u : Url) :
    (r.probeHead t u).1 = (r.probeHead t' u).1 := by
  unfold probeHead
  rw [hcalls]
  split <;> rfl

theorem probeGet_congr (r : Resolver) (u : Url) : (r.probeGet t u).1 = (r.probeGet t' u).1 := by
  unfold probeGet
  rw [hcalls]
  split <;> rfl

theorem readPage_congr (r : Resolver) (u : Url) (selector : Option Pattern) :
    (r.readPage t u selector).1 = (r.readPage t' u selector).1 := by
  unfold readPage
  rw [hcalls]
  split <;> rfl

end EarlierRequests

/-! ## Runs -/

/-- The links at which a run makes its steps, in order. -/
def visits (r : Resolver) : (budget : Nat) → Trace → String → List String
  | 0, _, _ => []
  | budget + 1, t, link =>
      link :: (match r.step t link with
        | (.done _, _) => []
        | (.follow next, t) => visits r budget t next)

theorem length_visits_le (r : Resolver) (budget : Nat) (t : Trace) (link : String) :
    (r.visits budget t link).length ≤ budget := by
  induction budget generalizing t link with
  | zero => simp [visits]
  | succ budget ih =>
      rw [visits, List.length_cons]
      split
      · simp
      · rename_i next t' _
        exact Nat.succ_le_succ (ih t' next)

/-- What a run asks is what it asks at the links it visits, and it has been asked last. -/
theorem calls_run (r : Resolver) (budget : Nat) (t : Trace) (link : String) :
    calls (r.run budget t link) =
      t.calls.reverse ++ ((r.visits budget t link).filterMap r.ask?).map Asked.call := by
  induction budget generalizing t link with
  | zero => simp [run, visits, calls]
  | succ budget ih =>
      have hcalls := calls_step r t link
      have hfirst : ∀ later, ((link :: later).filterMap r.ask?).map Asked.call =
          ((r.ask? link).map Asked.call).toList.reverse ++
            (later.filterMap r.ask?).map Asked.call := by
        intro later
        cases h : r.ask? link <;> simp [h]
      unfold run visits
      rw [hfirst]
      cases hstep : r.step t link with
      | mk next after =>
          rw [hstep] at hcalls
          dsimp only at hcalls
          cases next with
          | done out =>
              simp only [calls]
              rw [hcalls, List.reverse_append, List.filterMap_nil, List.map_nil, List.append_nil]
          | follow next =>
              dsimp only
              rw [ih, hcalls, List.reverse_append, List.append_assoc]

/-- What a resolution asks, request by request. -/
def asked (r : Resolver) (depth : Nat) (link : String) : List Asked :=
  (r.visits (maxDepth + 1 - depth) {} link).filterMap r.ask?

theorem calls_resolveFrom (r : Resolver) (depth : Nat) (link : String) :
    calls (r.resolveFrom depth link) = (r.asked depth link).map Asked.call := by
  rw [resolveFrom, calls_run, asked, List.reverse_nil, List.nil_append]

theorem length_asked_le (r : Resolver) (depth : Nat) (link : String) :
    (r.asked depth link).length ≤ maxDepth + 1 - depth :=
  Nat.le_trans (List.length_filterMap_le _ _) (length_visits_le r _ {} link)

theorem exists_of_mem_asked {depth : Nat} {a : Asked} (h : a ∈ r.asked depth link) :
    ∃ visited, r.ask? visited = some a := by
  obtain ⟨visited, _, hasked⟩ := List.mem_filterMap.1 h
  exact ⟨visited, hasked⟩

end Resolver

end LinkHygiene
