import LinkHygiene.Proofs.Resolve.Plan

/-!
# What a probe gives away

A redirect probe is made for a URL that has been cleaned, and so is the link with which a
step ends that has cleaned one. The rules in the store that are for such a URL remove
nothing from it any more, whatever has been made of its host, its path and its parameters
before.
-/

namespace LinkHygiene

namespace Resolver

variable {r : Resolver} {t : Trace} {link : String}

theorem exists_of_head_ask? {v : Url} (h : r.ask? link = some (.head v)) :
    ∃ u, r.plan link = .sift u ∧ v = r.cleaned u := by
  have hintended := intended?_of_ask? h
  cases hplan : r.plan link with
  | leave => simp [hplan, intended?] at hintended
  | unwrap inner => simp [hplan, intended?] at hintended
  | readPage u selector => simp [hplan, intended?] at hintended
  | probeGet u => simp [hplan, intended?] at hintended
  | sift u =>
      rw [hplan] at hintended
      exact ⟨u, rfl, (Asked.head.inj (Option.some.inj hintended)).symm⟩

theorem done_finish {u : Url} {out : String} (h : (r.finish t u).1 = .done out) :
    out = (r.cleaned u).text := by
  rw [finish_eq] at h
  unfold probeHead followProbe at h
  split at h
  · dsimp only at h
    split at h
    · simp at h
    · exact (Step.done.inj h).symm
  · exact (Step.done.inj h).symm

theorem strippedBy_cleaned {lookup : Url.RuleLookup StoreError} (hlookup : r.lookup = some lookup)
    (u : Url) : (r.cleaned u).StrippedBy lookup := by
  unfold cleaned
  rw [hlookup]
  exact Url.strippedBy_clean u lookup

/-- Every URL that is probed on the way is cleaned before. -/
theorem strippedBy_of_mem_asked {lookup : Url.RuleLookup StoreError}
    (hlookup : r.lookup = some lookup) {depth : Nat} {v : Url}
    (h : .head v ∈ r.asked depth link) : v.StrippedBy lookup := by
  obtain ⟨visited, hvisited⟩ := exists_of_mem_asked h
  obtain ⟨u, _, rfl⟩ := exists_of_head_ask? hvisited
  exact strippedBy_cleaned hlookup u

/--
With a store that does not change, from every URL that is probed the rules that are found
for it remove nothing, and nothing either from the URL with which a step ends that has
cleaned one. So cleaning any URL a second time changes nothing.
-/
theorem probes_carry_no_tracking (registry : Registry) (lookup : Url.RuleLookup StoreError)
    (network : Network) (depth : Nat) (link : String) :
    let r : Resolver := ⟨registry, some lookup, network⟩
    (calls (r.resolveFrom depth link) = (r.asked depth link).map Asked.call ∧
      ∀ v, .head v ∈ r.asked depth link → v.StrippedBy lookup) ∧
    (∀ t visited u out, r.plan visited = .sift u → (r.step t visited).1 = .done out →
      ∃ v, out = v.text ∧ v = u.clean lookup ∧ v.StrippedBy lookup) ∧
    ∀ u : Url, (u.clean lookup).clean lookup = u.clean lookup := by
  intro r
  refine ⟨⟨calls_resolveFrom r depth link, ?_⟩, ?_, ?_⟩
  · intro v hv
    exact strippedBy_of_mem_asked rfl hv
  · intro t visited u out hplan hstep
    rw [step_eq_carryOut, hplan] at hstep
    exact ⟨r.cleaned u, done_finish hstep, rfl, strippedBy_cleaned rfl u⟩
  · intro u
    exact Url.clean_clean u lookup

def tracked : Store :=
  ⟨some [Row.ofRule ⟨"*.a.example", none, "utm", .remove, false⟩], []⟩

/-- A network that redirects one page to another one and marks the link that leads there. -/
def tagging : Network :=
  .fixed (fun url => if url = "https://www.a.example/?id=2" then some ⟨301, some "/b?id=2&UTM=3"⟩
    else none) (fun _ => none) (fun _ => none)

theorem calls_tagging :
    calls ((Resolver.mk .empty (some tracked.find) tagging).resolveFrom 0
      "https://www.a.example/?utm=1&id=2") =
      [.head "https://www.a.example/?id=2", .head "https://www.a.example/b?id=2"] := by
  decide +kernel

/-- What a redirect adds to a link is gone before the next probe. -/
theorem probes_carry_no_tracking_tagging :
    ∃ v, .head v ∈ (Resolver.mk .empty (some tracked.find) tagging).asked 0
        "https://www.a.example/?utm=1&id=2" ∧
      v.text = "https://www.a.example/b?id=2" ∧ v.StrippedBy tracked.find := by
  obtain ⟨⟨hcalls, hstripped⟩, _, _⟩ := probes_carry_no_tracking .empty tracked.find tagging 0
    "https://www.a.example/?utm=1&id=2"
  rw [calls_tagging] at hcalls
  have hsecond : Call.head "https://www.a.example/b?id=2" ∈
      ((Resolver.mk .empty (some tracked.find) tagging).asked 0
        "https://www.a.example/?utm=1&id=2").map Asked.call := by
    rw [← hcalls]
    exact .tail _ (.head _)
  obtain ⟨a, ha, hcall⟩ := List.mem_map.1 hsecond
  cases a with
  | head v => exact ⟨v, ha, Call.head.inj hcall, hstripped v ha⟩
  | get v => simp [Asked.call] at hcall
  | page v => simp [Asked.call] at hcall

end Resolver

end LinkHygiene
