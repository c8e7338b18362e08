import LinkHygiene.Proofs.Rule.Extension
import LinkHygiene.Proofs.Url.Rereading
import LinkHygiene.Resolve.Basic

/-!
# Links in links

A link that is put into a parameter of a URL is the next link of a resolution whose rules go
on with this parameter. It comes out as it was put in, and getting it out takes one level of
the resolution and nothing else. So links in links come out one by one, as far as there are
levels for them.
-/

namespace LinkHygiene

namespace Url

def wrap (u : Url) (param link : String) : String :=
  (u.setQueryPairs [⟨param, link⟩]).text

/-- A link that has been put into the same URL again and again. -/
def wrapped (u : Url) (param link : String) : (times : Nat) → String
  | 0 => link
  | times + 1 => u.wrap param (wrapped u param link times)

theorem wrapped_add (u : Url) (param link : String) (m n : Nat) :
    u.wrapped param link (m + n) = u.wrapped param (u.wrapped param link n) m := by
  induction m with
  | zero =>
      rw [Nat.zero_add]
      rfl
  | succ m ih =>
      have hsum : m + 1 + n = m + n + 1 := by omega
      rw [hsum, wrapped, wrapped, ih]

theorem text_ne_empty (u : Url) : u.text ≠ "" := by
  intro h
  have hrender : u.render = [] := by
    rw [← String.toList_ofList (l := u.render), ← text, h]
    rfl
  simp [render] at hrender

theorem wrapped_ne_empty {link : String} (hlink : link ≠ "") (u : Url) (param : String)
    (times : Nat) : u.wrapped param link times ≠ "" := by
  cases times with
  | zero => exact hlink
  | succ times => exact text_ne_empty _

theorem firstParam?_of_queryPairs {u : Url} {param link : String}
    (h : u.queryPairs = [⟨param, link⟩]) (hlink : link ≠ "") :
    u.firstParam? param = some link := by
  simp [firstParam?, h, hlink]

theorem exists_parse_text_on_host {text : String} {u : Url} (h : parse text = .ok u)
    (hhttp : u.isHttp = true) (hhost : u.KeepsHost) (pairs : List Form.Pair) :
    ∃ v, parse (u.setQueryPairs pairs).text = .ok v ∧ v.hostText? = u.hostText? ∧
      v.queryPairs = pairs := by
  have hkeeps : (u.setQueryPairs pairs).KeepsHost := by
    rwa [KeepsHost, host?_setQueryPairs, kind_setQueryPairs]
  have hreadable := readable_setQueryPairs h pairs
  obtain ⟨v, hread, hhosts⟩ := hreadable.exists_parse_text_eq hkeeps
  refine ⟨v, hread, ?_, queryPairs_of_parse_text h hread⟩
  have hscheme : v.scheme = u.scheme := by
    rw [(hreadable.of_parse_text hread).1, scheme_setQueryPairs]
  have hvhttp : v.isHttp = true := by
    rw [isHttp, hscheme]
    exact hhttp
  have hsited : v.Sited := sited_of_parse hread hvhttp
  obtain ⟨a, ha, hwell⟩ := hsited.authority
  obtain ⟨host, hsome, _⟩ := hwell.host
  have hvhost : v.host? = some host := by
    rw [host?, ha]
    exact hsome
  have huhost : u.host? = some host := by
    rw [← host?_setQueryPairs u pairs]
    exact hhosts host hvhost
  rw [hostText?, hostText?, hvhost, huhost]

end Url

namespace Resolver

section Unwrapping

variable {r : Resolver} {text host param link : String} {u : Url} {rule : Rule}
  (hread : Url.parse text = .ok u) (hhttp : u.isHttp = true) (hkeeps : u.KeepsHost)
  (hhost : u.hostText? = some host) (hrule : r.registry.find? host = some rule)
  (haction : rule.action = .paramExtract param) (hpath : rule.pathPattern = none)

include hread hhttp hkeeps hhost hrule haction hpath

/-- One step takes a link out of the parameter that holds it, and does nothing else. -/
theorem step_wrap (hlink : link ≠ "") (t : Trace) :
    r.step t (u.wrap param link) = (.follow link, t) := by
  obtain ⟨v, hv, hvhost, hpairs⟩ :=
    Url.exists_parse_text_on_host hread hhttp hkeeps [⟨param, link⟩]
  have hfound : r.ruleFor? v = some rule := by
    rw [ruleFor?, hvhost, hhost, Option.getD_some, hrule, Option.filter_some, Rule.matchesPath,
      hpath, if_pos rfl]
  have hparam : v.firstParam? param = some link := Url.firstParam?_of_queryPairs hpairs hlink
  unfold step
  rw [Url.wrap, hv]
  dsimp only
  rw [hfound]
  dsimp only
  rw [useRule, haction]
  dsimp only
  rw [hparam]

/-- As many steps as a link was wrapped times take it out again. -/
theorem run_wrapped (hlink : link ≠ "") (budget times : Nat) (t : Trace) :
    r.run (budget + times) t (u.wrapped param link times) = r.run budget t link := by
  induction times with
  | zero => rfl
  | succ times ih =>
      have hinner : u.wrapped param link times ≠ "" := Url.wrapped_ne_empty hlink u param times
      have hstep := step_wrap hread hhttp hkeeps hhost hrule haction hpath hinner t
      rw [← Nat.add_assoc, run, Url.wrapped, hstep]
      exact ih

/--
A link that was put into a parameter of a web address, and the result again, any number of
times, is taken out again by a rule that goes on with this parameter, whatever characters it
is made of. This asks nothing and looks nothing up: as long as there are levels left, all that
comes of the resolution is what comes of the link itself on the level where it comes out. With
more layers than levels the resolution ends at the layers that are left. The host of the web
address has to be read again from what is written for it.
-/
theorem wrapped_link_comes_out (hlink : link ≠ "") (times : Nat) :
    (times ≤ maxDepth + 1 →
      r.resolveFrom 0 (u.wrapped param link times) = r.resolveFrom times link) ∧
    (maxDepth + 1 ≤ times →
      r.resolveFrom 0 (u.wrapped param link times) =
        ⟨u.wrapped param link (times - (maxDepth + 1)), false, {}⟩) := by
  constructor
  · intro htimes
    have hbudget : maxDepth + 1 - 0 = maxDepth + 1 - times + times := by omega
    calc r.resolveFrom 0 (u.wrapped param link times)
        = r.run (maxDepth + 1 - times + times) {} (u.wrapped param link times) := by
          rw [resolveFrom, hbudget]
      _ = r.run (maxDepth + 1 - times) {} link :=
          run_wrapped hread hhttp hkeeps hhost hrule haction hpath hlink _ times {}
      _ = r.resolveFrom times link := rfl
  · intro htimes
    have hsum : times = maxDepth + 1 + (times - (maxDepth + 1)) := by omega
    have hinner : u.wrapped param link (times - (maxDepth + 1)) ≠ "" :=
      Url.wrapped_ne_empty hlink u param _
    have hout := run_wrapped hread hhttp hkeeps hhost hrule haction hpath hinner 0
      (maxDepth + 1) {}
    rw [← Url.wrapped_add, ← hsum, Nat.zero_add] at hout
    exact hout

end Unwrapping

def doorway : RuleSpec :=
  { hostnames := ["door.example"], kind := .paramExtract "to" }

theorem find?_doorway :
    ∃ registry rule, Registry.ofSpecs [doorway] = .ok registry ∧
      registry.find? "door.example" = some rule ∧ rule.action = .paramExtract "to" ∧
      rule.pathPattern = none := by
  let rule : Rule := ⟨"door.example", ["door.example"], [], none, .paramExtract "to"⟩
  obtain ⟨registry, hbuild⟩ :=
    Registry.exists_build_iff.2 (List.pairwise_singleton Rule.Apart rule)
  have hcompile : Registry.ofSpecs [doorway] = Registry.build [rule] := rfl
  refine ⟨registry, rule, hcompile.trans hbuild, ?_, rfl, rfl⟩
  rw [Registry.find?_eq, Registry.rules_of_build hbuild]
  rfl

/-- Of six layers two are left, and below three there is a link of which one step is made. -/
theorem wrapped_link_comes_out_doorway :
    let u : Url := ⟨"https", some ⟨"", "", some (.name "door.example"), none⟩,
      .segments ["go"], none, some "top"⟩
    u.wrap "to" "é & 50%" = "https://door.example/go?to=%C3%A9+%26+50%25#top" ∧
      ∃ registry, Registry.ofSpecs [doorway] = .ok registry ∧
        let r : Resolver := ⟨registry, none, .fixed (fun _ => none) (fun _ => none)
          (fun _ => none)⟩
        r.resolveFrom 0 (u.wrapped "to" "é & 50%" 6) =
            ⟨u.wrapped "to" "é & 50%" 2, false, {}⟩ ∧
          r.resolveFrom 0 (u.wrapped "to" "https://door.example/?from=1" 3) =
            r.resolveFrom 3 "https://door.example/?from=1" := by
  intro u
  obtain ⟨registry, rule, hregistry, hrule, haction, hpath⟩ := find?_doorway
  refine ⟨by decide +kernel, registry, hregistry, ?_⟩
  intro r
  have hread : Url.parse "https://door.example/go#top" = .ok u :=
    eq_ok_of_toOption (by decide +kernel)
  have hkeeps : u.KeepsHost := Url.keepsHost_of_host? rfl (by decide +kernel)
  have hhost : u.hostText? = some "door.example" := by decide +kernel
  constructor
  · exact (wrapped_link_comes_out hread rfl hkeeps hhost hrule haction hpath
      (by decide : "é & 50%" ≠ "") 6).2 (by decide)
  · exact (wrapped_link_comes_out hread rfl hkeeps hhost hrule haction hpath
      (by decide : "https://door.example/?from=1" ≠ "") 3).1 (by decide)

end Resolver

end LinkHygiene
