import LinkHygiene.Proofs.Rule.Settled
import LinkHygiene.Proofs.Url.Path

/-!
# What rules make of URLs

A rule that rewrites puts another host in, edits the path, and renames and chooses
parameters; each of these leaves the other parts of the URL alone. Nothing is lost on the
way: every parameter that the rule lets stay is there with its value, in its place. All
other rules leave URLs as they are.
-/

namespace LinkHygiene

namespace Url

theorem exists_of_setHost? {u v : Url} {new : String} (h : u.setHost? new = some v) :
    ∃ host : Host,
      v = { u with authority := some { u.authority.getD {} with host := some host } } := by
  unfold setHost? at h
  split at h
  · simp at h
  · split at h
    · simp at h
    · split at h
      · simp at h
      · rename_i host _
        exact ⟨host, (Option.some.inj h).symm⟩

theorem exists_moveTo_eq {u : Url} {a : Authority} (ha : u.authority = some a)
    (new : Option String) :
    ∃ host, u.moveTo new = { u with authority := some { a with host } } := by
  have hself : u = { u with authority := some { a with host := a.host } } := by
    obtain ⟨scheme, authority, path, query, fragment⟩ := u
    obtain rfl : authority = some a := ha
    rfl
  cases new with
  | none => exact ⟨a.host, hself⟩
  | some new =>
      cases hset : u.setHost? new with
      | none =>
          refine ⟨a.host, ?_⟩
          rw [moveTo, hset]
          exact hself
      | some moved =>
          obtain ⟨host, rfl⟩ := exists_of_setHost? hset
          refine ⟨some host, ?_⟩
          rw [moveTo, hset, Option.getD_some, ha, Option.getD_some]

end Url

namespace Policy

def renamed (p : Policy) (pair : Form.Pair) : Form.Pair :=
  { pair with name := p.effectiveKey pair.name }

theorem keepPairs_eq (p : Policy) (unlisted : Bool) (pairs : List Form.Pair) :
    p.keepPairs unlisted pairs =
      (pairs.map p.renamed).filter fun pair => p.retains pair.name unlisted := by
  induction pairs with
  | nil => rfl
  | cons pair pairs ih =>
      rw [keepPairs] at ih ⊢
      rw [List.filterMap_cons, List.map_cons, List.filter_cons, ih]
      dsimp only [renamed]
      split <;> simp_all

end Policy

namespace Rewriting

/-- What a rewriting makes of a URL, part by part. -/
structure Rewrites (w : Rewriting) (u v : Url) : Prop where
  scheme : v.scheme = u.scheme
  /-- Name, password and port are those from before. -/
  userinfo_port : ∀ a, u.authority = some a → ∃ b, v.authority = some b ∧
    b.username = a.username ∧ b.password = a.password ∧ b.port = a.port
  /-- There is another host only if one is named and the URL takes it. -/
  host : v.host? = ((w.newHost.bind u.setHost?).getD u).host?
  /-- The path is set once, to what all edits have made of it, if there are any. -/
  path : v.path = if w.policy.pathEdits.isEmpty then u.path
    else (u.setPath (w.policy.editPath u.pathText)).path
  /-- What an edit puts into the path does not run on into the query. -/
  closed : w.policy.pathEdits.isEmpty = false → Url.Closed v.pathText
  /-- The parameters with their new names, as far as these are admitted. -/
  pairs : v.queryPairs = (u.queryPairs.map w.policy.renamed).filter fun pair =>
    w.admits (Text.lowered pair.name)
  fragment : v.fragment = u.fragment

/-- Before the parameters, the host and the path are changed, and nothing else. -/
theorem exists_relocate_eq {u : Url} {a : Authority} (ha : u.authority = some a)
    (w : Rewriting) :
    ∃ host, w.relocate u =
      { u with
        authority := some { a with host }
        path := if w.policy.pathEdits.isEmpty then u.path
          else (u.setPath (w.policy.editPath u.pathText)).path } := by
  obtain ⟨host, hmoved⟩ := Url.exists_moveTo_eq ha w.newHost
  refine ⟨host, ?_⟩
  rw [relocate, Url.editPath, hmoved]
  split <;> rfl

theorem rewrites_apply {u : Url} (hplain : u.isPlain = false) {a : Authority}
    (ha : u.authority = some a) (w : Rewriting) : w.Rewrites u (w.apply u) := by
  obtain ⟨host, hrelocate⟩ := exists_relocate_eq ha w
  have hpath : (w.apply u).path = if w.policy.pathEdits.isEmpty then u.path
      else (u.setPath (w.policy.editPath u.pathText)).path := by
    rw [apply_eq, Url.path_setQueryPairs (isPlain_relocate hplain w), hrelocate]
  constructor
  case scheme => rw [apply_eq, Url.scheme_setQueryPairs, hrelocate]
  case userinfo_port =>
    intro b hb
    obtain rfl := Option.some.inj (ha.symm.trans hb)
    refine ⟨{ a with host }, ?_, rfl, rfl, rfl⟩
    rw [apply_eq, Url.authority_setQueryPairs, hrelocate]
  case host =>
    rw [apply_eq, Url.host?_setQueryPairs, host?_relocate]
    cases w.newHost <;> rfl
  case path => exact hpath
  case closed =>
    intro hedits
    rw [Url.pathText, hpath, if_neg (by simp [hedits])]
    exact Url.closed_pathText_setPath hplain _
  case pairs =>
    have hpairs : (w.relocate u).queryPairs = u.queryPairs := by
      rw [hrelocate]
      rfl
    rw [apply_eq, Url.queryPairs_setQueryPairs, hpairs, Policy.keepPairs_eq]
    rfl
  case fragment => rw [apply_eq, Url.fragment_setQueryPairs, hrelocate]

end Rewriting

namespace Rule

/--
A rule that replaces hosts or cleans parameters rewrites a URL with a host part by part;
without a list of parameters all stay in the first case and none in the second. Every other
rule leaves the URL as it is.
-/
theorem apply_exactly {u : Url} (hanchored : u.Anchored) {host : String}
    (hhost : u.hostText? = some host) (rule : Rule) :
    match rule.action with
    | .hostReplace newHost policy =>
        Rewriting.Rewrites ⟨newHost, policy, true⟩ u (rule.apply u)
    | .paramClean policy => Rewriting.Rewrites ⟨none, policy, false⟩ u (rule.apply u)
    | _ => rule.apply u = u := by
  have hplain := hanchored.isPlain_of_host hhost
  obtain ⟨a, ha⟩ : ∃ a, u.authority = some a := by
    cases hauthority : u.authority with
    | none => simp [Url.hostText?, Url.host?, hauthority] at hhost
    | some a => exact ⟨a, rfl⟩
  split
  case h_1 newHost policy haction =>
    have hw : rule.action.rewriting? = some ⟨newHost, policy, true⟩ := by
      rw [haction]
      rfl
    rw [apply_of_rewriting hw]
    exact Rewriting.rewrites_apply hplain ha _
  case h_2 policy haction =>
    have hw : rule.action.rewriting? = some ⟨none, policy, false⟩ := by
      rw [haction]
      rfl
    rw [apply_of_rewriting hw]
    exact Rewriting.rewrites_apply hplain ha _
  case h_3 action hreplace hclean =>
    apply apply_of_no_rewriting
    cases haction : rule.action with
    | hostReplace newHost policy => exact absurd haction (hreplace newHost policy)
    | paramClean policy => exact absurd haction (hclean policy)
    | _ => rfl

/-- A new host, an edit that puts in signs of a query, a new name and a list of one name. -/
theorem apply_exactly_mirror :
    let policy : Policy :=
      { pathEdits := [⟨⟨"x", .one (.one 'x'), []⟩, "?y#"⟩]
        renames := [("item", "ID")]
        keep := some ["id"] }
    let rule : Rule := ⟨"mirror", ["a.example"], [], none, .hostReplace (some "b.example") policy⟩
    let u : Url := ⟨"https", some ⟨"me", "", some (.name "a.example"), some 8080⟩,
      .segments ["x", "x"], some "Item=1&ref=2&id=", some "top"⟩
    (rule.apply u).host? = some (.name "b.example") ∧
      (rule.apply u).path = .segments ["%3Fy%23", "x"] ∧
      (rule.apply u).queryPairs = [⟨"ID", "1"⟩, ⟨"id", ""⟩] ∧
      (rule.apply u).fragment = some "top" := by
  intro policy rule u
  have hhost : u.hostText? = some "a.example" := by decide +kernel
  have hrewrites : Rewriting.Rewrites ⟨some "b.example", policy, true⟩ u (rule.apply u) :=
    apply_exactly (Url.anchored_of_segments rfl) hhost rule
  refine ⟨?_, ?_, ?_, hrewrites.fragment⟩
  · rw [hrewrites.host]
    decide +kernel
  · rw [hrewrites.path]
    decide +kernel
  · rw [hrewrites.pairs]
    decide +kernel

end Rule

end LinkHygiene
