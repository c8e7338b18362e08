import LinkHygiene.Proofs.Resolve.Plan
import LinkHygiene.Proofs.Url.Reading

/-!
# What a resolution may ask

Followed hop by hop, a resolution goes on until a step ends it or it is too deep. It always
comes to an end, with few requests, all of them for web addresses, whatever the network
answers.
-/

namespace LinkHygiene

/-! ## Web addresses on the way -/

namespace Url.KeepsSite

theorem moveTo (u : Url) (host : Option String) : u.KeepsSite (u.moveTo host) := by
  cases host with
  | none => exact refl u
  | some host =>
      have hmoved : u.moveTo (some host) = (u.setHost? host).getD u := rfl
      rw [hmoved]
      cases hset : u.setHost? host with
      | none => exact refl u
      | some v => exact setHost? hset

theorem editPath (u : Url) (p : Policy) : u.KeepsSite (u.editPath p) := by
  unfold Url.editPath
  split
  · exact refl u
  · exact setPath u _

theorem follow (u : Url) (newHost : Option String) (p : Policy) (unlisted : Bool) :
    u.KeepsSite (u.follow newHost p unlisted) :=
  ((moveTo u newHost).trans (editPath _ p)).trans (setQueryPairs _ _)

/-- No rule takes a web address off the web. -/
theorem apply (rule : Rule) (u : Url) : u.KeepsSite (rule.apply u) := by
  unfold Rule.apply
  split
  · exact follow u _ _ true
  · exact follow u _ _ false
  · exact refl u

theorem cleaned (r : Resolver) (u : Url) : u.KeepsSite (r.cleaned u) := by
  obtain ⟨removed, hremoved⟩ := r.exists_removed u.hostText? u.pathText
  rw [hremoved u rfl rfl]
  exact of_parts (by simp) (by simp) (by simp)

end Url.KeepsSite

def Plan.url? : Plan → Option Url
  | leave => none
  | unwrap _ => none
  | readPage u _ => some u
  | probeGet u => some u
  | sift u => some u

theorem Rule.keepsSite_plan {rule : Rule} {u v : Url} (h : (rule.plan u).url? = some v) :
    u.KeepsSite v := by
  unfold Rule.plan at h
  split at h
  · simp [Plan.url?] at h
  · obtain rfl := Option.some.inj h
    exact .refl u
  · obtain rfl := Option.some.inj h
    exact .refl u
  · split at h
    · simp [Plan.url?] at h
    · obtain rfl := Option.some.inj h
      exact .apply rule u
  · obtain rfl := Option.some.inj h
    exact .apply rule u

namespace Resolver

variable {r : Resolver} {link : String} {u : Url} {a : Asked}

theorem keepsSite_of_intended? {p : Plan} (h : r.intended? p = some a) :
    ∃ u, p.url? = some u ∧ u.KeepsSite a.url := by
  cases p with
  | leave => simp [intended?] at h
  | unwrap inner => simp [intended?] at h
  | readPage u selector =>
      obtain rfl := Option.some.inj h
      exact ⟨u, rfl, .refl u⟩
  | probeGet u =>
      obtain rfl := Option.some.inj h
      exact ⟨u, rfl, .refl u⟩
  | sift u =>
      obtain rfl := Option.some.inj h
      exact ⟨u, rfl, .cleaned r u⟩

theorem keepsSite_of_plan (h : (r.plan link).url? = some u) :
    ∃ v, Url.parse link = .ok v ∧ v.KeepsSite u := by
  unfold plan at h
  split at h
  · simp [Plan.url?] at h
  · rename_i v hread
    refine ⟨v, hread, ?_⟩
    split at h
    · exact Rule.keepsSite_plan h
    · obtain rfl := Option.some.inj h
      exact .refl v

/-- What is asked for has the parts of a web address, whatever rules have made of it. -/
theorem sited_of_ask? (h : r.ask? link = some a) : a.url.Sited := by
  obtain ⟨u, hu, hasked⟩ := keepsSite_of_intended? (intended?_of_ask? h)
  obtain ⟨v, hread, hplanned⟩ := keepsSite_of_plan hu
  exact (hplanned.trans hasked).sited hread (isHttp_of_ask? h)

end Resolver

/-! ## Hop by hop -/

namespace Resolver

/-- How a link that is reached at some depth is resolved, hop by hop. -/
inductive Resolves (r : Resolver) :
    (depth : Nat) → Trace → (link : String) → Outcome → Prop where
  | tooDeep {depth : Nat} {t : Trace} {link : String} (hdeep : maxDepth < depth) :
      Resolves r depth t link ⟨link, false, t⟩
  | done {depth : Nat} {t after : Trace} {link out : String} (hdepth : depth ≤ maxDepth)
      (hstep : r.step t link = (.done out, after)) :
      Resolves r depth t link ⟨out, true, after⟩
  | follow {depth : Nat} {t after : Trace} {link next : String} {o : Outcome}
      (hdepth : depth ≤ maxDepth)
      (hstep : r.step t link = (.follow next, after))
      (hrest : Resolves r (depth + 1) after next o) : Resolves r depth t link o

variable {r : Resolver} {depth : Nat} {t : Trace} {link : String} {o : Outcome}

theorem run_of_le (hdepth : depth ≤ maxDepth) (r : Resolver) (t : Trace) (link : String) :
    r.run (maxDepth + 1 - depth) t link =
      match r.step t link with
      | (.done out, after) => ⟨out, true, after⟩
      | (.follow next, after) => r.run (maxDepth + 1 - (depth + 1)) after next := by
  have hbudget : maxDepth + 1 - depth = maxDepth + 1 - (depth + 1) + 1 := by omega
  rw [hbudget]
  rfl

theorem run_of_lt (hdeep : maxDepth < depth) (r : Resolver) (t : Trace) (link : String) :
    r.run (maxDepth + 1 - depth) t link = ⟨link, false, t⟩ := by
  have hbudget : maxDepth + 1 - depth = 0 := by omega
  rw [hbudget]
  rfl

theorem Resolves.eq_run (h : r.Resolves depth t link o) :
    o = r.run (maxDepth + 1 - depth) t link := by
  induction h with
  | tooDeep hdeep => rw [run_of_lt hdeep]
  | done hdepth hstep => rw [run_of_le hdepth, hstep]
  | follow hdepth hstep _ ih => rw [run_of_le hdepth, hstep, ih]

theorem resolves_run (r : Resolver) (depth : Nat) (t : Trace) (link : String) :
    r.Resolves depth t link (r.run (maxDepth + 1 - depth) t link) := by
  by_cases hdepth : depth ≤ maxDepth
  · rw [run_of_le hdepth]
    cases hstep : r.step t link with
    | mk next after =>
        cases next with
        | done out => exact .done hdepth hstep
        | follow next => exact .follow hdepth hstep (resolves_run r (depth + 1) after next)
  · have hdeep : maxDepth < depth := by omega
    rw [run_of_lt hdeep]
    exact .tooDeep hdeep
termination_by maxDepth + 1 - depth

theorem resolves_iff : r.Resolves depth t link o ↔ o = r.run (maxDepth + 1 - depth) t link := by
  constructor
  · exact Resolves.eq_run
  · rintro rfl
    exact resolves_run r depth t link

theorem resolveFrom_of_lt (hdeep : maxDepth < depth) (r : Resolver) (link : String) :
    r.resolveFrom depth link = ⟨link, false, {}⟩ :=
  run_of_lt hdeep r {} link

/--
Whatever the network answers, a resolution comes to one end and asks at most once on each
level that is left. Every URL that it asks for is accepted as a web address, as long as the
hosts of these URLs are read again from what is written for them. Past the last level the
link stays as it is.
-/
theorem network_discipline (r : Resolver) (depth : Nat) (link : String)
    (hhosts : ∀ a ∈ r.asked depth link, ∀ host, a.url.host? = some host →
      ∃ read, Host.parse host.render = .ok read) :
    (∀ o, r.Resolves depth {} link o ↔ o = r.resolveFrom depth link) ∧
    (calls (r.resolveFrom depth link)).length ≤ maxDepth + 1 - depth ∧
    (∀ call ∈ calls (r.resolveFrom depth link),
      (∃ u, Url.parse call.url = .ok u ∧ u.isHttp = true) ∧
        Transport.checkHttp call.url = .ok ()) ∧
    (maxDepth < depth → r.resolveFrom depth link = ⟨link, false, {}⟩) := by
  refine ⟨fun o => resolves_iff, ?_, ?_, fun hdeep => resolveFrom_of_lt hdeep r link⟩
  · rw [calls_resolveFrom, List.length_map]
    exact length_asked_le r depth link
  · intro call hcall
    rw [calls_resolveFrom] at hcall
    obtain ⟨a, ha, rfl⟩ := List.mem_map.1 hcall
    obtain ⟨visited, hvisited⟩ := exists_of_mem_asked ha
    have hhttp := isHttp_of_ask? hvisited
    obtain ⟨u, hread, hscheme⟩ :=
      Url.exists_parse_text hhttp (sited_of_ask? hvisited) (hhosts a ha)
    have hread_http : u.isHttp = true := by
      rw [Url.isHttp, hscheme]
      exact hhttp
    rw [Asked.url_call]
    refine ⟨⟨u, hread, hread_http⟩, ?_⟩
    simp only [Transport.checkHttp, hread, hread_http, if_true]

/-- A network that leads from one host to another one at first, and off the web later. -/
def wandering : Network where
  head past _ := some ⟨302, some (if past.isEmpty then "//b.example" else "gopher://c.example/1")⟩
  get _ _ := none
  page _ _ := none

theorem resolveFrom_wandering :
    (Resolver.mk .empty none wandering).resolveFrom 1 "https://a.example" =
      ⟨"gopher://c.example/1", true,
        ⟨[.head "https://b.example/", .head "https://a.example/"], []⟩⟩ := by
  decide +kernel

theorem hosts_wandering :
    ((Resolver.mk .empty none wandering).asked 1 "https://a.example").all (fun a =>
      a.url.host?.all fun host => (Host.parse host.render).toOption.isSome) = true := by
  decide +kernel

/-- Two requests are made, both accepted, and what is not on the web is not asked for. -/
theorem network_discipline_wandering :
    let r : Resolver := ⟨.empty, none, wandering⟩
    r.Resolves 1 {} "https://a.example" ⟨"gopher://c.example/1", true,
      ⟨[.head "https://b.example/", .head "https://a.example/"], []⟩⟩ ∧
    Transport.checkHttp "https://a.example/" = .ok () ∧
    Transport.checkHttp "https://b.example/" = .ok () := by
  intro r
  have hhosts : ∀ a ∈ r.asked 1 "https://a.example", ∀ host, a.url.host? = some host →
      ∃ read, Host.parse host.render = .ok read := by
    intro a ha host hhost
    have hchecked := List.all_eq_true.1 hosts_wandering a ha
    rw [hhost, Option.all_some] at hchecked
    exact exists_ok_of_isSome hchecked
  obtain ⟨hends, _, haccepted, _⟩ := network_discipline r 1 "https://a.example" hhosts
  rw [resolveFrom_wandering] at hends haccepted
  refine ⟨(hends _).2 rfl, ?_, ?_⟩
  · exact (haccepted (.head "https://a.example/") (by decide)).2
  · exact (haccepted (.head "https://b.example/") (by decide)).2

end Resolver

end LinkHygiene
