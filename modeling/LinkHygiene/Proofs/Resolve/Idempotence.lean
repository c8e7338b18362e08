import LinkHygiene.Proofs.Resolve.Rest

/-!
# Resolving again

Resolving what a resolution has ended with ends there at once, if the network answers
every request as it did before and the rules are settled. The rules that come with the
program are.
-/

namespace LinkHygiene

namespace Resolver

variable {r : Resolver} {head get : String → Option Probe} {page : String → Option Page}

def probed (r : Resolver) (u : Url) : Step :=
  (r.probeHead {} u).1

theorem done_followProbe {u : Url} {probe : Option Probe} {out : String}
    (h : followProbe u probe = .done out) : out = u.text := by
  unfold followProbe at h
  split at h
  · simp at h
  · exact (Step.done.inj h).symm

theorem done_probed {u : Url} {out : String} (h : r.probed u = .done out) : out = u.text := by
  unfold probed probeHead at h
  split at h
  · exact done_followProbe h
  · exact (Step.done.inj h).symm

theorem done_readPage {t : Trace} {u : Url} {selector : Option Pattern} {out : String}
    (h : (r.readPage t u selector).1 = .done out) : out = u.text := by
  unfold readPage at h
  split at h
  · dsimp only at h
    split at h
    · simp at h
    · exact (Step.done.inj h).symm
  · exact (Step.done.inj h).symm

theorem done_probeGet {t : Trace} {u : Url} {out : String}
    (h : (r.probeGet t u).1 = .done out) : out = u.text := by
  unfold probeGet at h
  split at h
  · exact done_followProbe h
  · exact (Step.done.inj h).symm

/-! ## Answers do not depend on earlier requests -/

section FixedNetwork

variable (hfixed : r.network = .fixed head get page)

include hfixed

theorem finish_fst (t : Trace) (u : Url) : (r.finish t u).1 = r.probed (r.cleaned u) := by
  unfold finish probed probeHead
  rw [← r.clean_fst t u, hfixed]
  dsimp only
  split <;> rfl

theorem probeGet_fst (t t' : Trace) (u : Url) : (r.probeGet t u).1 = (r.probeGet t' u).1 := by
  unfold probeGet
  rw [hfixed]
  split <;> rfl

theorem readPage_fst (t t' : Trace) (u : Url) (selector : Option Pattern) :
    (r.readPage t u selector).1 = (r.readPage t' u selector).1 := by
  unfold readPage
  rw [hfixed]
  split <;> rfl

theorem step_of_resting {v : Url} (hrest : r.Resting v) (hreads : Url.parse v.text = .ok v)
    (t : Trace) : (r.step t v.text).1 = r.probed v := by
  unfold step
  rw [hreads]
  dsimp only
  cases hrule : r.ruleFor? v with
  | none =>
      dsimp only
      rw [finish_fst hfixed, hrest.1]
  | some rule =>
      dsimp only
      rw [hrest.2 rule hrule, finish_fst hfixed, hrest.1]

end FixedNetwork

/-! ## How steps end -/

/-- The URL that the end of a step is the text of; there is none if the link itself is. -/
def written? (r : Resolver) (link : String) : Option Url :=
  match Url.parse link with
  | .error _ => none
  | .ok u =>
      match r.ruleFor? u with
      | none => some (r.cleaned u)
      | some rule =>
          match rule.action with
          | .noOp => none
          | .domExtract _ => some u
          | .getRedirect => some u
          | _ => some (r.cleaned (rule.apply u))

/-- Whether the text of a URL, if it is read as this URL, is where a step ends at once. -/
def EndsAgain (r : Resolver) (v : Url) : Prop :=
  Url.parse v.text = .ok v → ∀ t, (r.step t v.text).1 = .done v.text

/-- Whether a link ends at `out`, and `out` at itself. -/
def Ends (r : Resolver) (link out : String) : Prop :=
  match r.written? link with
  | none => out = link ∧ ∀ t, (r.step t link).1 = .done link
  | some v => out = v.text ∧ r.EndsAgain v

theorem ends_of_written? {link out : String} {v : Url} (hv : r.written? link = some v)
    (hout : out = v.text) (hagain : r.EndsAgain v) : r.Ends link out := by
  unfold Ends
  rw [hv]
  exact ⟨hout, hagain⟩

theorem Ends.step {link out : String} (h : r.Ends link out)
    (hreads : ∀ v, r.written? link = some v → Url.parse out = .ok v) (t : Trace) :
    (r.step t out).1 = .done out := by
  unfold Ends at h
  cases hv : r.written? link with
  | none =>
      rw [hv] at h
      obtain ⟨rfl, hstep⟩ := h
      exact hstep t
  | some v =>
      rw [hv] at h
      obtain ⟨rfl, hagain⟩ := h
      exact hagain (hreads v hv) t

theorem written?_of_rewriting {link : String} {u : Url} {rule : Rule} {w : Rewriting}
    (hparse : Url.parse link = .ok u) (hrule : r.ruleFor? u = some rule)
    (hw : rule.action.rewriting? = some w) :
    r.written? link = some (r.cleaned (w.apply u)) := by
  have happly := Rule.apply_of_rewriting hw u
  unfold written?
  simp only [hparse, hrule]
  cases haction : rule.action <;> simp_all [RuleAction.rewriting?]

section FixedNetwork

variable (hfixed : r.network = .fixed head get page)

include hfixed

theorem endsAgain_of_probed {v : Url} (hrest : r.Resting v) {out : String}
    (h : r.probed v = .done out) : r.EndsAgain v := by
  intro hreads t
  rw [step_of_resting hfixed hrest hreads, h, done_probed h]

variable (hsettled : r.registry.settled = true)

include hsettled

theorem ends_of_useRule {t : Trace} {link out : String} {u : Url} {rule : Rule}
    (hparse : Url.parse link = .ok u) (hrule : r.ruleFor? u = some rule)
    (h : (r.useRule t link u rule).1 = .done out) : r.Ends link out := by
  have hanchored := Url.anchored_of_parse hparse
  have hrewriting : ∀ w, rule.action.rewriting? = some w → r.Ends link out := by
    intro w hw
    have hrest := resting_of_rewriting hsettled hanchored hrule hw
    rw [useRule_of_rewriting hw, finish_fst hfixed] at h
    exact ends_of_written? (written?_of_rewriting hparse hrule hw) (done_probed h)
      (endsAgain_of_probed hfixed hrest h)
  cases haction : rule.action with
  | hostReplace newHost policy => exact hrewriting _ (by rw [haction]; rfl)
  | paramClean policy => exact hrewriting _ (by rw [haction]; rfl)
  | noOp =>
      have hv : r.written? link = none := by simp [written?, hparse, hrule, haction]
      have hstep : ∀ t, (r.step t link).1 = .done link := by
        intro t
        simp [step, hparse, hrule, useRule, haction]
      simp only [useRule, haction] at h
      unfold Ends
      rw [hv]
      exact ⟨(Step.done.inj h).symm, hstep⟩
  | domExtract selector =>
      have hv : r.written? link = some u := by simp [written?, hparse, hrule, haction]
      simp only [useRule, haction] at h
      obtain rfl := done_readPage h
      refine ends_of_written? hv rfl ?_
      intro hreads t'
      simp only [step, hreads, hrule, useRule, haction]
      rw [readPage_fst hfixed t' t, h]
  | getRedirect =>
      have hv : r.written? link = some u := by simp [written?, hparse, hrule, haction]
      simp only [useRule, haction] at h
      obtain rfl := done_probeGet h
      refine ends_of_written? hv rfl ?_
      intro hreads t'
      simp only [step, hreads, hrule, useRule, haction]
      rw [probeGet_fst hfixed t' t, h]
  | paramExtract param =>
      cases hparam : u.firstParam? param with
      | some inner => simp [useRule, haction, hparam] at h
      | none =>
          have happly : rule.apply u = u := Rule.apply_of_no_rewriting (by rw [haction]; rfl) u
          have hv : r.written? link = some (r.cleaned u) := by
            simp [written?, hparse, hrule, haction, happly]
          have hrest := resting_of_paramExtract hanchored hrule haction hparam
          rw [useRule_of_paramExtract haction hparam, finish_fst hfixed] at h
          exact ends_of_written? hv (done_probed h) (endsAgain_of_probed hfixed hrest h)

/-- A step that ends at some link would end there from there, too. -/
theorem ends_of_step {t : Trace} {link out : String} (h : (r.step t link).1 = .done out) :
    r.Ends link out := by
  cases hparse : Url.parse link with
  | error e =>
      have hv : r.written? link = none := by simp [written?, hparse]
      have hstep : ∀ t, (r.step t link).1 = .done link := by
        intro t
        simp [step, hparse]
      rw [hstep] at h
      unfold Ends
      rw [hv]
      exact ⟨(Step.done.inj h).symm, hstep⟩
  | ok u =>
      unfold step at h
      simp only [hparse] at h
      cases hrule : r.ruleFor? u with
      | none =>
          have hv : r.written? link = some (r.cleaned u) := by simp [written?, hparse, hrule]
          have hrest := resting_of_no_rule (Url.anchored_of_parse hparse) hrule
          simp only [hrule, finish_fst hfixed] at h
          exact ends_of_written? hv (done_probed h) (endsAgain_of_probed hfixed hrest h)
      | some rule =>
          simp only [hrule] at h
          exact ends_of_useRule hfixed hsettled hparse hrule h

end FixedNetwork

/-! ## Resolutions -/

/-- The URL that the end of a run is the text of. -/
def writtenFrom? (r : Resolver) : (budget : Nat) → Trace → String → Option Url
  | 0, _, _ => none
  | budget + 1, t, link =>
      match r.step t link with
      | (.done _, _) => r.written? link
      | (.follow link, t) => writtenFrom? r budget t link

/-- Where a run ends by itself, a step ends at once. -/
theorem step_of_run (hfixed : r.network = .fixed head get page)
    (hsettled : r.registry.settled = true) {budget : Nat} {t : Trace} {link : String}
    (hfinished : (r.run budget t link).finished = true)
    (hreads : ∀ v, r.writtenFrom? budget t link = some v →
      Url.parse (r.run budget t link).link = .ok v) (t' : Trace) :
    (r.step t' (r.run budget t link).link).1 = .done (r.run budget t link).link := by
  induction budget generalizing t link with
  | zero => simp [run] at hfinished
  | succ budget ih =>
      unfold run at hfinished hreads ⊢
      unfold writtenFrom? at hreads
      cases hstep : r.step t link with
      | mk next after =>
          rw [hstep] at hfinished hreads
          cases next with
          | done out =>
              have hout : (r.step t link).1 = .done out := by rw [hstep]
              exact (ends_of_step hfixed hsettled hout).step hreads t'
          | follow link' => exact ih hfinished hreads

/--
Resolving again changes nothing when the rules are settled and the network answers as
before: what a resolution ends with by itself resolves to itself. Where this is the text
of a URL, it has to be read as the URL that it was written for.
-/
theorem resolve_resolve_of_settled (hfixed : r.network = .fixed head get page)
    (hsettled : r.registry.settled = true) {link : String}
    (hfinished : (r.resolveFrom 0 link).finished = true)
    (hreads : ∀ v, r.writtenFrom? (maxDepth + 1) {} link = some v →
      Url.parse (r.resolve link) = .ok v) :
    r.resolve (r.resolve link) = r.resolve link := by
  have hstep : (r.step {} (r.resolve link)).1 = .done (r.resolve link) :=
    step_of_run hfixed hsettled hfinished hreads {}
  calc
    r.resolve (r.resolve link) = (r.run (maxDepth + 1) {} (r.resolve link)).link := rfl
    _ = r.resolve link := by
      unfold run
      cases hnext : r.step {} (r.resolve link) with
      | mk next after =>
          rw [hnext] at hstep
          obtain rfl : next = .done (r.resolve link) := hstep
          rfl

/-! ## The shipped rules -/

theorem all_settled_withShipped :
    (Registry.withShipped []).toOption.all Registry.settled = true := by decide +kernel

theorem settled_withShipped {registry : Registry} (h : Registry.withShipped [] = .ok registry) :
    registry.settled = true := by
  have hall := all_settled_withShipped
  rw [h] at hall
  exact hall

/--
With the rules that come with the program, whatever the store removes and the network
answers, what a link resolves to resolves to itself, unless the number of steps has cut
the resolution short. Where this is the text of a URL, it has to be read as the URL that
it was written for.
-/
theorem resolve_resolve (hshipped : Registry.withShipped [] = .ok r.registry)
    (hfixed : r.network = .fixed head get page) {link : String}
    (hfinished : (r.resolveFrom 0 link).finished = true)
    (hreads : ∀ v, r.writtenFrom? (maxDepth + 1) {} link = some v →
      Url.parse (r.resolve link) = .ok v) :
    r.resolve (r.resolve link) = r.resolve link :=
  resolve_resolve_of_settled hfixed (settled_withShipped hshipped) hfinished hreads

def offline (registry : Registry) : Resolver :=
  ⟨registry, some Store.empty.find, .fixed (fun _ => none) (fun _ => none) (fun _ => none)⟩

theorem offline_post :
    ((Registry.withShipped []).toOption.any fun registry =>
      let outcome := (offline registry).resolveFrom 0 "https://x.com/u/status/1?s=20"
      outcome.finished && outcome.link == "https://fxtwitter.com/u/status/1" &&
        (Url.parse "https://fxtwitter.com/u/status/1").toOption ==
          (offline registry).writtenFrom? (maxDepth + 1) {} "https://x.com/u/status/1?s=20") =
      true := by
  decide +kernel

/-- A post on X comes to rest at a mirror. -/
theorem resolve_resolve_post :
    ∃ registry, Registry.withShipped [] = .ok registry ∧
      (offline registry).resolve "https://x.com/u/status/1?s=20" =
        "https://fxtwitter.com/u/status/1" ∧
      (offline registry).resolve ((offline registry).resolve "https://x.com/u/status/1?s=20") =
        (offline registry).resolve "https://x.com/u/status/1?s=20" := by
  obtain ⟨registry, hshipped, hrun⟩ := exists_ok_of_any offline_post
  simp only [Bool.and_eq_true, beq_iff_eq] at hrun
  obtain ⟨⟨hfinished, hlink⟩, hwritten⟩ := hrun
  have hresolved : (offline registry).resolve "https://x.com/u/status/1?s=20" =
      "https://fxtwitter.com/u/status/1" := hlink
  refine ⟨registry, hshipped, hresolved, ?_⟩
  apply resolve_resolve hshipped rfl hfinished
  intro v hv
  rw [hresolved]
  exact eq_ok_of_toOption (hwritten.trans hv)

end Resolver

end LinkHygiene
