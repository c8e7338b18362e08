import LinkHygiene.Proofs.Filter.Coverage
import LinkHygiene.Proofs.Pattern.Capture
import LinkHygiene.Proofs.Resolve.Plan

/-!
# When something goes wrong

A lookup that fails is as good as no store, and a request that fails is as good as an answer
that says nothing: in both cases a resolution asks the same and ends with the same link.
-/

namespace LinkHygiene

namespace Resolver

variable {r : Resolver} {t t' : Trace} {link : String}

/-! ## Requests that fail -/

/-- A resolver whose network answers with nothing of interest where it would not answer. -/
def calmed (r : Resolver) : Resolver :=
  { r with network := r.network.calm }

theorem followProbe_uneventful (u : Url) (probe : Option Probe) :
    followProbe u (some (probe.getD .uneventful)) = followProbe u probe := by
  cases probe with
  | none => simp [followProbe]
  | some probe => rfl

theorem pageLink?_emptyPage (u : Url) (selector : Option Pattern) :
    pageLink? u selector (Network.emptyPage u.text) = none := by
  unfold pageLink?
  cases selector with
  | none => exact if_pos rfl
  | some pattern =>
      dsimp only
      cases hfound : pattern.capture? 1 (Network.emptyPage u.text).body.toList with
      | none => rfl
      | some found =>
          have hempty : found = [] := List.infix_nil.1 (Pattern.isInfix_of_capture? hfound)
          rw [hempty]

theorem bind_pageLink?_emptyPage (u : Url) (selector : Option Pattern) (page : Option Page) :
    (some (page.getD (Network.emptyPage u.text))).bind (pageLink? u selector) =
      page.bind (pageLink? u selector) := by
  cases page with
  | none => exact pageLink?_emptyPage u selector
  | some page => rfl

theorem probeHead_calmed (r : Resolver) (t : Trace) (u : Url) :
    r.calmed.probeHead t u = r.probeHead t u := by
  simp only [probeHead, calmed, Network.calm, followProbe_uneventful]

theorem probeGet_calmed (r : Resolver) (t : Trace) (u : Url) :
    r.calmed.probeGet t u = r.probeGet t u := by
  simp only [probeGet, calmed, Network.calm, followProbe_uneventful]

theorem readPage_calmed (r : Resolver) (t : Trace) (u : Url) (selector : Option Pattern) :
    r.calmed.readPage t u selector = r.readPage t u selector := by
  simp only [readPage, calmed, Network.calm, bind_pageLink?_emptyPage]

theorem step_calmed (r : Resolver) (t : Trace) (link : String) :
    r.calmed.step t link = r.step t link := by
  have hplan : r.calmed.plan link = r.plan link := rfl
  rw [step_eq_carryOut, step_eq_carryOut, hplan]
  cases r.plan link with
  | leave => rfl
  | unwrap inner => rfl
  | readPage u selector => exact readPage_calmed r t u selector
  | probeGet u => exact probeGet_calmed r t u
  | sift u =>
      have hclean : r.calmed.clean t u = r.clean t u := rfl
      simp only [carryOut, finish, hclean, probeHead_calmed]

theorem run_calmed (r : Resolver) (budget : Nat) (t : Trace) (link : String) :
    r.calmed.run budget t link = r.run budget t link := by
  induction budget generalizing t link with
  | zero => rfl
  | succ budget ih =>
      unfold run
      rw [step_calmed]
      split
      · rfl
      · exact ih _ _

/-! ## Lookups that fail -/

def storeless (r : Resolver) : Resolver :=
  { r with lookup := none }

/-- Whether no lookup for a host succeeds. -/
def FailsEverywhere (lookup : Url.RuleLookup StoreError) : Prop :=
  ∀ host, ∃ e, lookup (Candidates.ofHost host) = .error e

section FailingStore

variable {lookup : Url.RuleLookup StoreError} (hlookup : r.lookup = some lookup)
  (hfails : FailsEverywhere lookup)

include hlookup hfails

theorem cleaned_of_failsEverywhere (u : Url) : r.cleaned u = u := by
  unfold cleaned
  rw [hlookup]
  dsimp only
  cases hhost : u.hostText? with
  | none => exact Url.clean_of_hostText?_eq_none hhost lookup
  | some host =>
      obtain ⟨e, he⟩ := hfails host
      exact Url.clean_of_lookup_error hhost he

theorem ask?_storeless (link : String) : r.storeless.ask? link = r.ask? link := by
  have hplan : r.storeless.plan link = r.plan link := rfl
  unfold ask?
  rw [hplan]
  cases r.plan link with
  | leave => rfl
  | unwrap inner => rfl
  | readPage u selector => rfl
  | probeGet u => rfl
  | sift u =>
      rw [intended?, intended?, cleaned_of_failsEverywhere hlookup hfails]
      rfl

/-- After the same requests, the next step leads to the same place without the store. -/
theorem step_storeless (hcalls : t.calls = t'.calls) (link : String) :
    (r.step t link).1 = (r.storeless.step t' link).1 ∧
      (r.step t link).2.calls = (r.storeless.step t' link).2.calls := by
  constructor
  · have hplan : r.storeless.plan link = r.plan link := rfl
    rw [step_eq_carryOut, step_eq_carryOut, hplan]
    cases r.plan link with
    | leave => rfl
    | unwrap inner => rfl
    | readPage u selector => exact readPage_congr hcalls r u selector
    | probeGet u => exact probeGet_congr hcalls r u
    | sift u =>
        have hbare : r.storeless.finish t' u = r.probeHead t' u := rfl
        rw [carryOut, carryOut, hbare, finish_eq, cleaned_of_failsEverywhere hlookup hfails]
        exact probeHead_congr ((calls_clean r t u).trans hcalls) r u
  · rw [calls_step, calls_step, ask?_storeless hlookup hfails, hcalls]

theorem run_storeless (budget : Nat) (hcalls : t.calls = t'.calls) (link : String) :
    let outcome := r.run budget t link
    let bare := r.storeless.run budget t' link
    outcome.link = bare.link ∧ outcome.finished = bare.finished ∧ calls outcome = calls bare := by
  induction budget generalizing t t' link with
  | zero => exact ⟨rfl, rfl, congrArg List.reverse hcalls⟩
  | succ budget ih =>
      obtain ⟨hnext, hafter⟩ := step_storeless hlookup hfails hcalls link
      unfold run
      cases hstep : r.step t link with
      | mk next after =>
          cases hbare : r.storeless.step t' link with
          | mk next' after' =>
              rw [hstep, hbare] at hnext hafter
              obtain rfl : next = next' := hnext
              cases next with
              | done out => exact ⟨rfl, rfl, congrArg List.reverse hafter⟩
              | follow next => exact ih hafter next

end FailingStore

/--
Failures leave no trace. With a store none of whose lookups succeed, a resolution asks the
same and ends with the same link as without a store. With a network that says nothing of
interest wherever it would fail, nothing at all is different.
-/
theorem failures_go_unnoticed (registry : Registry) (network : Network) (depth : Nat)
    (link : String) :
    (∀ lookup, FailsEverywhere lookup →
      let outcome := (Resolver.mk registry (some lookup) network).resolveFrom depth link
      let bare := (Resolver.mk registry none network).resolveFrom depth link
      outcome.link = bare.link ∧ outcome.finished = bare.finished ∧
        calls outcome = calls bare) ∧
    ∀ lookup, (Resolver.mk registry lookup network.calm).resolveFrom depth link =
      (Resolver.mk registry lookup network).resolveFrom depth link := by
  constructor
  · intro lookup hfails
    exact run_storeless rfl hfails (maxDepth + 1 - depth) rfl link
  · intro lookup
    exact run_calmed (Resolver.mk registry lookup network) (maxDepth + 1 - depth) {} link

def wholePage : RuleSpec :=
  { hostnames := ["page.example"], kind := .domExtract (some "(.*)") }

/-- A network that redirects one link to that page and answers nothing else. -/
def flaky : Network :=
  .fixed (fun url => if url = "https://a.example/?q=1" then some ⟨302, some "//page.example"⟩
    else none) (fun _ => none) (fun _ => none)

theorem run_flaky :
    ((Registry.ofSpecs [wholePage]).toOption.any fun registry =>
      let outcome := (Resolver.mk registry none flaky).resolveFrom 0 "https://a.example/?q=1"
      outcome.link == "https://page.example/" &&
        calls outcome == [.head "https://a.example/?q=1", .page "https://page.example/"]) =
      true := by
  decide +kernel

theorem failsEverywhere_without_table : FailsEverywhere Store.empty.dropTable.find := by
  intro host
  refine ⟨.unreadable, ?_⟩
  simp [Store.find, Store.dropTable, Candidates.ofHost_isEmpty host]

/-- A store without its table, and a page that cannot be fetched. -/
theorem failures_go_unnoticed_flaky :
    ∃ registry, Registry.ofSpecs [wholePage] = .ok registry ∧
      let broken := (Resolver.mk registry (some Store.empty.dropTable.find) flaky).resolveFrom 0
        "https://a.example/?q=1"
      broken.link = "https://page.example/" ∧
        calls broken = [.head "https://a.example/?q=1", .page "https://page.example/"] ∧
        (Resolver.mk registry (some Store.empty.dropTable.find) flaky.calm).resolveFrom 0
          "https://a.example/?q=1" = broken := by
  obtain ⟨registry, hregistry, hrun⟩ := exists_ok_of_any run_flaky
  simp only [Bool.and_eq_true, beq_iff_eq] at hrun
  obtain ⟨hstore, hnetwork⟩ := failures_go_unnoticed registry flaky 0 "https://a.example/?q=1"
  obtain ⟨hlink, _, hcalls⟩ := hstore _ failsEverywhere_without_table
  exact ⟨registry, hregistry, hlink.trans hrun.1, hcalls.trans hrun.2, hnetwork _⟩

end Resolver

end LinkHygiene
