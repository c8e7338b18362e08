import LinkHygiene.Proofs.Resolve.Plan

/-!
# Starting deeper

What a step does is not changed by how many steps are left. So a resolution that starts
deeper does what one does that starts further up, up to where it is cut short, and the other
one goes on from there.
-/

namespace LinkHygiene

namespace Resolver

variable {r : Resolver} {t : Trace} {link : String} {o : Outcome}

/-- What an outcome becomes with a larger budget: a resolution that was cut short goes on. -/
def goOn (r : Resolver) (budget : Nat) (o : Outcome) : Outcome :=
  if o.finished then o else r.run budget o.trace o.link

theorem goOn_of_finished (h : o.finished = true) (budget : Nat) : r.goOn budget o = o :=
  if_pos h

theorem run_add (r : Resolver) (budget more : Nat) (t : Trace) (link : String) :
    r.run (budget + more) t link = r.goOn more (r.run budget t link) := by
  induction budget generalizing t link with
  | zero =>
      rw [Nat.zero_add]
      rfl
  | succ budget ih =>
      have hsum : budget + 1 + more = budget + more + 1 := by omega
      rw [hsum]
      unfold run
      cases r.step t link with
      | mk next after =>
          cases next with
          | done out => rfl
          | follow next => exact ih after next

theorem calls_isPrefix_run (r : Resolver) (budget : Nat) (t : Trace) (link : String) :
    t.calls.reverse <+: calls (r.run budget t link) :=
  ⟨_, (calls_run r budget t link).symm⟩

theorem calls_isPrefix_goOn (r : Resolver) (budget : Nat) (o : Outcome) :
    calls o <+: calls (r.goOn budget o) := by
  unfold goOn
  split
  · exact List.prefix_rfl
  · exact calls_isPrefix_run r budget o.trace o.link

/-- Further up, a resolution can make as many steps more as it starts levels higher. -/
theorem resolveFrom_eq_goOn {depth deeper : Nat} (h : depth ≤ deeper) (r : Resolver)
    (link : String) :
    r.resolveFrom depth link =
      r.goOn (min deeper (maxDepth + 1) - depth) (r.resolveFrom deeper link) := by
  have hbudget : maxDepth + 1 - depth =
      (maxDepth + 1 - deeper) + (min deeper (maxDepth + 1) - depth) := by
    omega
  rw [resolveFrom, hbudget, run_add, resolveFrom]

/--
Starting deeper only cuts a resolution short. Whatever the network answers, it asks the first
of what it would ask from further up, in the same order, and what it leaves out is what comes
of going on from where it was cut. If it comes to its end by itself, it is the resolution from
further up in all respects: the link, the requests and the lookups.
-/
theorem deeper_start_truncates {depth deeper : Nat} (h : depth ≤ deeper) (r : Resolver)
    (link : String) :
    let upper := r.resolveFrom depth link
    let lower := r.resolveFrom deeper link
    calls lower <+: calls upper ∧
      (lower.finished = true → upper = lower) ∧
      (lower.finished = false →
        upper = r.run (min deeper (maxDepth + 1) - depth) lower.trace lower.link) := by
  intro upper lower
  have hupper : upper = r.goOn (min deeper (maxDepth + 1) - depth) lower :=
    resolveFrom_eq_goOn h r link
  refine ⟨?_, fun hfinished => ?_, fun hcut => ?_⟩
  · rw [hupper]
    exact calls_isPrefix_goOn r _ lower
  · rw [hupper, goOn_of_finished hfinished]
  · rw [hupper, goOn, hcut]
    rfl

def leading : Network :=
  .fixed (fun url =>
      if url = "https://a.example/" then some ⟨301, some "//b.example"⟩
      else if url = "https://b.example/" then some ⟨302, some "//c.example"⟩
      else none)
    (fun _ => none) (fun _ => none)

theorem resolveFrom_leading :
    let r : Resolver := ⟨.empty, none, leading⟩
    r.resolveFrom 2 "https://a.example" = ⟨"https://c.example/", false,
        ⟨[.head "https://b.example/", .head "https://a.example/"], []⟩⟩ ∧
      r.resolveFrom 1 "https://a.example" = ⟨"https://c.example/", true,
        ⟨[.head "https://c.example/", .head "https://b.example/", .head "https://a.example/"],
          []⟩⟩ := by
  decide +kernel

/-- Two levels are too few for the last request, three are as good as four. -/
theorem deeper_start_truncates_leading :
    let r : Resolver := ⟨.empty, none, leading⟩
    calls (r.resolveFrom 2 "https://a.example") =
        [.head "https://a.example/", .head "https://b.example/"] ∧
      calls (r.resolveFrom 2 "https://a.example") <+:
        calls (r.resolveFrom 0 "https://a.example") ∧
      r.resolveFrom 0 "https://a.example" = ⟨"https://c.example/", true,
        ⟨[.head "https://c.example/", .head "https://b.example/", .head "https://a.example/"],
          []⟩⟩ := by
  intro r
  obtain ⟨hcut, hfinished⟩ := resolveFrom_leading
  have hfirst := (deeper_start_truncates (by decide : 0 ≤ 2) r "https://a.example").1
  have hsame := (deeper_start_truncates (by decide : 0 ≤ 1) r "https://a.example").2.1
  refine ⟨?_, hfirst, ?_⟩
  · rw [hcut]
    rfl
  · rw [hsame (by rw [hfinished]), hfinished]

end Resolver

end LinkHygiene
