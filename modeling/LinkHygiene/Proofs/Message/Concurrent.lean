import LinkHygiene.Proofs.Message.Tasks

/-!
# Links cleaned at the same time

In the end every link is what its own task has made of it, so it does not show in the result
in which order the tasks have run: it is that of cleaning one link after the other, except
for the links whose tasks have failed. Every order and all failures can occur.
-/

namespace LinkHygiene

namespace Message

/-! ## Every order -/

namespace Tasks

section

variable {s : Tasks}

theorem exists_run_advance (resolvers : Nat → Resolver) {i : Nat} {task : LinkTask}
    (h : s.progress[i]? = some (.running task)) :
    ∃ turns c, s.run? resolvers (List.replicate turns ⟨i, .advance⟩) =
      some ⟨s.progress.set i (.ended c), s.links⟩ := by
  -- The budget bounds the steps, but a task can end before it is used up.
  generalize hbudget : task.budget = budget
  induction budget using Nat.strongRecOn generalizing s task with
  | ind budget ih =>
      have hstep : s.step? resolvers ⟨i, .advance⟩ =
          some ⟨s.progress.set i (task.advance (resolvers i)), s.links⟩ :=
        step?_eq_some_iff.2 ⟨_, _, h, rfl, rfl⟩
      rcases task.advance_cases (resolvers i) with hended | ⟨next, hnext, -, -, hless⟩
      · rw [hended] at hstep
        exact ⟨1, _, run?_cons_eq_some_iff.2 ⟨_, hstep, rfl⟩⟩
      · rw [hnext] at hstep
        obtain ⟨hi, -⟩ := List.getElem?_eq_some_iff.1 h
        have hrunning : (Tasks.mk (s.progress.set i (.running next)) s.links).progress[i]? =
            some (.running next) := List.getElem?_set_self hi
        obtain ⟨turns, c, hrun⟩ := ih next.budget (hbudget ▸ hless) hrunning rfl
        rw [List.set_set] at hrun
        exact ⟨turns + 1, c, run?_cons_eq_some_iff.2 ⟨_, hstep, hrun⟩⟩

theorem exists_run_ended (resolvers : Nat → Resolver) {i : Nat} {task : LinkTask}
    (h : s.progress[i]? = some (.running task)) (failing : Bool) :
    ∃ events c, s.run? resolvers events = some ⟨s.progress.set i (.ended c), s.links⟩ ∧
      collectOrder events = [] ∧ ∀ j, failed events j = (decide (j = i) && failing) := by
  cases failing with
  | true =>
      have hstep : s.step? resolvers ⟨i, .fail⟩ =
          some ⟨s.progress.set i (.ended ⟨task.index, none⟩), s.links⟩ :=
        step?_eq_some_iff.2 ⟨_, _, h, rfl, rfl⟩
      exact ⟨[⟨i, .fail⟩], _, run?_cons_eq_some_iff.2 ⟨_, hstep, rfl⟩, rfl, failed_singleton _⟩
  | false =>
      obtain ⟨turns, c, hrun⟩ := exists_run_advance resolvers h
      exact ⟨_, c, hrun, by simp [collectOrder], by simp [failed]⟩

theorem exists_run_collected (resolvers : Nat → Resolver) {i : Nat} {task : LinkTask}
    (h : s.progress[i]? = some (.running task)) (failing : Bool) :
    ∃ events after, s.run? resolvers events = some after ∧
      after.progress = s.progress.set i .collected ∧ collectOrder events = [i] ∧
      ∀ j, failed events j = (decide (j = i) && failing) := by
  obtain ⟨events, c, hrun, horder, hfail⟩ := exists_run_ended resolvers h failing
  obtain ⟨hi, -⟩ := List.getElem?_eq_some_iff.1 h
  have hcollect : step? resolvers ⟨s.progress.set i (.ended c), s.links⟩ ⟨i, .collect⟩ =
      some ⟨s.progress.set i .collected, complete s.links c⟩ := by
    refine step?_eq_some_iff.2 ⟨.ended c, .collected, List.getElem?_set_self hi, rfl, ?_⟩
    rw [List.set_set]
    rfl
  refine ⟨events ++ [⟨i, .collect⟩], ⟨s.progress.set i .collected, complete s.links c⟩,
    run?_append_eq_some_iff.2 ⟨_, hrun, run?_cons_eq_some_iff.2 ⟨_, hcollect, rfl⟩⟩, rfl, ?_,
    fun j => ?_⟩
  · rw [collectOrder_append, horder, collectOrder_singleton]
    rfl
  · rw [failed_append, hfail, failed_singleton]
    simp

/-- Running tasks can be collected in any order, whichever of them fail. -/
theorem exists_run_order (resolvers : Nat → Resolver) (failing : Nat → Bool)
    {order : List Nat} (hnodup : order.Nodup)
    (h : ∀ i ∈ order, ∃ task, s.progress[i]? = some (.running task)) :
    ∃ events after, s.run? resolvers events = some after ∧ collectOrder events = order ∧
      (∀ i, failed events i = (decide (i ∈ order) && failing i)) ∧
      ∀ i, i ∈ order ∨ s.progress[i]? = some .collected → after.progress[i]? = some .collected := by
  induction order generalizing s with
  | nil => exact ⟨[], s, rfl, rfl, by simp [failed], by simp⟩
  | cons i order ih =>
      obtain ⟨hi, hrest⟩ := List.nodup_cons.1 hnodup
      obtain ⟨task, htask⟩ := h i List.mem_cons_self
      obtain ⟨events, after, hrun, hprogress, horder, hfail⟩ :=
        exists_run_collected resolvers htask (failing i)
      have hrunning : ∀ j ∈ order, ∃ task, after.progress[j]? = some (.running task) := by
        intro j hj
        obtain ⟨task, htask⟩ := h j (List.mem_cons_of_mem i hj)
        have hij : i ≠ j := fun heq => hi (heq ▸ hj)
        exact ⟨task, by rw [hprogress, List.getElem?_set_ne hij, htask]⟩
      obtain ⟨events', last, hrun', horder', hfail', hcollected⟩ := ih hrest hrunning
      refine ⟨events ++ events', last, run?_append_eq_some_iff.2 ⟨after, hrun, hrun'⟩, ?_, ?_, ?_⟩
      · rw [collectOrder_append, horder, horder', List.singleton_append]
      · intro j
        rw [failed_append, hfail, hfail']
        by_cases hj : j = i <;> simp [hj, hi]
      · intro j hj
        apply hcollected
        rw [hprogress]
        by_cases hij : i = j
        · subst hij
          exact .inr (List.getElem?_set_self (List.getElem?_eq_some_iff.1 htask).1)
        · rw [List.getElem?_set_ne hij]
          exact hj.imp_left fun hmem => (List.mem_cons.1 hmem).resolve_left (Ne.symm hij)

/-- A run in which the results are collected in a given order. -/
theorem exists_run_start (resolvers : Nat → Resolver) (links : List String)
    (failing : Nat → Bool) {order : List Nat}
    (horder : order.Perm (List.range links.length)) :
    ∃ events s, (start links).run? resolvers events = some s ∧ s.isOver = true ∧
      collectOrder events = order ∧
      ∀ i < links.length, failed events i = failing i := by
  have hmem : ∀ i, i ∈ order ↔ i < links.length := fun i => by
    rw [horder.mem_iff, List.mem_range]
  have hrunning : ∀ i ∈ order, ∃ task, (start links).progress[i]? = some (.running task) := by
    intro i hi
    have hbound := (hmem i).1 hi
    refine ⟨.start i links[i], ?_⟩
    rw [start, List.getElem?_mapIdx, List.getElem?_eq_getElem hbound, Option.map_some]
  obtain ⟨events, s, hrun, hcollect, hfail, hcollected⟩ :=
    exists_run_order resolvers failing (horder.nodup_iff.2 List.nodup_range) hrunning
  refine ⟨events, s, hrun, ?_, hcollect, fun i hi => ?_⟩
  · have hlength := ((sound_start resolvers links).run hrun).length_progress
    refine List.all_eq_true.2 fun p hp => ?_
    obtain ⟨i, hi⟩ := List.mem_iff_getElem?.1 hp
    obtain ⟨hbound, -⟩ := List.getElem?_eq_some_iff.1 hi
    have hdone := hcollected i (.inl ((hmem i).2 (hlength ▸ hbound)))
    rw [hi] at hdone
    exact decide_eq_true (Option.some.inj hdone)
  · rw [hfail, decide_eq_true ((hmem i).2 hi), Bool.true_and]

end

end Tasks

/-! ## One after the other -/

theorem gather_in_order (done links results : List String) (h : links.length = results.length) :
    gather (done ++ links)
      ((results.zipIdx done.length).map fun (result, index) => ⟨index, some result⟩) =
      done ++ results := by
  induction links generalizing done results with
  | nil =>
      obtain rfl := List.eq_nil_of_length_eq_zero h.symm
      rfl
  | cons link links ih =>
      cases results with
      | nil => simp at h
      | cons result results =>
          have hrest := ih (done ++ [result]) results (Nat.succ.inj h)
          simpa [gather, complete] using hrest

theorem cleanLinks_eq_map (resolve : String → String) (links : List String) :
    cleanLinks resolve links = links.map resolve :=
  gather_in_order [] links (links.map resolve) (by rw [List.length_map])

/-! ## Any order -/

/-- The resolver of each task: the network answers a task as it does at that time. -/
def resolversOn (r : Resolver) (networks : Nat → Network) (i : Nat) : Resolver :=
  { r with network := networks i }

/--
Links are cleaned by tasks as they are cleaned one after the other. What a task is answered
may depend on what the others have asked, so each meets a network of its own, and a link that
is there twice can be cleaned in two ways, each in its place. At any time a link is as it was
until its task has been collected, which happens once; runs of the tasks are bounded, and as
long as a task is not collected, there is a turn. In the end there are as many links as
before, each resolved unless its task has failed. Results can be collected in every order,
whichever tasks fail.
-/
theorem cleaned_in_any_order (r : Resolver) (networks : Nat → Network) (links : List String) :
    (∀ events s, (Tasks.start links).run? (resolversOn r networks) events = some s →
      events.length ≤ 6 * links.length ∧ (Tasks.collectOrder events).Nodup ∧
        s.links = (links.mapIdx fun i link =>
          if i ∉ Tasks.collectOrder events ∨ Tasks.failed events i then link
          else (resolversOn r networks i).resolve link) ∧
        (s.isOver = false → ∃ e after, s.step? (resolversOn r networks) e = some after) ∧
        (s.isOver = true → s.links = links.mapIdx fun i link =>
          if Tasks.failed events i then link else (resolversOn r networks i).resolve link)) ∧
    (∀ (order : List Nat) (failing : Nat → Bool), order.Perm (List.range links.length) →
      ∃ events s, (Tasks.start links).run? (resolversOn r networks) events = some s ∧
        s.isOver = true ∧ Tasks.collectOrder events = order ∧
        ∀ i < links.length, Tasks.failed events i = failing i) ∧
    (∀ events s, (Tasks.start links).run? (fun _ => r) events = some s → s.isOver = true →
      (∀ i, Tasks.failed events i = false) → s.links = cleanLinks r.resolve links) ∧
    cleanLinks r.resolve links = links.map r.resolve := by
  refine ⟨fun events s hrun => ?_, fun order failing horder => ?_, ?_, ?_⟩
  · have hsound := (Tasks.sound_start (resolversOn r networks) links).run hrun
    exact ⟨Tasks.length_le_of_run? hrun, hsound.collect_once, hsound.links_eq,
      Tasks.exists_step _, hsound.links_eq_of_isOver⟩
  · exact Tasks.exists_run_start _ links failing horder
  · intro events s hrun hover hnone
    rw [((Tasks.sound_start _ links).run hrun).links_eq_of_isOver hover, cleanLinks_eq_map]
    apply List.ext_getElem?
    intro i
    simp [hnone]
  · exact cleanLinks_eq_map r.resolve links

/-- A network that sends the tasks of the same link to different pages. -/
def branching (i : Nat) : Network where
  head past _ :=
    some ⟨302, if past.isEmpty then some ("https://c.example/" ++ toString i) else none⟩
  get _ _ := none
  page _ _ := none

theorem resolve_branching :
    (resolversOn ⟨.empty, none, branching 0⟩ branching 0).resolve "https://a.example" =
      "https://c.example/0" ∧
    (resolversOn ⟨.empty, none, branching 0⟩ branching 2).resolve "https://a.example" =
      "https://c.example/2" := by
  decide +kernel

/-- A link that is there twice, around one whose task fails; the last one is collected first. -/
theorem cleaned_in_any_order_twice : ∃ events s,
    (Tasks.start ["https://a.example", "https://b.example", "https://a.example"]).run?
      (resolversOn ⟨.empty, none, branching 0⟩ branching) events = some s ∧
    Tasks.collectOrder events = [2, 0, 1] ∧
    s.links = ["https://c.example/0", "https://b.example", "https://c.example/2"] := by
  obtain ⟨hruns, horders, -, -⟩ := cleaned_in_any_order ⟨.empty, none, branching 0⟩ branching
    ["https://a.example", "https://b.example", "https://a.example"]
  obtain ⟨events, s, hrun, hover, horder, hfailed⟩ :=
    horders [2, 0, 1] (fun i => i == 1) (by decide)
  obtain ⟨-, -, -, -, hends⟩ := hruns events s hrun
  refine ⟨events, s, hrun, horder, ?_⟩
  have hfirst := hfailed 0 (by decide)
  have hsecond := hfailed 1 (by decide)
  have hthird := hfailed 2 (by decide)
  rw [hends hover]
  simp [hfirst, hsecond, hthird, resolve_branching]

end Message

end LinkHygiene
