import LinkHygiene.Message.Tasks

/-!
# Tasks that take turns

What a turn does to a task, and what all turns keep: a task is on the way to what its link
resolves to, or it has failed, and the place of its link holds the link until the result is
collected, which happens once. Every turn leaves fewer turns, and as long as a task has not
been collected, there is one.
-/

namespace LinkHygiene

namespace Message

/-! ## One task -/

namespace LinkTask

def outcome (r : Resolver) (task : LinkTask) : String :=
  (r.run task.budget task.trace task.link).link

theorem outcome_start (r : Resolver) (index : Nat) (link : String) :
    (start index link).outcome r = r.resolve link :=
  rfl

/-- A step ends a task, or it leads on to the same outcome. -/
theorem advance_cases (r : Resolver) (task : LinkTask) :
    task.advance r = .ended ⟨task.index, some (task.outcome r)⟩ ∨
      ∃ next : LinkTask, task.advance r = .running next ∧ next.index = task.index ∧
        next.outcome r = task.outcome r ∧ next.budget < task.budget := by
  obtain ⟨index, budget, t, link⟩ := task
  cases budget with
  | zero => exact .inl rfl
  | succ budget =>
      cases hstep : r.step t link with
      | mk came after =>
          cases came with
          | done last =>
              left
              simp only [advance, outcome, Resolver.run, hstep]
          | follow further =>
              refine .inr ⟨⟨index, budget, after, further⟩, ?_, rfl, ?_, Nat.lt_succ_self budget⟩
              · simp only [advance, hstep]
              · simp only [outcome, Resolver.run, hstep]

end LinkTask

/-! ### Turns -/

namespace Progress

inductive Takes (r : Resolver) : Turn → Progress → Progress → Prop where
  | follow {task next : LinkTask} (hindex : next.index = task.index)
      (houtcome : next.outcome r = task.outcome r) (hbudget : next.budget < task.budget) :
      Takes r .advance (.running task) (.running next)
  | done (task : LinkTask) :
      Takes r .advance (.running task) (.ended ⟨task.index, some (task.outcome r)⟩)
  | fail (task : LinkTask) : Takes r .fail (.running task) (.ended ⟨task.index, none⟩)
  | collect (c : Completion) : Takes r .collect (.ended c) .collected

section

variable {r : Resolver} {turn : Turn} {p next : Progress}

theorem takes_of_next? (h : p.next? r turn = some next) : Takes r turn p next := by
  cases p with
  | running task =>
      cases turn <;> simp only [next?, Option.some.injEq, reduceCtorEq] at h <;> subst h
      case advance =>
        rcases task.advance_cases r with hadvance | ⟨after, hadvance, hindex, houtcome, hbudget⟩
        · exact hadvance ▸ .done task
        · exact hadvance ▸ .follow hindex houtcome hbudget
      case fail => exact .fail task
  | ended c =>
      cases turn <;> simp only [next?, Option.some.injEq, reduceCtorEq] at h
      exact h ▸ .collect c
  | collected => cases turn <;> simp [next?] at h

/-- A task that is not collected has a turn. -/
theorem exists_next? (r : Resolver) (h : p ≠ .collected) :
    ∃ turn next, p.next? r turn = some next := by
  cases p with
  | running task => exact ⟨.advance, _, rfl⟩
  | ended c => exact ⟨.collect, _, rfl⟩
  | collected => exact absurd rfl h

/-- At most so many turns are left to a task. -/
def turnsLeft : Progress → Nat
  | .running task => task.budget + 2
  | .ended _ => 1
  | .collected => 0

theorem Takes.turnsLeft_lt (h : Takes r turn p next) : next.turnsLeft < p.turnsLeft := by
  cases h with
  | follow _ _ hbudget => exact Nat.add_lt_add_right hbudget 2
  | done task => exact Nat.lt_add_left task.budget Nat.one_lt_two
  | fail task => exact Nat.lt_add_left task.budget Nat.one_lt_two
  | collect c => exact Nat.one_pos

theorem Takes.collected_iff (h : Takes r turn p next) :
    p ≠ .collected ∧ (next = .collected ↔ turn = .collect) := by
  cases h <;> simp

end

/-! ### The link of a task -/

def resultOf (r : Resolver) (link : String) (failed : Bool) : Option String :=
  if failed then none else some (r.resolve link)

/--
How far the task for the link at `index` can be, and what the place of the link holds by
then: the link, until the result is collected.
-/
def Fits (r : Resolver) (index : Nat) (link : String) (failed : Bool) (held : String) :
    Progress → Prop
  | .running task =>
      task.index = index ∧ task.outcome r = r.resolve link ∧ failed = false ∧ held = link
  | .ended c => c = ⟨index, resultOf r link failed⟩ ∧ held = link
  | .collected => held = (resultOf r link failed).getD link

theorem getElem?_complete (links : List String) (c : Completion) (i : Nat) :
    (complete links c)[i]? =
      if c.index = i then links[i]?.map (c.result.getD ·) else links[i]? := by
  obtain ⟨index, result⟩ := c
  cases result with
  | none => simp [complete]
  | some result =>
      rw [complete, List.getElem?_set']
      rfl

theorem length_write (links : List String) (turn : Turn) (p : Progress) :
    (p.write links turn).length = links.length := by
  unfold write complete
  split
  · split
    · exact List.length_set
    · rfl
  · rfl

/-- A turn of a task keeps it fitting, and it writes in the place of its link only. -/
theorem Fits.takes {r : Resolver} {turn : Turn} {p next : Progress} {index : Nat}
    {link held : String} {failed : Bool} {links : List String}
    (h : p.Fits r index link failed held) (hturn : Takes r turn p next)
    (hheld : links[index]? = some held) :
    ∃ held', (p.write links turn)[index]? = some held' ∧
      next.Fits r index link (failed || turn = .fail) held' ∧
      ∀ j ≠ index, (p.write links turn)[j]? = links[j]? := by
  cases hturn with
  | follow hindex houtcome _ =>
      obtain ⟨hplace, hresolve, hrunning, hraw⟩ := h
      refine ⟨held, hheld, ⟨hindex.trans hplace, houtcome.trans hresolve, ?_, hraw⟩, fun _ _ => rfl⟩
      rw [hrunning]
      rfl
  | done task =>
      obtain ⟨rfl, hresolve, rfl, rfl⟩ := h
      rw [hresolve]
      exact ⟨held, hheld, ⟨rfl, rfl⟩, fun _ _ => rfl⟩
  | fail task =>
      obtain ⟨rfl, -, rfl, rfl⟩ := h
      exact ⟨held, hheld, ⟨rfl, rfl⟩, fun _ _ => rfl⟩
  | collect c =>
      obtain ⟨rfl, rfl⟩ := h
      refine ⟨(resultOf r held failed).getD held, ?_, ?_, fun j hj => ?_⟩
      · rw [write, getElem?_complete, if_pos rfl, hheld, Option.map_some]
      · simp [Fits]
      · rw [write, getElem?_complete, if_neg (Ne.symm hj)]

end Progress

/-! ## All tasks -/

namespace Tasks

def turnsOf : List Progress → Nat
  | [] => 0
  | p :: tasks => p.turnsLeft + turnsOf tasks

def failed (events : List Event) (i : Nat) : Bool :=
  (⟨i, .fail⟩ : Event) ∈ events

/-- Where results have been collected, in their order. -/
def collectOrder (events : List Event) : List Nat :=
  (events.filter (·.turn = .collect)).map (·.index)

theorem failed_append (events events' : List Event) (i : Nat) :
    failed (events ++ events') i = (failed events i || failed events' i) := by
  simp [failed]

theorem collectOrder_append (events events' : List Event) :
    collectOrder (events ++ events') = collectOrder events ++ collectOrder events' := by
  simp [collectOrder]

theorem failed_singleton (e : Event) (i : Nat) :
    failed [e] i = (decide (i = e.index) && decide (e.turn = .fail)) := by
  obtain ⟨index, turn⟩ := e
  simp [failed, eq_comm]

theorem collectOrder_singleton (e : Event) :
    collectOrder [e] = if e.turn = .collect then [e.index] else [] := by
  by_cases h : e.turn = .collect <;> simp [collectOrder, h]

/--
How things stand after some turns: every task fits its link, and a result that has been
collected is not collected again.
-/
structure Sound (resolvers : Nat → Resolver) (links : List String) (past : List Event)
    (s : Tasks) : Prop where
  length_links : s.links.length = links.length
  length_progress : s.progress.length = links.length
  collect_once : (collectOrder past).Nodup
  fits (i : Nat) (link : String) (h : links[i]? = some link) :
    ∃ p held, s.progress[i]? = some p ∧ s.links[i]? = some held ∧
      p.Fits (resolvers i) i link (failed past i) held ∧ (p = .collected ↔ i ∈ collectOrder past)

section

variable {resolvers : Nat → Resolver} {links : List String} {past events : List Event}
  {s s' : Tasks} {e : Event}

theorem step?_eq_some_iff : s.step? resolvers e = some s' ↔
    ∃ p next, s.progress[e.index]? = some p ∧ p.next? (resolvers e.index) e.turn = some next ∧
      s' = ⟨s.progress.set e.index next, p.write s.links e.turn⟩ := by
  simp only [step?, Option.bind_eq_some_iff, Option.map_eq_some_iff]
  constructor
  · rintro ⟨p, hp, next, hnext, rfl⟩
    exact ⟨p, next, hp, hnext, rfl⟩
  · rintro ⟨p, next, hp, hnext, rfl⟩
    exact ⟨p, hp, next, hnext, rfl⟩

theorem run?_cons_eq_some_iff :
    s.run? resolvers (e :: events) = some s' ↔
      ∃ after, s.step? resolvers e = some after ∧ after.run? resolvers events = some s' := by
  simp only [run?, List.foldlM_cons, bind, Option.bind_eq_some_iff]

theorem run?_append_eq_some_iff {events' : List Event} :
    s.run? resolvers (events ++ events') = some s' ↔
      ∃ after, s.run? resolvers events = some after ∧ after.run? resolvers events' = some s' := by
  simp only [run?, List.foldlM_append, bind, Option.bind_eq_some_iff]

theorem sound_start (resolvers : Nat → Resolver) (links : List String) :
    (start links).Sound resolvers links [] := by
  refine ⟨rfl, List.length_mapIdx, List.nodup_nil, fun i link h => ?_⟩
  have hfits := LinkTask.outcome_start (resolvers i) i link
  refine ⟨.running (.start i link), link, ?_, h, ⟨rfl, hfits, rfl, rfl⟩, by simp [collectOrder]⟩
  rw [start, List.getElem?_mapIdx, h, Option.map_some]

theorem Sound.step (h : s.Sound resolvers links past) (hstep : s.step? resolvers e = some s') :
    s'.Sound resolvers links (past ++ [e]) := by
  obtain ⟨p, next, hp, hnext, rfl⟩ := step?_eq_some_iff.1 hstep
  obtain ⟨hindex, -⟩ := List.getElem?_eq_some_iff.1 hp
  have hlink := List.getElem?_eq_getElem (h.length_progress ▸ hindex)
  obtain ⟨p', held, hp', hheld, hfits, hcollected⟩ := h.fits e.index _ hlink
  obtain rfl := Option.some.inj (hp.symm.trans hp')
  have htakes := Progress.takes_of_next? hnext
  obtain ⟨held', hheld', hfits', hframe⟩ := hfits.takes htakes hheld
  obtain ⟨hbefore, hafter⟩ := htakes.collected_iff
  have hnew : e.index ∉ collectOrder past := fun hmem => hbefore (hcollected.2 hmem)
  refine ⟨?_, ?_, ?_, fun i link hi => ?_⟩
  · rw [Progress.length_write, h.length_links]
  · rw [List.length_set, h.length_progress]
  · rw [collectOrder_append, collectOrder_singleton]
    split
    · refine List.nodup_append.2 ⟨h.collect_once, by simp, fun i hi j hj => ?_⟩
      rw [List.mem_singleton.1 hj]
      exact fun heq => hnew (heq ▸ hi)
    · rw [List.append_nil]
      exact h.collect_once
  rw [failed_append, failed_singleton, collectOrder_append, collectOrder_singleton]
  by_cases hturn : i = e.index
  case pos =>
    subst hturn
    obtain rfl := Option.some.inj (hlink.symm.trans hi)
    refine ⟨next, held', List.getElem?_set_self hindex, hheld', ?_, ?_⟩
    · simpa using hfits'
    · rw [hafter, List.mem_append, or_iff_right hnew]
      split <;> simp_all
  case neg =>
    obtain ⟨q, kept, hq, hkept, hfits, hcollected⟩ := h.fits i link hi
    refine ⟨q, kept, ?_, ?_, ?_, ?_⟩
    · rw [List.getElem?_set_ne (Ne.symm hturn), hq]
    · rw [hframe i hturn, hkept]
    · simpa [hturn] using hfits
    · rw [hcollected, List.mem_append, or_iff_left]
      split <;> simp [hturn]

theorem Sound.run (h : s.Sound resolvers links past)
    (hrun : s.run? resolvers events = some s') :
    s'.Sound resolvers links (past ++ events) := by
  induction events generalizing s past with
  | nil =>
      obtain rfl := Option.some.inj hrun
      rwa [List.append_nil]
  | cons e events ih =>
      obtain ⟨after, hstep, hrun⟩ := run?_cons_eq_some_iff.1 hrun
      rw [List.append_cons]
      exact ih (h.step hstep) hrun

theorem Sound.links_eq (h : s.Sound resolvers links past) :
    s.links = links.mapIdx fun i link =>
      if i ∉ collectOrder past ∨ failed past i then link else (resolvers i).resolve link := by
  apply List.ext_getElem?
  intro i
  rw [List.getElem?_mapIdx]
  cases hlink : links[i]? with
  | none =>
      rw [List.getElem?_eq_none_iff] at hlink
      exact List.getElem?_eq_none (h.length_links ▸ hlink)
  | some link =>
      obtain ⟨p, held, -, hheld, hfits, hcollected⟩ := h.fits i link hlink
      simp only [hheld, Option.map_some, ← hcollected, Option.some.injEq]
      cases p with
      | running task => simpa using hfits.2.2.2
      | ended c => simpa using hfits.2
      | collected =>
          rw [Progress.Fits, Progress.resultOf] at hfits
          cases hfailed : failed past i <;> simpa [hfailed] using hfits

/-- When every task has been collected, a link is cleaned unless its task has failed. -/
theorem Sound.links_eq_of_isOver (h : s.Sound resolvers links past) (hover : s.isOver = true) :
    s.links = links.mapIdx fun i link =>
      if failed past i then link else (resolvers i).resolve link := by
  rw [h.links_eq]
  apply List.ext_getElem?
  intro i
  rw [List.getElem?_mapIdx, List.getElem?_mapIdx]
  cases hlink : links[i]? with
  | none => rfl
  | some link =>
      obtain ⟨p, -, hp, -, -, hcollected⟩ := h.fits i link hlink
      have hall := List.all_eq_true.1 hover p (List.mem_of_getElem? hp)
      have hmem := hcollected.1 (of_decide_eq_true hall)
      simp only [Option.map_some, hmem, not_true_eq_false, false_or]

/-! ## Coming to an end -/

theorem turnsOf_set_lt {tasks : List Progress} {i : Nat} {p next : Progress}
    (hp : tasks[i]? = some p) (h : next.turnsLeft < p.turnsLeft) :
    turnsOf (tasks.set i next) < turnsOf tasks := by
  induction tasks generalizing i with
  | nil => simp at hp
  | cons q tasks ih =>
      cases i with
      | zero =>
          obtain rfl := Option.some.inj hp
          exact Nat.add_lt_add_right h (turnsOf tasks)
      | succ i => exact Nat.add_lt_add_left (ih hp) q.turnsLeft

theorem turnsOf_le {tasks : List Progress} {bound : Nat} (h : ∀ p ∈ tasks, p.turnsLeft ≤ bound) :
    turnsOf tasks ≤ bound * tasks.length := by
  induction tasks with
  | nil => exact Nat.zero_le _
  | cons p tasks ih =>
      have hfirst := h p List.mem_cons_self
      have hrest := ih fun q hq => h q (List.mem_cons_of_mem p hq)
      rw [turnsOf, List.length_cons, Nat.mul_succ]
      omega

theorem turnsOf_step_lt (h : s.step? resolvers e = some s') :
    turnsOf s'.progress < turnsOf s.progress := by
  obtain ⟨p, next, hp, hnext, rfl⟩ := step?_eq_some_iff.1 h
  exact turnsOf_set_lt hp (Progress.takes_of_next? hnext).turnsLeft_lt

theorem length_add_turnsOf_le (h : s.run? resolvers events = some s') :
    events.length + turnsOf s'.progress ≤ turnsOf s.progress := by
  induction events generalizing s with
  | nil =>
      obtain rfl := Option.some.inj h
      exact Nat.le_of_eq (Nat.zero_add _)
  | cons e events ih =>
      obtain ⟨after, hstep, hrun⟩ := run?_cons_eq_some_iff.1 h
      have hless := turnsOf_step_lt hstep
      have hrest := ih hrun
      rw [List.length_cons]
      omega

/-- A run has at most so many turns for each link: its steps, its end, and its collection. -/
theorem length_le_of_run? (h : (start links).run? resolvers events = some s) :
    events.length ≤ (Resolver.maxDepth + 3) * links.length := by
  have hlength : (start links).progress.length = links.length := List.length_mapIdx
  have hstart : turnsOf (start links).progress ≤ (Resolver.maxDepth + 3) * links.length := by
    rw [← hlength]
    apply turnsOf_le
    intro p hp
    obtain ⟨i, hi, rfl⟩ := List.mem_mapIdx.1 hp
    exact Nat.le_refl _
  have hrun := length_add_turnsOf_le h
  omega

theorem exists_step (resolvers : Nat → Resolver) (h : s.isOver = false) :
    ∃ e after, s.step? resolvers e = some after := by
  obtain ⟨p, hmem, hp⟩ := List.all_eq_false.1 h
  obtain ⟨i, hi⟩ := List.mem_iff_getElem?.1 hmem
  obtain ⟨turn, next, hnext⟩ := Progress.exists_next? (resolvers i) (by simpa using hp)
  exact ⟨⟨i, turn⟩, _, step?_eq_some_iff.2 ⟨p, next, hi, hnext, rfl⟩⟩

end

end Tasks

end Message

end LinkHygiene
