import LinkHygiene.Pattern.Basic
import LinkHygiene.Text.Split

/-!
# Walks without second thoughts

Where all that follows accepts any place, the walk of a greedy repetition takes the
longest run and never comes back to a shorter one. Patterns that are written this way
match as a scanner reads.
-/

namespace LinkHygiene

namespace Pattern

namespace Place

def past (p : Place) (s : List Char) : Place :=
  ⟨p.index + s.length, s.getLast?.or p.before, p.rest.drop s.length⟩

@[simp] theorem past_nil (p : Place) : p.past [] = p := rfl

theorem past_cons (p : Place) (c : Char) (s : List Char) :
    p.past (c :: s) = (⟨p.index + 1, some c, p.rest.drop 1⟩ : Place).past s := by
  have hlast : (c :: s).getLast?.or p.before = s.getLast?.or (some c) := by
    rw [List.getLast?_cons]
    cases s.getLast? <;> rfl
  simp only [past, hlast, List.length_cons, List.drop_drop, mk.injEq, true_and]
  constructor
  · omega
  · rw [Nat.add_comm]

theorem past_past (p : Place) (s t : List Char) : (p.past s).past t = p.past (s ++ t) := by
  simp [past, Nat.add_assoc, List.drop_drop, List.getLast?_append, Option.or_assoc]

@[simp] theorem rest_past (p : Place) (s : List Char) :
    (p.past s).rest = p.rest.drop s.length := rfl

theorem textTo_past {p : Place} {s : List Char} (h : s <+: p.rest) :
    p.textTo (p.past s) = s := by
  obtain ⟨t, ht⟩ := h
  simp [textTo, past, ← ht]

end Place

/-- Whether what is to be matched after a node is matched at every place. -/
def Always (next : After) : Prop :=
  ∀ p gs, (next p gs).isSome = true

theorem always_end : Always fun p gs => some (p, gs) :=
  fun _ _ => rfl

theorem Always.or_left {next : After} (h : Always next) (a : Option (Place × Groups))
    (p : Place) (gs : Groups) : (a.or (next p gs)).isSome = true := by
  rw [Option.isSome_or, h p gs, Bool.or_true]

/-! ## Single characters -/

theorem mem_one_iff {c d : Char} : (CharSet.one c).mem d = true ↔ d = c := by
  simp only [CharSet.one, CharSet.mem_range, Bool.and_eq_true, decide_eq_true_eq]
  constructor
  · intro h
    exact Char.le_antisymm h.2 h.1
  · intro h
    subst h
    exact ⟨Char.le_refl _, Char.le_refl _⟩

theorem walk_one (set : CharSet) (next : After) (p : Place) (gs : Groups) :
    (Node.one set).walk next p gs =
      match p.rest with
      | c :: _ => if set.mem c then next (p.past [c]) gs else none
      | [] => none := by
  obtain ⟨index, before, rest⟩ := p
  cases rest with
  | nil => rfl
  | cons c rest => by_cases hc : set.mem c = true <;> simp [Node.walk, Place.step?, Place.past, hc]

/-! ## Repetitions -/

theorem reachFrom_eq (set : CharSet) (passed : List Place) (p : Place) :
    ∃ nearer : List Place,
      reachFrom set none passed p p.rest =
          p.past (p.rest.takeWhile (set.mem ·)) :: nearer ∧
        nearer.length = passed.length + (p.rest.takeWhile (set.mem ·)).length := by
  obtain ⟨index, before, rest⟩ := p
  induction rest generalizing index before passed with
  | nil => exact ⟨passed, rfl, rfl⟩
  | cons c rest ih =>
      by_cases hc : set.mem c = true
      · obtain ⟨nearer, heq, hlength⟩ :=
          ih (⟨index, before, c :: rest⟩ :: passed) (index + 1) (some c)
        refine ⟨nearer, ?_, ?_⟩
        · simp only [reachFrom, hc, if_true, List.takeWhile_cons, Option.map_none]
          rw [if_neg (by simp), Place.past_cons]
          exact heq
        · simp only [List.takeWhile_cons, hc, if_true, List.length_cons] at hlength ⊢
          omega
      · refine ⟨passed, ?_, ?_⟩
        · simp [reachFrom, hc]
        · simp [hc]

/-- A greedy repetition before what is always matched takes the longest run. -/
theorem walk_run {next : After} (hnext : Always next) (set : CharSet) (least : Nat)
    (p : Place) (gs : Groups) :
    (Node.run set least none true).walk next p gs =
      if least ≤ (p.rest.takeWhile (set.mem ·)).length then
        next (p.past (p.rest.takeWhile (set.mem ·))) gs
      else none := by
  obtain ⟨nearer, heq, hlength⟩ := reachFrom_eq set [] p
  simp only [Node.walk, runEnds, heq, if_true]
  split
  · rename_i hleast
    obtain ⟨n, hn⟩ : ∃ n, (p.past (p.rest.takeWhile (set.mem ·)) :: nearer).length - least =
        n + 1 := by
      refine ⟨nearer.length - least, ?_⟩
      simp only [List.length_cons, List.length_nil] at hlength ⊢
      omega
    rw [hn, List.take_succ_cons, List.findSome?_cons]
    obtain ⟨result, hresult⟩ := Option.isSome_iff_exists.1 (hnext _ gs)
    rw [hresult]
  · rename_i hleast
    have hzero : (p.past (p.rest.takeWhile (set.mem ·)) :: nearer).length - least = 0 := by
      simp only [List.length_cons, List.length_nil] at hlength ⊢
      omega
    rw [hzero]
    rfl

/-- At most one character of a set, and none if what follows is not matched after it. -/
theorem walk_run_optional (set : CharSet) (next : After) (p : Place) (gs : Groups) :
    (Node.run set 0 (some 1) true).walk next p gs =
      match p.rest with
      | c :: _ => if set.mem c then (next (p.past [c]) gs).or (next p gs) else next p gs
      | [] => next p gs := by
  obtain ⟨index, before, rest⟩ := p
  cases rest with
  | nil => simp [Node.walk, runEnds, reachFrom]
  | cons c rest =>
      by_cases hc : set.mem c = true
      · have hor : ∀ q, ([q, ⟨index, before, c :: rest⟩].findSome? fun q => next q gs) =
            (next q gs).or (next ⟨index, before, c :: rest⟩ gs) := by
          intro q
          cases h : next q gs with
          | none => cases h' : next ⟨index, before, c :: rest⟩ gs <;> simp [h, h']
          | some result => simp [h]
        cases rest <;> simpa [Node.walk, runEnds, reachFrom, Place.past, hc] using hor _
      · simp [Node.walk, runEnds, reachFrom, hc]

theorem walk_loop_optional (a : Node) (next : After) (p : Place) (gs : Groups) :
    (Node.loop a 0 (some 1) true).walk next p gs = (a.walk next p gs).or (next p gs) := by
  simp [Node.walk, repeated, rounds, upTo, either]

theorem Always.optional {next : After} (h : Always next) (a : Node) :
    Always ((Node.loop a 0 (some 1) true).walk next) := by
  intro p gs
  rw [walk_loop_optional]
  exact h.or_left _ p gs

end Pattern

end LinkHygiene
