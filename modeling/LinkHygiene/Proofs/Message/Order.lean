import LinkHygiene.Message.Compare

/-!
# Pairs in the order of their names

Pairs are sorted by their names, and pairs of one name keep the order in which they stood.
There is only one list like that, and it is the one that pairs are sorted to.
-/

namespace LinkHygiene

namespace Message

open Form (Pair)

def named (name : String) (pairs : List Pair) : List Pair :=
  pairs.filter (·.name == name)

/--
Whether a list has the pairs of another one in the order of their names, and the pairs of one
name in the order in which they stood.
-/
structure SortedFrom (pairs sorted : List Pair) : Prop where
  ordered : sorted.Pairwise fun p q => p.name ≤ q.name
  stable : ∀ name, named name sorted = named name pairs

/-! ## Pairs of one name -/

theorem mem_named {name : String} {pairs : List Pair} {p : Pair} :
    p ∈ named name pairs ↔ p ∈ pairs ∧ p.name = name := by
  simp [named]

theorem named_append (name : String) (pairs more : List Pair) :
    named name (pairs ++ more) = named name pairs ++ named name more :=
  List.filter_append pairs more

theorem named_singleton_self (p : Pair) : named p.name [p] = [p] := by
  simp [named]

theorem named_singleton_of_ne {name : String} {p : Pair} (h : name ≠ p.name) :
    named name [p] = [] := by
  simpa [named] using h.symm

theorem named_eq_nil_iff {name : String} {pairs : List Pair} :
    named name pairs = [] ↔ ∀ p ∈ pairs, p.name ≠ name := by
  simp [named]

theorem count_named (pairs : List Pair) (p : Pair) :
    (named p.name pairs).count p = pairs.count p :=
  List.count_filter (by simp)

theorem perm_of_named {pairs more : List Pair}
    (h : ∀ name, named name pairs = named name more) : pairs.Perm more := by
  rw [List.perm_iff_count]
  intro p
  rw [← count_named pairs, h, count_named]

theorem named_cons_cancel {p : Pair} {pairs more : List Pair}
    (h : ∀ name, named name (p :: pairs) = named name (p :: more)) (name : String) :
    named name pairs = named name more := by
  have hname := h name
  unfold named at hname ⊢
  rw [List.filter_cons, List.filter_cons] at hname
  split at hname
  · exact (List.cons.inj hname).2
  · exact hname

/-! ## Sorted lists -/

theorem SortedFrom.perm {pairs sorted : List Pair} (h : SortedFrom pairs sorted) :
    sorted.Perm pairs :=
  perm_of_named h.stable

/-- What a list is sorted to is also what another one with the same pairs of each name is. -/
theorem SortedFrom.of_named {pairs more sorted : List Pair} (h : SortedFrom pairs sorted)
    (hnamed : ∀ name, named name pairs = named name more) : SortedFrom more sorted :=
  ⟨h.ordered, fun name => (h.stable name).trans (hnamed name)⟩

theorem eq_of_ordered {pairs more : List Pair}
    (hpairs : pairs.Pairwise fun p q => p.name ≤ q.name)
    (hmore : more.Pairwise fun p q => p.name ≤ q.name)
    (h : ∀ name, named name pairs = named name more) : pairs = more := by
  induction pairs generalizing more with
  | nil => exact (perm_of_named h).symm.eq_nil.symm
  | cons p pairs ih =>
      cases more with
      | nil => exact (perm_of_named h).eq_nil
      | cons q more =>
          have hperm := perm_of_named h
          have hle : ∀ {a b : Pair} {list : List Pair}, (a :: list).Pairwise
              (fun p q => p.name ≤ q.name) → b ∈ a :: list → a.name ≤ b.name := by
            intro a b list hlist hb
            rcases List.mem_cons.1 hb with rfl | hb
            · exact String.le_refl _
            · exact List.rel_of_pairwise_cons hlist hb
          have hname : p.name = q.name := by
            apply String.le_antisymm
            · exact hle hpairs (hperm.mem_iff.2 List.mem_cons_self)
            · exact hle hmore (hperm.mem_iff.1 List.mem_cons_self)
          have hfirst := h p.name
          unfold named at hfirst
          rw [List.filter_cons_of_pos (by simp), List.filter_cons_of_pos (by simp [hname])] at hfirst
          obtain rfl := (List.cons.inj hfirst).1
          rw [ih hpairs.of_cons hmore.of_cons (named_cons_cancel h)]

theorem SortedFrom.unique {pairs sorted other : List Pair} (h : SortedFrom pairs sorted)
    (hother : SortedFrom pairs other) : sorted = other :=
  eq_of_ordered h.ordered hother.ordered fun name => (h.stable name).trans (hother.stable name).symm

/-- Pairs are sorted by their names, and pairs of one name keep their order. -/
theorem sortedFrom_sortPairs (pairs : List Pair) : SortedFrom pairs (sortPairs pairs) := by
  have htrans : ∀ a b c : Pair, decide (a.name ≤ b.name) = true →
      decide (b.name ≤ c.name) = true → decide (a.name ≤ c.name) = true := by
    simp only [decide_eq_true_eq]
    exact fun a b c => String.le_trans
  have htotal : ∀ a b : Pair,
      (decide (a.name ≤ b.name) || decide (b.name ≤ a.name)) = true := by
    simp only [Bool.or_eq_true, decide_eq_true_eq]
    exact fun a b => String.le_total _ _
  constructor
  · have hpairwise := List.pairwise_mergeSort htrans htotal pairs
    simp only [decide_eq_true_eq] at hpairwise
    exact hpairwise
  · intro name
    have hsame : (named name pairs).Pairwise fun a b => decide (a.name ≤ b.name) = true := by
      apply List.pairwise_of_forall_mem_list
      intro a ha b hb
      rw [(mem_named.1 ha).2, (mem_named.1 hb).2]
      exact decide_eq_true (String.le_refl name)
    have hkept : (named name pairs).Sublist (sortPairs pairs) :=
      List.sublist_mergeSort htrans htotal hsame List.filter_sublist
    have hsub : (named name pairs).Sublist (named name (sortPairs pairs)) := by
      have hfilter := hkept.filter (·.name == name)
      simpa only [named, List.filter_filter, Bool.and_self] using hfilter
    have hperm : (named name (sortPairs pairs)).Perm (named name pairs) :=
      (List.mergeSort_perm pairs _).filter _
    exact (hsub.eq_of_length hperm.length_eq.symm).symm

/-- Only names that occur need to be looked at, so it can be checked whether a list is sorted. -/
theorem sortedFrom_iff_of_mem {pairs sorted : List Pair} :
    SortedFrom pairs sorted ↔ (sorted.Pairwise fun p q => p.name ≤ q.name) ∧
      ∀ p ∈ sorted ++ pairs, named p.name sorted = named p.name pairs := by
  constructor
  · exact fun h => ⟨h.ordered, fun p _ => h.stable p.name⟩
  · rintro ⟨hordered, hstable⟩
    refine ⟨hordered, fun name => ?_⟩
    by_cases hmem : ∃ p ∈ sorted ++ pairs, p.name = name
    · obtain ⟨p, hp, rfl⟩ := hmem
      exact hstable p hp
    · have hnone : ∀ p ∈ sorted ++ pairs, p.name ≠ name :=
        fun p hp hname => hmem ⟨p, hp, hname⟩
      rw [List.forall_mem_append] at hnone
      rw [named_eq_nil_iff.2 hnone.1, named_eq_nil_iff.2 hnone.2]

instance {pairs sorted : List Pair} : Decidable (SortedFrom pairs sorted) :=
  decidable_of_iff _ sortedFrom_iff_of_mem.symm

theorem sortedFrom_iff {pairs sorted : List Pair} :
    SortedFrom pairs sorted ↔ sorted = sortPairs pairs :=
  ⟨fun h => h.unique (sortedFrom_sortPairs pairs), fun h => h ▸ sortedFrom_sortPairs pairs⟩

end Message

end LinkHygiene
