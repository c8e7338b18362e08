import LinkHygiene.Store.Refresh

/-!
# Replacing all rules

A replacement puts the rules into the table, all of them and in their order, if the
database takes every one of them; otherwise the table stays as it is. The size of the
batches makes no difference to this, only to how many rows have gone in before a failure.
-/

namespace LinkHygiene

namespace Store

/-! ## Batches -/

theorem batchesOf_cons {α : Type} (size fuel : Nat) (row : α) (rows : List α) :
    batchesOf size (fuel + 1) (row :: rows) =
      (row :: rows).take size :: batchesOf size fuel ((row :: rows).drop size) := rfl

theorem flatten_batchesOf {α : Type} {size : Nat} (hsize : 0 < size) {fuel : Nat}
    {rows : List α} (hfuel : rows.length ≤ fuel) :
    (batchesOf size fuel rows).flatten = rows := by
  induction fuel generalizing rows with
  | zero =>
      obtain rfl : rows = [] := List.length_eq_zero_iff.1 (by omega)
      rfl
  | succ fuel ih =>
      cases rows with
      | nil => rfl
      | cons row rows =>
          have hdrop : ((row :: rows).drop size).length ≤ fuel := by
            rw [List.length_drop]
            simp only [List.length_cons] at hfuel ⊢
            omega
          rw [batchesOf, List.flatten_cons, ih hdrop, List.take_append_drop]
          simp

theorem flatten_batches {α : Type} (size : Nat) (rows : List α) :
    (batches size rows).flatten = rows :=
  flatten_batchesOf (clampBatch_pos size) (Nat.le_refl _)

/-! ## Transactions -/

theorem accepts_iff {s : Store} {batch : List TrackingRule} :
    s.accepts batch = true ↔ ∀ rule ∈ batch, rule.param ∉ s.refused := by
  simp [accepts]

theorem accepts_append {s : Store} {rules more : List TrackingRule} :
    s.accepts (rules ++ more) = true ↔ s.accepts rules = true ∧ s.accepts more = true := by
  simp [accepts]

theorem foldl_insert (t : Transaction) (bs : List (List TrackingRule)) :
    bs.foldl Transaction.insert t =
      ⟨t.rows ++ bs.flatten.map Row.ofRule, t.inserted + bs.flatten.length⟩ := by
  induction bs generalizing t with
  | nil => simp
  | cons batch bs ih =>
      rw [List.foldl_cons, ih]
      simp [Transaction.insert, Nat.add_assoc]

theorem insertAll_eq_foldl {s : Store} {t : Transaction} {bs : List (List TrackingRule)}
    (h : s.accepts bs.flatten) : s.insertAll t bs = .ok (bs.foldl Transaction.insert t) := by
  induction bs generalizing t with
  | nil => rfl
  | cons batch bs ih =>
      rw [List.flatten_cons] at h
      obtain ⟨hbatch, hrest⟩ := accepts_append.1 h
      rw [insertAll, if_pos hbatch, ih hrest, List.foldl_cons]

theorem insertAll_eq_of_refused {s : Store} {t : Transaction} {bs : List (List TrackingRule)}
    (h : ¬ s.accepts bs.flatten) :
    s.insertAll t bs =
      .error (.notInserted (t.inserted + (bs.takeWhile s.accepts).flatten.length)) := by
  induction bs generalizing t with
  | nil => exact absurd rfl h
  | cons batch bs ih =>
      by_cases hbatch : s.accepts batch = true
      · have hrest : ¬ s.accepts bs.flatten := by
          intro hmore
          exact h (by rw [List.flatten_cons]; exact accepts_append.2 ⟨hbatch, hmore⟩)
        rw [insertAll, if_pos hbatch, ih hrest, List.takeWhile_cons_of_pos hbatch,
          List.flatten_cons, List.length_append, Transaction.insert, Nat.add_assoc]
      · rw [insertAll, if_neg hbatch, List.takeWhile_cons_of_neg hbatch]
        simp

/-! ## Where the database stops -/

/-- The place of the first rule that the database refuses. -/
def firstRefused (s : Store) (rules : List TrackingRule) : Nat :=
  rules.findIdx fun rule => s.refused.contains rule.param

theorem firstRefused_lt {s : Store} {rules : List TrackingRule} (h : ¬ s.accepts rules) :
    s.firstRefused rules < rules.length := by
  apply List.findIdx_lt_length_of_exists
  simpa [accepts] using h

theorem firstRefused_of_accepts {s : Store} {rules : List TrackingRule} (h : s.accepts rules) :
    s.firstRefused rules = rules.length := by
  apply List.findIdx_eq_length_of_false
  simpa [accepts] using h

theorem firstRefused_append {s : Store} {rules more : List TrackingRule}
    (h : s.accepts rules) :
    s.firstRefused (rules ++ more) = rules.length + s.firstRefused more := by
  have hnone : ¬ s.firstRefused rules < rules.length := by
    rw [firstRefused_of_accepts h]
    exact Nat.lt_irrefl _
  rw [firstRefused, List.findIdx_append]
  rw [firstRefused] at hnone
  rw [if_neg hnone, Nat.add_comm]
  rfl

theorem firstRefused_lt_of_take {s : Store} {rules : List TrackingRule} {size : Nat}
    (h : ¬ s.accepts (rules.take size)) : s.firstRefused rules < size := by
  have hlt := firstRefused_lt h
  have happend : s.firstRefused (rules.take size ++ rules.drop size) =
      s.firstRefused (rules.take size) := by
    rw [firstRefused] at hlt
    rw [firstRefused, List.findIdx_append, if_pos hlt]
    rfl
  rw [List.take_append_drop] at happend
  rw [List.length_take] at hlt
  omega

/-- If the first batch is taken and not all are, it is a whole one with the failure behind it. -/
theorem firstRefused_of_take {s : Store} {rules : List TrackingRule} {size : Nat}
    (hbatch : s.accepts (rules.take size)) (h : ¬ s.accepts rules) :
    ¬ s.accepts (rules.drop size) ∧
      s.firstRefused rules = size + s.firstRefused (rules.drop size) := by
  have hsplit : rules.take size ++ rules.drop size = rules := List.take_append_drop size rules
  have hdrop : ¬ s.accepts (rules.drop size) := by
    intro hmore
    exact h (by rw [← hsplit]; exact accepts_append.2 ⟨hbatch, hmore⟩)
  have hlt := firstRefused_lt hdrop
  rw [List.length_drop] at hlt
  have hwhole : (rules.take size).length = size := by
    rw [List.length_take]
    omega
  have happend : s.firstRefused (rules.take size ++ rules.drop size) =
      (rules.take size).length + s.firstRefused (rules.drop size) := firstRefused_append hbatch
  rw [hsplit, hwhole] at happend
  exact ⟨hdrop, happend⟩

theorem flatten_takeWhile_batchesOf {s : Store} {size : Nat} (hsize : 0 < size) {fuel : Nat}
    {rules : List TrackingRule} (hfuel : rules.length ≤ fuel) (h : ¬ s.accepts rules) :
    ((batchesOf size fuel rules).takeWhile s.accepts).flatten =
      rules.take (size * (s.firstRefused rules / size)) := by
  induction fuel generalizing rules with
  | zero =>
      obtain rfl : rules = [] := List.length_eq_zero_iff.1 (by omega)
      exact absurd rfl h
  | succ fuel ih =>
      cases rules with
      | nil => exact absurd rfl h
      | cons rule rest =>
          rw [batchesOf_cons]
          by_cases hbatch : s.accepts ((rule :: rest).take size) = true
          · obtain ⟨hdrop, hfirst⟩ := firstRefused_of_take hbatch h
            have hlength : ((rule :: rest).drop size).length ≤ fuel := by
              rw [List.length_drop]
              rw [List.length_cons] at hfuel ⊢
              omega
            have hdiv : s.firstRefused (rule :: rest) / size =
                s.firstRefused ((rule :: rest).drop size) / size + 1 := by
              rw [hfirst]
              exact Nat.add_div_left _ hsize
            rw [List.takeWhile_cons_of_pos hbatch, List.flatten_cons, ih hlength hdrop, hdiv,
              Nat.mul_add, Nat.mul_one, Nat.add_comm, List.take_add]
          · have hfirst := firstRefused_lt_of_take hbatch
            rw [List.takeWhile_cons_of_neg hbatch, Nat.div_eq_of_lt hfirst]
            simp

/-- How many rows have gone in before the failure, in whole batches. -/
def stopsAfter (s : Store) (rules : List TrackingRule) (batch : Nat) : Nat :=
  clampBatch batch * (s.firstRefused rules / clampBatch batch)

theorem stopsAfter_lt {s : Store} {rules : List TrackingRule} (h : ¬ s.accepts rules)
    (batch : Nat) : s.stopsAfter rules batch < rules.length :=
  Nat.lt_of_le_of_lt (Nat.mul_div_le _ _) (firstRefused_lt h)

theorem flatten_takeWhile_batches {s : Store} {rules : List TrackingRule}
    (h : ¬ s.accepts rules) (batch : Nat) :
    ((batches batch rules).takeWhile s.accepts).flatten =
      rules.take (s.stopsAfter rules batch) :=
  flatten_takeWhile_batchesOf (clampBatch_pos batch) (Nat.le_refl _) h

/-- A transaction with a refused rule ends after the whole batches before this rule. -/
theorem rewritten_eq_of_refused {s : Store} {rules : List TrackingRule} (h : ¬ s.accepts rules)
    (old : List Row) (batch : Nat) :
    s.rewritten old rules batch = .error (.notInserted (s.stopsAfter rules batch)) := by
  have hflat : ¬ s.accepts (batches batch rules).flatten := by
    rw [flatten_batches]
    exact h
  have hlength : (rules.take (s.stopsAfter rules batch)).length = s.stopsAfter rules batch := by
    have hlt := stopsAfter_lt h batch
    rw [List.length_take]
    omega
  rw [rewritten, insertAll_eq_of_refused hflat, flatten_takeWhile_batches h, hlength,
    Transaction.clear, Nat.zero_add]

/-! ## Replacements -/

/-- Whether the database takes all rules of a list. -/
def takes (s : Store) (rules : List TrackingRule) : Prop :=
  ∀ rule ∈ rules, rule.param ∉ s.refused

instance (s : Store) (rules : List TrackingRule) : Decidable (s.takes rules) :=
  inferInstanceAs (Decidable (∀ rule ∈ rules, rule.param ∉ s.refused))

theorem replaceAll_of_takes {s : Store} {old : List Row} {rules : List TrackingRule}
    (htable : s.table = some old) (h : s.takes rules) (batch : Nat) :
    s.replaceAll rules batch =
      (.ok rules.length, { s with table := some (rules.map Row.ofRule) }) := by
  have hflat := flatten_batches batch rules
  have hinsert : s.rewritten old rules batch = .ok ⟨rules.map Row.ofRule, rules.length⟩ := by
    have haccepts : s.accepts (batches batch rules).flatten := by
      rw [hflat]
      exact accepts_iff.2 h
    rw [rewritten, insertAll_eq_foldl haccepts, foldl_insert, hflat]
    simp [Transaction.clear]
  simp only [replaceAll, htable, hinsert]
  rfl

theorem replaceAll_eq_of_refused {s : Store} {old : List Row} {rules : List TrackingRule}
    (htable : s.table = some old) (h : ¬ s.takes rules) (batch : Nat) :
    s.replaceAll rules batch = (.error (.notInserted (s.stopsAfter rules batch)), s) := by
  have haccepts : ¬ s.accepts rules := fun htaken => h (accepts_iff.1 htaken)
  simp only [replaceAll, htable, rewritten_eq_of_refused haccepts]

theorem replaceAll_of_refused {s : Store} {old : List Row} {rules : List TrackingRule}
    (htable : s.table = some old) (h : ¬ s.takes rules) (batch : Nat) :
    ∃ rows, s.replaceAll rules batch = (.error (.notInserted rows), s) :=
  ⟨_, replaceAll_eq_of_refused htable h batch⟩

/-- A replacement that is reported has put exactly the rules into the table. -/
theorem replaceAll_ok {s s' : Store} {rules : List TrackingRule} {batch count : Nat}
    (h : s.replaceAll rules batch = (.ok count, s')) :
    count = rules.length ∧ s'.table = some (rules.map Row.ofRule) := by
  cases htable : s.table with
  | none => simp [replaceAll, htable] at h
  | some old =>
      by_cases htakes : s.takes rules
      · rw [replaceAll_of_takes htable htakes] at h
        simp only [Prod.mk.injEq, Except.ok.injEq] at h
        exact ⟨h.1.symm, by rw [← h.2]⟩
      · obtain ⟨rows, hrows⟩ := replaceAll_of_refused htable htakes batch
        rw [hrows] at h
        simp at h

/-! ## Refreshes -/

theorem refreshFromText_of_nil {text : String} (h : parseFilterList text = []) (s : Store)
    (batch : Nat) : s.refreshFromText text batch = (.nothingParsed, s) := by
  simp [refreshFromText, h]

theorem refreshFromText_of_ne_nil {text : String} (h : parseFilterList text ≠ []) (s : Store)
    (batch : Nat) :
    s.refreshFromText text batch =
      match s.replaceAll (parseFilterList text) batch with
      | (.ok count, s) => (.ok count, s)
      | (.error e, s) => (.error e.message, s) := by
  unfold refreshFromText
  split
  · rename_i hnil
    exact absurd hnil h
  · rfl

/-- A refresh that is reported has put exactly the rules of its list into the table. -/
theorem refreshFromText_ok {s s' : Store} {text : String} {batch count : Nat}
    (h : s.refreshFromText text batch = (.ok count, s')) :
    count = (parseFilterList text).length ∧
      s'.table = some ((parseFilterList text).map Row.ofRule) := by
  by_cases hnil : parseFilterList text = []
  · rw [refreshFromText_of_nil hnil] at h
    simp [Report.nothingParsed] at h
  · rw [refreshFromText_of_ne_nil hnil] at h
    cases hreplace : s.replaceAll (parseFilterList text) batch with
    | mk result next =>
        rw [hreplace] at h
        cases result with
        | error e => simp at h
        | ok n =>
            simp only [Prod.mk.injEq, Report.ok.injEq] at h
            obtain ⟨rfl, rfl⟩ := h
            exact replaceAll_ok hreplace

/-! ## Looking up -/

theorem find_of_table {s : Store} {rows : List Row} {domains : List String}
    (htable : s.table = some rows) (hne : domains.isEmpty = false)
    (hlength : domains.length ≤ maxBindings) :
    s.find domains = .ok ((rows.filter fun row => domains.contains row.domain).map Row.rule) := by
  have hbound : ¬ maxBindings < domains.length := by omega
  simp [find, htable, hne, hbound]

/-- The rules that a table was filled with are found under their domains. -/
theorem find_of_rules {s : Store} {rules : List TrackingRule} {domains : List String}
    (htable : s.table = some (rules.map Row.ofRule)) (hne : domains.isEmpty = false)
    (hlength : domains.length ≤ maxBindings) :
    s.find domains = .ok (rules.filter fun rule => domains.contains rule.domain) := by
  rw [find_of_table htable hne hlength, List.filter_map, List.map_map]
  have hrule : (Row.rule ∘ Row.ofRule) = id := by
    funext rule
    exact Row.rule_ofRule rule
  rw [hrule, List.map_id]
  rfl

end Store

end LinkHygiene
