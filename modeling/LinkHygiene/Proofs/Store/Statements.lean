import LinkHygiene.Proofs.Store.Replacement
import LinkHygiene.Proofs.Text.Utf8

/-!
# What a replacement sends

A replacement sends one statement for each batch of rules. No statement is empty, none binds
more values than a statement may, and together they hold the rules in their order. So each
rule is stored once, and found as often as it is in the list. Where the database refuses a
row, the statement with this row is the last one: the error tells how many rows have gone in
before it, and the store is as it was.
-/

namespace LinkHygiene

/-! ## Bound values -/

inductive Binding where
  | text (value : String)
  | integer (value : Int)
  | null
deriving Repr, DecidableEq

namespace Binding

def ofText? : Option String → Binding
  | some value => text value
  | none => null

end Binding

namespace Row

def values (row : Row) : List Binding :=
  [.text row.domain, .ofText? row.path, .text row.param, .integer row.effect,
    .integer row.isRegex]

theorem length_values (row : Row) : row.values.length = bindings := rfl

end Row

namespace Store

/-- The values that the statement for a batch binds. -/
def boundValues (batch : List TrackingRule) : List Binding :=
  batch.flatMap fun rule => (Row.ofRule rule).values

theorem length_boundValues (batch : List TrackingRule) :
    (boundValues batch).length = batch.length * Row.bindings := by
  induction batch with
  | nil => simp [boundValues]
  | cons rule batch ih =>
      have hcons : boundValues (rule :: batch) =
          (Row.ofRule rule).values ++ boundValues batch := rfl
      rw [hcons, List.length_append, Row.length_values, ih, List.length_cons, Nat.succ_mul,
        Nat.add_comm]

/-! ## Sizes of batches -/

theorem length_of_mem_batchesOf {α : Type} {size : Nat} (hsize : 0 < size) {fuel : Nat}
    {rows batch : List α} (h : batch ∈ batchesOf size fuel rows) :
    1 ≤ batch.length ∧ batch.length ≤ size := by
  induction fuel generalizing rows with
  | zero => simp [batchesOf] at h
  | succ fuel ih =>
      cases rows with
      | nil => simp [batchesOf] at h
      | cons row rows =>
          rw [batchesOf_cons, List.mem_cons] at h
          rcases h with rfl | hrest
          · have hlength : 1 ≤ (row :: rows).length := by simp
            rw [List.length_take]
            omega
          · exact ih hrest

/-- No batch is empty, and the values of each one fit into a statement. -/
theorem boundValues_of_mem_batches {size : Nat} {rules batch : List TrackingRule}
    (h : batch ∈ batches size rules) :
    1 ≤ batch.length ∧ (boundValues batch).length ≤ maxBindings := by
  obtain ⟨hpos, hle⟩ := length_of_mem_batchesOf (clampBatch_pos size) h
  refine ⟨hpos, ?_⟩
  have hmax : batch.length ≤ maxBatch := Nat.le_trans hle (clampBatch_le size)
  calc
    (boundValues batch).length = batch.length * Row.bindings := length_boundValues batch
    _ ≤ maxBatch * Row.bindings := Nat.mul_le_mul_right Row.bindings hmax
    _ ≤ maxBindings := Nat.div_mul_le_self maxBindings Row.bindings

/-! ## Failed replacements -/

/--
Where the database refuses a rule of the list, a replacement fails. Of the rules, those in
the whole batches before the first refused one have gone in; the error tells how many these
are, and what the store holds and finds is as it was. Otherwise the replacement succeeds.
-/
theorem failure_tells_where_it_stopped (rows : List Row) (refused : List String)
    (rules : List TrackingRule) (batch : Nat) :
    let s : Store := ⟨some rows, refused⟩
    let size := max 1 (min batch 6553)
    let first := rules.findIdx fun rule => refused.contains rule.param
    let stopped := size * (first / size)
    let result := (s.replaceAll rules batch).1
    let next := (s.replaceAll rules batch).2
    ((∃ rule ∈ rules, rule.param ∈ refused) →
      (result = .error (.notInserted stopped) ∧
        (StoreError.notInserted stopped).message =
          "insert batch after " ++ toString stopped ++ " rows: " ++ StoreError.cause ∧
        ((batches batch rules).takeWhile s.accepts).flatten = rules.take stopped) ∧
      next.count = s.count ∧ ∀ domains, next.find domains = s.find domains) ∧
    ((∀ rule ∈ rules, rule.param ∉ refused) → result = .ok rules.length) := by
  intro s size first stopped result next
  constructor
  · rintro ⟨rule, hrule, hrefused⟩
    have htakes : ¬ s.takes rules := fun h => h rule hrule hrefused
    have hreplace : s.replaceAll rules batch = (.error (.notInserted stopped), s) :=
      replaceAll_eq_of_refused rfl htakes batch
    have hnext : next = s := congrArg Prod.snd hreplace
    have htaken : ((batches batch rules).takeWhile s.accepts).flatten = rules.take stopped :=
      flatten_takeWhile_batches (fun h => htakes (accepts_iff.1 h)) batch
    refine ⟨⟨congrArg Prod.fst hreplace, rfl, htaken⟩, ?_⟩
    rw [hnext]
    exact ⟨rfl, fun _ => rfl⟩
  · intro htaken
    have htakes : s.takes rules := htaken
    exact congrArg Prod.fst (replaceAll_of_takes rfl htakes batch)

/-- The fourth rule is refused, and with it the second batch of two. -/
example :
    let rule : TrackingRule := ⟨"a.example", none, "x", .remove, false⟩
    (Store.replaceAll ⟨some [], ["y"]⟩ [rule, rule, rule, { rule with param := "y" }, rule] 2).1 =
      .error (.notInserted 2) := rfl

/-! ## Successful replacements -/

theorem find_perm_of_rules {s : Store} {rules : List TrackingRule} {domains : List String}
    (htable : s.table = some (rules.map Row.ofRule)) (hlength : domains.length ≤ maxBindings) :
    ∃ found, s.find domains = .ok found ∧
      found.Perm (rules.filter fun rule => domains.contains rule.domain) := by
  by_cases hempty : domains.isEmpty = true
  · obtain rfl := List.isEmpty_iff.1 hempty
    exact ⟨[], rfl, by simp⟩
  · exact ⟨_, find_of_rules htable (by simpa using hempty) hlength, List.Perm.refl _⟩

/-- Domains are the same if they are so byte by byte. -/
theorem contains_eq_any_encode (domains : List String) (name : String) :
    domains.contains name =
      domains.any fun domain => Utf8.encode domain.toList == Utf8.encode name.toList := by
  rw [Bool.eq_iff_iff, List.contains_iff_mem, List.any_eq_true]
  constructor
  · intro hmem
    exact ⟨name, hmem, beq_self_eq_true _⟩
  · rintro ⟨domain, hmem, hbytes⟩
    have hsame : domain = name := String.toList_inj.1 (Utf8.encode_inj.1 (beq_iff_eq.1 hbytes))
    exact hsame ▸ hmem

/--
When the database takes all rules of a list, a replacement inserts them in statements that
are neither empty nor too large, one after the other and in order. It reports their number,
which then is that of the rows, and for any domains that can be looked up the rules with
these domains are found, byte by byte, each as often as it is in the list and as it is there.
-/
theorem each_rule_is_stored_once {s : Store} {old : List Row} {rules : List TrackingRule}
    (htable : s.table = some old) (htakes : s.takes rules) (batch : Nat) :
    let statements := batches batch rules
    let next := (s.replaceAll rules batch).2
    (s.rewritten old rules batch = .ok (statements.foldl Transaction.insert ⟨[], 0⟩) ∧
      statements.flatten = rules ∧
      ∀ statement ∈ statements,
        1 ≤ statement.length ∧ (boundValues statement).length ≤ 32766) ∧
    (s.replaceAll rules batch).1 = .ok rules.length ∧
    next.count = .ok rules.length ∧
    ∀ domains : List String, domains.length ≤ 32766 →
      ∃ found, next.find domains = .ok found ∧
        found.Perm (rules.filter fun rule =>
          domains.any fun domain =>
            Utf8.encode domain.toList == Utf8.encode rule.domain.toList) := by
  intro statements next
  have hreplace := replaceAll_of_takes htable htakes batch
  have hnext : next = { s with table := some (rules.map Row.ofRule) } :=
    congrArg Prod.snd hreplace
  have haccepts : s.accepts (batches batch rules).flatten := by
    rw [flatten_batches]
    exact accepts_iff.2 htakes
  refine ⟨⟨insertAll_eq_foldl haccepts, flatten_batches batch rules, ?_⟩,
    congrArg Prod.fst hreplace, ?_, ?_⟩
  · intro statement hstatement
    exact boundValues_of_mem_batches hstatement
  · rw [hnext]
    simp [count]
  · intro domains hlength
    simp only [← contains_eq_any_encode]
    exact find_perm_of_rules (by rw [hnext]) hlength

/-- Three rules in batches of two, one of them there twice; its domain is asked for twice. -/
theorem each_rule_is_stored_once_twins :
    let s : Store := ⟨some [⟨"old", none, "x", 7, 2⟩], ["y"]⟩
    let twin : TrackingRule := ⟨"a.example", some "/p", "/^id/", .allow, true⟩
    let rules := [twin, ⟨"A.example", none, "", .remove, false⟩, twin]
    let next := (s.replaceAll rules 2).2
    s.takes rules ∧ next.count = .ok 3 ∧
      ∃ found, next.find ["a.example", "b.example", "a.example"] = .ok found ∧
        found.Perm [twin, twin] := by
  intro s twin rules next
  have htakes : s.takes rules := by decide
  obtain ⟨_, _, hcount, hfind⟩ := each_rule_is_stored_once rfl htakes 2
  have hfilter : (rules.filter fun rule => ["a.example", "b.example", "a.example"].any
      fun domain => Utf8.encode domain.toList == Utf8.encode rule.domain.toList) =
        [twin, twin] := by
    decide +kernel
  refine ⟨htakes, hcount, ?_⟩
  rw [← hfilter]
  exact hfind ["a.example", "b.example", "a.example"] (by decide)

end Store

end LinkHygiene
