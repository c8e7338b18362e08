import LinkHygiene.Rule.Compile

/-!
# Finding rules

The rules in force. A host belongs to the rule that names it, or else to the first
rule without host names one of whose patterns matches it. No two rules name the
same host.

Rules are found by their places in the list of all rules. An index leads from every
host that is named to the place of its rule, and lists the places of the rules that
name none; a registry holds an index of all of its rules.
-/

namespace LinkHygiene

structure RuleIndex where
  /-- Under each host the place of the rule that names it. -/
  byHostname : List (String × Nat) := []
  /-- The places of the rules that name no host, in order. -/
  fallback : List Nat := []

namespace RuleIndex

def place? (ix : RuleIndex) (host : String) : Option Nat :=
  ix.byHostname.lookup host

def addHost (ix : RuleIndex) (host : String) (place : Nat) : RuleIndex :=
  { ix with byHostname := (host, place) :: ix.byHostname }

def addFallback (ix : RuleIndex) (place : Nat) : RuleIndex :=
  { ix with fallback := ix.fallback ++ [place] }

def nameAt (rules : List Rule) (place : Nat) : String :=
  rules[place]?.elim "" Rule.name

/-- Enters hosts of the rule at a place, unless one of them leads to another rule. -/
def addHosts (rules : List Rule) (place : Nat) : (hosts : List String) → RuleIndex →
    Except RuleError RuleIndex
  | [], ix => .ok ix
  | host :: hosts, ix =>
      match ix.place? host with
      | some first =>
          if first = place then addHosts rules place hosts ix
          else .error (.duplicateHostname host (nameAt rules first) (nameAt rules place))
      | none => addHosts rules place hosts (ix.addHost host place)

def addRules (rules : List Rule) : (place : Nat) → (left : List Rule) → RuleIndex →
    Except RuleError RuleIndex
  | _, [], ix => .ok ix
  | place, rule :: left, ix =>
      if rule.hostnames.isEmpty then addRules rules (place + 1) left (ix.addFallback place)
      else
        match ix.addHosts rules place rule.hostnames with
        | .error e => .error e
        | .ok ix => addRules rules (place + 1) left ix

/-- The index of a list of rules, unless two of them name the same host. -/
def ofRules (rules : List Rule) : Except RuleError RuleIndex :=
  addRules rules 0 rules {}

/-! ## What an index holds -/

/-- Whether an index leads to those of the rules that have been entered, and to no others. -/
structure Holds (ix : RuleIndex) (rules entered : List Rule) : Prop where
  place?_eq_some_iff : ∀ host place, ix.place? host = some place ↔
    ∃ rule, entered[place]? = some rule ∧ rule.names host = true
  fallback_eq : ix.fallback.filterMap (rules[·]?) = entered.filter (·.hostnames.isEmpty)

theorem holds_nil (rules : List Rule) : Holds {} rules [] where
  place?_eq_some_iff host place := by simp [place?]
  fallback_eq := rfl

@[simp] theorem place?_addFallback (ix : RuleIndex) (place : Nat) (host : String) :
    (ix.addFallback place).place? host = ix.place? host := rfl

theorem place?_addHost (ix : RuleIndex) (host : String) (place : Nat) (other : String) :
    (ix.addHost host place).place? other =
      if other = host then some place else ix.place? other := by
  unfold place? addHost
  rw [List.lookup_cons]
  by_cases h : other = host
  · simp [h]
  · have hbeq : (other == host) = false := by simpa using h
    simp [h, hbeq]

/-- After hosts of a rule are entered, they lead there, and all others where they have led. -/
theorem place?_addHosts {rules : List Rule} {place : Nat} {hosts : List String}
    {ix ix' : RuleIndex} (h : ix.addHosts rules place hosts = .ok ix') (host : String) (p : Nat) :
    ix'.place? host = some p ↔ ix.place? host = some p ∨ host ∈ hosts ∧ p = place := by
  induction hosts generalizing ix with
  | nil =>
      obtain rfl := Except.ok.inj h
      simp
  | cons next hosts ih =>
      unfold addHosts at h
      split at h
      · rename_i first hfirst
        split at h
        · rename_i heq
          subst heq
          rw [ih h, List.mem_cons]
          constructor
          · rintro (hp | ⟨hmem, rfl⟩)
            · exact .inl hp
            · exact .inr ⟨.inr hmem, rfl⟩
          · rintro (hp | ⟨rfl | hmem, rfl⟩)
            · exact .inl hp
            · exact .inl hfirst
            · exact .inr ⟨hmem, rfl⟩
        · simp at h
      · rename_i hnone
        rw [ih h, List.mem_cons, place?_addHost]
        by_cases hnext : host = next
        · subst hnext
          simp [hnone, eq_comm]
        · simp [hnext]

theorem fallback_addHosts {rules : List Rule} {place : Nat} {hosts : List String}
    {ix ix' : RuleIndex} (h : ix.addHosts rules place hosts = .ok ix') :
    ix'.fallback = ix.fallback := by
  induction hosts generalizing ix with
  | nil =>
      obtain rfl := Except.ok.inj h
      rfl
  | cons next hosts ih =>
      unfold addHosts at h
      split at h
      · split at h
        · exact ih h
        · simp at h
      · exact (ih h).trans rfl

theorem getElem?_snoc {entered : List Rule} {rule other : Rule} {place : Nat} :
    (entered ++ [rule])[place]? = some other ↔
      entered[place]? = some other ∨ place = entered.length ∧ other = rule := by
  rcases Nat.lt_trichotomy place entered.length with hlt | rfl | hgt
  · simp [List.getElem?_append_left hlt, Nat.ne_of_lt hlt]
  · simp [eq_comm]
  · rw [List.getElem?_append_right (Nat.le_of_lt hgt), List.getElem?_eq_none (Nat.le_of_lt hgt)]
    simp [Nat.sub_ne_zero_of_lt hgt, Nat.ne_of_gt hgt]

variable {rules entered left : List Rule} {rule : Rule} {ix ix' : RuleIndex}

theorem Holds.addFallback (h : ix.Holds rules entered) (hrules : rules = entered ++ rule :: left)
    (hnone : rule.hostnames.isEmpty = true) :
    (ix.addFallback entered.length).Holds rules (entered ++ [rule]) where
  place?_eq_some_iff host place := by
    have hnames : rule.names host = false := by
      simp [Rule.names, List.isEmpty_iff.1 hnone]
    rw [place?_addFallback, h.place?_eq_some_iff]
    constructor
    · rintro ⟨other, hother, hnamed⟩
      exact ⟨other, getElem?_snoc.2 (.inl hother), hnamed⟩
    · rintro ⟨other, hother, hnamed⟩
      rcases getElem?_snoc.1 hother with hother | ⟨_, rfl⟩
      · exact ⟨other, hother, hnamed⟩
      · rw [hnames] at hnamed
        contradiction
  fallback_eq := by
    have hplace : rules[entered.length]? = some rule := by simp [hrules]
    simp [RuleIndex.addFallback, h.fallback_eq, hplace, hnone]

theorem Holds.addHosts (h : ix.Holds rules entered)
    (hsome : rule.hostnames.isEmpty = false)
    (hadd : ix.addHosts rules entered.length rule.hostnames = .ok ix') :
    ix'.Holds rules (entered ++ [rule]) where
  place?_eq_some_iff host place := by
    have hnames : rule.names host = true ↔ host ∈ rule.hostnames := List.contains_iff_mem
    rw [place?_addHosts hadd, h.place?_eq_some_iff]
    constructor
    · rintro (⟨other, hother, hnamed⟩ | ⟨hmem, rfl⟩)
      · exact ⟨other, getElem?_snoc.2 (.inl hother), hnamed⟩
      · exact ⟨rule, getElem?_snoc.2 (.inr ⟨rfl, rfl⟩), hnames.2 hmem⟩
    · rintro ⟨other, hother, hnamed⟩
      rcases getElem?_snoc.1 hother with hother | ⟨rfl, rfl⟩
      · exact .inl ⟨other, hother, hnamed⟩
      · exact .inr ⟨hnames.1 hnamed, rfl⟩
  fallback_eq := by
    simp [fallback_addHosts hadd, h.fallback_eq, hsome]

theorem Holds.addRules (h : ix.Holds rules entered) (hrules : rules = entered ++ left)
    (hadd : addRules rules entered.length left ix = .ok ix') : ix'.Holds rules rules := by
  induction left generalizing entered ix with
  | nil =>
      obtain rfl := Except.ok.inj hadd
      rw [List.append_nil] at hrules
      rw [hrules] at h ⊢
      exact h
  | cons rule left ih =>
      have hsnoc : rules = entered ++ [rule] ++ left := by simpa using hrules
      have hlength : (entered ++ [rule]).length = entered.length + 1 := by simp
      unfold RuleIndex.addRules at hadd
      rw [← hlength] at hadd
      split at hadd
      · rename_i hnone
        exact ih (h.addFallback hrules hnone) hsnoc hadd
      · rename_i hsome
        split at hadd
        · simp at hadd
        · rename_i hhosts
          exact ih (h.addHosts (by simpa using hsome) hhosts) hsnoc hadd

theorem holds_ofRules (h : ofRules rules = .ok ix) : ix.Holds rules rules :=
  (holds_nil rules).addRules rfl h

end RuleIndex

/-! ## Registries -/

structure Registry where
  rules : List Rule
  index : RuleIndex
  holds : index.Holds rules rules

namespace Registry

def empty : Registry :=
  ⟨[], {}, RuleIndex.holds_nil []⟩

/-- The rules in force, unless two of them name the same host. -/
def build (rules : List Rule) : Except RuleError Registry :=
  match h : RuleIndex.ofRules rules with
  | .error e => .error e
  | .ok index => .ok ⟨rules, index, RuleIndex.holds_ofRules h⟩

def ofSpecs (specs : List RuleSpec) : Except RuleError Registry := do
  build (← specs.mapM RuleSpec.compile)

def find? (r : Registry) (host : String) : Option Rule :=
  let host := Text.asciiLowered host
  match r.index.place? host with
  | some place => r.rules[place]?
  | none => (r.index.fallback.filterMap (r.rules[·]?)).find? (·.matchesHost host)

def size (r : Registry) : Nat :=
  r.rules.length

def isEmpty (r : Registry) : Bool :=
  r.rules.isEmpty

/-! ## What is found -/

theorem eq_of_names {r : Registry} {host : String} {i j : Nat} {a b : Rule}
    (ha : r.rules[i]? = some a) (hb : r.rules[j]? = some b)
    (hna : a.names host = true) (hnb : b.names host = true) : a = b := by
  have hi := (r.holds.place?_eq_some_iff host i).2 ⟨a, ha, hna⟩
  have hj := (r.holds.place?_eq_some_iff host j).2 ⟨b, hb, hnb⟩
  obtain rfl : i = j := Option.some.inj (hi.symm.trans hj)
  exact Option.some.inj (ha.symm.trans hb)

/-- The rule that names a host is found; without one, the first that catches it. -/
theorem find?_eq (r : Registry) (host : String) :
    r.find? host = (r.rules.find? (·.names (Text.asciiLowered host))).or
      (r.rules.find? (·.catches (Text.asciiLowered host))) := by
  unfold find?
  dsimp only
  generalize Text.asciiLowered host = host
  cases hplace : r.index.place? host with
  | some place =>
      obtain ⟨rule, hrule, hnamed⟩ := (r.holds.place?_eq_some_iff host place).1 hplace
      have hfind : r.rules.find? (·.names host) = some rule := by
        cases hfind : r.rules.find? (·.names host) with
        | none =>
            rw [List.find?_eq_none] at hfind
            exact absurd hnamed (hfind rule (List.mem_of_getElem? hrule))
        | some other =>
            obtain ⟨i, hi⟩ := List.mem_iff_getElem?.1 (List.mem_of_find?_eq_some hfind)
            have hother := List.find?_some hfind
            rw [eq_of_names hi hrule hother hnamed]
      simp [hrule, hfind]
  | none =>
      have hfind : r.rules.find? (·.names host) = none := by
        rw [List.find?_eq_none]
        intro rule hmem hnamed
        obtain ⟨i, hi⟩ := List.mem_iff_getElem?.1 hmem
        rw [(r.holds.place?_eq_some_iff host i).2 ⟨rule, hi, hnamed⟩] at hplace
        contradiction
      rw [hfind, Option.none_or, r.holds.fallback_eq, List.find?_filter]
      simp only [Bool.decide_and, Bool.decide_eq_true]
      rfl

end Registry

end LinkHygiene
