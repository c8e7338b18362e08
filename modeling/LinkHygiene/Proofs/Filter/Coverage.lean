import LinkHygiene.Filter.Candidates

/-!
# Which domains cover a host

The keys under which the rules for a host are looked up are exactly the domains that
cover it: the one of the rules that hold everywhere, the ends of its name of up to
four labels, and the ends of at least two labels behind a wildcard.
-/

namespace LinkHygiene

namespace Candidates

def ending (host : String) (count : Nat) : String :=
  domain ((labels host).drop ((labels host).length - count))

/-- Whether rules that are stored under a domain are for a host. -/
def Covers (name host : String) : Prop :=
  name = globalDomain ∨
    ∃ count, 1 ≤ count ∧ count ≤ maxLabels ∧ count ≤ (labels host).length ∧
      (name = ending host count ∨ 2 ≤ count ∧ name = wildcard (ending host count))

/-! ## Collecting keys -/

theorem mem_addNew {keys : List String} {key new : String} :
    key ∈ addNew keys new ↔ key ∈ keys ∨ key = new := by
  unfold addNew
  split
  · rename_i hcontains
    have hnew : new ∈ keys := List.contains_iff_mem.1 hcontains
    constructor
    · exact Or.inl
    · rintro (hkey | rfl)
      · exact hkey
      · exact hnew
  · simp

theorem mem_foldl_addNew {keys news : List String} {key : String} :
    key ∈ news.foldl addNew keys ↔ key ∈ keys ∨ key ∈ news := by
  induction news generalizing keys with
  | nil => simp
  | cons new news ih =>
      rw [List.foldl_cons, ih, mem_addNew, List.mem_cons, or_assoc]

theorem length_foldl_addNew_le (keys news : List String) :
    (news.foldl addNew keys).length ≤ keys.length + news.length := by
  induction news generalizing keys with
  | nil => simp
  | cons new news ih =>
      have hone : (addNew keys new).length ≤ keys.length + 1 := by
        unfold addNew
        split <;> simp
      have hrest := ih (addNew keys new)
      rw [List.foldl_cons, List.length_cons]
      omega

/-! ## Ends of names -/

/-- The keys of one end of a name: that of a single label has no wildcard. -/
def endKeys (names : List (List Char)) (count : Nat) : List String :=
  let name := domain (names.drop (names.length - count))
  if 2 ≤ count then [name, wildcard name] else [name]

theorem endKeys_cons (label : List Char) {names : List (List Char)} {count : Nat}
    (h : count ≤ names.length) : endKeys (label :: names) count = endKeys names count := by
  simp only [endKeys, List.length_cons, Nat.succ_sub h, List.drop_succ_cons]

/-- The ends of a name come one after the other, the longest first. -/
theorem suffixKeys_eq (names : List (List Char)) :
    suffixKeys names = (List.range' 1 names.length).reverse.flatMap (endKeys names) := by
  induction names with
  | nil => rfl
  | cons label rest ih =>
      have hends : ∀ count ∈ (List.range' 1 rest.length).reverse,
          endKeys (label :: rest) count = endKeys rest count := by
        intro count hcount
        have hrange := List.mem_range'_1.1 (List.mem_reverse.1 hcount)
        exact endKeys_cons label (by omega)
      have hshorter : (List.range' 1 rest.length).reverse.flatMap (endKeys (label :: rest)) =
          suffixKeys rest := by
        rw [ih, List.flatMap_def, List.map_congr_left hends, ← List.flatMap_def]
      rw [List.length_cons, List.range'_1_concat, List.reverse_append, List.flatMap_append, hshorter]
      cases rest with
      | nil => simp [suffixKeys, endKeys]
      | cons next rest => simp [suffixKeys, endKeys, Nat.add_comm 1]

theorem mem_suffixKeys {key : String} {ends : List (List Char)} :
    key ∈ suffixKeys ends ↔
      ∃ count, 1 ≤ count ∧ count ≤ ends.length ∧
        (key = domain (ends.drop (ends.length - count)) ∨
          2 ≤ count ∧ key = wildcard (domain (ends.drop (ends.length - count)))) := by
  have hkeys (count : Nat) : key ∈ endKeys ends count ↔
      key = domain (ends.drop (ends.length - count)) ∨
        2 ≤ count ∧ key = wildcard (domain (ends.drop (ends.length - count))) := by
    unfold endKeys
    by_cases htwo : 2 ≤ count <;> simp [htwo]
  simp only [suffixKeys_eq, List.mem_flatMap, List.mem_reverse, List.mem_range'_1, hkeys,
    Nat.add_comm 1, Nat.lt_succ_iff, and_assoc]

theorem length_suffixKeys_le (ends : List (List Char)) :
    (suffixKeys ends).length ≤ 2 * ends.length - 1 := by
  induction ends with
  | nil => simp [suffixKeys]
  | cons label rest ih =>
      cases rest with
      | nil => simp [suffixKeys]
      | cons next rest =>
          simp only [suffixKeys, List.length_cons] at ih ⊢
          omega

theorem length_lastLabels (host : String) :
    (lastLabels host).length = min maxLabels (labels host).length := by
  rw [lastLabels, List.length_drop]
  omega

/-- The ends of the labels that count are ends of the whole name. -/
theorem domain_drop_lastLabels {host : String} {count : Nat}
    (h : count ≤ (lastLabels host).length) :
    domain ((lastLabels host).drop ((lastLabels host).length - count)) = ending host count := by
  have hlength := length_lastLabels host
  have hindex : (labels host).length - maxLabels + ((lastLabels host).length - count) =
      (labels host).length - count := by
    omega
  rw [ending, ← hindex]
  simp only [lastLabels, List.drop_drop]

/-! ## The keys of a host -/

/-- A host is looked up under the domains that cover it. -/
theorem mem_ofHost_iff {name host : String} : name ∈ ofHost host ↔ Covers name host := by
  have hlength := length_lastLabels host
  rw [ofHost, mem_foldl_addNew, mem_suffixKeys, List.mem_singleton, Covers]
  apply or_congr_right
  constructor
  · rintro ⟨count, hpos, hle, hkey⟩
    rw [domain_drop_lastLabels hle] at hkey
    exact ⟨count, hpos, by omega, by omega, hkey⟩
  · rintro ⟨count, hpos, hmax, hle, hkey⟩
    have hlast : count ≤ (lastLabels host).length := by
      rw [hlength]
      exact Nat.le_min.2 ⟨hmax, hle⟩
    refine ⟨count, hpos, hlast, ?_⟩
    rw [domain_drop_lastLabels hlast]
    exact hkey

instance (name host : String) : Decidable (Covers name host) :=
  decidable_of_iff (name ∈ ofHost host) mem_ofHost_iff

theorem length_ofHost_le (host : String) : (ofHost host).length ≤ 8 := by
  have hkeys := length_suffixKeys_le (lastLabels host)
  have hlength := length_lastLabels host
  have hfold := length_foldl_addNew_le [globalDomain] (suffixKeys (lastLabels host))
  have hmax : maxLabels = 4 := rfl
  rw [List.length_singleton] at hfold
  rw [ofHost]
  omega

theorem ofHost_isEmpty (host : String) : (ofHost host).isEmpty = false := by
  have hglobal : globalDomain ∈ ofHost host := mem_ofHost_iff.2 (.inl rfl)
  cases h : ofHost host with
  | nil => simp [h] at hglobal
  | cons key keys => rfl

end Candidates

end LinkHygiene
