import LinkHygiene.Proofs.Message.Toggle

/-!
# Parameters that can be taken back

The names that are offered are those of the raw link, each once, where it appears first.
Toggling one of them takes it back if it was cleaned away and drops it if it was not, and
leaves the parameters of other names alone.
-/

namespace LinkHygiene

namespace Message

open Form (Pair)

/-! ## Names in order of appearance -/

/-- Whether the names of a list are listed once each, in the order in which they appear first. -/
structure FirstAppearances (list names : List String) : Prop where
  nodup : names.Nodup
  mem_iff : ∀ n, n ∈ names ↔ n ∈ list
  ordered : names.Pairwise fun a b => list.idxOf a < list.idxOf b

namespace FirstAppearances

theorem nil : FirstAppearances [] [] :=
  ⟨.nil, by simp, .nil⟩

variable {list names : List String} {n : String} (h : FirstAppearances list names)

include h

theorem ordered_append : names.Pairwise fun a b => (list ++ [n]).idxOf a < (list ++ [n]).idxOf b := by
  apply h.ordered.imp_of_mem
  intro a b ha hb hlt
  rwa [List.idxOf_append_of_mem ((h.mem_iff a).1 ha), List.idxOf_append_of_mem ((h.mem_iff b).1 hb)]

theorem known (hmem : n ∈ names) : FirstAppearances (list ++ [n]) names := by
  refine ⟨h.nodup, fun a => ?_, h.ordered_append⟩
  rw [List.mem_append, List.mem_singleton, h.mem_iff]
  constructor
  · exact .inl
  · rintro (ha | rfl)
    · exact ha
    · exact (h.mem_iff a).1 hmem

theorem fresh (hmem : n ∉ names) : FirstAppearances (list ++ [n]) (names ++ [n]) := by
  have hlist : n ∉ list := fun hn => hmem ((h.mem_iff n).2 hn)
  refine ⟨?_, fun a => ?_, ?_⟩
  · rw [List.nodup_append]
    refine ⟨h.nodup, by simp, fun a ha b hb heq => hmem ?_⟩
    rwa [← List.mem_singleton.1 hb, ← heq]
  · rw [List.mem_append, List.mem_append, h.mem_iff]
  · refine List.pairwise_append.2 ⟨h.ordered_append, by simp, ?_⟩
    intro a ha b hb
    obtain rfl := List.mem_singleton.1 hb
    have hmem := (h.mem_iff a).1 ha
    rw [List.idxOf_append_of_mem hmem, List.idxOf_append_of_notMem hlist]
    have hlt := List.idxOf_lt_length_of_mem hmem
    omega

/-- Whatever names have been listed, the others are listed behind them as they appear. -/
theorem namesOf_run {seen : List String} (hseen : names = seen.reverse) (pairs : List Pair) :
    FirstAppearances (list ++ pairs.map Pair.name) (namesOf seen pairs) := by
  subst hseen
  induction pairs generalizing list seen with
  | nil => simpa [namesOf] using h
  | cons p pairs ih =>
      have hsplit : list ++ (p :: pairs).map Pair.name =
          (list ++ [p.name]) ++ pairs.map Pair.name := by simp
      rw [hsplit, namesOf]
      split
      · rename_i hmem
        exact ih (h.known (by simpa using hmem))
      · rename_i hmem
        apply ih
        rw [List.reverse_cons]
        exact h.fresh (by simpa using hmem)

end FirstAppearances

theorem firstAppearances_namesOf (pairs : List Pair) :
    FirstAppearances (pairs.map Pair.name) (namesOf [] pairs) :=
  FirstAppearances.nil.namesOf_run rfl pairs

theorem restorableParams_eq {raw cleaned : String} {before after : Url}
    (hraw : Url.parse raw = .ok before) (hcleaned : Url.parse cleaned = .ok after)
    (hsame : before.hostText? = after.hostText?) :
    restorableParams raw cleaned = namesOf [] before.queryPairs := by
  unfold restorableParams
  rw [hraw, hcleaned]
  dsimp only
  rw [if_pos hsame]

/-! ## Toggling what is offered -/

/-- Next to a raw link that is a URL, toggling is never refused, and changes a single name. -/
theorem exists_toggledPairs {raw : String} {before : Url} (hraw : Url.parse raw = .ok before)
    (pairs : List Pair) (n : String) :
    ∃ result, toggledPairs pairs raw n = .ok result ∧
      (named n result ≠ [] ↔ named n pairs = [] ∧ named n before.queryPairs ≠ []) ∧
      (∀ name, name ≠ n → named name result = named name pairs) ∧
      (named n pairs = [] → named n before.queryPairs = [] → result = pairs) := by
  have htoggles := toggles_toggledPairs pairs raw n
  generalize toggledPairs pairs raw n = toggledTo at htoggles ⊢
  cases htoggles with
  | dropped hpresent =>
      obtain ⟨p, hp, hname⟩ := hpresent
      have hne := List.ne_nil_of_mem (mem_named.2 ⟨hp, hname⟩)
      refine ⟨_, rfl, ?_, fun name hother => named_dropped_of_ne hother pairs,
        fun hnone => absurd hnone hne⟩
      simp [named_dropped_self, hne]
  | refused _ hunread =>
      rw [hraw] at hunread
      contradiction
  | @restored u first habsent hread hhead =>
      obtain rfl := Except.ok.inj (hraw.symm.trans hread)
      have hmem := List.mem_of_head? hhead
      have hne := List.ne_nil_of_mem hmem
      obtain rfl := (mem_named.1 hmem).2
      refine ⟨_, rfl, ?_, fun name hother => ?_, fun _ hnone => absurd hnone hne⟩
      · rw [named_append, named_singleton_self, named_eq_nil_iff.2 habsent]
        simpa using hne
      · rw [named_append, named_singleton_of_ne hother, List.append_nil]
  | unknown habsent hread hmissing =>
      obtain rfl := Except.ok.inj (hraw.symm.trans hread)
      refine ⟨pairs, rfl, ?_, fun _ _ => rfl, fun _ _ => rfl⟩
      simp [named_eq_nil_iff.2 habsent, named_eq_nil_iff.2 hmissing]

/--
For a link that has been cleaned on its host, the offered names are those of the raw link, each
once, in the order in which they appear first. Toggling succeeds for every name. What it gives
has an offered name exactly if the cleaned link lacks it, and all pairs of other names as often;
a name that neither link has adds no pair. The result is read with these pairs or not at all,
and it is read if the host of the cleaned link is.
-/
theorem restorableParams_can_be_toggled {raw cleaned : String} {before after : Url}
    (hraw : Url.parse raw = .ok before) (hcleaned : Url.parse cleaned = .ok after)
    (hsame : before.hostText? = after.hostText?) :
    FirstAppearances (before.queryPairs.map Pair.name) (restorableParams raw cleaned) ∧
    ∀ n, ∃ w : Url, toggleParam cleaned raw n = .ok w.text ∧
      (∀ v, Url.parse w.text = .ok v → v.queryPairs = w.queryPairs) ∧
      (after.KeepsHost → ∃ v, Url.parse w.text = .ok v) ∧
      (n ∈ restorableParams raw cleaned →
        (n ∈ w.queryPairs.map Pair.name ↔ n ∉ after.queryPairs.map Pair.name)) ∧
      (∀ p : Pair, p.name ≠ n → w.queryPairs.count p = after.queryPairs.count p) ∧
      (n ∉ restorableParams raw cleaned → n ∉ after.queryPairs.map Pair.name →
        w.queryPairs.Perm after.queryPairs) := by
  have hnames := firstAppearances_namesOf before.queryPairs
  rw [← restorableParams_eq hraw hcleaned hsame] at hnames
  have hmem : ∀ {n : String} {pairs : List Pair}, n ∈ pairs.map Pair.name ↔ named n pairs ≠ [] := by
    intro n pairs
    rw [ne_eq, named_eq_nil_iff]
    simp
  refine ⟨hnames, fun n => ?_⟩
  obtain ⟨result, hresult, hhas, hothers, hunknown⟩ :=
    exists_toggledPairs hraw after.queryPairs n
  obtain ⟨w, hw, hsorted, hread, hkeeps⟩ := exists_toggleParam hcleaned hresult
  refine ⟨w, hw, hread, fun hhost => ?_, fun hoffered => ?_, fun p hname => ?_,
    fun hoffered hlacks => ?_⟩
  · obtain ⟨v, hv, _⟩ := hkeeps hhost
    exact ⟨v, hv⟩
  · rw [hnames.mem_iff, hmem] at hoffered
    rw [hmem, hmem, hsorted.stable, hhas, not_not]
    exact and_iff_left hoffered
  · rw [← count_named, hsorted.stable, hothers p.name hname, count_named]
  · rw [hnames.mem_iff, hmem, not_not] at hoffered
    rw [hmem, not_not] at hlacks
    rw [← hunknown hlacks hoffered]
    exact hsorted.perm

/-- A name that occurs twice is offered once, and a name that was cleaned away can come back. -/
theorem restorableParams_can_be_toggled_cleaned :
    let raw := "https://a.example/?b=2&a=1&b=3&utm=x"
    let cleaned := "https://a.example/?b=2&a=1&b=3"
    restorableParams raw cleaned = ["b", "a", "utm"] ∧
      ∃ w v : Url, toggleParam cleaned raw "utm" = .ok w.text ∧ Url.parse w.text = .ok v ∧
        v.queryPairs = w.queryPairs ∧ "utm" ∈ w.queryPairs.map Pair.name ∧
        w.queryPairs.count ⟨"b", "3"⟩ = 1 := by
  intro raw cleaned
  let after : Url := ⟨"https", some ⟨"", "", some (.name "a.example"), none⟩, .segments [""],
    some "b=2&a=1&b=3", none⟩
  let before : Url := { after with query := some "b=2&a=1&b=3&utm=x" }
  have hraw : Url.parse raw = .ok before := eq_ok_of_toOption (by decide +kernel)
  have hcleaned : Url.parse cleaned = .ok after := eq_ok_of_toOption (by decide +kernel)
  have hhost : after.KeepsHost := Url.keepsHost_of_host? rfl (by decide +kernel)
  have hoffered : restorableParams raw cleaned = ["b", "a", "utm"] := by decide +kernel
  obtain ⟨_, htoggle⟩ := restorableParams_can_be_toggled hraw hcleaned rfl
  obtain ⟨w, hw, hread, hkeeps, hhas, hothers, _⟩ := htoggle "utm"
  obtain ⟨v, hv⟩ := hkeeps hhost
  refine ⟨hoffered, w, v, hw, hv, hread v hv, ?_, ?_⟩
  · rw [hhas (by rw [hoffered]; decide)]
    decide +kernel
  · rw [hothers _ (by decide)]
    decide +kernel

end Message

end LinkHygiene
