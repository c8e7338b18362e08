import LinkHygiene.Text.Split

/-!
# First occurrences

A cut is made at the first occurrence of a piece of text, and a replacement puts its
text there. A piece is replaced at a given place if it does not occur before it.
-/

namespace LinkHygiene

namespace Text

/-! ## Cuts -/

theorem length_le_of_cutFrom {needle passed s before after : List Char}
    (h : cutFrom needle passed s = some (before, after)) :
    ∀ b a, s = b ++ needle ++ a → before.length ≤ passed.length + b.length := by
  induction s generalizing passed with
  | nil =>
      intro b a hs
      unfold cutFrom at h
      split at h
      · simp only [Option.some.injEq, Prod.mk.injEq] at h
        simp [← h.1]
      · simp at h
  | cons c s ih =>
      intro b a hs
      unfold cutFrom at h
      split at h
      · simp only [Option.some.injEq, Prod.mk.injEq] at h
        simp [← h.1]
      · rename_i hnone
        cases b with
        | nil =>
            rw [List.nil_append] at hs
            rw [hs, afterPrefix?_append] at hnone
            simp at hnone
        | cons d b =>
            simp only [List.cons_append, List.cons.injEq] at hs
            have := ih h b a hs.2
            simp only [List.length_cons] at this ⊢
            omega

theorem length_le_of_cut? {needle s before after : List Char}
    (h : cut? needle s = some (before, after)) {b a : List Char} (hs : s = b ++ needle ++ a) :
    before.length ≤ b.length := by
  simpa using length_le_of_cutFrom h b a hs

theorem cutFrom_isSome (needle passed b a : List Char) :
    (cutFrom needle passed (b ++ needle ++ a)).isSome = true := by
  induction b generalizing passed with
  | nil =>
      rw [List.nil_append]
      unfold cutFrom
      rw [afterPrefix?_append]
      rfl
  | cons c b ih =>
      unfold cutFrom
      split
      · rfl
      · exact ih (c :: passed)

theorem exists_cut? (needle b a : List Char) :
    ∃ before after, cut? needle (b ++ needle ++ a) = some (before, after) := by
  have h := cutFrom_isSome needle [] b a
  rw [Option.isSome_iff_exists] at h
  obtain ⟨⟨before, after⟩, h⟩ := h
  exact ⟨before, after, h⟩

theorem cutFrom_of_not_mem {c : Char} {before : List Char} (h : c ∉ before)
    (needle passed after : List Char) :
    cutFrom (c :: needle) passed (before ++ (c :: needle ++ after)) =
      some (passed.reverse ++ before, after) := by
  induction before generalizing passed with
  | nil =>
      unfold cutFrom
      rw [List.nil_append, afterPrefix?_append]
      simp
  | cons d before ih =>
      have hne : c ≠ d := fun hcd => h (by simp [hcd])
      have hnone : afterPrefix? (c :: needle) (d :: before ++ (c :: needle ++ after)) = none := by
        simp [afterPrefix?, hne]
      unfold cutFrom
      rw [hnone]
      show cutFrom (c :: needle) (d :: passed) (before ++ (c :: needle ++ after)) = _
      rw [ih (fun hmem => h (List.mem_cons_of_mem d hmem)), List.reverse_cons, List.append_assoc]
      rfl

/-- A text is cut where its first character stands for the first time. -/
theorem cut?_of_not_mem {c : Char} {before : List Char} (h : c ∉ before)
    (needle after : List Char) :
    cut? (c :: needle) (before ++ (c :: needle ++ after)) = some (before, after) := by
  rw [cut?, cutFrom_of_not_mem h]
  rfl

/-! ## Replacements -/

/-- Whether a text that stands behind another one does not also stand somewhere before. -/
def FirstBehind (needle before : List Char) : Prop :=
  ∀ b a, before ++ needle = b ++ needle ++ a → a = []

theorem cut?_of_first {needle before : List Char} (h : FirstBehind needle before)
    (after : List Char) :
    cut? needle (before ++ needle ++ after) = some (before, after) := by
  obtain ⟨b, a, hcut⟩ := exists_cut? needle before after
  have heq := eq_of_cut? hcut
  have hle := length_le_of_cut? hcut rfl
  have hcutPrefix : b ++ needle <+: before ++ needle ++ after := ⟨a, heq.symm⟩
  have hprefix : before ++ needle <+: before ++ needle ++ after := List.prefix_append _ _
  obtain ⟨rest, hrest⟩ :=
    List.prefix_of_prefix_length_le hcutPrefix hprefix (by simpa using hle)
  obtain rfl : rest = [] := h b rest hrest.symm
  have hbefore : before = b := by simpa using hrest.symm
  subst hbefore
  have hafter : a = after := by simpa using heq.symm
  rw [hcut, hafter]

theorem firstBehind_iff {needle before : List Char} :
    FirstBehind needle before ↔ cut? needle (before ++ needle) = some (before, []) := by
  constructor
  · intro h
    simpa using cut?_of_first h []
  · intro hcut b a hoccurs
    have hle : before.length ≤ b.length := length_le_of_cut? hcut hoccurs
    have hlength := congrArg List.length hoccurs
    simp only [List.length_append] at hlength
    exact List.length_eq_zero_iff.1 (by omega)

instance (needle before : List Char) : Decidable (FirstBehind needle before) :=
  decidable_of_iff _ firstBehind_iff.symm

theorem replaceFirst_of_first {needle before : List Char} (h : FirstBehind needle before)
    (by_ after : List Char) :
    replaceFirst needle by_ (before ++ needle ++ after) = before ++ by_ ++ after := by
  rw [replaceFirst, cut?_of_first h]

/-- A text that stands somewhere before its place is not replaced at its place. -/
theorem replaceFirst_ne_of_not_first {c d : Char} {needle before : List Char}
    (h : ¬ FirstBehind (c :: needle) before) (hcd : c ≠ d) (by_ after : List Char) :
    replaceFirst (c :: needle) (d :: by_) (before ++ c :: needle ++ after) ≠
      before ++ d :: by_ ++ after := by
  simp only [FirstBehind, Classical.not_forall] at h
  obtain ⟨b₀, a₀, hoccurs, hne⟩ := h
  obtain ⟨b, a, hcut⟩ := exists_cut? (c :: needle) before after
  have heq := eq_of_cut? hcut
  have hle : b.length ≤ b₀.length :=
    length_le_of_cut? hcut (a := a₀ ++ after) (by rw [hoccurs]; simp)
  have hlt : b.length < before.length := by
    have hlength := congrArg List.length hoccurs
    have hpos : 0 < a₀.length := List.length_pos_iff.2 hne
    simp only [List.length_append] at hlength
    omega
  intro hreplaced
  rw [replaceFirst, hcut] at hreplaced
  have hleft := congrArg (·[b.length]?) hreplaced
  have hright := congrArg (·[b.length]?) heq
  simp only [List.append_assoc, List.getElem?_append_right (Nat.le_refl _),
    List.getElem?_append_left hlt, Nat.sub_self] at hleft hright
  rw [← hleft] at hright
  simp only [List.cons_append, List.getElem?_cons_zero, Option.some.injEq] at hright
  exact hcd hright.symm

theorem replaceFirst_self (needle s : List Char) : replaceFirst needle needle s = s := by
  unfold replaceFirst
  split
  · rename_i before after h
    exact (eq_of_cut? h).symm
  · rfl

end Text

end LinkHygiene
