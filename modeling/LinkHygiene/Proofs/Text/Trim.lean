import LinkHygiene.Text.Blank

/-!
# Trimming

What trimming leaves of a text: all of it, when no blank stands at its ends, and in any case
what stands before a character that is not blank. Blanks that have been taken from the end
already make no difference.
-/

namespace LinkHygiene

namespace Text

/-! ## Starts and ends -/

theorem trimStart_cons_of_not_blank {c : Char} (h : isBlank c = false) (s : List Char) :
    trimStart (c :: s) = c :: s := by
  rw [trimStart, List.dropWhile_cons_of_neg (by simp [h])]

theorem trimStart_cons_of_blank {c : Char} (h : isBlank c = true) (s : List Char) :
    trimStart (c :: s) = trimStart s := by
  rw [trimStart, List.dropWhile_cons_of_pos h, trimStart]

theorem trimStart_append_of_blank {lead : List Char} (h : ∀ c ∈ lead, isBlank c = true)
    (s : List Char) : trimStart (lead ++ s) = trimStart s :=
  List.dropWhile_append_of_pos h

theorem trimStart_append_cons {c : Char} (h : isBlank c = false) (lead s : List Char) :
    trimStart (lead ++ c :: s) = trimStart lead ++ c :: s := by
  induction lead with
  | nil => exact trimStart_cons_of_not_blank h s
  | cons d lead ih =>
      cases hblank : isBlank d with
      | true => rw [List.cons_append, trimStart_cons_of_blank hblank, ih,
          trimStart_cons_of_blank hblank]
      | false => rw [List.cons_append, trimStart_cons_of_not_blank hblank,
          trimStart_cons_of_not_blank hblank, List.cons_append]

theorem trimStart_trimStart (s : List Char) : trimStart (trimStart s) = trimStart s := by
  induction s with
  | nil => rfl
  | cons c s ih =>
      cases hblank : isBlank c with
      | true => rw [trimStart_cons_of_blank hblank, ih]
      | false => rw [trimStart_cons_of_not_blank hblank, trimStart_cons_of_not_blank hblank]

theorem trimEnd_append_of_blank (s : List Char) {tail : List Char}
    (h : ∀ c ∈ tail, isBlank c = true) : trimEnd (s ++ tail) = trimEnd s := by
  have hreverse : ∀ c ∈ tail.reverse, isBlank c = true := fun c hc => h c (List.mem_reverse.1 hc)
  rw [trimEnd, List.reverse_append, List.dropWhile_append_of_pos hreverse, trimEnd]

theorem trimEnd_cons (c : Char) (s : List Char) :
    trimEnd (c :: s) = if trimEnd s = [] ∧ isBlank c = true then [] else c :: trimEnd s := by
  rw [trimEnd, List.reverse_cons, List.dropWhile_append, trimEnd]
  cases h : s.reverse.dropWhile isBlank with
  | nil => cases hblank : isBlank c <;> simp [hblank]
  | cons d rest => simp

theorem trimEnd_append_cons {c : Char} (h : isBlank c = false) (lead s : List Char) :
    trimEnd (lead ++ c :: s) = lead ++ c :: trimEnd s := by
  induction lead with
  | nil => simp [trimEnd_cons, h]
  | cons d lead ih => simp [trimEnd_cons, ih]

theorem trimEnd_trimEnd (s : List Char) : trimEnd (trimEnd s) = trimEnd s := by
  induction s with
  | nil => rfl
  | cons c s ih =>
      rw [trimEnd_cons c s]
      split
      · rfl
      · rename_i hkept
        rw [trimEnd_cons, ih, if_neg hkept]

/-- The two ends of a text are trimmed in either order. -/
theorem trimStart_trimEnd (s : List Char) : trimStart (trimEnd s) = trimEnd (trimStart s) := by
  induction s with
  | nil => rfl
  | cons c s ih =>
      cases hblank : isBlank c with
      | true =>
          rw [trimStart_cons_of_blank hblank, ← ih, trimEnd_cons]
          split
          · rename_i hnone
            rw [hnone.1]
          · exact trimStart_cons_of_blank hblank _
      | false =>
          rw [trimStart_cons_of_not_blank hblank, trimEnd_cons, if_neg (by simp [hblank]),
            trimStart_cons_of_not_blank hblank]

theorem mem_of_mem_trimStart {s : List Char} {c : Char} (h : c ∈ trimStart s) : c ∈ s :=
  (List.dropWhile_sublist _).mem h

theorem mem_of_mem_trimEnd {s : List Char} {c : Char} (h : c ∈ trimEnd s) : c ∈ s :=
  List.mem_reverse.1 ((List.dropWhile_sublist _).mem (List.mem_reverse.1 h))

/-! ## Whole texts -/

theorem trim_trimEnd (s : List Char) : trim (trimEnd s) = trim s := by
  rw [trim, trimStart_trimEnd, trimEnd_trimEnd, trim]

theorem trim_trimStart (s : List Char) : trim (trimStart s) = trim s := by
  rw [trim, trimStart_trimStart, trim]

/-- Blanks around a text make no difference. -/
theorem trim_append_of_blank {lead tail : List Char} (hlead : ∀ c ∈ lead, isBlank c = true)
    (htail : ∀ c ∈ tail, isBlank c = true) (s : List Char) : trim (lead ++ s ++ tail) = trim s := by
  rw [List.append_assoc, trim, trimStart_append_of_blank hlead, ← trimStart_trimEnd,
    trimEnd_append_of_blank s htail, trimStart_trimEnd, trim]

/-- Around a character that is not blank, each side is trimmed at its far end. -/
theorem trim_append_cons {c : Char} (h : isBlank c = false) (lead s : List Char) :
    trim (lead ++ c :: s) = trimStart lead ++ c :: trimEnd s := by
  rw [trim, trimStart_append_cons h, trimEnd_append_cons h]

/-- Whether no blank stands at either end of a text. -/
def IsTight (s : List Char) : Prop :=
  (∀ c, s.head? = some c → isBlank c = false) ∧ ∀ c, s.getLast? = some c → isBlank c = false

theorem isTight_of_forall {s : List Char} (h : ∀ c ∈ s, isBlank c = false) : IsTight s :=
  ⟨fun c hc => h c (List.mem_of_head? hc), fun c hc => h c (List.mem_of_getLast? hc)⟩

theorem IsTight.trimStart_eq {s : List Char} (h : IsTight s) : trimStart s = s := by
  cases s with
  | nil => rfl
  | cons c s => exact trimStart_cons_of_not_blank (h.1 c rfl) s

theorem trimEnd_eq_of_getLast? {s : List Char}
    (h : ∀ c, s.getLast? = some c → isBlank c = false) : trimEnd s = s := by
  cases hlast : s.getLast? with
  | none =>
      obtain rfl := List.getLast?_eq_none_iff.1 hlast
      rfl
  | some c =>
      obtain ⟨lead, rfl⟩ := List.getLast?_eq_some_iff.1 hlast
      exact trimEnd_append_cons (h c hlast) lead []

theorem IsTight.trim_eq {s : List Char} (h : IsTight s) : trim s = s := by
  rw [trim, h.trimStart_eq, trimEnd_eq_of_getLast? h.2]

end Text

end LinkHygiene
