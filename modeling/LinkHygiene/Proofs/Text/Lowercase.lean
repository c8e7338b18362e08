import LinkHygiene.Proofs.Text.Utf8Front
import LinkHygiene.Text.Lowercase

/-!
# Small letters

Putting a text into lowercase, letter by letter, makes small letters of capital ones and
leaves all else as it is, so doing it again changes nothing.
-/

namespace LinkHygiene

namespace Text

theorem asciiLower_cases (c : Char) :
    asciiLower c = c ∨ 'a' ≤ asciiLower c ∧ asciiLower c ≤ 'z' := by
  unfold asciiLower
  split
  · rename_i hcapital
    simp only [Bool.and_eq_true, decide_eq_true_eq] at hcapital
    have hlow : 65 ≤ c.toNat := hcapital.1
    have hhigh : c.toNat ≤ 90 := hcapital.2
    have htoNat : (Char.ofNat (c.toNat + 32)).toNat = c.toNat + 32 :=
      Utf8.toNat_charOfNat (.inl (by omega))
    right
    constructor
    · show 97 ≤ (Char.ofNat (c.toNat + 32)).toNat
      omega
    · show (Char.ofNat (c.toNat + 32)).toNat ≤ 122
      omega
  · exact .inl rfl

theorem asciiLower_of_small {c : Char} (h : 'a' ≤ c) : asciiLower c = c := by
  unfold asciiLower
  rw [if_neg]
  simp only [Bool.and_eq_true, decide_eq_true_eq, not_and]
  intro _ hhigh
  exact absurd (Char.le_trans h hhigh) (by decide)

@[simp] theorem asciiLower_asciiLower (c : Char) :
    asciiLower (asciiLower c) = asciiLower c := by
  rcases asciiLower_cases c with hsame | ⟨hsmall, _⟩
  · rw [hsame]
    exact hsame
  · exact asciiLower_of_small hsmall

/-- What is no small letter is the lowercase form of nothing else. -/
theorem eq_of_asciiLower_eq {c d : Char} (hd : d < 'a') (h : asciiLower c = d) : c = d := by
  rcases asciiLower_cases c with hsame | ⟨hsmall, _⟩
  · rw [← hsame, h]
  · rw [h] at hsmall
    exact absurd hsmall (Char.not_le.2 hd)

/-- What stands before all letters is the lowercase form of itself only. -/
theorem asciiLower_eq_iff {c d : Char} (hd : d < 'A') : asciiLower c = d ↔ c = d := by
  constructor
  · exact eq_of_asciiLower_eq (Char.lt_trans hd (by decide))
  · rintro rfl
    have hcapital : ¬ 'A' ≤ c := Char.not_le.2 hd
    simp [asciiLower, hcapital]

theorem asciiLowered_eq_self_iff {s : String} :
    asciiLowered s = s ↔ ∀ c ∈ s.toList, asciiLower c = c := by
  have hmap : s.toList.map asciiLower = s.toList.map id ↔
      ∀ c ∈ s.toList, asciiLower c = c := List.map_inj_left
  rw [asciiLowered, ← String.toList_inj, String.toList_ofList, ← hmap, List.map_id]

end Text

end LinkHygiene
