import Mathlib.Data.String.Basic
import LinkHygiene.Proofs.Text.Utf8

/-!
# The order of texts

Texts are ordered by their characters. Their bytes are in the same order: a character with
more bytes begins with a greater one, and of characters with as many bytes the numbers are
written with as many digits, the first ones first.
-/

namespace LinkHygiene

namespace Utf8

variable {c d : Char} {s t : List Char}

theorem cons_toUInt8_lt_iff {n m : Nat} (hn : n < 256) (hm : m < 256) {x y : List UInt8} :
    n.toUInt8 :: x < m.toUInt8 :: y ↔ n < m ∨ n = m ∧ x < y := by
  rw [List.cons_lt_cons_iff, UInt8.lt_iff_toNat_lt, ← UInt8.toNat_inj, toNat_toUInt8 hn,
    toNat_toUInt8 hm]

theorem encodeChar_append_lt (h : c < d) (x y : List UInt8) :
    encodeChar c ++ x < encodeChar d ++ y := by
  have hlt : c.toNat < d.toNat := h
  have hc := toNat_valid c
  have hd := toNat_valid d
  unfold encodeChar
  dsimp only
  split_ifs
  all_goals
    simp (disch := omega) only [List.cons_append, List.nil_append, cons_toUInt8_lt_iff]
    omega

theorem encode_lt_of_lt (h : s < t) : encode s < encode t := by
  induction h with
  | nil =>
      rename_i c t
      rw [encode_cons]
      cases hbytes : encodeChar c with
      | nil =>
          have hpos := length_encodeChar_pos c
          rw [hbytes] at hpos
          exact absurd hpos (Nat.lt_irrefl 0)
      | cons b bytes => exact List.nil_lt_cons b _
  | rel h =>
      rw [encode_cons, encode_cons]
      exact encodeChar_append_lt h _ _
  | cons h ih =>
      rw [encode_cons, encode_cons]
      exact List.append_left_lt ih

/-- Texts are in the order of their bytes. -/
theorem encode_lt_iff : encode s < encode t ↔ s < t := by
  refine ⟨fun hbytes => ?_, encode_lt_of_lt⟩
  rcases lt_trichotomy s t with hlt | rfl | hgt
  · exact hlt
  · exact absurd hbytes (List.lt_irrefl _)
  · exact absurd hbytes (List.lt_asymm (encode_lt_of_lt hgt))

theorem encode_toList_le_iff {a b : String} : encode a.toList ≤ encode b.toList ↔ a ≤ b := by
  rw [← List.not_lt, encode_lt_iff, ← String.lt_iff_toList_lt, not_lt]

/-- The private use area comes before the characters with four bytes. -/
example : "\uE000" < "😀" := by
  rw [String.lt_iff_toList_lt, ← encode_lt_iff]
  decide

end Utf8

end LinkHygiene
