import LinkHygiene.Proofs.Text.Utf8Front

/-!
# Which bytes are UTF-8

Bytes are valid when they are those of a text, which is then the one they are decoded to.
Texts can be taken off either side: what follows the bytes of a text is valid if all is, and
so is what stands before a byte in ASCII.
-/

namespace LinkHygiene

namespace Utf8

theorem exists_encode_of_validFrom {fuel : Nat} {bytes : List UInt8}
    (h : validFrom fuel bytes = true) : ∃ s, encode s = bytes := by
  induction fuel generalizing bytes with
  | zero => simp [validFrom] at h
  | succ fuel ih =>
      unfold validFrom at h
      cases hfront : front bytes with
      | done => exact ⟨[], (eq_nil_of_front_done hfront).symm⟩
      | char c rest =>
          rw [hfront] at h
          obtain ⟨s, rfl⟩ := ih h
          exact ⟨c :: s, by rw [encode_cons, eq_of_front_char hfront]⟩
      | broken rest => simp [hfront] at h
      | unfinished => simp [hfront] at h

/-- Bytes are valid exactly when they are those of a text. -/
theorem isValid_iff {bytes : List UInt8} : isValid bytes = true ↔ ∃ s, encode s = bytes := by
  constructor
  · exact exists_encode_of_validFrom
  · rintro ⟨s, rfl⟩
    exact validFrom_encode (Nat.lt_succ_self _)

theorem decode?_eq_none_of_not_isValid {bytes : List UInt8} (h : isValid bytes = false) :
    decode? bytes = none := by
  rw [decode?, if_neg (by simp [h])]

/-! ## Parts of valid bytes -/

theorem exists_encode_of_append {lead s : List Char} {bytes : List UInt8}
    (h : encode s = encode lead ++ bytes) : ∃ t, encode t = bytes := by
  induction lead generalizing s with
  | nil => exact ⟨s, h⟩
  | cons c lead ih =>
      have hfront : front (encode s) = .char c (encode lead ++ bytes) := by
        rw [h, encode_cons, List.append_assoc, front_encodeChar]
      cases s with
      | nil => simp [encode, front] at hfront
      | cons d s =>
          rw [encode_cons, front_encodeChar] at hfront
          injection hfront with _ hrest
          exact ih hrest

/-- A character has one byte, in ASCII, or none in ASCII. -/
theorem ascii_or_high_of_mem_encodeChar {c : Char} {b : UInt8} (h : b ∈ encodeChar c) :
    encodeChar c = [b] ∧ c.toNat = b.toNat ∨ 0x80 ≤ b.toNat := by
  have hvalid := toNat_valid c
  by_cases hascii : c.toNat < 0x80
  · rw [encodeChar_of_ascii hascii, List.mem_singleton] at h
    rw [encodeChar_of_ascii hascii, h, toNat_toUInt8 (by omega)]
    exact .inl ⟨rfl, rfl⟩
  · right
    have hbyte : ∀ n < 256, 0x80 ≤ n → 0x80 ≤ n.toUInt8.toNat := by
      intro n hn hle
      rwa [toNat_toUInt8 hn]
    unfold encodeChar at h
    dsimp only at h
    rw [if_neg hascii] at h
    split at h
    · simp only [List.mem_cons, List.not_mem_nil, or_false] at h
      rcases h with rfl | rfl <;> exact hbyte _ (by omega) (by omega)
    · split at h
      · simp only [List.mem_cons, List.not_mem_nil, or_false] at h
        rcases h with rfl | rfl | rfl <;> exact hbyte _ (by omega) (by omega)
      · simp only [List.mem_cons, List.not_mem_nil, or_false] at h
        rcases h with rfl | rfl | rfl | rfl <;> exact hbyte _ (by omega) (by omega)

/-- What stands before a byte in ASCII is the bytes of a text, if all is. -/
theorem exists_encode_of_append_ascii {s : List Char} {bytes : List UInt8} {b : UInt8}
    (h : encode s = bytes ++ [b]) (hb : b.toNat < 0x80) : ∃ t, encode t = bytes := by
  rcases List.eq_nil_or_concat s with rfl | ⟨t, c, rfl⟩
  · simp [encode] at h
  · have hc : encode (t.concat c) = encode t ++ encodeChar c := by simp [encode]
    rw [hc] at h
    rcases List.eq_nil_or_concat (encodeChar c) with hnil | ⟨init, last, hlast⟩
    · exact absurd (length_encodeChar_pos c) (by simp [hnil])
    · rw [List.concat_eq_append] at hlast
      rw [hlast, ← List.append_assoc] at h
      obtain ⟨hinit, hb'⟩ := List.append_inj' h rfl
      obtain rfl := List.singleton_inj.1 hb'
      rcases ascii_or_high_of_mem_encodeChar (hlast ▸ by simp : last ∈ encodeChar c) with ⟨hone, _⟩ | hhigh
      · obtain rfl : init = [] := by simpa [hlast] using hone
        exact ⟨t, by rw [← hinit, List.append_nil]⟩
      · omega

end Utf8

end LinkHygiene
