import LinkHygiene.Text.Utf8

/-!
# Writing and reading UTF-8

The bytes of a character are read back as that character, whatever follows them, so
that a text written as bytes is valid and decodes to itself.
-/

namespace LinkHygiene

namespace Utf8

/-! ## Bytes as numbers -/

theorem toNat_toUInt8 {n : Nat} (h : n < 256) : n.toUInt8.toNat = n := by
  simp [Nat.mod_eq_of_lt h]

theorem toNat_valid (c : Char) :
    c.toNat < 0xD800 ∨ 0xDFFF < c.toNat ∧ c.toNat < 0x110000 := by
  have h := c.valid
  simpa [UInt32.isValidChar, Nat.isValidChar] using h

theorem width_toUInt8 {n : Nat} (h : n < 256) :
    width n.toUInt8 =
      if n < 0x80 then 1 else if 0xC2 ≤ n ∧ n ≤ 0xDF then 2
      else if 0xE0 ≤ n ∧ n ≤ 0xEF then 3 else if 0xF0 ≤ n ∧ n ≤ 0xF4 then 4 else 0 := by
  simp [width, UInt8.lt_iff_toNat_lt, UInt8.le_iff_toNat_le, Nat.mod_eq_of_lt h]

theorem isTail_toUInt8 {n : Nat} (h : n < 256) :
    isTail n.toUInt8 = decide (0x80 ≤ n ∧ n ≤ 0xBF) := by
  simp [isTail, UInt8.le_iff_toNat_le, Nat.mod_eq_of_lt h]

theorem isSecond_toUInt8 {lead n : Nat} (hlead : lead < 256) (h : n < 256) :
    isSecond lead.toUInt8 n.toUInt8 =
      decide (0x80 ≤ n ∧ n ≤ 0xBF ∧ (lead = 0xE0 → 0xA0 ≤ n) ∧ (lead = 0xED → n ≤ 0x9F) ∧
        (lead = 0xF0 → 0x90 ≤ n) ∧ (lead = 0xF4 → n ≤ 0x8F)) := by
  have heq : ∀ k < 256, (lead.toUInt8 = k.toUInt8 ↔ lead = k) := by
    intro k hk
    rw [← UInt8.toNat_inj, toNat_toUInt8 hlead, toNat_toUInt8 hk]
  have hE0 : lead.toUInt8 = 0xE0 ↔ lead = 0xE0 := heq 0xE0 (by decide)
  have hED : lead.toUInt8 = 0xED ↔ lead = 0xED := heq 0xED (by decide)
  have hF0 : lead.toUInt8 = 0xF0 ↔ lead = 0xF0 := heq 0xF0 (by decide)
  have hF4 : lead.toUInt8 = 0xF4 ↔ lead = 0xF4 := heq 0xF4 (by decide)
  simp only [isSecond, isTail_toUInt8 h, hE0, hED, hF0, hF4, UInt8.le_iff_toNat_le,
    toNat_toUInt8 h, UInt8.reduceToNat, ← Bool.decide_and]
  repeat' split
  all_goals
    rw [decide_eq_decide]
    omega

theorem low6_toUInt8 {n : Nat} (h : n < 256) : low6 n.toUInt8 = n % 64 := by
  rw [low6, toNat_toUInt8 h]

theorem expect_cons {fits : UInt8 → Bool} {b : UInt8} (h : fits b = true)
    (rest : List UInt8) (found : UInt8 → List UInt8 → Front) :
    expect fits (b :: rest) found = found b rest := by
  simp [expect, h]

/-! ## One character -/

theorem front_encodeChar (c : Char) (rest : List UInt8) :
    front (encodeChar c ++ rest) = .char c rest := by
  have hvalid := toNat_valid c
  unfold encodeChar
  by_cases h1 : c.toNat < 0x80
  · simp [front, h1, width_toUInt8 (n := c.toNat) (by omega),
      toNat_toUInt8 (n := c.toNat) (by omega)]
  have htail : ∀ n, isTail (0x80 + n % 64).toUInt8 = true := by
    intro n
    rw [isTail_toUInt8 (by omega), decide_eq_true_eq]
    omega
  have hlow : ∀ n, low6 (0x80 + n % 64).toUInt8 = n % 64 := by
    intro n
    rw [low6_toUInt8 (by omega)]
    omega
  by_cases h2 : c.toNat < 0x800
  · have hw : width (0xC0 + c.toNat / 64).toUInt8 = 2 := by
      rw [width_toUInt8 (by omega), if_neg (by omega), if_pos (by omega)]
    have hn : (0xC0 + c.toNat / 64) % 32 * 64 + c.toNat % 64 = c.toNat := by
      omega
    simp only [h1, h2, if_true, if_false, List.cons_append, List.nil_append, front, hw,
      expect_cons (htail _), hlow]
    rw [toNat_toUInt8 (by omega), hn, Char.ofNat_toNat]
  by_cases h3 : c.toNat < 0x10000
  · have hw : width (0xE0 + c.toNat / 4096).toUInt8 = 3 := by
      rw [width_toUInt8 (by omega), if_neg (by omega), if_neg (by omega), if_pos (by omega)]
    have hsecond :
        isSecond (0xE0 + c.toNat / 4096).toUInt8 (0x80 + c.toNat / 64 % 64).toUInt8 = true := by
      rw [isSecond_toUInt8 (by omega) (by omega), decide_eq_true_eq]
      omega
    have hn : (0xE0 + c.toNat / 4096) % 16 * 4096 + c.toNat / 64 % 64 * 64 + c.toNat % 64 =
        c.toNat := by
      omega
    simp only [h1, h2, h3, if_true, if_false, List.cons_append, List.nil_append, front, hw,
      expect_cons hsecond, expect_cons (htail _), hlow]
    rw [toNat_toUInt8 (by omega), hn, Char.ofNat_toNat]
  · have hw : width (0xF0 + c.toNat / 262144).toUInt8 = 4 := by
      rw [width_toUInt8 (by omega), if_neg (by omega), if_neg (by omega), if_neg (by omega),
        if_pos (by omega)]
    have hsecond :
        isSecond (0xF0 + c.toNat / 262144).toUInt8 (0x80 + c.toNat / 4096 % 64).toUInt8 =
          true := by
      rw [isSecond_toUInt8 (by omega) (by omega), decide_eq_true_eq]
      omega
    have hn : (0xF0 + c.toNat / 262144) % 8 * 262144 + c.toNat / 4096 % 64 * 4096 +
        c.toNat / 64 % 64 * 64 + c.toNat % 64 = c.toNat := by
      omega
    simp only [h1, h2, h3, if_false, List.cons_append, List.nil_append, front, hw,
      expect_cons hsecond, expect_cons (htail _), hlow]
    rw [toNat_toUInt8 (by omega), hn, Char.ofNat_toNat]

theorem encodeChar_of_ascii {c : Char} (h : c.toNat < 0x80) :
    encodeChar c = [c.toNat.toUInt8] := by
  simp [encodeChar, h]

theorem length_encodeChar_pos (c : Char) : 0 < (encodeChar c).length := by
  unfold encodeChar
  dsimp only
  split
  · simp
  · split
    · simp
    · split <;> simp

theorem length_encodeChar_le (c : Char) : (encodeChar c).length ≤ 4 := by
  simp only [encodeChar]
  repeat' split
  all_goals
    simp only [List.length_cons, List.length_nil]
    omega

/-! ## Texts -/

theorem encode_cons (c : Char) (s : List Char) : encode (c :: s) = encodeChar c ++ encode s := by
  simp [encode]

theorem encode_singleton (c : Char) : encode [c] = encodeChar c := by
  simp [encode]

theorem decodeFrom_encode {fuel : Nat} {s : List Char} (text : List Char)
    (hfuel : (encode s).length < fuel) :
    decodeFrom fuel text (encode s) = text.reverse ++ s := by
  induction s generalizing fuel text with
  | nil =>
      obtain ⟨fuel, rfl⟩ : ∃ n, fuel = n + 1 := ⟨fuel - 1, by omega⟩
      simp [decodeFrom, encode, front]
  | cons c s ih =>
      obtain ⟨fuel, rfl⟩ : ∃ n, fuel = n + 1 := ⟨fuel - 1, by omega⟩
      have hpos := length_encodeChar_pos c
      rw [encode_cons, List.length_append] at hfuel
      rw [encode_cons, decodeFrom, front_encodeChar]
      simp only []
      rw [ih (c :: text) (by omega)]
      simp

/-- A text written as bytes is read back. -/
theorem decodeLossy_encode (s : List Char) : decodeLossy (encode s) = s := by
  unfold decodeLossy
  rw [decodeFrom_encode [] (by omega)]
  rfl

/-- Texts with the same bytes are the same. -/
theorem encode_inj {s t : List Char} : encode s = encode t ↔ s = t := by
  constructor
  · intro h
    have hdecoded := congrArg decodeLossy h
    rwa [decodeLossy_encode, decodeLossy_encode] at hdecoded
  · exact congrArg encode

theorem validFrom_encode {fuel : Nat} {s : List Char} (hfuel : (encode s).length < fuel) :
    validFrom fuel (encode s) = true := by
  induction s generalizing fuel with
  | nil =>
      obtain ⟨fuel, rfl⟩ : ∃ n, fuel = n + 1 := ⟨fuel - 1, by omega⟩
      simp [validFrom, encode, front]
  | cons c s ih =>
      obtain ⟨fuel, rfl⟩ : ∃ n, fuel = n + 1 := ⟨fuel - 1, by omega⟩
      have hpos := length_encodeChar_pos c
      rw [encode_cons, List.length_append] at hfuel
      rw [encode_cons, validFrom, front_encodeChar]
      exact ih (by omega)

theorem decode?_encode (s : List Char) : decode? (encode s) = some s := by
  have hvalid : isValid (encode s) = true := validFrom_encode (by omega)
  rw [decode?, if_pos hvalid, decodeLossy_encode]

end Utf8

end LinkHygiene
