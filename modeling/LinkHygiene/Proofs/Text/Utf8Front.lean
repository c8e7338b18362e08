import LinkHygiene.Proofs.Text.Utf8

/-!
# What stands at the front of bytes

Behind its first byte a character is read by a test for each of the other bytes. So there
are few ways in which bytes can open: with a whole character, with the beginning of one
that all bytes belong to, or with bytes after which no character goes on. Only in the
second case do later bytes matter.
-/

namespace LinkHygiene

namespace Utf8

/-! ## Tests -/

def tests (lead : UInt8) : List (UInt8 → Bool) :=
  match width lead with
  | 2 => [isTail]
  | 3 => [isSecond lead, isTail]
  | 4 => [isSecond lead, isTail, isTail]
  | _ => []

/-- Some bytes pass as many tests, one each, and these tests are left. -/
inductive Passes : List (UInt8 → Bool) → List UInt8 → List (UInt8 → Bool) → Prop where
  | none (left) : Passes left [] left
  | next {fits tests b bytes left} (h : fits b = true) (rest : Passes tests bytes left) :
      Passes (fits :: tests) (b :: bytes) left

theorem passes_cases (tests : List (UInt8 → Bool)) (bytes : List UInt8) :
    (∃ passed rest, bytes = passed ++ rest ∧ Passes tests passed []) ∨
      (∃ fits left, Passes tests bytes (fits :: left)) ∨
      ∃ passed b rest fits left,
        bytes = passed ++ b :: rest ∧ Passes tests passed (fits :: left) ∧ fits b = false := by
  induction tests generalizing bytes with
  | nil => exact .inl ⟨[], bytes, rfl, .none []⟩
  | cons fits tests ih =>
      cases bytes with
      | nil => exact .inr (.inl ⟨fits, tests, .none _⟩)
      | cons b bytes =>
          cases hfits : fits b with
          | false => exact .inr (.inr ⟨[], b, bytes, fits, tests, rfl, .none _, hfits⟩)
          | true =>
              rcases ih bytes with ⟨passed, rest, rfl, h⟩ | ⟨fits', left, h⟩ |
                ⟨passed, b', rest, fits', left, rfl, h, hb⟩
              · exact .inl ⟨b :: passed, rest, rfl, h.next hfits⟩
              · exact .inr (.inl ⟨fits', left, h.next hfits⟩)
              · exact .inr (.inr ⟨b :: passed, b', rest, fits', left, rfl, h.next hfits, hb⟩)

/-- Tests that can all be passed are passed by some bytes, whatever bytes pass the first ones. -/
theorem Passes.complete {tests left : List (UInt8 → Bool)} {bytes : List UInt8}
    (h : Passes tests bytes left) (hsome : ∀ fits ∈ tests, ∃ b, fits b = true) :
    ∃ more, Passes tests (bytes ++ more) [] ∧ more.length = left.length := by
  induction h with
  | none left =>
      induction left with
      | nil => exact ⟨[], .none [], rfl⟩
      | cons fits left ih =>
          obtain ⟨b, hb⟩ := hsome fits List.mem_cons_self
          obtain ⟨more, hmore, hlength⟩ := ih fun f hf => hsome f (List.mem_cons_of_mem fits hf)
          exact ⟨b :: more, hmore.next hb, congrArg (· + 1) hlength⟩
  | next hb _ ih =>
      obtain ⟨more, hmore, hlength⟩ := ih fun f hf => hsome f (List.mem_cons_of_mem _ hf)
      exact ⟨more, hmore.next hb, hlength⟩

theorem exists_of_mem_tests {lead : UInt8} {fits : UInt8 → Bool} (h : fits ∈ tests lead) :
    ∃ b, fits b = true := by
  have htail : ∃ b, isTail b = true := ⟨0x80, by decide⟩
  have hsecond : ∃ b, isSecond lead b = true := by
    unfold isSecond
    repeat' split
    · exact ⟨0xA0, by decide⟩
    · exact ⟨0x80, by decide⟩
    · exact ⟨0x90, by decide⟩
    · exact ⟨0x80, by decide⟩
    · exact ⟨0x80, by decide⟩
  unfold tests at h
  split at h <;> simp only [List.mem_cons, List.not_mem_nil, or_false] at h
  · exact h ▸ htail
  · rcases h with rfl | rfl
    · exact hsecond
    · exact htail
  · rcases h with rfl | rfl | rfl
    · exact hsecond
    · exact htail
    · exact htail

/-! ## Characters -/

def charOf (lead : UInt8) : List UInt8 → Char
  | [] => Char.ofNat lead.toNat
  | [b] => Char.ofNat (lead.toNat % 32 * 64 + low6 b)
  | [b, c] => Char.ofNat (lead.toNat % 16 * 4096 + low6 b * 64 + low6 c)
  | [b, c, d] => Char.ofNat (lead.toNat % 8 * 262144 + low6 b * 4096 + low6 c * 64 + low6 d)
  | _ => replacement

theorem toNat_charOfNat {n : Nat} (h : n.isValidChar) : (Char.ofNat n).toNat = n := by
  have hvalid : Char.ofNat n = Char.ofNatAux n h := dif_pos h
  rw [hvalid]
  rfl

theorem exists_toUInt8 (b : UInt8) : ∃ n < 256, b = n.toUInt8 :=
  ⟨b.toNat, b.toNat_lt, UInt8.ofNat_toNat.symm⟩

theorem exists_of_isTail {b : UInt8} (h : isTail b = true) :
    ∃ n, (0x80 ≤ n ∧ n ≤ 0xBF) ∧ b = n.toUInt8 := by
  obtain ⟨n, hn, rfl⟩ := exists_toUInt8 b
  rw [isTail_toUInt8 hn, decide_eq_true_eq] at h
  exact ⟨n, h, rfl⟩

theorem exists_of_isSecond {n : Nat} (hn : n < 256) {b : UInt8}
    (h : isSecond n.toUInt8 b = true) :
    ∃ m, b = m.toUInt8 ∧ (0x80 ≤ m ∧ m ≤ 0xBF) ∧ (n = 0xE0 → 0xA0 ≤ m) ∧
      (n = 0xED → m ≤ 0x9F) ∧ (n = 0xF0 → 0x90 ≤ m) ∧ (n = 0xF4 → m ≤ 0x8F) := by
  obtain ⟨m, hm, rfl⟩ := exists_toUInt8 b
  rw [isSecond_toUInt8 hn hm, decide_eq_true_eq, ← and_assoc] at h
  exact ⟨m, rfl, h⟩

theorem width_cases {n : Nat} (h : n < 256) :
    width n.toUInt8 = 0 ∨ (width n.toUInt8 = 1 ∧ n < 0x80) ∨
      (width n.toUInt8 = 2 ∧ 0xC2 ≤ n ∧ n ≤ 0xDF) ∨
      (width n.toUInt8 = 3 ∧ 0xE0 ≤ n ∧ n ≤ 0xEF) ∨
      width n.toUInt8 = 4 ∧ 0xF0 ≤ n ∧ n ≤ 0xF4 := by
  rw [width_toUInt8 h]
  repeat' split
  all_goals omega

theorem encodeChar_two {n m : Nat} (hn : 0xC2 ≤ n ∧ n ≤ 0xDF) (hm : 0x80 ≤ m ∧ m ≤ 0xBF) :
    encodeChar (Char.ofNat (n % 32 * 64 + m % 64)) = [n.toUInt8, m.toUInt8] := by
  have hvalid : (n % 32 * 64 + m % 64).isValidChar := .inl (by omega)
  have hlead : 0xC0 + (n % 32 * 64 + m % 64) / 64 = n := by omega
  have htail : 0x80 + (n % 32 * 64 + m % 64) % 64 = m := by omega
  simp only [encodeChar, toNat_charOfNat hvalid]
  rw [if_neg (by omega), if_pos (by omega), hlead, htail]

theorem mod_64_of_tail {n : Nat} (h : 0x80 ≤ n ∧ n ≤ 0xBF) : n % 64 = n - 0x80 := by
  omega

theorem encodeChar_three {n m k : Nat} (hn : 0xE0 ≤ n ∧ n ≤ 0xEF) (hm : 0x80 ≤ m ∧ m ≤ 0xBF)
    (hE0 : n = 0xE0 → 0xA0 ≤ m) (hED : n = 0xED → m ≤ 0x9F) (hk : 0x80 ≤ k ∧ k ≤ 0xBF) :
    encodeChar (Char.ofNat (n % 16 * 4096 + m % 64 * 64 + k % 64)) =
      [n.toUInt8, m.toUInt8, k.toUInt8] := by
  have hmark : n % 16 = n - 0xE0 := by omega
  rw [hmark, mod_64_of_tail hm, mod_64_of_tail hk]
  generalize hcode : (n - 0xE0) * 4096 + (m - 0x80) * 64 + (k - 0x80) = code
  have hlead : 0xE0 + code / 4096 = n := by omega
  have hsecond : 0x80 + code / 64 % 64 = m := by omega
  have htail : 0x80 + code % 64 = k := by omega
  have hrange : 0x800 ≤ code ∧ code < 0x10000 := by omega
  have hvalid : code.isValidChar := by
    unfold Nat.isValidChar
    omega
  simp only [encodeChar, toNat_charOfNat hvalid]
  rw [if_neg (by omega), if_neg (by omega), if_pos hrange.2, hlead, hsecond, htail]

theorem encodeChar_four {n m k l : Nat} (hn : 0xF0 ≤ n ∧ n ≤ 0xF4) (hm : 0x80 ≤ m ∧ m ≤ 0xBF)
    (hF0 : n = 0xF0 → 0x90 ≤ m) (hF4 : n = 0xF4 → m ≤ 0x8F) (hk : 0x80 ≤ k ∧ k ≤ 0xBF)
    (hl : 0x80 ≤ l ∧ l ≤ 0xBF) :
    encodeChar (Char.ofNat (n % 8 * 262144 + m % 64 * 4096 + k % 64 * 64 + l % 64)) =
      [n.toUInt8, m.toUInt8, k.toUInt8, l.toUInt8] := by
  have hmark : n % 8 = n - 0xF0 := by omega
  rw [hmark, mod_64_of_tail hm, mod_64_of_tail hk, mod_64_of_tail hl]
  generalize hcode :
    (n - 0xF0) * 262144 + (m - 0x80) * 4096 + (k - 0x80) * 64 + (l - 0x80) = code
  have hlead : 0xF0 + code / 262144 = n := by omega
  have hsecond : 0x80 + code / 4096 % 64 = m := by omega
  have hthird : 0x80 + code / 64 % 64 = k := by omega
  have htail : 0x80 + code % 64 = l := by omega
  have hrange : 0x10000 ≤ code ∧ code < 0x110000 := by omega
  have hvalid : code.isValidChar := .inr ⟨by omega, hrange.2⟩
  simp only [encodeChar, toNat_charOfNat hvalid]
  rw [if_neg (by omega), if_neg (by omega), if_neg (by omega), hlead, hsecond, hthird, htail]

theorem encodeChar_charOf {lead : UInt8} {passed : List UInt8} (hlead : width lead ≠ 0)
    (h : Passes (tests lead) passed []) : encodeChar (charOf lead passed) = lead :: passed := by
  obtain ⟨n, hn, rfl⟩ := exists_toUInt8 lead
  unfold tests at h
  rcases width_cases hn with hw | ⟨hw, hrange⟩ | ⟨hw, hrange⟩ | ⟨hw, hrange⟩ | ⟨hw, hrange⟩ <;>
    rw [hw] at h
  case inl => exact absurd hw hlead
  case inr.inl =>
    obtain - | - := h
    have hvalid : n.isValidChar := .inl (by omega)
    simp [charOf, encodeChar, toNat_toUInt8 hn, toNat_charOfNat hvalid, hrange]
  case inr.inr.inl =>
    obtain - | ⟨hb, - | -⟩ := h
    obtain ⟨m, hm, rfl⟩ := exists_of_isTail hb
    rw [charOf, toNat_toUInt8 hn, low6_toUInt8 (by omega), encodeChar_two hrange hm]
  case inr.inr.inr.inl =>
    obtain - | ⟨hb, - | ⟨hc, - | -⟩⟩ := h
    obtain ⟨m, rfl, hm, hE0, hED, -, -⟩ := exists_of_isSecond hn hb
    obtain ⟨k, hk, rfl⟩ := exists_of_isTail hc
    rw [charOf, toNat_toUInt8 hn, low6_toUInt8 (by omega), low6_toUInt8 (by omega),
      encodeChar_three hrange hm hE0 hED hk]
  case inr.inr.inr.inr =>
    obtain - | ⟨hb, - | ⟨hc, - | ⟨hd, - | -⟩⟩⟩ := h
    obtain ⟨m, rfl, hm, -, -, hF0, hF4⟩ := exists_of_isSecond hn hb
    obtain ⟨k, hk, rfl⟩ := exists_of_isTail hc
    obtain ⟨l, hl, rfl⟩ := exists_of_isTail hd
    rw [charOf, toNat_toUInt8 hn, low6_toUInt8 (by omega), low6_toUInt8 (by omega),
      low6_toUInt8 (by omega), encodeChar_four hrange hm hF0 hF4 hk hl]

/-! ## Openings -/

/-- How bytes can open, and what is read off their front then. -/
inductive Opens : List UInt8 → Front → Prop where
  | done : Opens [] .done
  /-- All tests are passed. -/
  | char {lead passed} (hlead : width lead ≠ 0) (h : Passes (tests lead) passed []) (rest) :
      Opens (lead :: (passed ++ rest)) (.char (charOf lead passed) rest)
  /-- The bytes end before all tests are passed. -/
  | short {lead passed fits left} (h : Passes (tests lead) passed (fits :: left)) :
      Opens (lead :: passed) .unfinished
  /-- A test fails. -/
  | misfit {lead passed fits left b} (h : Passes (tests lead) passed (fits :: left))
      (hb : fits b = false) (rest) : Opens (lead :: (passed ++ b :: rest)) (.broken (b :: rest))
  /-- No character has this first byte. -/
  | astray {lead} (h : width lead = 0) (rest) : Opens (lead :: rest) (.broken rest)

def follow (found : List UInt8 → Char) :
    (tests : List (UInt8 → Bool)) → (passed bytes : List UInt8) → Front
  | [], passed, bytes => .char (found passed) bytes
  | fits :: tests, passed, bytes =>
      expect fits bytes fun b rest => follow found tests (passed ++ [b]) rest

theorem front_cons {lead : UInt8} (h : width lead ≠ 0) (bytes : List UInt8) :
    front (lead :: bytes) = follow (charOf lead) (tests lead) [] bytes := by
  obtain ⟨n, hn, rfl⟩ := exists_toUInt8 lead
  rcases width_cases hn with hw | ⟨hw, -⟩ | ⟨hw, -⟩ | ⟨hw, -⟩ | ⟨hw, -⟩
  · exact absurd hw h
  · simp [front, tests, follow, charOf, hw]
  · simp [front, tests, follow, charOf, hw]
  · simp [front, tests, follow, charOf, hw]
  · simp [front, tests, follow, charOf, hw]

theorem follow_of_passes {tests left : List (UInt8 → Bool)} {bytes : List UInt8}
    (h : Passes tests bytes left) (found : List UInt8 → Char) (passed rest : List UInt8) :
    follow found tests passed (bytes ++ rest) = follow found left (passed ++ bytes) rest := by
  induction h generalizing passed with
  | none left => simp
  | next hb _ ih =>
      rw [follow, List.cons_append, expect_cons hb, ih, List.append_assoc, List.singleton_append]

theorem width_ne_zero_of_passes {lead : UInt8} {bytes : List UInt8} {fits : UInt8 → Bool}
    {left : List (UInt8 → Bool)} (h : Passes (tests lead) bytes (fits :: left)) :
    width lead ≠ 0 := by
  intro hwidth
  rw [tests, hwidth] at h
  cases h

theorem front_of_opens {bytes : List UInt8} {f : Front} (h : Opens bytes f) :
    front bytes = f := by
  cases h with
  | done => rfl
  | char hlead h rest => rw [front_cons hlead, follow_of_passes h, List.nil_append, follow]
  | @short lead _ _ _ h =>
      have hfollow := follow_of_passes h (charOf lead) [] []
      rw [List.append_nil] at hfollow
      rw [front_cons (width_ne_zero_of_passes h), hfollow, follow, expect]
  | misfit h hb rest =>
      rw [front_cons (width_ne_zero_of_passes h), follow_of_passes h, follow, expect,
        if_neg (by simp [hb])]
  | astray h rest => simp [front, h]

/-- Bytes open in one of these ways, and the front of bytes is what they open with. -/
theorem opens_front (bytes : List UInt8) : Opens bytes (front bytes) := by
  cases bytes with
  | nil => exact .done
  | cons lead bytes =>
      by_cases hlead : width lead = 0
      · exact front_of_opens (.astray hlead bytes) ▸ .astray hlead bytes
      · rcases passes_cases (tests lead) bytes with ⟨passed, rest, rfl, h⟩ | ⟨fits, left, h⟩ |
          ⟨passed, b, rest, fits, left, rfl, h, hb⟩
        · exact front_of_opens (.char hlead h rest) ▸ .char hlead h rest
        · exact front_of_opens (.short h) ▸ .short h
        · exact front_of_opens (.misfit h hb rest) ▸ .misfit h hb rest

/-! ## Later bytes -/

/-- A whole character at the front stays there, whatever bytes come later. -/
theorem front_append_of_char {bytes rest : List UInt8} {c : Char}
    (h : front bytes = .char c rest) (more : List UInt8) :
    front (bytes ++ more) = .char c (rest ++ more) := by
  have hopens := opens_front bytes
  rw [h] at hopens
  cases hopens with
  | char hlead hpasses rest =>
      rw [List.cons_append, List.append_assoc]
      exact front_of_opens (.char hlead hpasses _)

/-- Bytes after which no character goes on stay so, whatever bytes come later. -/
theorem front_append_of_broken {bytes rest : List UInt8} (h : front bytes = .broken rest)
    (more : List UInt8) : front (bytes ++ more) = .broken (rest ++ more) := by
  have hopens := opens_front bytes
  rw [h] at hopens
  cases hopens with
  | misfit hpasses hb rest =>
      rw [List.cons_append, List.append_assoc]
      exact front_of_opens (.misfit hpasses hb _)
  | astray hlead rest => exact front_of_opens (.astray hlead _)

theorem eq_of_front_char {bytes rest : List UInt8} {c : Char} (h : front bytes = .char c rest) :
    bytes = encodeChar c ++ rest := by
  have hopens := opens_front bytes
  rw [h] at hopens
  cases hopens with
  | char hlead hpasses rest => rw [encodeChar_charOf hlead hpasses, List.cons_append]

theorem eq_nil_of_front_done {bytes : List UInt8} (h : front bytes = .done) : bytes = [] := by
  have hopens := opens_front bytes
  rw [h] at hopens
  cases hopens
  rfl

theorem length_of_front_char {bytes rest : List UInt8} {c : Char}
    (h : front bytes = .char c rest) : rest.length < bytes.length := by
  have hpos := length_encodeChar_pos c
  rw [eq_of_front_char h, List.length_append]
  omega

theorem length_of_front_broken {bytes rest : List UInt8} (h : front bytes = .broken rest) :
    rest.length < bytes.length := by
  have hopens := opens_front bytes
  rw [h] at hopens
  cases hopens with
  | misfit hpasses hb rest =>
      simp only [List.length_cons, List.length_append]
      omega
  | astray hlead rest => exact Nat.lt_succ_self _

/-- Bytes that end too early are the beginning of a character, but not all of it. -/
theorem exists_of_front_unfinished {bytes : List UInt8} (h : front bytes = .unfinished) :
    bytes ≠ [] ∧ ∃ c more, more ≠ [] ∧ encodeChar c = bytes ++ more := by
  have hopens := opens_front bytes
  rw [h] at hopens
  cases hopens with
  | @short lead passed fits left hpasses =>
      obtain ⟨more, hall, hlength⟩ := hpasses.complete fun _ => exists_of_mem_tests
      refine ⟨List.cons_ne_nil lead passed, charOf lead (passed ++ more), more, ?_, ?_⟩
      · intro hnil
        rw [hnil] at hlength
        simp at hlength
      · rw [encodeChar_charOf (width_ne_zero_of_passes hpasses) hall, List.cons_append]

end Utf8

end LinkHygiene
