import LinkHygiene.Proofs.Text.Utf8Valid
import LinkHygiene.Url.Percent

/-!
# Undoing escapes

Escapes are undone byte by byte, and every byte but the escape sign stands for itself. So a text
is found again in what is written for it, whatever else is escaped there, if the escape sign is.
-/

namespace LinkHygiene

namespace Percent

/-! ## Bytes that stand for themselves -/

theorem decode_cons_of_ne {b : UInt8} (h : b ≠ percentByte) (rest : List UInt8) :
    decode (b :: rest) = b :: decode rest := by
  match rest with
  | [] => rfl
  | [_] => rfl
  | _ :: _ :: _ => rw [decode, if_neg h]

theorem decode_append_of_not_mem {bytes : List UInt8} (h : percentByte ∉ bytes)
    (rest : List UInt8) : decode (bytes ++ rest) = bytes ++ decode rest := by
  induction bytes with
  | nil => rfl
  | cons b bytes ih =>
      have hb : b ≠ percentByte := fun hb => h (hb ▸ List.mem_cons_self)
      rw [List.cons_append, decode_cons_of_ne hb,
        ih fun hmem => h (List.mem_cons_of_mem b hmem), List.cons_append]

theorem decode_of_not_mem {bytes : List UInt8} (h : percentByte ∉ bytes) :
    decode bytes = bytes := by
  have hdecode := decode_append_of_not_mem h []
  rwa [decode, List.append_nil] at hdecode

theorem percentByte_not_mem_encodeChar {c : Char} (h : c ≠ '%') :
    percentByte ∉ Utf8.encodeChar c := by
  intro hmem
  rcases Utf8.ascii_or_high_of_mem_encodeChar hmem with ⟨_, hascii⟩ | hhigh
  · apply h
    rw [← Char.ofNat_toNat c, hascii]
    rfl
  · exact absurd hhigh (by decide)

theorem decode_encodeChar {c : Char} (h : c ≠ '%') (rest : List UInt8) :
    decode (Utf8.encodeChar c ++ rest) = Utf8.encodeChar c ++ decode rest :=
  decode_append_of_not_mem (percentByte_not_mem_encodeChar h) rest

/-! ## Escaped bytes -/

theorem byteDigit?_hexChar {n : Nat} (h : n < 16) :
    byteDigit? (hexChar n).toNat.toUInt8 = some n := by
  revert h
  revert n
  decide

theorem hexChar_ascii {n : Nat} (h : n < 16) : (hexChar n).toNat < 0x80 := by
  revert h
  revert n
  decide

theorem decode_encode_escapeByte (b : UInt8) (rest : List UInt8) :
    decode (Utf8.encode (escapeByte b) ++ rest) = b :: decode rest := by
  have hhigh : b.toNat / 16 < 16 := by
    have := b.toNat_lt
    omega
  have hlow : b.toNat % 16 < 16 := by omega
  have hbytes : Utf8.encode (escapeByte b) =
      [percentByte, (hexChar (b.toNat / 16)).toNat.toUInt8,
        (hexChar (b.toNat % 16)).toNat.toUInt8] := by
    rw [escapeByte, Utf8.encode_cons, Utf8.encode_cons, Utf8.encode_cons,
      Utf8.encodeChar_of_ascii (hexChar_ascii hhigh),
      Utf8.encodeChar_of_ascii (hexChar_ascii hlow)]
    rfl
  have hvalue : (b.toNat / 16 * 16 + b.toNat % 16).toUInt8 = b := by
    rw [Nat.div_add_mod' b.toNat 16]
    exact UInt8.ofNat_toNat
  rw [hbytes]
  simp only [List.cons_append, List.nil_append, decode, if_true, byteDigit?_hexChar hhigh,
    byteDigit?_hexChar hlow, hvalue]

theorem decode_encode_escapeBytes (bytes rest : List UInt8) :
    decode (Utf8.encode (bytes.flatMap escapeByte) ++ rest) = bytes ++ decode rest := by
  induction bytes with
  | nil => simp [Utf8.encode]
  | cons b bytes ih =>
      rw [List.flatMap_cons, Utf8.encode_append, List.append_assoc, decode_encode_escapeByte, ih,
        List.cons_append]

theorem mem_escapeByte {c : Char} {b : UInt8} (h : c ∈ escapeByte b) :
    c = '%' ∨ ∃ n < 16, c = hexChar n := by
  have := b.toNat_lt
  simp only [escapeByte, List.mem_cons, List.not_mem_nil, or_false] at h
  rcases h with rfl | rfl | rfl
  · exact .inl rfl
  · exact .inr ⟨b.toNat / 16, by omega, rfl⟩
  · exact .inr ⟨b.toNat % 16, by omega, rfl⟩

/-! ## Escaped texts -/

theorem encode_cons (escaped : Char → Bool) (c : Char) (s : List Char) :
    encode escaped (c :: s) =
      (if escaped c then escapeChar c else [c]) ++ encode escaped s :=
  List.flatMap_cons

theorem of_mem_encode {P : Char → Prop} {escaped : Char → Bool} {s : List Char} {c : Char}
    (h : c ∈ encode escaped s) (hpercent : P '%') (hdigits : ∀ n < 16, P (hexChar n))
    (hplain : ∀ d ∈ s, escaped d = false → P d) : P c := by
  obtain ⟨d, hmem, hd⟩ := List.mem_flatMap.1 h
  split at hd
  · obtain ⟨b, _, hb⟩ := List.mem_flatMap.1 hd
    rcases mem_escapeByte hb with rfl | ⟨n, hn, rfl⟩
    · exact hpercent
    · exact hdigits n hn
  · rename_i hneedsNone
    obtain rfl := List.mem_singleton.1 hd
    exact hplain c hmem (by simpa using hneedsNone)

theorem exists_escapeChar (c : Char) : ∃ rest, escapeChar c = '%' :: rest := by
  obtain ⟨b, bytes, hbytes⟩ := List.exists_cons_of_length_pos (Utf8.length_encodeChar_pos c)
  exact ⟨_, by rw [escapeChar, hbytes, List.flatMap_cons, escapeByte, List.cons_append]⟩

/-- A text begins as before when it is escaped, or with an escape. -/
theorem exists_encode_cons (escaped : Char → Bool) (c : Char) (s : List Char) :
    ∃ d rest, encode escaped (c :: s) = d :: rest ∧ (d = c ∨ d = '%') := by
  rw [encode_cons]
  split
  · obtain ⟨rest, hrest⟩ := exists_escapeChar c
    exact ⟨'%', _, by rw [hrest, List.cons_append], .inr rfl⟩
  · exact ⟨c, _, rfl, .inl rfl⟩

theorem encode_of_forall {escaped : Char → Bool} {s : List Char}
    (h : ∀ c ∈ s, escaped c = false) : encode escaped s = s := by
  induction s with
  | nil => rfl
  | cons c s ih =>
      have hrest := ih fun d hd => h d (List.mem_cons_of_mem c hd)
      rw [encode_cons, hrest, h c List.mem_cons_self]
      rfl

/-- The bytes of a text are read back, unless its own escape signs pass for escapes. -/
theorem decode_encode {escaped : Char → Bool} (h : escaped '%' = true) (s : List Char) :
    decode (Utf8.encode (encode escaped s)) = Utf8.encode s := by
  induction s with
  | nil => rfl
  | cons c s ih =>
      rw [encode_cons, Utf8.encode_append, Utf8.encode_cons]
      by_cases hc : escaped c = true
      · rw [if_pos hc, escapeChar, decode_encode_escapeBytes, ih]
      · have hne : c ≠ '%' := fun heq => hc (heq ▸ h)
        rw [if_neg hc, Utf8.encode_singleton, decode_encodeChar hne, ih]

theorem encode_inj {escaped : Char → Bool} (h : escaped '%' = true) {s t : List Char} :
    encode escaped s = encode escaped t ↔ s = t := by
  constructor
  · intro heq
    have hbytes := congrArg (fun text => decode (Utf8.encode text)) heq
    rwa [decode_encode h, decode_encode h, Utf8.encode_inj] at hbytes
  · exact congrArg (encode escaped)

end Percent

end LinkHygiene
