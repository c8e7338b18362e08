import LinkHygiene.Proofs.Fetch.LastResponse
import LinkHygiene.Proofs.Url.Percent

/-!
# The bytes of a location

A line in UTF-8 is read as it is, and of any other line all bytes beyond ASCII are escaped.
Either way the value of the location stands for the bytes that were sent, unless there are
blanks at its ends or escapes in it that were there before.
-/

namespace LinkHygiene

namespace Header

open Text (IsTight isAscii isBlank)

/-! ## Bytes one by one -/

theorem byteText_of_ascii {b : UInt8} (h : b < 0x80) : byteText b = [Char.ofNat b.toNat] :=
  if_pos h

theorem byteText_of_not_ascii {b : UInt8} (h : ¬ b < 0x80) : byteText b = Percent.escapeByte b :=
  if_neg h

theorem toNat_char_of_ascii {b : UInt8} (h : b < 0x80) : (Char.ofNat b.toNat).toNat = b.toNat := by
  have hlt : b.toNat < 0x80 := h
  exact Utf8.toNat_charOfNat (.inl (by omega))

theorem encodeChar_of_byte {b : UInt8} (h : b < 0x80) :
    Utf8.encodeChar (Char.ofNat b.toNat) = [b] := by
  have hascii : (Char.ofNat b.toNat).toNat < 0x80 := (toNat_char_of_ascii h).symm ▸ h
  rw [Utf8.encodeChar_of_ascii hascii, toNat_char_of_ascii h]
  exact congrArg (fun n => [n]) UInt8.ofNat_toNat

theorem byteText_ne_nil (b : UInt8) : byteText b ≠ [] := by
  unfold byteText
  split
  · exact List.cons_ne_nil _ _
  · exact List.cons_ne_nil _ _

theorem isAscii_of_mem_byteText {c : Char} {b : UInt8} (h : c ∈ byteText b) :
    isAscii c = true := by
  by_cases hascii : b < 0x80
  · rw [byteText_of_ascii hascii, List.mem_singleton] at h
    rw [h, isAscii, toNat_char_of_ascii hascii, decide_eq_true_eq]
    exact hascii
  · rw [byteText_of_not_ascii hascii] at h
    rcases Percent.mem_escapeByte h with rfl | ⟨n, hn, rfl⟩
    · rfl
    · exact decide_eq_true (Percent.hexChar_ascii hn)

/-- A byte is not made a blank unless it is one. -/
theorem encodeChar_of_blank {c : Char} {b : UInt8} (h : c ∈ byteText b)
    (hblank : isBlank c = true) : Utf8.encodeChar c = [b] := by
  by_cases hascii : b < 0x80
  · rw [byteText_of_ascii hascii, List.mem_singleton] at h
    rw [h, encodeChar_of_byte hascii]
  · rw [byteText_of_not_ascii hascii] at h
    have hdigit : ∀ n < 16, isBlank (Percent.hexChar n) = false := by decide
    rcases Percent.mem_escapeByte h with rfl | ⟨n, hn, rfl⟩
    · exact absurd hblank (by decide)
    · rw [hdigit n hn] at hblank
      cases hblank

theorem decode_byteText (b : UInt8) (hb : b ≠ Percent.percentByte) (rest : List UInt8) :
    Percent.decode (Utf8.encode (byteText b) ++ rest) = b :: Percent.decode rest := by
  by_cases hascii : b < 0x80
  · rw [byteText_of_ascii hascii, Utf8.encode_cons, encodeChar_of_byte hascii]
    exact Percent.decode_cons_of_ne hb rest
  · rw [byteText_of_not_ascii hascii, Percent.decode_encode_escapeByte]

theorem decode_flatMap_byteText {v : List UInt8} (h : Percent.percentByte ∉ v) :
    Percent.decode (Utf8.encode (v.flatMap byteText)) = v := by
  induction v with
  | nil => rfl
  | cons b v ih =>
      have hb : b ≠ Percent.percentByte := fun hb => h (hb ▸ List.mem_cons_self)
      rw [List.flatMap_cons, Utf8.encode_append, decode_byteText b hb,
        ih fun hmem => h (List.mem_cons_of_mem b hmem)]

/-! ## Blanks at the ends -/

/--
Whether a blank stands at either end of some bytes. If the bytes are not UTF-8 only the blanks
in ASCII are seen, because the bytes of the others are escaped one by one.
-/
def HasBlankEnd (bytes : List UInt8) : Prop :=
  ∃ c, isBlank c = true ∧ (isAscii c = true ∨ Utf8.isValid bytes = true) ∧
    (Utf8.encodeChar c <+: bytes ∨ Utf8.encodeChar c <:+ bytes)

theorem isTight_of_encode {text : List Char} (h : ¬ HasBlankEnd (Utf8.encode text)) :
    IsTight text := by
  have hvalid : Utf8.isValid (Utf8.encode text) = true := Utf8.isValid_iff.2 ⟨text, rfl⟩
  constructor
  · intro c hc
    obtain ⟨rest, rfl⟩ := List.head?_eq_some_iff.1 hc
    rw [Bool.eq_false_iff]
    intro hblank
    refine h ⟨c, hblank, .inr hvalid, .inl ⟨Utf8.encode rest, ?_⟩⟩
    rw [Utf8.encode_cons]
  · intro c hc
    obtain ⟨lead, rfl⟩ := List.getLast?_eq_some_iff.1 hc
    rw [Bool.eq_false_iff]
    intro hblank
    refine h ⟨c, hblank, .inr hvalid, .inr ⟨Utf8.encode lead, ?_⟩⟩
    simp [Utf8.encode]

theorem exists_of_head?_flatMap {v : List UInt8} {c : Char}
    (h : (v.flatMap byteText).head? = some c) : ∃ b rest, v = [b] ++ rest ∧ c ∈ byteText b := by
  cases v with
  | nil => simp at h
  | cons b rest =>
      rw [List.flatMap_cons, List.head?_append] at h
      cases hfirst : (byteText b).head? with
      | none => exact absurd (List.head?_eq_none_iff.1 hfirst) (byteText_ne_nil b)
      | some d =>
          obtain rfl : d = c := by simpa [hfirst] using h
          exact ⟨b, rest, rfl, List.mem_of_head? hfirst⟩

theorem exists_of_getLast?_flatMap {v : List UInt8} {c : Char}
    (h : (v.flatMap byteText).getLast? = some c) : ∃ lead b, v = lead ++ [b] ∧ c ∈ byteText b := by
  rcases List.eq_nil_or_concat v with rfl | ⟨lead, b, rfl⟩
  · simp at h
  · rw [List.concat_eq_append, List.flatMap_append, List.flatMap_singleton,
      List.getLast?_append] at h
    cases hlast : (byteText b).getLast? with
    | none => exact absurd (List.getLast?_eq_none_iff.1 hlast) (byteText_ne_nil b)
    | some d =>
        obtain rfl : d = c := by simpa [hlast] using h
        exact ⟨lead, b, List.concat_eq_append, List.mem_of_getLast? hlast⟩

theorem isTight_flatMap_byteText {v : List UInt8} (h : ¬ HasBlankEnd v) :
    IsTight (v.flatMap byteText) := by
  constructor
  · intro c hc
    rw [Bool.eq_false_iff]
    intro hblank
    obtain ⟨b, rest, rfl, hmem⟩ := exists_of_head?_flatMap hc
    refine h ⟨c, hblank, .inl (isAscii_of_mem_byteText hmem), .inl ⟨rest, ?_⟩⟩
    rw [encodeChar_of_blank hmem hblank]
  · intro c hc
    rw [Bool.eq_false_iff]
    intro hblank
    obtain ⟨lead, b, rfl, hmem⟩ := exists_of_getLast?_flatMap hc
    refine h ⟨c, hblank, .inl (isAscii_of_mem_byteText hmem), .inr ⟨lead, ?_⟩⟩
    rw [encodeChar_of_blank hmem hblank]

/-! ## The line -/

/-- The bytes of a line that gives a location, with the line end. -/
def locationLine (value : List UInt8) : List UInt8 :=
  Utf8.encode "Location: ".toList ++ value ++ [0x0D, 0x0A]

/-- The text of such a line gives a value without blanks at its ends. -/
theorem location?_of_isTight {value : List Char} (h : IsTight value) :
    location? [String.ofList (Text.trimEnd ("Location: ".toList ++ value ++ ['\r', '\n']))] =
      some (String.ofList value) := by
  have hline : "Location: ".toList ++ value ++ ['\r', '\n'] =
      "Location".toList ++ ':' :: ([' '] ++ value ++ ['\r', '\n']) := by
    simp
  have hvalue : locationValue? ("Location".toList ++ ':' :: ([' '] ++ value ++ ['\r', '\n'])) =
      some value := by
    rw [locationValue?_append_cons (by decide), if_pos (by decide),
      Text.trim_append_of_blank (List.all_eq_true.1 (by decide)) (List.all_eq_true.1 (by decide)),
      h.trim_eq]
  have hbegins : ¬ BeginsResponse
      (Text.trimEnd ("Location".toList ++ ':' :: ([' '] ++ value ++ ['\r', '\n']))) := by
    rw [BeginsResponse, Text.trim_trimEnd, Text.trim_append_cons (by decide)]
    rintro ⟨rest, hrest⟩
    simp [Text.trimStart, Text.isBlank] at hrest
  rw [location?, List.foldl_cons, List.foldl_nil, step_eq, String.toList_ofList, hline,
    if_neg hbegins, ← locationValue?_trim, Text.trim_trimEnd, locationValue?_trim, hvalue]
  rfl

theorem lineText_encode (text : List Char) : lineText (Utf8.encode text) = Text.trimEnd text := by
  rw [lineText, Utf8.decode?_encode]

theorem lineText_of_not_isValid {bytes : List UInt8} (h : Utf8.isValid bytes = false) :
    lineText bytes = Text.trimEnd (bytes.flatMap byteText) := by
  rw [lineText, Utf8.decode?_eq_none_of_not_isValid h]

theorem isValid_locationLine (value : List UInt8) :
    Utf8.isValid (locationLine value) = Utf8.isValid value := by
  rw [Bool.eq_iff_iff, Utf8.isValid_iff, Utf8.isValid_iff]
  constructor
  · rintro ⟨text, htext⟩
    have hfeed : Utf8.encode text =
        (Utf8.encode "Location: ".toList ++ value ++ [0x0D]) ++ [0x0A] := by
      rw [htext, locationLine]
      simp
    obtain ⟨front, hreturn⟩ := Utf8.exists_encode_of_append_ascii hfeed (by decide)
    obtain ⟨front', hvalue⟩ := Utf8.exists_encode_of_append_ascii hreturn (by decide)
    exact Utf8.exists_encode_of_append hvalue
  · rintro ⟨text, rfl⟩
    refine ⟨"Location: ".toList ++ text ++ ['\r', '\n'], ?_⟩
    rw [Utf8.encode_append, Utf8.encode_append]
    rfl

/--
Whatever bytes without an escape sign and without a blank at either end are sent as a location,
the text that is read stands for exactly these bytes. It is their own text if the line is in
UTF-8, and in ASCII otherwise.
-/
theorem location_keeps_bytes {v : List UInt8} (hpercent : 0x25 ∉ v) (hblank : ¬ HasBlankEnd v) :
    ∃ text, location? [line (locationLine v)] = some text ∧
      Percent.decode (Utf8.encode text.toList) = v ∧
      (Utf8.isValid (locationLine v) = true → Utf8.encode text.toList = v) ∧
      (Utf8.isValid (locationLine v) = false → ∀ c ∈ text.toList, isAscii c = true) := by
  rw [isValid_locationLine]
  cases hvalid : Utf8.isValid v with
  | true =>
      obtain ⟨text, rfl⟩ := Utf8.isValid_iff.1 hvalid
      have hline : locationLine (Utf8.encode text) =
          Utf8.encode ("Location: ".toList ++ text ++ ['\r', '\n']) := by
        rw [Utf8.encode_append, Utf8.encode_append]
        rfl
      refine ⟨String.ofList text, ?_, ?_, fun _ => ?_, fun hfalse => Bool.noConfusion hfalse⟩
      · rw [line, hline, lineText_encode, location?_of_isTight (isTight_of_encode hblank)]
      · rw [String.toList_ofList, Percent.decode_of_not_mem hpercent]
      · rw [String.toList_ofList]
  | false =>
      have hinvalid : Utf8.isValid (locationLine v) = false := by
        rw [isValid_locationLine, hvalid]
      have htext : (locationLine v).flatMap byteText =
          "Location: ".toList ++ v.flatMap byteText ++ ['\r', '\n'] := by
        rw [locationLine, List.flatMap_append, List.flatMap_append]
        rfl
      refine ⟨String.ofList (v.flatMap byteText), ?_, ?_, fun htrue => Bool.noConfusion htrue,
        fun _ c hc => ?_⟩
      · rw [line, lineText_of_not_isValid hinvalid, htext,
          location?_of_isTight (isTight_flatMap_byteText hblank)]
      · rw [String.toList_ofList, decode_flatMap_byteText hpercent]
      · rw [String.toList_ofList] at hc
        obtain ⟨b, _, hb⟩ := List.mem_flatMap.1 hc
        exact isAscii_of_mem_byteText hb

/-- The bytes of a blank beyond ASCII are kept at the front of bytes that are not UTF-8. -/
theorem location_keeps_bytes_broken :
    let v : List UInt8 := [0xC2, 0x85, 0x2F, 0x20, 0xE9]
    0x25 ∉ v ∧ ¬ HasBlankEnd v ∧
      location? [line (locationLine v)] = some "%C2%85/ %E9" ∧
      Percent.decode (Utf8.encode "%C2%85/ %E9".toList) = v := by
  intro v
  have hpercent : 0x25 ∉ v := by decide
  have hblank : ¬ HasBlankEnd v := by
    rintro ⟨c, -, hascii | hvalid, hends⟩
    · have hlow : c.toNat < 0x80 := of_decide_eq_true hascii
      have hbyte : c.toNat.toUInt8.toNat < 0x80 := by rwa [Utf8.toNat_toUInt8 (by omega)]
      rw [Utf8.encodeChar_of_ascii hlow] at hends
      rcases hends with ⟨rest, hfirst⟩ | ⟨lead, hlast⟩
      · have hc2 : c.toNat.toUInt8 = 0xC2 := (List.cons.inj hfirst).1
        exact absurd hbyte (by rw [hc2]; decide)
      · have he9 : c.toNat.toUInt8 = 0xE9 := by
          have hends := congrArg List.getLast? hlast
          rw [List.getLast?_concat] at hends
          exact Option.some.inj hends
        exact absurd hbyte (by rw [he9]; decide)
    · exact absurd hvalid (by decide)
  obtain ⟨text, htext, hdecode, -, -⟩ := location_keeps_bytes hpercent hblank
  have hlocation : location? [line (locationLine v)] = some "%C2%85/ %E9" := by decide +kernel
  obtain rfl : "%C2%85/ %E9" = text := Option.some.inj (hlocation.symm.trans htext)
  exact ⟨hpercent, hblank, hlocation, hdecode⟩

end Header

end LinkHygiene
