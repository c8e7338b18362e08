import LinkHygiene.Proofs.Text.Utf8Front

/-!
# What lossy decoding means

Bytes fall apart in one way into characters and pieces that are none: each such piece is
the longest run of bytes that could have begun a character, or else one byte. Decoding
gives the characters, and U+FFFD once for each piece.
-/

namespace LinkHygiene

namespace Utf8

def Begins (bytes : List UInt8) : Prop :=
  ∃ c, bytes <+: encodeChar c

theorem Begins.shorten {bytes longer : List UInt8} (h : Begins longer)
    (hle : bytes <+: longer) : Begins bytes := by
  obtain ⟨c, hc⟩ := h
  exact ⟨c, hle.trans hc⟩

/-- Where no character stands, the bytes that are replaced together. -/
structure MaximalSubpart (bad rest : List UInt8) : Prop where
  nonempty : bad ≠ []
  no_char : ∀ c, ¬ encodeChar c <+: bad ++ rest
  begins : Begins bad ∨ bad.length = 1
  /-- With the next byte no character can begin. -/
  longest : ∀ b, rest.head? = some b → ¬ Begins (bad ++ [b])

/-- What bytes are read as, piece by piece. -/
inductive Reads : List UInt8 → List Char → Prop where
  | done : Reads [] []
  | char (c : Char) {rest text} (h : Reads rest text) : Reads (encodeChar c ++ rest) (c :: text)
  | broken {bad rest text} (hbad : MaximalSubpart bad rest) (h : Reads rest text) :
      Reads (bad ++ rest) (replacement :: text)

/-! ## One way -/

/-- Of two runs at the same place, none ends before the other one. -/
theorem MaximalSubpart.not_shorter {bad bad' more rest' : List UInt8} {b : UInt8}
    (h : MaximalSubpart bad (b :: more ++ rest')) (h' : MaximalSubpart bad' rest') :
    bad' ≠ bad ++ b :: more := by
  rintro rfl
  have hlength : (bad ++ b :: more).length ≠ 1 := by
    have hpos := List.length_pos_iff.2 h.nonempty
    simp only [List.length_append, List.length_cons]
    omega
  have hbegins := h'.begins.resolve_right hlength
  refine h.longest b rfl (hbegins.shorten ⟨more, ?_⟩)
  rw [List.append_assoc, List.singleton_append]

theorem MaximalSubpart.unique {bad rest bad' rest' : List UInt8} (h : MaximalSubpart bad rest)
    (h' : MaximalSubpart bad' rest') (heq : bad ++ rest = bad' ++ rest') :
    bad = bad' ∧ rest = rest' := by
  rcases List.append_eq_append_iff.1 heq with ⟨middle, hbad', hrest⟩ | ⟨middle, hbad, hrest'⟩
  · cases middle with
    | nil => exact ⟨by simpa using hbad'.symm, by simpa using hrest⟩
    | cons b more =>
        rw [hrest] at h
        exact absurd hbad' (h.not_shorter h')
  · cases middle with
    | nil => exact ⟨by simpa using hbad, by simpa using hrest'.symm⟩
    | cons b more =>
        rw [hrest'] at h'
        exact absurd hbad (h'.not_shorter h)

theorem Reads.eq_nil {text : List Char} (h : Reads [] text) : text = [] := by
  generalize hbytes : ([] : List UInt8) = bytes at h
  cases h with
  | done => rfl
  | char c _ =>
      have hpos := length_encodeChar_pos c
      have hlength := congrArg List.length hbytes
      simp only [List.length_nil, List.length_append] at hlength
      omega
  | broken hbad _ => exact absurd (List.append_eq_nil_iff.1 hbytes.symm).1 hbad.nonempty

theorem Reads.of_char {c : Char} {rest : List UInt8} {text : List Char}
    (h : Reads (encodeChar c ++ rest) text) : ∃ t, text = c :: t ∧ Reads rest t := by
  generalize hbytes : encodeChar c ++ rest = bytes at h
  have hfront : front bytes = .char c rest := hbytes ▸ front_encodeChar c rest
  cases h with
  | done => simp [front] at hfront
  | char c' h' =>
      rw [front_encodeChar] at hfront
      injection hfront with hc hrest
      exact ⟨_, by rw [hc], hrest ▸ h'⟩
  | broken hbad _ => exact absurd ⟨rest, hbytes⟩ (hbad.no_char c)

theorem Reads.of_broken {bad rest : List UInt8} {text : List Char}
    (hbad : MaximalSubpart bad rest) (h : Reads (bad ++ rest) text) :
    ∃ t, text = replacement :: t ∧ Reads rest t := by
  generalize hbytes : bad ++ rest = bytes at h
  cases h with
  | done => exact absurd (List.append_eq_nil_iff.1 hbytes).1 hbad.nonempty
  | @char c rest' _ _ => exact absurd ⟨rest', hbytes.symm⟩ (hbad.no_char c)
  | broken hbad' h' =>
      obtain ⟨_, rfl⟩ := hbad.unique hbad' hbytes
      exact ⟨_, rfl, h'⟩

/-- Bytes are read in one way only. -/
theorem Reads.unique {bytes : List UInt8} {text text' : List Char} (h : Reads bytes text)
    (h' : Reads bytes text') : text = text' := by
  induction h generalizing text' with
  | done => exact h'.eq_nil.symm
  | char c _ ih =>
      obtain ⟨t, rfl, ht⟩ := h'.of_char
      rw [ih ht]
  | broken hbad _ ih =>
      obtain ⟨t, rfl, ht⟩ := Reads.of_broken hbad h'
      rw [ih ht]

/-! ## Decoding -/

theorem not_prefix_of_front {bytes : List UInt8} (h : ∀ c rest, front bytes ≠ .char c rest)
    (c : Char) : ¬ encodeChar c <+: bytes := by
  rintro ⟨rest, rfl⟩
  exact h c rest (front_encodeChar c rest)

theorem maximalSubpart_of_unfinished {bytes : List UInt8} (h : front bytes = .unfinished) :
    MaximalSubpart bytes [] := by
  obtain ⟨hne, c, more, _, hc⟩ := exists_of_front_unfinished h
  refine ⟨hne, ?_, .inl ⟨c, more, hc.symm⟩, fun b hb => by simp at hb⟩
  rw [List.append_nil]
  exact not_prefix_of_front (by simp [h])

theorem exists_maximalSubpart_of_broken {bytes rest : List UInt8}
    (h : front bytes = .broken rest) :
    ∃ bad, bytes = bad ++ rest ∧ MaximalSubpart bad rest := by
  have hopens := opens_front bytes
  rw [h] at hopens
  have hstuck : ∀ bad, (∀ more, ∃ rest', front (bad ++ more) = .broken rest') → ¬ Begins bad := by
    rintro bad hbroken ⟨c, more, hc⟩
    obtain ⟨rest', hrest'⟩ := hbroken more
    rw [hc, ← List.append_nil (encodeChar c), front_encodeChar] at hrest'
    contradiction
  cases hopens with
  | @misfit lead passed fits left b hpasses hb rest =>
      obtain ⟨_, c, more, _, hc⟩ := exists_of_front_unfinished (front_of_opens (.short hpasses))
      refine ⟨lead :: passed, rfl, List.cons_ne_nil lead passed, ?_, .inl ⟨c, more, hc.symm⟩, ?_⟩
      · exact not_prefix_of_front (by simp [h])
      · intro b' hb'
        obtain rfl := Option.some.inj hb'
        apply hstuck
        intro more
        refine ⟨b :: more, ?_⟩
        rw [List.append_assoc]
        exact front_of_opens (.misfit hpasses hb more)
  | @astray lead hlead rest =>
      refine ⟨[lead], rfl, List.cons_ne_nil lead [], ?_, .inr rfl, ?_⟩
      · exact not_prefix_of_front (by simp [h])
      · intro b _
        apply hstuck
        intro more
        exact ⟨b :: more, front_of_opens (.astray hlead (b :: more))⟩

/-- With enough fuel, decoding goes on as bytes are read. -/
theorem exists_reads_decodeFrom {fuel : Nat} (text : List Char) {bytes : List UInt8}
    (hfuel : bytes.length < fuel) :
    ∃ t, Reads bytes t ∧ decodeFrom fuel text bytes = text.reverse ++ t := by
  induction fuel generalizing text bytes with
  | zero => omega
  | succ fuel ih =>
      unfold decodeFrom
      cases hfront : front bytes with
      | done =>
          obtain rfl := eq_nil_of_front_done hfront
          exact ⟨[], .done, (List.append_nil _).symm⟩
      | char c rest =>
          have hlength := length_of_front_char hfront
          obtain ⟨t, ht, hdecode⟩ := ih (c :: text) (by omega : rest.length < fuel)
          exact ⟨c :: t, eq_of_front_char hfront ▸ ht.char c, by simpa using hdecode⟩
      | broken rest =>
          have hlength := length_of_front_broken hfront
          obtain ⟨t, ht, hdecode⟩ := ih (replacement :: text) (by omega : rest.length < fuel)
          obtain ⟨bad, rfl, hbad⟩ := exists_maximalSubpart_of_broken hfront
          exact ⟨replacement :: t, .broken hbad ht, by simpa using hdecode⟩
      | unfinished =>
          have hreads := Reads.broken (maximalSubpart_of_unfinished hfront) .done
          rw [List.append_nil] at hreads
          exact ⟨[replacement], hreads, List.reverse_cons⟩

/-- Decoding gives what bytes are read as. -/
theorem reads_iff {bytes : List UInt8} {text : List Char} :
    Reads bytes text ↔ decodeLossy bytes = text := by
  obtain ⟨t, ht, hdecode⟩ := exists_reads_decodeFrom [] (Nat.lt_succ_self bytes.length)
  have hlossy : decodeLossy bytes = t := hdecode
  constructor
  · intro h
    rw [hlossy, h.unique ht]
  · rintro rfl
    exact hlossy ▸ ht

/-! ## Step by step -/

theorem decodeLossy_of_char {bytes rest : List UInt8} {c : Char}
    (h : front bytes = .char c rest) : decodeLossy bytes = c :: decodeLossy rest := by
  rw [← reads_iff, eq_of_front_char h]
  exact .char c (reads_iff.2 rfl)

theorem decodeLossy_of_broken {bytes rest : List UInt8} (h : front bytes = .broken rest) :
    decodeLossy bytes = replacement :: decodeLossy rest := by
  obtain ⟨bad, rfl, hbad⟩ := exists_maximalSubpart_of_broken h
  exact reads_iff.1 (.broken hbad (reads_iff.2 rfl))

theorem decodeLossy_of_unfinished {bytes : List UInt8} (h : front bytes = .unfinished) :
    decodeLossy bytes = [replacement] := by
  have hreads := Reads.broken (maximalSubpart_of_unfinished h) .done
  rw [List.append_nil] at hreads
  exact reads_iff.1 hreads

end Utf8

end LinkHygiene
