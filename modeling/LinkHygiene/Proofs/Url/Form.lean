import LinkHygiene.Proofs.Text.Split
import LinkHygiene.Proofs.Url.Percent
import LinkHygiene.Url.Form

/-!
# Writing and reading queries

The query written for a list of names and values holds exactly that list, whatever
characters the names and values are made of. Escapes are undone byte by byte, and
neither separator can stand inside an escaped name or value.
-/

namespace LinkHygiene

namespace Form

/-! ## Names and values -/

/-- The characters that structure a query, or are read as something else. -/
def structural : List Char := ['&', '=', '+', '%']

theorem not_structural_of_isPlain {c : Char} (h : isPlain c = true) : c ∉ structural := by
  intro hmem
  simp only [structural, List.mem_cons, List.not_mem_nil, or_false] at hmem
  rcases hmem with rfl | rfl | rfl | rfl <;> revert h <;> decide

theorem ascii_of_isPlain {c : Char} (h : isPlain c = true) : c.toNat < 0x80 := by
  simp only [isPlain, Bool.or_eq_true, Bool.and_eq_true, decide_eq_true_eq, beq_iff_eq,
    Char.le_def, UInt32.le_iff_toNat_le] at h
  rcases h with (((((h | h) | h) | h) | h) | h) | h
  · have : c.toNat ≤ 122 := h.2
    omega
  · have : c.toNat ≤ 90 := h.2
    omega
  · have : c.toNat ≤ 57 := h.2
    omega
  all_goals
    rw [h]
    decide

theorem hexChar_not_structural {n : Nat} (h : n < 16) : Percent.hexChar n ∉ structural := by
  revert h
  revert n
  decide

theorem mem_encodeChar {c d : Char} (h : d ∈ encodeChar c) :
    d = '+' ∨ d = '%' ∨ d ∉ structural := by
  unfold encodeChar at h
  split at h
  · rename_i hplain
    rw [List.mem_singleton] at h
    exact .inr (.inr (h ▸ not_structural_of_isPlain hplain))
  · split at h
    · exact .inl (List.mem_singleton.1 h)
    · obtain ⟨b, _, hb⟩ := List.mem_flatMap.1 h
      rcases Percent.mem_escapeByte hb with rfl | ⟨n, hn, rfl⟩
      · exact .inr (.inl rfl)
      · exact .inr (.inr (hexChar_not_structural hn))

theorem separator_not_mem_encodeText {separator : Char} (h : separator = '&' ∨ separator = '=')
    (s : List Char) : separator ∉ encodeText s := by
  intro hmem
  obtain ⟨c, _, hc⟩ := List.mem_flatMap.1 hmem
  rcases h with rfl | rfl <;> rcases mem_encodeChar hc with hd | hd | hd <;>
    revert hd <;> decide

def readPlus (c : Char) : Char :=
  if c = '+' then ' ' else c

theorem map_readPlus_escapeBytes (bytes : List UInt8) :
    (bytes.flatMap Percent.escapeByte).map readPlus = bytes.flatMap Percent.escapeByte := by
  apply List.map_congr_left (g := id) _ |>.trans (List.map_id _)
  intro c hc
  obtain ⟨b, _, hb⟩ := List.mem_flatMap.1 hc
  have hplus : c ≠ '+' := by
    rcases Percent.mem_escapeByte hb with rfl | ⟨n, hn, rfl⟩
    · decide
    · intro heq
      exact hexChar_not_structural hn (heq ▸ by decide)
  simp [readPlus, hplus]

theorem decode_encodeChar (c : Char) (rest : List UInt8) :
    Percent.decode (Utf8.encode ((encodeChar c).map readPlus) ++ rest) =
      Utf8.encodeChar c ++ Percent.decode rest := by
  unfold encodeChar
  by_cases hplain : isPlain c = true
  · have hstruct := not_structural_of_isPlain hplain
    have hplus : c ≠ '+' := fun h => hstruct (h ▸ by decide)
    have hpercent : c ≠ '%' := fun h => hstruct (h ▸ by decide)
    have hmap : [c].map readPlus = [c] := by simp [readPlus, hplus]
    rw [if_pos hplain, hmap, Utf8.encode_singleton, Percent.decode_encodeChar hpercent]
  · rw [if_neg hplain]
    by_cases hblank : c = ' '
    · subst hblank
      rw [if_pos rfl]
      exact Percent.decode_cons_of_ne (by decide) rest
    · rw [if_neg hblank, Percent.escapeChar, map_readPlus_escapeBytes,
        Percent.decode_encode_escapeBytes]

theorem decode_encodeText (s : List Char) :
    Percent.decode (Utf8.encode ((encodeText s).map readPlus)) = Utf8.encode s := by
  induction s with
  | nil => rfl
  | cons c s ih =>
      have hsplit : encodeText (c :: s) = encodeChar c ++ encodeText s := by
        simp [encodeText]
      rw [hsplit, List.map_append, Utf8.encode_append, decode_encodeChar, ih, Utf8.encode_cons]

theorem decodeText_encodeText (s : List Char) : decodeText (encodeText s) = s := by
  have h : decodeText (encodeText s) =
      Utf8.decodeLossy (Percent.decode (Utf8.encode ((encodeText s).map readPlus))) := rfl
  rw [h, decode_encodeText, Utf8.decodeLossy_encode]

/-! ## Pairs -/

theorem decodePair_encodePair (p : Pair) : decodePair (encodePair p) = p := by
  have hbreak : Text.breakAt (· == '=') (encodePair p) =
      (encodeText p.name.toList, '=' :: encodeText p.value.toList) := by
    apply Text.breakAt_append_cons _ _ (by decide)
    intro d hd
    have hne : d ≠ '=' := fun h => separator_not_mem_encodeText (.inr rfl) _ (h ▸ hd)
    simpa using hne
  simp [decodePair, hbreak, decodeText_encodeText]

theorem ampersand_not_mem_encodePair (p : Pair) : '&' ∉ encodePair p := by
  have hname := separator_not_mem_encodeText (.inl rfl) p.name.toList
  have hvalue := separator_not_mem_encodeText (.inl rfl) p.value.toList
  simp [encodePair, hname, hvalue]

/-- A query holds the pairs it is written for. -/
theorem decode_encode (pairs : List Pair) : decode (encode pairs) = pairs := by
  cases pairs with
  | nil => rfl
  | cons p rest =>
      have hsplit : Text.splitOn '&' (encode (p :: rest)) = (p :: rest).map encodePair := by
        apply Text.splitOn_joinWith (by simp)
        intro field hfield
        obtain ⟨q, _, rfl⟩ := List.mem_map.1 hfield
        exact ampersand_not_mem_encodePair q
      have hfilter : ((p :: rest).map encodePair).filter (fun field => !field.isEmpty) =
          (p :: rest).map encodePair := by
        apply List.filter_eq_self.2
        intro field hfield
        obtain ⟨q, _, rfl⟩ := List.mem_map.1 hfield
        simp [encodePair]
      rw [decode, hsplit, hfilter, List.map_map]
      apply List.map_congr_left (g := id) _ |>.trans (List.map_id _)
      intro q _
      exact decodePair_encodePair q

end Form

end LinkHygiene
