import LinkHygiene.Proofs.Text.Utf8Lossy
import LinkHygiene.Text.Utf8Stream

/-!
# Decoding in pieces

What a stream has decoded, followed by the decoding of what it holds back and of all that
is still to come, is the decoding of the whole. This holds of the empty stream and every
piece keeps it, so it does not matter where bytes are cut.
-/

namespace LinkHygiene

namespace Utf8

namespace Stream

/-- The stream that some pieces have been pushed into. -/
def ofPieces (pieces : List (List UInt8)) : Stream :=
  pieces.foldl push empty

/-- A stream that has taken in some bytes, whatever pieces they came in. -/
structure HasRead (s : Stream) (bytes : List UInt8) : Prop where
  decoded (more : List UInt8) :
    s.soFar ++ decodeLossy (s.held ++ more) = decodeLossy (bytes ++ more)
  /-- Only later bytes can tell what the bytes held back are. -/
  undecided : front s.held = .done ∨ front s.held = .unfinished

/-! ## One piece -/

theorem decoded_absorb {fuel : Nat} (text : List Char) {bytes : List UInt8}
    (hfuel : bytes.length < fuel) (more : List UInt8) :
    (absorb fuel text bytes).soFar ++ decodeLossy ((absorb fuel text bytes).held ++ more) =
      text.reverse ++ decodeLossy (bytes ++ more) := by
  induction fuel generalizing text bytes with
  | zero => omega
  | succ fuel ih =>
      unfold absorb
      cases hfront : front bytes with
      | done =>
          obtain rfl := eq_nil_of_front_done hfront
          rfl
      | char c rest =>
          have hlength := length_of_front_char hfront
          have hmore := decodeLossy_of_char (front_append_of_char hfront more)
          have hrest := ih (c :: text) (by omega : rest.length < fuel)
          rwa [List.reverse_cons, List.append_assoc, List.singleton_append, ← hmore] at hrest
      | broken rest =>
          have hlength := length_of_front_broken hfront
          have hmore := decodeLossy_of_broken (front_append_of_broken hfront more)
          have hrest := ih (replacement :: text) (by omega : rest.length < fuel)
          rwa [List.reverse_cons, List.append_assoc, List.singleton_append, ← hmore] at hrest
      | unfinished => rfl

theorem undecided_absorb {fuel : Nat} (text : List Char) {bytes : List UInt8}
    (hfuel : bytes.length < fuel) :
    front (absorb fuel text bytes).held = .done ∨
      front (absorb fuel text bytes).held = .unfinished := by
  induction fuel generalizing text bytes with
  | zero => omega
  | succ fuel ih =>
      unfold absorb
      cases hfront : front bytes with
      | done => exact .inl rfl
      | char c rest =>
          have hlength := length_of_front_char hfront
          exact ih (c :: text) (by omega)
      | broken rest =>
          have hlength := length_of_front_broken hfront
          exact ih (replacement :: text) (by omega)
      | unfinished => exact .inr hfront

theorem HasRead.empty : HasRead empty [] :=
  ⟨fun _ => rfl, .inl rfl⟩

theorem HasRead.push {s : Stream} {bytes : List UInt8} (h : s.HasRead bytes)
    (piece : List UInt8) : (s.push piece).HasRead (bytes ++ piece) := by
  have hfuel := Nat.lt_succ_self (s.held ++ piece).length
  refine ⟨fun more => ?_, undecided_absorb s.text hfuel⟩
  calc (s.push piece).soFar ++ decodeLossy ((s.push piece).held ++ more)
      = s.soFar ++ decodeLossy (s.held ++ piece ++ more) := decoded_absorb s.text hfuel more
    _ = s.soFar ++ decodeLossy (s.held ++ (piece ++ more)) := by rw [List.append_assoc]
    _ = decodeLossy (bytes ++ (piece ++ more)) := h.decoded (piece ++ more)
    _ = decodeLossy (bytes ++ piece ++ more) := by rw [List.append_assoc]

/-! ## All pieces -/

theorem HasRead.foldl {s : Stream} {bytes : List UInt8} (h : s.HasRead bytes)
    (pieces : List (List UInt8)) :
    (pieces.foldl Stream.push s).HasRead (bytes ++ pieces.flatten) := by
  induction pieces generalizing s bytes with
  | nil => rwa [List.flatten_nil, List.append_nil]
  | cons piece pieces ih =>
      rw [List.flatten_cons, ← List.append_assoc]
      exact ih (h.push piece)

theorem hasRead_ofPieces (pieces : List (List UInt8)) :
    (ofPieces pieces).HasRead pieces.flatten :=
  HasRead.empty.foldl pieces

/-! ## What a stream is like -/

section

variable {s : Stream} {bytes : List UInt8}

/-- The end of the input decides what has been held back. -/
theorem HasRead.finish_eq (h : s.HasRead bytes) : s.finish = decodeLossy bytes := by
  have hdecoded := h.decoded []
  rwa [List.append_nil, List.append_nil] at hdecoded

/-- A character can go on behind the bytes held back. -/
theorem HasRead.exists_encodeChar_eq (h : s.HasRead bytes) :
    ∃ c more, more ≠ [] ∧ encodeChar c = s.held ++ more := by
  rcases h.undecided with hheld | hheld
  · rw [eq_nil_of_front_done hheld]
    exact ⟨replacement, _, List.ne_nil_of_length_pos (length_encodeChar_pos replacement), rfl⟩
  · exact (exists_of_front_unfinished hheld).2

theorem HasRead.length_held_le (h : s.HasRead bytes) : s.held.length ≤ 3 := by
  obtain ⟨c, more, hmore, hc⟩ := h.exists_encodeChar_eq
  have hfour := length_encodeChar_le c
  have hpos := List.length_pos_iff.2 hmore
  rw [hc, List.length_append] at hfour
  omega

/-- What has been decoded stays, whatever comes later. -/
theorem HasRead.soFar_isPrefix (h : s.HasRead bytes) (more : List UInt8) :
    s.soFar <+: decodeLossy (bytes ++ more) :=
  ⟨_, h.decoded more⟩

theorem HasRead.finish_eq_soFar (h : s.HasRead bytes) :
    s.finish = s.soFar ++ if s.held = [] then [] else [replacement] := by
  unfold finish soFar
  rcases h.undecided with hheld | hheld
  · rw [eq_nil_of_front_done hheld]
    rfl
  · rw [decodeLossy_of_unfinished hheld, if_neg (exists_of_front_unfinished hheld).1]

end

/--
Bytes that come in pieces are decoded as if they came at once: each maximal subpart that is
not UTF-8 becomes one U+FFFD. At any time at most three bytes are held back, with which a
character begins but does not end; the text so far only grows, and if the input ends here, at
most one U+FFFD is added to it.
-/
theorem finish_ofPieces (pieces later : List (List UInt8)) :
    (ofPieces pieces).finish = decodeLossy pieces.flatten ∧
      (∀ text, Reads pieces.flatten text ↔ text = (ofPieces pieces).finish) ∧
      (ofPieces pieces).held.length ≤ 3 ∧
      (∃ c more, more ≠ [] ∧ encodeChar c = (ofPieces pieces).held ++ more) ∧
      (ofPieces pieces).soFar <+: (ofPieces (pieces ++ later)).finish ∧
      (ofPieces pieces).finish =
        (ofPieces pieces).soFar ++ if (ofPieces pieces).held = [] then [] else [replacement] := by
  have h := hasRead_ofPieces pieces
  refine ⟨h.finish_eq, fun text => ?_, h.length_held_le, h.exists_encodeChar_eq, ?_,
    h.finish_eq_soFar⟩
  · rw [reads_iff, h.finish_eq]
    exact eq_comm
  · rw [(hasRead_ofPieces (pieces ++ later)).finish_eq, List.flatten_append]
    exact h.soFar_isPrefix later.flatten

/-- An E-acute cut in two, and a euro sign that does not end. -/
example : (ofPieces [[0xC3], [], [0xA9, 0xE2], [0x82]]).finish = ['é', replacement] := by decide

end Stream

end Utf8

end LinkHygiene
