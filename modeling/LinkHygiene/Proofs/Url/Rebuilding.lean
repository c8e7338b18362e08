import LinkHygiene.Proofs.Url.Shape

/-!
# Rebuilt queries

A query that is rebuilt from names and values holds exactly these, whatever characters they
are made of: what is written for them is plain letters, digits and signs, none of which ends
a query. All other parts of a URL with a host stay as they are. So once a query has been
rebuilt from its own pairs, doing so again changes nothing.
-/

namespace LinkHygiene

namespace Form

/-! ## Written characters -/

/-- The characters with which queries are written. -/
def isWritten (c : Char) : Bool :=
  isPlain c || structural.contains c

theorem isPlain_hexChar {n : Nat} (h : n < 16) : isPlain (Percent.hexChar n) = true := by
  revert h
  revert n
  decide

theorem isWritten_of_mem_escapeByte {c : Char} {b : UInt8} (h : c ∈ Percent.escapeByte b) :
    isWritten c = true := by
  rcases Percent.mem_escapeByte h with rfl | ⟨n, hn, rfl⟩
  · decide
  · rw [isWritten, isPlain_hexChar hn, Bool.true_or]

theorem isWritten_of_mem_encodeText {c : Char} {s : List Char} (h : c ∈ encodeText s) :
    isWritten c = true := by
  obtain ⟨d, _, hd⟩ := List.mem_flatMap.1 h
  unfold encodeChar at hd
  by_cases hplain : isPlain d = true
  · rw [if_pos hplain] at hd
    obtain rfl := List.mem_singleton.1 hd
    rw [isWritten, hplain, Bool.true_or]
  · rw [if_neg hplain] at hd
    by_cases hblank : d = ' '
    · rw [if_pos hblank] at hd
      obtain rfl := List.mem_singleton.1 hd
      decide
    · rw [if_neg hblank] at hd
      obtain ⟨b, _, hb⟩ := List.mem_flatMap.1 hd
      exact isWritten_of_mem_escapeByte hb

theorem isWritten_of_mem_encodePair {c : Char} {p : Pair} (h : c ∈ encodePair p) :
    isWritten c = true := by
  rw [encodePair, List.mem_append, List.mem_cons] at h
  rcases h with hname | rfl | hvalue
  · exact isWritten_of_mem_encodeText hname
  · decide
  · exact isWritten_of_mem_encodeText hvalue

theorem isWritten_of_mem_encode {c : Char} {pairs : List Pair} (h : c ∈ encode pairs) :
    isWritten c = true := by
  rcases Text.mem_joinWith h with hseparator | ⟨field, hfield, hc⟩
  · obtain rfl := List.mem_singleton.1 hseparator
    decide
  · obtain ⟨p, _, rfl⟩ := List.mem_map.1 hfield
    exact isWritten_of_mem_encodePair hc

end Form

namespace Url

/-! ## Rebuilding -/

theorem query_setQueryPairs_eq_none_iff {u : Url} {pairs : List Form.Pair} :
    (u.setQueryPairs pairs).query = none ↔ pairs = [] := by
  constructor
  · intro h
    cases pairs with
    | nil => rfl
    | cons p rest =>
        rw [setQueryPairs_of_ne_nil u (List.cons_ne_nil p rest)] at h
        cases h
  · rintro rfl
    exact query_setQueryPairs_nil u

theorem isWritten_of_mem_query {u : Url} {pairs : List Form.Pair} {query : String}
    (h : (u.setQueryPairs pairs).query = some query) :
    ∀ c ∈ query.toList, Form.isWritten c = true := by
  intro c hc
  have hne : pairs ≠ [] := by
    rintro rfl
    rw [query_setQueryPairs_nil] at h
    cases h
  rw [setQueryPairs_of_ne_nil u hne] at h
  obtain rfl := Option.some.inj h
  rw [String.toList_ofList] at hc
  exact Form.isWritten_of_mem_encode hc

/--
A URL with a host whose query is rebuilt from pairs holds exactly these pairs, and has no
query if there are none. What is written for them stays within the query, and all other
parts of the URL are those from before. A query that has been rebuilt from its own pairs is
not changed by rebuilding it again. URLs are anchored when they are read
(`anchored_of_parse`), and stay so.
-/
theorem rebuilding_is_lossless {u : Url} (hanchored : u.Anchored) {host : String}
    (hhost : u.hostText? = some host) :
    (∀ pairs : List Form.Pair,
      let v := u.setQueryPairs pairs
      v.queryPairs = pairs ∧ (v.query = none ↔ pairs = []) ∧
        (∀ query, v.query = some query → ∀ c ∈ query.toList, Form.isWritten c = true) ∧
        v.scheme = u.scheme ∧ v.authority = u.authority ∧ v.path = u.path ∧
        v.fragment = u.fragment ∧ v.Anchored) ∧
    let v := u.setQueryPairs u.queryPairs
    v.setQueryPairs v.queryPairs = v := by
  have hplain := hanchored.isPlain_of_host hhost
  constructor
  · intro pairs v
    have hstays : v.isPlain = false := (isPlain_setQueryPairs u pairs).trans hplain
    exact ⟨queryPairs_setQueryPairs u pairs, query_setQueryPairs_eq_none_iff,
      fun _ => isWritten_of_mem_query, scheme_setQueryPairs u pairs,
      authority_setQueryPairs u pairs, path_setQueryPairs hplain pairs,
      fragment_setQueryPairs u pairs, anchored_of_segments hstays⟩
  · intro v
    have hpairs : v.queryPairs = u.queryPairs := queryPairs_setQueryPairs u u.queryPairs
    rw [hpairs]
    exact setQueryPairs_setQueryPairs hplain u.queryPairs u.queryPairs

/-- Separators, escapes, a sign for a fragment, a blank and an empty pair come back. -/
theorem rebuilding_is_lossless_signs :
    let u : Url := ⟨"https", some ⟨"me", "pw", some (.name "a.example"), some 8080⟩,
      .segments ["p", ""], some "old", some "top"⟩
    let pairs : List Form.Pair := [⟨"a&b=c", "1+1 %41#"⟩, ⟨"", ""⟩, ⟨"a&b=c", "é"⟩]
    u.hostText? = some "a.example" ∧
      (u.setQueryPairs pairs).query = some "a%26b%3Dc=1%2B1+%2541%23&=&a%26b%3Dc=%C3%A9" ∧
      (u.setQueryPairs pairs).queryPairs = pairs ∧
      (u.setQueryPairs pairs).authority = u.authority ∧
      (u.setQueryPairs pairs).path = u.path := by
  intro u pairs
  have hhost : u.hostText? = some "a.example" := by decide +kernel
  obtain ⟨hrebuilt, _⟩ := rebuilding_is_lossless (anchored_of_segments rfl) hhost
  obtain ⟨hpairs, _, _, _, hauthority, hpath, _, _⟩ := hrebuilt pairs
  exact ⟨hhost, by decide +kernel, hpairs, hauthority, hpath⟩

end Url

end LinkHygiene
