import LinkHygiene.Proofs.Url.Percent
import LinkHygiene.Proofs.Url.Reading
import LinkHygiene.Store.Location

/-!
# Which file an address means

The signs that structure an address are escaped where they belong to the path, and so is the
escape sign. Hence the path is read back from its address as it was, even if escapes are part of
its name, and the mode that is asked for is the only query.
-/

namespace LinkHygiene

namespace Store

/-! ## The path in an address -/

/-- Whether a character of a path would be taken for a part of the address. -/
def isReserved (c : Char) : Bool :=
  ['%', ' ', '#', '?', '&'].contains c

theorem escapePathChar_eq (c : Char) :
    escapePathChar c = if isReserved c then Percent.escapeChar c else [c] := by
  unfold escapePathChar
  split
  case h_6 hpercent hblank hnumber hquestion hampersand =>
    have hplain : isReserved c = false := by
      simpa [isReserved] using
        And.intro hpercent ⟨hblank, hnumber, hquestion, hampersand⟩
    rw [hplain]
    rfl
  all_goals decide

/-- The path is escaped as in a URL, with its own set of characters. -/
theorem flatMap_escapePathChar (path : List Char) :
    path.flatMap escapePathChar = Percent.encode isReserved path := by
  rw [funext escapePathChar_eq]
  rfl

theorem toList_pathAddress (path : String) :
    (pathAddress path).toList = addressLead ++ Percent.encode isReserved path.toList := by
  rw [pathAddress, String.toList_ofList, flatMap_escapePathChar]

theorem toList_openAddress (path : String) :
    (openAddress path).toList = (pathAddress path).toList ++ addressMode := by
  rw [openAddress, String.toList_append, String.toList_ofList]

/-- Of the reserved characters only the escape sign is left. -/
theorem not_mem_encode_of_isReserved {c : Char} (h : isReserved c = true) (hne : c ≠ '%')
    (path : List Char) : c ∉ Percent.encode isReserved path := by
  have hexChar_isReserved : ∀ n < 16, isReserved (Percent.hexChar n) = false := by decide
  have hdigits : ∀ n < 16, c ≠ Percent.hexChar n := by
    intro n hn heq
    rw [heq, hexChar_isReserved n hn] at h
    cases h
  have hplain : ∀ d ∈ path, isReserved d = false → c ≠ d := by
    intro d _ hd heq
    rw [heq, hd] at h
    cases h
  intro hmem
  exact absurd rfl (Percent.of_mem_encode (P := (c ≠ ·)) hmem hne hdigits hplain)

theorem not_mem_pathAddress {c : Char} (h : isReserved c = true) (hne : c ≠ '%')
    (path : String) : c ∉ (pathAddress path).toList := by
  have hlead : addressLead.any isReserved = false := by decide
  rw [toList_pathAddress, List.mem_append]
  rintro (hmem | hmem)
  · exact List.any_eq_false.1 hlead c hmem h
  · exact not_mem_encode_of_isReserved h hne path.toList hmem

theorem pathAddress_inj {path other : String} :
    pathAddress path = pathAddress other ↔ path = other := by
  rw [← String.toList_inj, toList_pathAddress, toList_pathAddress, List.append_cancel_left_eq,
    Percent.encode_inj (by decide), String.toList_inj]

theorem openAddress_inj {path other : String} :
    openAddress path = openAddress other ↔ path = other := by
  rw [← String.toList_inj, toList_openAddress, toList_openAddress, List.append_cancel_right_eq,
    String.toList_inj, pathAddress_inj]

/-! ## Reading an address -/

/-- With a mode, an address has no other query, and no fragment. -/
theorem ofText_openAddress (path : String) :
    Url.Reference.ofText (openAddress path).toList =
      ⟨(pathAddress path).toList, some "mode=rwc".toList, none⟩ := by
  have hmode : (openAddress path).toList =
      (pathAddress path).toList ++ '?' :: "mode=rwc".toList :=
    toList_openAddress path
  have hquestion : '?' ∉ (pathAddress path).toList :=
    not_mem_pathAddress (by decide) (by decide) path
  have hnumber : '#' ∉ (openAddress path).toList := by
    rw [toList_openAddress, List.mem_append]
    rintro (hmem | hmem)
    · exact not_mem_pathAddress (by decide) (by decide) path hmem
    · exact absurd hmem (by decide)
  unfold Url.Reference.ofText
  rw [Url.cutAt_of_not_mem hnumber]
  dsimp only
  rw [hmode, Url.cutAt_append hquestion]

/--
What stands for a path in its address gives the path back when the escapes are undone, and has
none of the signs that would end it or be read as something else. The mode that is asked for is
the only query of the address, and no other path has the same one.
-/
theorem address_leads_to_path (path : String) :
    (∃ place, (pathAddress path).toList = "sqlite://".toList ++ place ∧
      Utf8.decode? (Percent.decode (Utf8.encode place)) = some path.toList ∧
      '?' ∉ place ∧ '#' ∉ place ∧ '&' ∉ place ∧ ' ' ∉ place ∧
      Url.Reference.ofText (openAddress path).toList =
        ⟨"sqlite://".toList ++ place, some "mode=rwc".toList, none⟩) ∧
    ∀ other, (pathAddress path = pathAddress other ↔ path = other) ∧
      (openAddress path = openAddress other ↔ path = other) := by
  have haddress : (pathAddress path).toList =
      "sqlite://".toList ++ Percent.encode isReserved path.toList :=
    toList_pathAddress path
  constructor
  · refine ⟨_, haddress, ?decoded, ?question, ?number, ?ampersand, ?blank, ?query⟩
    case decoded => rw [Percent.decode_encode (by decide), Utf8.decode?_encode]
    case query => rw [ofText_openAddress, haddress]
    all_goals exact not_mem_encode_of_isReserved (by decide) (by decide) path.toList
  · intro other
    exact ⟨pathAddress_inj, openAddress_inj⟩

/-- An escape in the name of a file is part of the name. -/
example : openAddress "/my rules/a%20b#1.db" =
    "sqlite:///my%20rules/a%2520b%231.db?mode=rwc" := by
  decide

end Store

end LinkHygiene
