import LinkHygiene.Proofs.Results
import LinkHygiene.Proofs.Url.Query
import LinkHygiene.Url.Edit

/-!
# The shape of URLs

What is read off a text has an authority only in front of a path of segments. So a URL
with a host can be moved to another one, and its path stays a path of segments.
-/

namespace LinkHygiene

namespace Url

/-- Whether a URL has an authority only in front of a path of segments. -/
def Anchored (u : Url) : Prop :=
  u.isPlain = true → u.authority = none

theorem anchored_of_segments {u : Url} (h : u.isPlain = false) : u.Anchored := by
  intro hplain
  rw [h] at hplain
  contradiction

theorem Anchored.isPlain_of_host {u : Url} (h : u.Anchored) {host : String}
    (hhost : u.hostText? = some host) : u.isPlain = false := by
  cases hplain : u.isPlain with
  | false => rfl
  | true => simp [hostText?, host?, h hplain] at hhost

theorem hostText?_of_host? {u : Url} {host : String} (h : u.host? = some (.name host)) :
    u.hostText? = some host := by
  simp [hostText?, h, Host.render]

/-! ## Reading -/

/-- Whether a URL is put together of a scheme and a path of segments, for a reference. -/
def AssembledFor (u : Url) (scheme : String) (r : Reference) : Prop :=
  ∃ authority list, u = assemble scheme authority (.segments list) r

theorem assembled_of_ok {scheme : String} {authority : Option Authority} {list : List String}
    {r : Reference} {u : Url}
    (h : (.ok (assemble scheme authority (.segments list) r) : Except UrlError Url) = .ok u) :
    u.AssembledFor scheme r :=
  ⟨authority, list, (Except.ok.inj h).symm⟩

theorem AssembledFor.anchored {u : Url} {scheme : String} {r : Reference}
    (h : u.AssembledFor scheme r) : u.Anchored := by
  obtain ⟨authority, list, rfl⟩ := h
  exact anchored_of_segments rfl

theorem assembled_readNetwork {scheme : String} {r : Reference} {s : List Char} {u : Url}
    (h : readNetwork scheme r s = .ok u) : u.AssembledFor scheme r := by
  unfold readNetwork at h
  split at h
  · simp at h
  · exact assembled_of_ok h

theorem assembled_readFileNetwork {r : Reference} {s : List Char} {u : Url}
    (h : readFileNetwork r s = .ok u) : u.AssembledFor fileScheme r := by
  unfold readFileNetwork at h
  dsimp only at h
  split at h
  · exact assembled_of_ok h
  · split at h
    · simp at h
    · exact assembled_of_ok h

theorem assembled_readFile {r : Reference} {u : Url} (h : readFile none r = .ok u) :
    u.AssembledFor fileScheme r := by
  unfold readFile at h
  split at h
  · exact assembled_of_ok h
  · split at h
    · split at h
      · split at h
        · exact assembled_readFileNetwork h
        · exact assembled_of_ok h
      · exact assembled_of_ok h
    · exact assembled_of_ok h

theorem anchored_readWithScheme {scheme : String} {r : Reference} {u : Url}
    (h : readWithScheme none scheme r = .ok u) : u.Anchored := by
  unfold readWithScheme at h
  split at h
  · exact (assembled_readFile h).anchored
  · exact (assembled_readNetwork h).anchored
  · split at h
    · exact (assembled_readNetwork h).anchored
    · exact (assembled_of_ok h).anchored
    · obtain rfl := Except.ok.inj h
      exact fun _ => rfl

theorem anchored_of_parse {text : String} {u : Url} (h : parse text = .ok u) : u.Anchored := by
  unfold parse readReference at h
  dsimp only at h
  split at h
  · exact anchored_readWithScheme h
  · simp [readWithoutScheme] at h

/-! ## Changing -/

def takesAsWritten (host : String) : Bool :=
  settingHost? host.toList == some host.toList &&
    (Host.parse host.toList).toOption == some (.name host) &&
    (Host.parseOpaque host.toList).toOption == some (.name host)

theorem setHost?_of_takesAsWritten {host : String} (hhost : takesAsWritten host = true)
    {u : Url} (hplain : u.isPlain = false) :
    u.setHost? host =
      some { u with authority := some { u.authority.getD {} with host := some (.name host) } } := by
  simp only [takesAsWritten, Bool.and_eq_true, beq_iff_eq] at hhost
  obtain ⟨⟨hsetting, hspecial⟩, hopaque⟩ := hhost
  have hparsed : parseHostFor u.kind host.toList = .ok (.name host) := by
    unfold parseHostFor
    split
    · exact eq_ok_of_toOption hspecial
    · exact eq_ok_of_toOption hopaque
  simp [setHost?, hplain, hsetting, hparsed]

/-- A URL that is on a host already stays where it is when it is moved there. -/
theorem setHost?_self {host : String} (hhost : takesAsWritten host = true) {u : Url}
    (hplain : u.isPlain = false) (hself : u.host? = some (.name host)) :
    u.setHost? host = some u := by
  rw [setHost?_of_takesAsWritten hhost hplain]
  obtain ⟨scheme, authority, path, query, fragment⟩ := u
  cases authority with
  | none => simp [host?] at hself
  | some a =>
      obtain ⟨username, password, host', port⟩ := a
      obtain rfl : host' = some (.name host) := hself
      rfl

theorem isPlain_setHost? {u v : Url} {host : String} (h : u.setHost? host = some v) :
    v.isPlain = u.isPlain := by
  unfold setHost? at h
  split at h
  · simp at h
  · split at h
    · simp at h
    · split at h
      · simp at h
      · obtain rfl := Option.some.inj h
        rfl

theorem isPlain_setPath {u : Url} (h : u.isPlain = false) (path : String) :
    (u.setPath path).isPlain = false := by
  cases hpath : u.path with
  | plain text => simp [isPlain, hpath] at h
  | segments list =>
      obtain ⟨list', hread⟩ : ∃ list', u.readPath path.toList = .segments list' := by
        unfold readPath
        simp only [hpath]
        split <;> exact ⟨_, rfl⟩
      simp [setPath, isPlain, hread]

end Url

end LinkHygiene
