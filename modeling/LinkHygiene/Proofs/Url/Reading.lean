import LinkHygiene.Proofs.Url.Authority
import LinkHygiene.Proofs.Url.Shape

/-!
# Reading what is written

A web address that is written out is read again as a web address with the same scheme, as
long as its host is read as a host again. Nothing before its path is lost when the text is
trimmed, and what follows the authority begins with a sign that ends it.
-/

namespace LinkHygiene

namespace Url

/-! ## Web addresses as they are read -/

/-- Whether a URL has the parts of a web address: an authority with a host, and segments. -/
structure Sited (u : Url) : Prop where
  isPlain : u.isPlain = false
  authority : ∃ a, u.authority = some a ∧ a.WellFormed

theorem scheme_of_isHttp {u : Url} (h : u.isHttp = true) :
    u.scheme = "http" ∨ u.scheme = "https" := by
  simpa [isHttp] using h

theorem isSpecial_of_isHttp {u : Url} (h : u.isHttp = true) :
    (SchemeKind.ofScheme u.scheme).isSpecial = true := by
  rcases scheme_of_isHttp h with hscheme | hscheme <;> rw [hscheme] <;> rfl

theorem sited_of_readNetwork {scheme : String} {r : Reference} {s : List Char} {u : Url}
    (h : readNetwork scheme r s = .ok u) (hhttp : u.isHttp = true) : u.Sited := by
  unfold readNetwork at h
  split at h
  · simp at h
  · rename_i a path hauthority
    obtain rfl := Except.ok.inj h
    exact ⟨rfl, a, rfl, wellFormed_of_readAuthority (isSpecial_of_isHttp hhttp) hauthority⟩

theorem not_isHttp_of_file {r : Reference} {u : Url} (h : u.AssembledFor fileScheme r) :
    u.isHttp = false := by
  obtain ⟨authority, list, rfl⟩ := h
  rfl

theorem not_isHttp_of_other {scheme : String} (h : SchemeKind.ofScheme scheme = .other)
    {u : Url} (hscheme : u.scheme = scheme) : u.isHttp = false := by
  rw [Bool.eq_false_iff]
  intro hhttp
  have hspecial := isSpecial_of_isHttp hhttp
  rw [hscheme, h] at hspecial
  contradiction

/-- Whatever is read as a web address has the parts of one. -/
theorem sited_of_parse {text : String} {u : Url} (h : parse text = .ok u)
    (hhttp : u.isHttp = true) : u.Sited := by
  unfold parse readReference at h
  dsimp only at h
  split at h
  · unfold readWithScheme at h
    split at h
    · rw [not_isHttp_of_file (assembled_readFile h)] at hhttp
      contradiction
    · exact sited_of_readNetwork h hhttp
    · rename_i hother
      split at h
      · exact sited_of_readNetwork h hhttp
      · obtain rfl := Except.ok.inj h
        rw [not_isHttp_of_other hother rfl] at hhttp
        contradiction
      · obtain rfl := Except.ok.inj h
        rw [not_isHttp_of_other hother rfl] at hhttp
        contradiction
  · simp [readWithoutScheme] at h

/-! ## Changing web addresses -/

/-- Whether a URL has the scheme of another one, and the parts of a web address with it. -/
def KeepsSite (u v : Url) : Prop :=
  v.scheme = u.scheme ∧ (u.kind.isSpecial = true → u.Sited → v.Sited)

namespace KeepsSite

variable {u v w : Url}

theorem refl (u : Url) : u.KeepsSite u :=
  ⟨rfl, fun _ h => h⟩

theorem trans (huv : u.KeepsSite v) (hvw : v.KeepsSite w) : u.KeepsSite w := by
  refine ⟨hvw.1.trans huv.1, fun hspecial h => hvw.2 ?_ (huv.2 hspecial h)⟩
  rw [kind, huv.1]
  exact hspecial

theorem of_parts (hscheme : v.scheme = u.scheme) (hauthority : v.authority = u.authority)
    (hplain : u.isPlain = false → v.isPlain = false) : u.KeepsSite v := by
  refine ⟨hscheme, fun _ h => ⟨hplain h.isPlain, ?_⟩⟩
  rw [hauthority]
  exact h.authority

theorem setHost? {host : String} (h : u.setHost? host = some v) : u.KeepsSite v := by
  have hplain := isPlain_setHost? h
  unfold Url.setHost? at h
  split at h
  · simp at h
  · split at h
    · simp at h
    · split at h
      · simp at h
      · rename_i name hname
        obtain rfl := Option.some.inj h
        refine ⟨rfl, fun hspecial hu => ⟨hplain.trans hu.isPlain, _, rfl, ?_⟩⟩
        obtain ⟨a, ha, hwell⟩ := hu.authority
        rw [parseHostFor, if_pos hspecial] at hname
        rw [ha, Option.getD_some]
        exact ⟨hwell.username, hwell.password, ⟨name, rfl, Host.delimited_of_parse hname⟩,
          hwell.port⟩

theorem setPath (u : Url) (path : String) : u.KeepsSite (u.setPath path) :=
  of_parts rfl rfl fun h => isPlain_setPath h path

theorem setQueryPairs (u : Url) (pairs : List Form.Pair) : u.KeepsSite (u.setQueryPairs pairs) :=
  of_parts (by simp) (by simp) (by simp)

theorem isHttp_eq (h : u.KeepsSite v) : v.isHttp = u.isHttp := by
  rw [isHttp, isHttp, h.1]

theorem sited {text : String} (h : u.KeepsSite v) (hread : parse text = .ok u)
    (hhttp : v.isHttp = true) : v.Sited := by
  rw [h.isHttp_eq] at hhttp
  exact h.2 (isSpecial_of_isHttp hhttp) (sited_of_parse hread hhttp)

end KeepsSite

/-! ## Trimming -/

theorem dropWhile_append_of_not {p : Char → Bool} {s : List Char} (rest : List Char)
    (h : ∀ c ∈ s, p c = false) (hne : s ≠ []) : (s ++ rest).dropWhile p = s ++ rest := by
  cases s with
  | nil => exact absurd rfl hne
  | cons c s => simp [h c List.mem_cons_self]

theorem not_isIgnored_of_not_isMargin {c : Char} (h : isMargin c = false) :
    isIgnored c = false := by
  cases hignored : isIgnored c with
  | false => rfl
  | true =>
      simp only [isIgnored, Bool.or_eq_true, beq_iff_eq] at hignored
      rcases hignored with (rfl | rfl) | rfl <;> simp [isMargin] at h

theorem normalizeInput_append {lead : List Char} (h : ∀ c ∈ lead, isMargin c = false)
    (hne : lead ≠ []) (rest : List Char) :
    normalizeInput (lead ++ rest) =
      lead ++ (rest.reverse.dropWhile isMargin).reverse.filter fun c => !isIgnored c := by
  have hreverse : ∀ c ∈ lead.reverse, isMargin c = false := by
    intro c hc
    exact h c (List.mem_reverse.1 hc)
  have hkept : lead.filter (fun c => !isIgnored c) = lead := by
    apply List.filter_eq_self.2
    intro c hc
    rw [not_isIgnored_of_not_isMargin (h c hc)]
    rfl
  unfold normalizeInput
  dsimp only
  rw [dropWhile_append_of_not rest h hne, List.reverse_append, List.dropWhile_append]
  split
  · rename_i hempty
    have hnone : lead.reverse.dropWhile isMargin = lead.reverse := by
      have := dropWhile_append_of_not [] hreverse (by simpa using hne)
      simpa using this
    rw [hnone, List.reverse_reverse, hkept, List.isEmpty_iff.1 hempty]
    simp
  · rw [List.reverse_append, List.reverse_reverse, List.filter_append, hkept]

def EndsAuthority (rest : List Char) : Prop :=
  rest = [] ∨ ∃ c s, rest = c :: s ∧ (c = '/' ∨ c = '?' ∨ c = '#')

theorem isMargin_of_endsAuthority {c : Char} (h : c = '/' ∨ c = '?' ∨ c = '#') :
    isMargin c = false := by
  rcases h with rfl | rfl | rfl <;> decide

/-- Where an authority ends, it ends after trimming as well. -/
theorem exists_normalizeInput_eq {lead rest : List Char} (h : ∀ c ∈ lead, isMargin c = false)
    (hne : lead ≠ []) (hrest : EndsAuthority rest) :
    ∃ rest', normalizeInput (lead ++ rest) = lead ++ rest' ∧ EndsAuthority rest' := by
  rcases hrest with rfl | ⟨c, s, rfl, hc⟩
  · refine ⟨[], ?_, .inl rfl⟩
    rw [normalizeInput_append h hne]
    rfl
  · have hlonger : ∀ d ∈ lead ++ [c], isMargin d = false := by
      intro d hd
      rcases List.mem_append.1 hd with hd | hd
      · exact h d hd
      · rw [List.mem_singleton.1 hd]
        exact isMargin_of_endsAuthority hc
    have hassoc : lead ++ c :: s = (lead ++ [c]) ++ s := by simp
    rw [hassoc, normalizeInput_append hlonger (by simp), List.append_assoc]
    exact ⟨_, rfl, .inr ⟨c, _, rfl, hc⟩⟩

/-! ## Parts -/

theorem cutAt_fst (stop : Char) (s : List Char) :
    (cutAt stop s).1 = s.takeWhile fun c => !(c == stop) := by
  unfold cutAt Text.breakAt
  split
  · rename_i hbreak
    exact (Prod.mk.inj hbreak).1.symm
  · rename_i hbreak
    exact (Prod.mk.inj hbreak).1.symm

theorem cutAt_of_not_mem {stop : Char} {s : List Char} (h : stop ∉ s) :
    cutAt stop s = (s, none) := by
  have hall : ∀ c ∈ s, (!(c == stop)) = true := by
    intro c hc
    have hne : c ≠ stop := fun heq => h (heq ▸ hc)
    simpa using hne
  have hbreak : Text.breakAt (· == stop) (s ++ []) = (s, []) := by
    rw [Text.breakAt, List.takeWhile_append_of_pos hall, List.dropWhile_append_of_pos hall,
      List.takeWhile_nil, List.append_nil, List.dropWhile_nil]
  rw [List.append_nil] at hbreak
  rw [cutAt, hbreak]

theorem cutAt_append {stop : Char} {s : List Char} (h : stop ∉ s) (rest : List Char) :
    cutAt stop (s ++ stop :: rest) = (s, some rest) := by
  have hbreak : Text.breakAt (· == stop) (s ++ stop :: rest) = (s, stop :: rest) := by
    apply Text.breakAt_append_cons _ _ (by simp)
    intro c hc
    have hne : c ≠ stop := fun heq => h (heq ▸ hc)
    simpa using hne
  rw [cutAt, hbreak]

theorem front_ofText (s : List Char) :
    (Reference.ofText s).front =
      (s.takeWhile fun c => !(c == '#')).takeWhile fun c => !(c == '?') := by
  rw [← cutAt_fst '#', ← cutAt_fst '?']
  rfl

theorem exists_front_eq {lead rest : List Char} (hlead : ∀ c ∈ lead, c ≠ '#' ∧ c ≠ '?')
    (hrest : EndsAuthority rest) :
    ∃ path, (Reference.ofText (lead ++ rest)).front = lead ++ path ∧ StartsPath path := by
  rw [front_ofText, List.takeWhile_append_of_pos, List.takeWhile_append_of_pos]
  · refine ⟨_, rfl, ?_⟩
    rcases hrest with rfl | ⟨c, s, rfl, rfl | rfl | rfl⟩
    · exact .inl rfl
    · exact .inr ⟨_, rfl⟩
    · exact .inl rfl
    · exact .inl rfl
  · intro c hc
    simpa using (hlead c hc).2
  · intro c hc
    simpa using (hlead c hc).1

/-! ## Reading again -/

theorem endsAuthority_after {u : Url} (h : u.isPlain = false) :
    EndsAuthority (u.path.render ++ u.renderQuery ++ u.renderFragment) := by
  cases hpath : u.path with
  | plain text => simp [isPlain, hpath] at h
  | segments list =>
      cases list with
      | cons segment list => exact .inr ⟨'/', _, rfl, .inl rfl⟩
      | nil =>
          cases hquery : u.query with
          | some query =>
              rw [renderQuery, hquery]
              exact .inr ⟨'?', _, rfl, .inr (.inl rfl)⟩
          | none =>
              rw [renderQuery, hquery, renderFragment]
              cases u.fragment with
              | some fragment => exact .inr ⟨'#', _, rfl, .inr (.inr rfl)⟩
              | none => exact .inl rfl

theorem readWithScheme_of_isHttp {u : Url} (h : u.isHttp = true) (rest : List Char) :
    scheme? (u.scheme.toList ++ ':' :: rest) = some (u.scheme, rest) ∧
      readWithScheme none u.scheme (.ofText rest) =
        readNetwork u.scheme (.ofText rest)
          ((Reference.ofText rest).front.dropWhile isAnySlash) := by
  rcases scheme_of_isHttp h with hscheme | hscheme
  · rw [hscheme]
    exact ⟨rfl, rfl⟩
  · rw [hscheme]
    exact ⟨rfl, rfl⟩

theorem isMargin_scheme {u : Url} (h : u.isHttp = true) :
    ∀ c ∈ u.scheme.toList, isMargin c = false := by
  rcases scheme_of_isHttp h with hscheme | hscheme <;> rw [hscheme] <;> simp [isMargin]

theorem isInert_parts {c : Char} (h : isInert c = true ∨ c = '@') :
    isMargin c = false ∧ isAnySlash c = false ∧ c ≠ '#' ∧ c ≠ '?' := by
  rcases h with hinert | rfl
  · simp only [isInert, List.contains_cons, Bool.and_eq_true, Bool.not_eq_true',
      Bool.or_eq_false_iff, beq_eq_false_iff_ne] at hinert
    simp [isAnySlash, hinert]
  · decide

/-- The text of a web address is read as its authority, and a path behind it. -/
theorem exists_parse_text_eq {u : Url} (hhttp : u.isHttp = true) (hplain : u.isPlain = false)
    {a : Authority} (ha : u.authority = some a) (hwell : a.WellFormed)
    (hnonempty : a.render ≠ []) :
    ∃ r path, parse u.text = readNetwork u.scheme r (a.render ++ path) ∧ StartsPath path := by
  have hparts : ∀ c ∈ a.render,
      isMargin c = false ∧ isAnySlash c = false ∧ c ≠ '#' ∧ c ≠ '?' :=
    fun c hc => isInert_parts (hwell.legible.mem_render hc)
  have hrender : u.text.toList = u.scheme.toList ++ ':' :: '/' :: '/' :: a.render ++
      (u.path.render ++ u.renderQuery ++ u.renderFragment) := by
    simp [text, render, renderLocation, ha]
  have hmargin : ∀ c ∈ u.scheme.toList ++ ':' :: '/' :: '/' :: a.render, isMargin c = false := by
    intro c hc
    simp only [List.mem_append, List.mem_cons] at hc
    rcases hc with hc | rfl | rfl | rfl | hc
    · exact isMargin_scheme hhttp c hc
    · rfl
    · rfl
    · rfl
    · exact (hparts c hc).1
  obtain ⟨rest, hnormal, hrest⟩ := exists_normalizeInput_eq hmargin (by simp)
    (endsAuthority_after hplain)
  have hstops : ∀ c ∈ '/' :: '/' :: a.render, c ≠ '#' ∧ c ≠ '?' := by
    intro c hc
    simp only [List.mem_cons] at hc
    rcases hc with rfl | rfl | hc
    · decide
    · decide
    · exact (hparts c hc).2.2
  obtain ⟨path, hfront, hpath⟩ := exists_front_eq hstops hrest
  have hdrop : ('/' :: '/' :: a.render ++ path).dropWhile isAnySlash = a.render ++ path := by
    rw [← dropWhile_append_of_not path (fun c hc => (hparts c hc).2.1) hnonempty]
    rfl
  have hassoc : u.scheme.toList ++ ':' :: '/' :: '/' :: a.render ++ rest =
      u.scheme.toList ++ ':' :: ('/' :: '/' :: a.render ++ rest) := by
    simp
  obtain ⟨hscheme, hnetwork⟩ := readWithScheme_of_isHttp hhttp ('/' :: '/' :: a.render ++ rest)
  refine ⟨.ofText ('/' :: '/' :: a.render ++ rest), path, ?_, hpath⟩
  rw [parse, readReference, hrender, hnormal, hassoc, hscheme]
  rw [hfront, hdrop] at hnetwork
  exact hnetwork

/--
A web address is read again from its text, with the same scheme, as long as its host is read
again from what is written for it.
-/
theorem exists_parse_text {u : Url} (hhttp : u.isHttp = true) (hu : u.Sited)
    (hhosts : ∀ host, u.host? = some host → ∃ read, Host.parse host.render = .ok read) :
    ∃ v, parse u.text = .ok v ∧ v.scheme = u.scheme := by
  obtain ⟨a, ha, hwell⟩ := hu.authority
  obtain ⟨host, hhost, _⟩ := hwell.host
  obtain ⟨read, hread⟩ := hhosts host (by rw [host?, ha]; exact hhost)
  have hnonempty : a.render ≠ [] := by
    rw [Authority.render, Authority.renderHost_of_host hhost]
    simp [Host.render_ne_nil_of_parse hread]
  obtain ⟨r, path, hparse, hpath⟩ := exists_parse_text_eq hhttp hu.isPlain ha hwell hnonempty
  have hreads : parseHostFor (SchemeKind.ofScheme u.scheme) host.render = .ok read := by
    rw [parseHostFor, if_pos (isSpecial_of_isHttp hhttp)]
    exact hread
  obtain ⟨b, hauthority, _⟩ := exists_readAuthority hwell.legible hpath hhost r.continues
    (Host.render_ne_nil_of_parse hread) hreads
  refine ⟨assemble u.scheme (some b) (.segments (pathAfterAuthority
    (SchemeKind.ofScheme u.scheme) path)) r, ?_, rfl⟩
  rw [hparse, readNetwork, hauthority]

end Url

end LinkHygiene
