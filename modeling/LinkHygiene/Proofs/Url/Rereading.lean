import LinkHygiene.Proofs.Url.Location
import LinkHygiene.Proofs.Url.Rebuilding

/-!
# Reading rebuilt URLs

A URL that was read and whose query was rebuilt is read again from its text, whatever its
scheme and its shape, as long as its host is. Its pairs are found again as they were written.
-/

namespace LinkHygiene

namespace Url

/-! ## Trimming -/

def EndsBare (s : List Char) : Prop :=
  ∀ c, s.getLast? = some c → isMargin c = false

theorem endsBare_of_forall {s : List Char} (h : ∀ c ∈ s, isMargin c = false) : EndsBare s :=
  fun c hc => h c (List.mem_of_getLast? hc)

theorem EndsBare.append {s t : List Char} (hs : t = [] → EndsBare s) (ht : EndsBare t) :
    EndsBare (s ++ t) := by
  intro c hc
  cases hlast : t.getLast? with
  | none =>
      obtain rfl := List.getLast?_eq_none_iff.1 hlast
      rw [List.append_nil] at hc
      exact hs rfl c hc
  | some d =>
      rw [List.getLast?_append, hlast, Option.some_or, Option.some.injEq] at hc
      exact hc ▸ ht d hlast

theorem EndsBare.dropWhile_reverse {s : List Char} (h : EndsBare s) :
    s.reverse.dropWhile isMargin = s.reverse := by
  cases hreverse : s.reverse with
  | nil => rfl
  | cons c rest =>
      have hlast : s.getLast? = some c := by
        rw [← List.head?_reverse, hreverse, List.head?_cons]
      rw [List.dropWhile_cons, h c hlast]
      rfl

theorem normalizeInput_eq {c : Char} {s : List Char} (hfirst : isMargin c = false)
    (hkept : ∀ d ∈ c :: s, isIgnored d = false) (hlast : EndsBare (c :: s)) :
    normalizeInput (c :: s) = c :: s := by
  have hstart : (c :: s).dropWhile isMargin = c :: s := by
    rw [List.dropWhile_cons, hfirst]
    rfl
  unfold normalizeInput
  rw [hstart]
  dsimp only
  rw [hlast.dropWhile_reverse, List.reverse_reverse]
  apply List.filter_eq_self.2
  intro d hd
  rw [hkept d hd]
  rfl

/-! ## Parts -/

/-- A location is followed by the query and the fragment that were written behind it. -/
theorem ofText_render {u : Url} {front : List Char} (hfront : ∀ c ∈ front, isKept c = true)
    (hquery : ∀ query, u.query = some query → '#' ∉ query.toList) :
    Reference.ofText (front ++ u.renderQuery ++ u.renderFragment) =
      ⟨front, u.query.map String.toList, u.fragment.map String.toList⟩ := by
  have hfragmentSign : '#' ∉ front := fun h => absurd (hfront '#' h) (by decide)
  have hquerySign : '?' ∉ front := fun h => absurd (hfront '?' h) (by decide)
  have hmain : '#' ∉ front ++ u.renderQuery := by
    intro h
    rcases List.mem_append.1 h with h | h
    · exact hfragmentSign h
    · unfold renderQuery at h
      split at h
      · rename_i query hsome
        rcases List.mem_cons.1 h with h | h
        · exact absurd h (by decide)
        · exact hquery query hsome h
      · exact absurd h List.not_mem_nil
  have hcut : cutAt '#' (front ++ u.renderQuery ++ u.renderFragment) =
      (front ++ u.renderQuery, u.fragment.map String.toList) := by
    unfold renderFragment
    cases u.fragment with
    | none => rw [List.append_nil, cutAt_of_not_mem hmain]; rfl
    | some fragment => rw [cutAt_append hmain]; rfl
  have hcutMain : cutAt '?' (front ++ u.renderQuery) = (front, u.query.map String.toList) := by
    unfold renderQuery
    cases u.query with
    | none => rw [List.append_nil, cutAt_of_not_mem hquerySign]; rfl
    | some query => rw [cutAt_append hquerySign]; rfl
  unfold Reference.ofText
  rw [hcut]
  dsimp only
  rw [hcutMain]

/-! ## What can be read again -/

/-- Whether the host of a URL is read again from what is written for it. -/
def KeepsHost (u : Url) : Prop :=
  ∀ host, u.host? = some host → parseHostFor u.kind host.render = .ok host

theorem keepsHost_of_host? {u : Url} {host : Host} (h : u.host? = some host)
    (hread : (parseHostFor u.kind host.render).toOption = some host) : u.KeepsHost := by
  intro found hfound
  rw [h, Option.some.injEq] at hfound
  rw [← hfound]
  exact eq_ok_of_toOption hread

/-- Whether a URL is written so that it can be read again. -/
structure Readable (u : Url) : Prop where
  scheme : IsScheme u.scheme
  located : u.Located
  query : ∀ query, u.query = some query → ∀ c ∈ query.toList, Form.isWritten c = true
  fragment : ∀ fragment, u.fragment = some fragment →
    ∀ c ∈ fragment.toList, Percent.inFragment c = false
  trimmed : u.query = none → u.fragment = none → EndsBare u.renderLocation

theorem isKept_of_isTidy {c : Char} (h : isTidy c = true) : isKept c = true := by
  simp only [isTidy, Bool.and_eq_true, Bool.not_eq_true'] at h
  simp [isKept, not_isIgnored_of_not_isMargin h.1.1, h.1.2, h.2]

theorem isTidy_of_isInert {c : Char} (h : isInert c = true) : isTidy c = true := by
  simp only [isInert, List.contains_cons, Bool.and_eq_true, Bool.not_eq_true',
    Bool.or_eq_false_iff, beq_eq_false_iff_ne] at h
  simp [isTidy, h]

theorem isTidy_of_mem_segments {list : List String} (h : ∀ s ∈ list, Tidy s) {c : Char}
    (hc : c ∈ (Path.segments list).render) : isTidy c = true := by
  obtain ⟨segment, hsegment, hc⟩ := List.mem_flatMap.1 hc
  rcases List.mem_cons.1 hc with rfl | hc
  · decide
  · exact h segment hsegment c hc

theorem isTidy_of_mem_authority {a : Authority} (h : a.Legible) {c : Char} (hc : c ∈ a.render) :
    isTidy c = true := by
  rcases h.mem_render hc with hinert | rfl
  · exact isTidy_of_isInert hinert
  · decide

theorem renderLocation_of_some {u : Url} {a : Authority} (h : u.authority = some a) :
    u.renderLocation = '/' :: '/' :: (a.render ++ u.path.render) := by
  simp [renderLocation, h]

theorem legible_file {host : Option Host} (h : ∀ name, host = some name → Host.SetOff name.render) :
    ({ host } : Authority).Legible := by
  refine ⟨by simp, by simp, h, by simp, by simp⟩

theorem mem_renderLocation_of_none {u : Url} (h : u.authority = none) {c : Char}
    (hc : c ∈ u.renderLocation) : c = '/' ∨ c = '.' ∨ c ∈ u.path.render := by
  unfold renderLocation at hc
  rw [h] at hc
  dsimp only at hc
  split at hc
  · simpa using hc
  · exact .inr (.inr hc)

theorem Located.isTidy {u : Url} (h : u.Located) (hplain : u.isPlain = false) {c : Char}
    (hc : c ∈ u.renderLocation) : isTidy c = true := by
  have hnetwork : ∀ {a : Authority} {list : List String}, u.authority = some a →
      u.path = .segments list → a.Legible → (∀ s ∈ list, Tidy s) → Url.isTidy c = true := by
    intro a list hauthority hpath hlegible htidy
    rw [renderLocation_of_some hauthority, hpath] at hc
    simp only [List.mem_cons, List.mem_append] at hc
    rcases hc with rfl | rfl | hc | hc
    · decide
    · decide
    · exact isTidy_of_mem_authority hlegible hc
    · exact isTidy_of_mem_segments htidy hc
  cases h with
  | network _ hauthority hpath hlegible _ _ htidy =>
      exact hnetwork hauthority hpath hlegible htidy
  | file _ hauthority hpath hsetOff htidy =>
      exact hnetwork hauthority hpath (legible_file hsetOff) htidy
  | rooted _ hauthority hpath htidy =>
      rcases mem_renderLocation_of_none hauthority hc with rfl | rfl | hc
      · decide
      · decide
      · rw [hpath] at hc
        exact isTidy_of_mem_segments htidy hc
  | plain _ _ hpath _ => simp [isPlain, hpath] at hplain

theorem Located.of_isPlain {u : Url} (h : u.Located) (hplain : u.isPlain = true) :
    u.authority = none ∧ ∃ text, u.path = .plain text ∧
      ∀ c ∈ text.toList, isKept c = true ∧ Percent.inControls c = false := by
  cases h with
  | network _ _ hpath _ _ _ _ => simp [isPlain, hpath] at hplain
  | file _ _ hpath _ _ => simp [isPlain, hpath] at hplain
  | rooted _ _ hpath _ => simp [isPlain, hpath] at hplain
  | plain _ hauthority hpath hkept => exact ⟨hauthority, _, hpath, hkept⟩

theorem Located.isKept {u : Url} (h : u.Located) {c : Char} (hc : c ∈ u.renderLocation) :
    isKept c = true := by
  cases hplain : u.isPlain with
  | false => exact isKept_of_isTidy (h.isTidy hplain hc)
  | true =>
      obtain ⟨hauthority, text, hpath, hkept⟩ := h.of_isPlain hplain
      rcases mem_renderLocation_of_none hauthority hc with rfl | rfl | hc
      · decide
      · decide
      · rw [hpath] at hc
        exact (hkept c hc).1

/-! ## Texts -/

theorem query_of_renderQuery {u : Url} (h : u.renderQuery = []) : u.query = none := by
  unfold renderQuery at h
  split at h
  · contradiction
  · assumption

theorem fragment_of_renderFragment {u : Url} (h : u.renderFragment = []) : u.fragment = none := by
  unfold renderFragment at h
  split at h
  · contradiction
  · assumption

theorem ascii_of_isWritten {c : Char} (h : Form.isWritten c = true) : c.toNat < 0x80 := by
  rw [Form.isWritten, Bool.or_eq_true] at h
  rcases h with hplain | hsign
  · exact Form.ascii_of_isPlain hplain
  · simp only [Form.structural, List.contains_cons, List.contains_nil, Bool.or_false,
      Bool.or_eq_true, beq_iff_eq] at hsign
    rcases hsign with rfl | rfl | rfl | rfl <;> decide

theorem of_isWritten {c : Char} (h : Form.isWritten c = true) :
    isMargin c = false ∧ Percent.inSpecialQuery c = false := by
  have hall : ∀ n < 0x80, Form.isWritten (Char.ofNat n) = true →
      isMargin (Char.ofNat n) = false ∧ Percent.inSpecialQuery (Char.ofNat n) = false := by
    decide +kernel
  have hcode := hall c.toNat (ascii_of_isWritten h)
  rw [Char.ofNat_toNat] at hcode
  exact hcode h

namespace Readable

variable {u : Url} (hu : u.Readable)

include hu

theorem not_isMargin_query {c : Char} (hc : c ∈ u.renderQuery) : isMargin c = false := by
  unfold renderQuery at hc
  split at hc
  · rename_i query hsome
    rcases List.mem_cons.1 hc with rfl | hc
    · decide
    · exact (of_isWritten (hu.query query hsome c hc)).1
  · exact absurd hc List.not_mem_nil

theorem not_isMargin_fragment {c : Char} (hc : c ∈ u.renderFragment) : isMargin c = false := by
  unfold renderFragment at hc
  split at hc
  · rename_i fragment hsome
    rcases List.mem_cons.1 hc with rfl | hc
    · decide
    · exact not_isMargin_of_not_inFragment (hu.fragment fragment hsome c hc)
  · exact absurd hc List.not_mem_nil

theorem not_isIgnored {c : Char} (hc : c ∈ u.render) : isIgnored c = false := by
  simp only [render, List.mem_append, List.mem_cons] at hc
  rcases hc with ((hc | rfl | hc) | hc) | hc
  · exact not_isIgnored_of_not_isMargin (not_isMargin_of_isSchemeChar (hu.scheme.chars c hc))
  · decide
  · have hkept := hu.located.isKept hc
    simp only [Url.isKept, Bool.and_eq_true, Bool.not_eq_true'] at hkept
    exact hkept.1.1
  · exact not_isIgnored_of_not_isMargin (hu.not_isMargin_query hc)
  · exact not_isIgnored_of_not_isMargin (hu.not_isMargin_fragment hc)

theorem endsBare : EndsBare u.render := by
  have hcolon : EndsBare (u.scheme.toList ++ [':']) := by
    apply EndsBare.append (by simp)
    apply endsBare_of_forall
    simp [isMargin]
  have hlocation : u.query = none → u.fragment = none →
      EndsBare (u.scheme.toList ++ [':'] ++ u.renderLocation) :=
    fun hquery hfragment => .append (fun _ => hcolon) (hu.trimmed hquery hfragment)
  have hrender : u.render =
      u.scheme.toList ++ [':'] ++ u.renderLocation ++ u.renderQuery ++ u.renderFragment := by
    simp [render]
  rw [hrender]
  apply EndsBare.append
  · intro hfragment
    apply EndsBare.append
    · intro hquery
      exact hlocation (query_of_renderQuery hquery) (fragment_of_renderFragment hfragment)
    · exact endsBare_of_forall fun c hc => hu.not_isMargin_query hc
  · exact endsBare_of_forall fun c hc => hu.not_isMargin_fragment hc

theorem parse_text_eq :
    parse u.text = readWithScheme none u.scheme
      ⟨u.renderLocation, u.query.map String.toList, u.fragment.map String.toList⟩ := by
  obtain ⟨c, rest, hcons, halpha⟩ := hu.scheme.starts
  have hfirst : isMargin c = false := by
    apply not_isMargin_of_isSchemeChar (hu.scheme.chars c _)
    rw [hcons]
    exact List.mem_cons_self
  have hrender : u.render = u.scheme.toList ++
      ':' :: (u.renderLocation ++ u.renderQuery ++ u.renderFragment) := by
    simp [render]
  have hnormal : normalizeInput u.render = u.render := by
    have hfront : u.render = c :: (rest ++
        ':' :: (u.renderLocation ++ u.renderQuery ++ u.renderFragment)) := by
      rw [hrender, hcons, List.cons_append]
    have hignored : ∀ d ∈ u.render, isIgnored d = false := fun d hd => hu.not_isIgnored hd
    have hbare := hu.endsBare
    rw [hfront] at hignored hbare ⊢
    exact normalizeInput_eq hfirst hignored hbare
  have hquery : ∀ query, u.query = some query → '#' ∉ query.toList := by
    intro query hsome hmem
    exact absurd (hu.query query hsome '#' hmem) (by decide)
  unfold parse readReference
  dsimp only
  rw [text, String.toList_ofList, hnormal, hrender, hu.scheme.scheme?_eq]
  dsimp only
  rw [ofText_render (fun d hd => hu.located.isKept hd) hquery]

theorem map_escapeQuery (kind : SchemeKind) :
    (u.query.map String.toList).map (escapeQuery kind) = u.query := by
  cases hquery : u.query with
  | none => rfl
  | some query =>
      have hplain : ∀ c ∈ query.toList,
          (if kind.isSpecial then Percent.inSpecialQuery else Percent.inQuery) c = false := by
        intro c hc
        have hwritten := (of_isWritten (hu.query query hquery c hc)).2
        split
        · exact hwritten
        · rw [Percent.inSpecialQuery, Bool.or_eq_false_iff] at hwritten
          exact hwritten.1
      rw [Option.map_some, Option.map_some, escapeQuery, Percent.encode_of_forall hplain,
        String.ofList_toList]

theorem map_escapeFragment :
    (u.fragment.map String.toList).map escapeFragment = u.fragment := by
  cases hfragment : u.fragment with
  | none => rfl
  | some fragment =>
      rw [Option.map_some, Option.map_some, escapeFragment,
        Percent.encode_of_forall (hu.fragment fragment hfragment), String.ofList_toList]

/-- Whatever the text of a URL is read as has its scheme, its query and its fragment. -/
theorem of_parse_text {v : Url} (hv : parse u.text = .ok v) :
    v.scheme = u.scheme ∧ v.query = u.query ∧ v.fragment = u.fragment := by
  rw [hu.parse_text_eq] at hv
  obtain ⟨_, hscheme, hquery, hfragment⟩ :=
    located_of_readWithScheme (fun c hc => hu.located.isKept hc) hv
  exact ⟨hscheme, hquery.trans (hu.map_escapeQuery _), hfragment.trans hu.map_escapeFragment⟩

end Readable

/-! ## Reading a location again -/

theorem startsPath_render (list : List String) : StartsPath (Path.segments list).render := by
  cases list with
  | nil => exact .inl rfl
  | cons segment list => exact .inr ⟨_, rfl⟩

theorem exists_readNetwork {a : Authority} (ha : a.Legible) {scheme : String}
    (hne : ∀ host, a.host = some host → host.render ≠ [])
    (hhostless : a.host = none → (SchemeKind.ofScheme scheme).isSpecial = false)
    (hkept : ∀ host, a.host = some host →
      parseHostFor (SchemeKind.ofScheme scheme) host.render = .ok host)
    {rest : List Char} (hrest : StartsPath rest) (r : Reference) :
    ∃ b path, readNetwork scheme r (a.render ++ rest) = .ok (assemble scheme (some b) path r) ∧
      b.host = a.host := by
  obtain ⟨b, hread, hhost⟩ : ∃ b, readAuthority scheme r.continues (a.render ++ rest) =
      .ok (b, rest) ∧ b.host = a.host := by
    cases hhost : a.host with
    | none => exact ⟨{}, readAuthority_of_none ha hrest _ hhost (hhostless hhost), rfl⟩
    | some host =>
        exact exists_readAuthority ha hrest hhost _ (hne host hhost) (hkept host hhost)
  refine ⟨b, .segments (pathAfterAuthority (SchemeKind.ofScheme scheme) rest), ?_, hhost⟩
  rw [readNetwork, hread]

theorem renderLocation_ne_of_none {u : Url} (h : u.authority = none) (rest : List Char) :
    u.renderLocation ≠ '/' :: '/' :: rest := by
  unfold renderLocation
  rw [h]
  dsimp only
  split
  · simp
  · rename_i hpath
    exact hpath rest

theorem exists_readWithScheme_of_none {u : Url} (hkind : u.kind = .other)
    (h : u.authority = none) {r : Reference} (hr : r.front = u.renderLocation) :
    ∃ path, readWithScheme none u.scheme r = .ok (assemble u.scheme none path r) := by
  rw [kind] at hkind
  unfold readWithScheme
  rw [hkind]
  dsimp only
  split
  · rename_i rest hfront
    exact absurd (hr.symm.trans hfront) (renderLocation_ne_of_none h rest)
  · exact ⟨_, rfl⟩
  · exact ⟨_, rfl⟩

theorem not_isAnySlash_of_isInert {c : Char} (h : isInert c = true) : isAnySlash c = false :=
  (isInert_parts (.inl h)).2.1

theorem exists_readFileNetwork {host : Option Host}
    (hsetOff : ∀ name, host = some name → Host.SetOff name.render)
    (hkept : ∀ name, host = some name → Host.parse name.render = .ok name)
    {rest : List Char} (hrest : StartsPath rest) (r : Reference) :
    ∃ read path, readFileNetwork r (({ host } : Authority).render ++ rest) =
        .ok (assemble fileScheme (some { host := read }) path r) ∧
      ∀ name, read = some name → host = some name := by
  have hrender : ({ host } : Authority).render = ({ host } : Authority).renderHost := by
    simp [Authority.render, Authority.renderCredentials, Authority.renderPort]
  have hslashes : ∀ c ∈ ({ host } : Authority).renderHost, isAnySlash c = false := by
    intro c hc
    exact not_isAnySlash_of_isInert ((legible_file hsetOff).setOff.inert c hc)
  have htext : (({ host } : Authority).renderHost ++ rest).takeWhile (fun c => !isAnySlash c) =
      ({ host } : Authority).renderHost := by
    rw [List.takeWhile_append_of_pos fun c hc => by rw [hslashes c hc]; rfl]
    rcases hrest with rfl | ⟨path, rfl⟩ <;> simp [isAnySlash]
  unfold readFileNetwork
  rw [hrender, htext]
  dsimp only
  split
  · exact ⟨none, _, rfl, by simp⟩
  · rename_i hdrive
    cases host with
    | none => simp [Authority.renderHost] at hdrive
    | some name =>
        simp only [Authority.renderHost, hkept name rfl]
        refine ⟨_, _, rfl, fun found hfound => ?_⟩
        exact (Option.ite_none_left_eq_some.1 hfound).2

namespace Readable

variable {u : Url} (hu : u.Readable) (hhost : u.KeepsHost)

include hu hhost

/-- A location is read again without a change of the host, though a file may lose it. -/
theorem exists_readWithScheme {r : Reference} (hr : r.front = u.renderLocation) :
    ∃ authority path, readWithScheme none u.scheme r = .ok (assemble u.scheme authority path r) ∧
      ∀ host, authority.bind Authority.host = some host → u.host? = some host := by
  cases hu.located with
  | @network a list hkind hauthority hpath hlegible hne hhostless htidy =>
      have hstart := startsPath_render list
      have hhosts : ∀ host, a.host = some host → u.host? = some host := by
        intro host hsome
        rw [host?, hauthority, Option.bind_some, hsome]
      obtain ⟨b, path, hread, hb⟩ := exists_readNetwork hlegible hne hhostless
        (fun host hsome => hhost host (hhosts host hsome)) hstart r
      refine ⟨some b, path, ?_, fun host hsome => hhosts host (hb ▸ hsome)⟩
      rw [renderLocation_of_some hauthority, hpath] at hr
      rw [← hread]
      unfold readWithScheme
      cases hcase : SchemeKind.ofScheme u.scheme with
      | file => exact absurd hcase hkind
      | other =>
          rw [hr]
          rfl
      | web =>
          have hsome : a.host ≠ none := by
            intro hnone
            have hspecial := hhostless hnone
            rw [kind, hcase] at hspecial
            contradiction
          obtain ⟨host, hsome⟩ := Option.ne_none_iff_exists'.1 hsome
          have hnonempty : a.render ≠ [] := by
            rw [Authority.render, Authority.renderHost_of_host hsome]
            simp [hne host hsome]
          have hslashes : ∀ c ∈ a.render, isAnySlash c = false :=
            fun c hc => (isInert_parts (hlegible.mem_render hc)).2.1
          have hdrop : r.front.dropWhile isAnySlash = a.render ++ (Path.segments list).render := by
            rw [hr]
            exact dropWhile_append_of_not _ hslashes hnonempty
          dsimp only
          rw [hdrop]
  | @file host list hkind hauthority hpath hsetOff htidy =>
      have hhosts : u.host? = host := by rw [host?, hauthority, Option.bind_some]
      have hparse : ∀ name, host = some name → Host.parse name.render = .ok name := by
        intro name hsome
        have hread := hhost name (hhosts.trans hsome)
        rwa [hkind] at hread
      obtain ⟨read, path, hread, hb⟩ :=
        exists_readFileNetwork hsetOff hparse (startsPath_render list) r
      refine ⟨some { host := read }, path, ?_, fun name hsome => hhosts.trans (hb name hsome)⟩
      rw [renderLocation_of_some hauthority, hpath] at hr
      rw [kind] at hkind
      rw [scheme_eq_of_file hkind, ← hread]
      unfold readWithScheme readFile
      rw [hr]
      rfl
  | rooted hkind hauthority _ _ =>
      obtain ⟨path, hread⟩ := exists_readWithScheme_of_none hkind hauthority hr
      exact ⟨none, path, hread, by simp⟩
  | plain hkind hauthority _ _ =>
      obtain ⟨path, hread⟩ := exists_readWithScheme_of_none hkind hauthority hr
      exact ⟨none, path, hread, by simp⟩

/-- As long as its host is, a URL is read again from its text. -/
theorem exists_parse_text_eq :
    ∃ v, parse u.text = .ok v ∧ ∀ host, v.host? = some host → u.host? = some host := by
  obtain ⟨authority, path, hread, hhosts⟩ := hu.exists_readWithScheme hhost
    (r := ⟨u.renderLocation, u.query.map String.toList, u.fragment.map String.toList⟩) rfl
  exact ⟨_, hu.parse_text_eq.trans hread, hhosts⟩

end Readable

/-! ## Rebuilt queries -/

theorem endsBare_dropBlanks {text : String}
    (h : ∀ c ∈ text.toList, Percent.inControls c = false) : EndsBare (dropBlanks text).toList := by
  intro c hc
  rw [dropBlanks, String.toList_ofList, List.getLast?_reverse] at hc
  have hblank := List.head?_dropWhile_not (· == ' ') text.toList.reverse
  rw [hc] at hblank
  have hmem : c ∈ text.toList := by
    apply List.mem_reverse.1
    exact (List.dropWhile_sublist _).mem (List.mem_of_head? hc)
  exact not_isMargin_of_not_inControls (h c hmem) (by simpa using hblank)

theorem endsBare_renderLocation_of_none {u : Url} (h : u.authority = none)
    (hpath : EndsBare u.path.render) : EndsBare u.renderLocation := by
  unfold renderLocation
  rw [h]
  dsimp only
  split
  · rename_i rest hslashes
    have hnil : u.path.render = [] → EndsBare ['/', '.'] := by simp [hslashes]
    exact .append hnil hpath
  · exact hpath

theorem mem_of_mem_dropBlanks {text : String} {c : Char} (h : c ∈ (dropBlanks text).toList) :
    c ∈ text.toList := by
  rw [dropBlanks, String.toList_ofList, List.mem_reverse] at h
  exact List.mem_reverse.1 ((List.dropWhile_sublist _).mem h)

/-- Plain text stays as it is when a query is rebuilt, or loses the blanks at its end. -/
theorem path_setQueryPairs_of_plain {u : Url} {text : String} (h : u.path = .plain text)
    (pairs : List Form.Pair) :
    (u.setQueryPairs pairs).path =
      .plain (if pairs = [] ∧ u.fragment = none then dropBlanks text else text) := by
  cases pairs with
  | cons p rest => simp [setQueryPairs, h]
  | nil =>
      cases hfragment : u.fragment with
      | none => simp [setQueryPairs, dropTrailingBlanks, h, hfragment]
      | some fragment => simp [setQueryPairs, dropTrailingBlanks, h, hfragment]

theorem kind_setQueryPairs (u : Url) (pairs : List Form.Pair) :
    (u.setQueryPairs pairs).kind = u.kind := by
  rw [kind, scheme_setQueryPairs, kind]

theorem Located.setQueryPairs {u : Url} (h : u.Located) (pairs : List Form.Pair) :
    (u.setQueryPairs pairs).Located := by
  have hauthority := authority_setQueryPairs u pairs
  have hkind := kind_setQueryPairs u pairs
  have hsegments : ∀ {list : List String}, u.path = .segments list →
      (u.setQueryPairs pairs).path = .segments list := by
    intro list hpath
    rw [path_setQueryPairs (by simp [isPlain, hpath]), hpath]
  cases h with
  | network hne ha hpath hlegible hhost hhostless htidy =>
      exact .network (hkind ▸ hne) (hauthority.trans ha) (hsegments hpath) hlegible hhost
        (hkind ▸ hhostless) htidy
  | file hfile ha hpath hsetOff htidy =>
      exact .file (hkind.trans hfile) (hauthority.trans ha) (hsegments hpath) hsetOff htidy
  | rooted hother ha hpath htidy =>
      exact .rooted (hkind.trans hother) (hauthority.trans ha) (hsegments hpath) htidy
  | @plain text hother ha hpath hkept =>
      refine .plain (hkind.trans hother) (hauthority.trans ha)
        (path_setQueryPairs_of_plain hpath pairs) fun c hc => ?_
      split at hc
      · exact hkept c (mem_of_mem_dropBlanks hc)
      · exact hkept c hc

theorem readable_setQueryPairs {text : String} {u : Url} (h : parse text = .ok u)
    (pairs : List Form.Pair) : (u.setQueryPairs pairs).Readable := by
  obtain ⟨hscheme, hlocated, hfragment⟩ := of_parse h
  refine ⟨scheme_setQueryPairs u pairs ▸ hscheme, hlocated.setQueryPairs pairs,
    fun query => isWritten_of_mem_query, fragment_setQueryPairs u pairs ▸ hfragment, ?_⟩
  intro hquery hnone
  obtain rfl := query_setQueryPairs_eq_none_iff.1 hquery
  rw [fragment_setQueryPairs] at hnone
  cases hplain : (u.setQueryPairs []).isPlain with
  | false =>
      apply endsBare_of_forall
      intro c hc
      have htidy := (hlocated.setQueryPairs []).isTidy hplain hc
      simp only [isTidy, Bool.and_eq_true, Bool.not_eq_true'] at htidy
      exact htidy.1.1
  | true =>
      rw [isPlain_setQueryPairs] at hplain
      obtain ⟨hauthority, before, hpath, hkept⟩ := hlocated.of_isPlain hplain
      apply endsBare_renderLocation_of_none
      · rw [authority_setQueryPairs, hauthority]
      · rw [path_setQueryPairs_of_plain hpath, if_pos ⟨rfl, hnone⟩]
        exact endsBare_dropBlanks fun c hc => (hkept c hc).2

/-- Whatever the text of a rebuilt URL is read as has the pairs it was rebuilt from. -/
theorem queryPairs_of_parse_text {text : String} {u v : Url} (h : parse text = .ok u)
    {pairs : List Form.Pair} (hv : parse (u.setQueryPairs pairs).text = .ok v) :
    v.queryPairs = pairs := by
  obtain ⟨_, hquery, _⟩ := (readable_setQueryPairs h pairs).of_parse_text hv
  rw [← queryPairs_setQueryPairs u pairs, queryPairs, queryPairs, hquery]

/-- As long as the host of a URL is read again, the URL is after its query was rebuilt. -/
theorem exists_parse_text_setQueryPairs {text : String} {u : Url} (h : parse text = .ok u)
    (hhost : u.KeepsHost) (pairs : List Form.Pair) :
    ∃ v, parse (u.setQueryPairs pairs).text = .ok v ∧ v.KeepsHost := by
  have hkeeps : (u.setQueryPairs pairs).KeepsHost := by
    rwa [KeepsHost, host?_setQueryPairs, kind_setQueryPairs]
  have hreadable := readable_setQueryPairs h pairs
  obtain ⟨v, hread, hhosts⟩ := hreadable.exists_parse_text_eq hkeeps
  obtain ⟨hscheme, _, _⟩ := hreadable.of_parse_text hread
  rw [host?_setQueryPairs] at hhosts
  refine ⟨v, hread, fun host hsome => ?_⟩
  rw [kind, hscheme, scheme_setQueryPairs]
  exact hhost host (hhosts host hsome)

end Url

end LinkHygiene
