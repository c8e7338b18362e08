import LinkHygiene.Proofs.Text.Lowercase
import LinkHygiene.Proofs.Url.Path
import LinkHygiene.Proofs.Url.Reading

/-!
# What URLs are read as

Every text that is a URL gives a scheme in small letters, an escaped fragment, and a location
of one of four shapes: an authority with a path, a file, a path alone, or plain text. None of
these holds a sign that would end it in writing.
-/

namespace LinkHygiene

namespace Url

/-! ## Schemes -/

/-- Whether a text is a scheme as it is written: letters, digits and signs, none of them capital. -/
structure IsScheme (scheme : String) : Prop where
  starts : ∃ c rest, scheme.toList = c :: rest ∧ isAlpha c = true
  chars : ∀ c ∈ scheme.toList, isSchemeChar c = true
  small : ∀ c ∈ scheme.toList, Text.asciiLower c = c

theorem isAlpha_asciiLower {c : Char} (h : isAlpha c = true) :
    isAlpha (Text.asciiLower c) = true := by
  rcases Text.asciiLower_cases c with hsame | ⟨hlow, hhigh⟩
  · rw [hsame]
    exact h
  · simp [isAlpha, hlow, hhigh]

theorem isSchemeChar_asciiLower {c : Char} (h : isSchemeChar c = true) :
    isSchemeChar (Text.asciiLower c) = true := by
  rcases Text.asciiLower_cases c with hsame | ⟨hlow, hhigh⟩
  · rw [hsame]
    exact h
  · simp [isSchemeChar, isAlpha, hlow, hhigh]

theorem isScheme_of_scheme? {s rest : List Char} {scheme : String}
    (h : scheme? s = some (scheme, rest)) : IsScheme scheme ∧ ∃ before, s = before ++ ':' :: rest := by
  cases s with
  | nil => simp [scheme?] at h
  | cons c s =>
      unfold scheme? at h
      dsimp only at h
      split at h
      · rename_i halpha
        split at h
        · rename_i after hbehind
          obtain ⟨rfl, rfl⟩ := Prod.mk.inj (Option.some.inj h)
          have hfirst : isSchemeChar c = true := by simp [isSchemeChar, halpha]
          refine ⟨⟨?_, ?_, ?_⟩, (c :: s).takeWhile isSchemeChar, ?_⟩
          · refine ⟨Text.asciiLower c, (s.takeWhile isSchemeChar).map Text.asciiLower, ?_,
              isAlpha_asciiLower halpha⟩
            simp [hfirst]
          · intro d hd
            rw [String.toList_ofList] at hd
            obtain ⟨e, he, rfl⟩ := List.mem_map.1 hd
            exact isSchemeChar_asciiLower (List.all_eq_true.1 List.all_takeWhile e he)
          · intro d hd
            rw [String.toList_ofList] at hd
            obtain ⟨e, _, rfl⟩ := List.mem_map.1 hd
            exact Text.asciiLower_asciiLower e
          · rw [← hbehind, List.takeWhile_append_dropWhile]
        · simp at h
      · simp at h

theorem IsScheme.scheme?_eq {scheme : String} (h : IsScheme scheme) (rest : List Char) :
    scheme? (scheme.toList ++ ':' :: rest) = some (scheme, rest) := by
  obtain ⟨c, s, hcons, halpha⟩ := h.starts
  have hstop : isSchemeChar ':' = false := by decide
  have htake : (scheme.toList ++ ':' :: rest).takeWhile isSchemeChar = scheme.toList := by
    rw [List.takeWhile_append_of_pos h.chars]
    simp [hstop]
  have hdrop : (scheme.toList ++ ':' :: rest).dropWhile isSchemeChar = ':' :: rest := by
    rw [List.dropWhile_append_of_pos h.chars]
    simp [hstop]
  have hlower : scheme.toList.map Text.asciiLower = scheme.toList := by
    rw [List.map_congr_left h.small, List.map_id']
  have hfront : scheme.toList ++ ':' :: rest = c :: (s ++ ':' :: rest) := by
    rw [hcons, List.cons_append]
  rw [hfront] at htake hdrop ⊢
  simp only [scheme?, halpha, if_true, htake, hdrop, hlower, String.ofList_toList]

theorem not_isMargin_of_le {c d : Char} (hd : 0x20 < d.toNat) (h : d ≤ c) :
    isMargin c = false := by
  have hle : d.toNat ≤ c.toNat := h
  have hmargin : ¬ c.toNat ≤ 0x20 := by omega
  simp [isMargin, hmargin]

theorem not_isMargin_of_isSchemeChar {c : Char} (h : isSchemeChar c = true) :
    isMargin c = false := by
  simp only [isSchemeChar, isAlpha, Address.isDigit, Bool.or_eq_true, Bool.and_eq_true,
    decide_eq_true_eq, beq_iff_eq] at h
  rcases h with ((((⟨hsmall, _⟩ | ⟨hcapital, _⟩) | ⟨hdigit, _⟩) | rfl) | rfl) | rfl
  · exact not_isMargin_of_le (by decide) hsmall
  · exact not_isMargin_of_le (by decide) hcapital
  · exact not_isMargin_of_le (by decide) hdigit
  all_goals rfl

/-! ## Locations -/

/-- Whether a character neither ends a location nor is passed over in it. -/
def isKept (c : Char) : Bool :=
  !isIgnored c && c != '?' && c != '#'

/-- What a URL has between its scheme and its query. -/
inductive Located (u : Url) : Prop
  /-- An authority with a path behind it. Only where the scheme admits it has it no host. -/
  | network {a : Authority} {list : List String} (kind_ne : u.kind ≠ .file)
      (authority : u.authority = some a) (path : u.path = .segments list) (legible : a.Legible)
      (host_ne : ∀ host, a.host = some host → host.render ≠ [])
      (hostless : a.host = none → u.kind.isSpecial = false) (tidy : ∀ s ∈ list, Tidy s)
  /-- A file, perhaps on another host. -/
  | file {host : Option Host} {list : List String} (kind : u.kind = .file)
      (authority : u.authority = some { host }) (path : u.path = .segments list)
      (setOff : ∀ name, host = some name → Host.SetOff name.render)
      (tidy : ∀ s ∈ list, Tidy s)
  /-- A path without an authority. -/
  | rooted {list : List String} (kind : u.kind = .other) (authority : u.authority = none)
      (path : u.path = .segments list) (tidy : ∀ s ∈ list, Tidy s)
  /-- Text that is kept as it is. -/
  | plain {text : String} (kind : u.kind = .other) (authority : u.authority = none)
      (path : u.path = .plain text)
      (kept : ∀ c ∈ text.toList, isKept c = true ∧ Percent.inControls c = false)

theorem located_of_readNetwork {scheme : String} {r : Reference} {s : List Char} {u : Url}
    (hkind : SchemeKind.ofScheme scheme ≠ .file) (h : readNetwork scheme r s = .ok u) :
    u.Located := by
  unfold readNetwork at h
  split at h
  · simp at h
  · rename_i a path hauthority
    obtain rfl := Except.ok.inj h
    obtain ⟨hlegible, hne, hhostless⟩ := legible_of_readAuthority hauthority
    exact .network hkind rfl rfl hlegible hne hhostless (tidy_pathAfterAuthority _ _)

theorem located_of_readFileNetwork {r : Reference} {s : List Char} {u : Url}
    (h : readFileNetwork r s = .ok u) : u.Located := by
  unfold readFileNetwork at h
  dsimp only at h
  split at h
  · obtain rfl := Except.ok.inj h
    exact @Located.file _ none _ rfl rfl rfl (by simp) (tidy_resolveSegments _ _)
  · split at h
    · simp at h
    · rename_i host hparse
      obtain rfl := Except.ok.inj h
      refine .file rfl rfl rfl ?_ (tidy_resolveSegments _ _)
      intro name hname
      rw [Option.ite_none_left_eq_some] at hname
      rw [← Option.some.inj hname.2]
      exact (Host.delimited_of_parse hparse).setOff

theorem located_of_readFile {r : Reference} {u : Url} (h : readFile none r = .ok u) :
    u.Located := by
  have hlocal : ∀ list, (∀ s ∈ list, Tidy s) →
      (assemble fileScheme (some {}) (.segments list) r).Located := by
    intro list htidy
    exact @Located.file _ none _ rfl rfl rfl (by simp) htidy
  unfold readFile at h
  split at h
  · obtain rfl := Except.ok.inj h
    exact hlocal _ (by simp [tidy_empty])
  · split at h
    · split at h
      · split at h
        · exact located_of_readFileNetwork h
        · obtain rfl := Except.ok.inj h
          exact hlocal _ (tidy_resolveSegments _ _)
      · obtain rfl := Except.ok.inj h
        exact hlocal _ (tidy_resolveSegments _ _)
    · obtain rfl := Except.ok.inj h
      exact hlocal _ (tidy_resolveSegments _ _)

theorem isKept_of_mem_controls {s : List Char} (hs : ∀ c ∈ s, isKept c = true) {c : Char}
    (hc : c ∈ Percent.encode Percent.inControls s) :
    isKept c = true ∧ Percent.inControls c = false := by
  apply Percent.of_mem_encode hc (by decide) (by decide)
  exact fun d hd hplain => ⟨hs d hd, hplain⟩

theorem scheme_eq_of_file {scheme : String} (h : SchemeKind.ofScheme scheme = .file) :
    scheme = fileScheme := by
  unfold SchemeKind.ofScheme at h
  split at h
  · assumption
  · split at h <;> contradiction

/-- What is read behind a scheme is located, and has this scheme and the escaped other parts. -/
theorem located_of_readWithScheme {scheme : String} {r : Reference} {u : Url}
    (hfront : ∀ c ∈ r.front, isKept c = true) (h : readWithScheme none scheme r = .ok u) :
    u.Located ∧ u.scheme = scheme ∧
      u.query = r.query.map (escapeQuery (SchemeKind.ofScheme scheme)) ∧
      u.fragment = r.fragment.map escapeFragment := by
  have hassembled : u.AssembledFor scheme r → u.scheme = scheme ∧
      u.query = r.query.map (escapeQuery (SchemeKind.ofScheme scheme)) ∧
      u.fragment = r.fragment.map escapeFragment := by
    rintro ⟨authority, list, rfl⟩
    exact ⟨rfl, rfl, rfl⟩
  unfold readWithScheme at h
  split at h
  · rename_i hkind
    rw [Option.filter_none] at h
    obtain rfl := scheme_eq_of_file hkind
    exact ⟨located_of_readFile h, hassembled (assembled_readFile h)⟩
  · rename_i hkind
    have hne : SchemeKind.ofScheme scheme ≠ .file := by rw [hkind]; decide
    exact ⟨located_of_readNetwork hne h, hassembled (assembled_readNetwork h)⟩
  · rename_i hkind
    have hne : SchemeKind.ofScheme scheme ≠ .file := by rw [hkind]; decide
    split at h
    · exact ⟨located_of_readNetwork hne h, hassembled (assembled_readNetwork h)⟩
    · have hread := assembled_of_ok h
      obtain rfl := Except.ok.inj h
      exact ⟨.rooted hkind rfl rfl (tidy_resolveSegments _ _), hassembled hread⟩
    · obtain rfl := Except.ok.inj h
      refine ⟨.plain hkind rfl rfl fun c hc => ?_, rfl, rfl, rfl⟩
      rw [String.toList_ofList] at hc
      exact isKept_of_mem_controls hfront hc

/-! ## Texts that are read -/

theorem mem_of_mem_normalizeInput {s : List Char} {c : Char} (h : c ∈ normalizeInput s) :
    isIgnored c = false := by
  have hkept := (List.mem_filter.1 h).2
  simpa using hkept

theorem isKept_of_mem_front {s : List Char} (hs : ∀ c ∈ s, isIgnored c = false) {c : Char}
    (hc : c ∈ (Reference.ofText s).front) : isKept c = true := by
  rw [front_ofText] at hc
  have hquery := List.all_eq_true.1 List.all_takeWhile c hc
  have hmain := (List.takeWhile_sublist _).mem hc
  have hfragment := List.all_eq_true.1 List.all_takeWhile c hmain
  have hignored := hs c ((List.takeWhile_sublist _).mem hmain)
  simp only [Bool.not_eq_true', beq_eq_false_iff_ne] at hquery hfragment
  simp [isKept, hignored, hquery, hfragment]

theorem not_inFragment_of_mem_escaped {s : List Char} {c : Char}
    (h : c ∈ Percent.encode Percent.inFragment s) : Percent.inFragment c = false := by
  apply Percent.of_mem_encode h (by decide) (by decide)
  exact fun _ _ hplain => hplain

/-- What a text is read as has a scheme, a location and an escaped fragment. -/
theorem of_parse {text : String} {u : Url} (h : parse text = .ok u) :
    IsScheme u.scheme ∧ u.Located ∧
      ∀ fragment, u.fragment = some fragment →
        ∀ c ∈ fragment.toList, Percent.inFragment c = false := by
  unfold parse readReference at h
  dsimp only at h
  split at h
  · rename_i scheme rest hscheme
    obtain ⟨hwritten, before, hbefore⟩ := isScheme_of_scheme? hscheme
    have hrest : ∀ c ∈ rest, isIgnored c = false := by
      intro c hc
      apply mem_of_mem_normalizeInput (s := text.toList)
      rw [hbefore]
      exact List.mem_append_right before (List.mem_cons_of_mem ':' hc)
    obtain ⟨hlocated, rfl, _, hfragment⟩ :=
      located_of_readWithScheme (fun c hc => isKept_of_mem_front hrest hc) h
    refine ⟨hwritten, hlocated, fun fragment hsome c hc => ?_⟩
    rw [hfragment, Option.map_eq_some_iff] at hsome
    obtain ⟨s, _, rfl⟩ := hsome
    rw [escapeFragment, String.toList_ofList] at hc
    exact not_inFragment_of_mem_escaped hc
  · simp [readWithoutScheme] at h

end Url

end LinkHygiene
