import LinkHygiene.Message.Links
import LinkHygiene.Proofs.Pattern.Walk
import LinkHygiene.Proofs.Text.Split

/-!
# Reading links

The pattern of links matches as a scanner reads: the scheme, the longest run of host
characters, a port if there is one and a path if there is one. Whether a link begins at
a place is seen from its scheme and the one character behind it.
-/

namespace LinkHygiene

namespace Message

open Pattern (Node Groups After Always matchAt searchFrom)

def hostOf (s : List Char) : List Char :=
  s.takeWhile (hostChars.mem ·)

def portOf : List Char → List Char
  | ':' :: s =>
      if s.takeWhile (CharSet.digits.mem ·) = [] then []
      else ':' :: s.takeWhile (CharSet.digits.mem ·)
  | _ => []

def pathOf : List Char → List Char
  | '/' :: s => '/' :: s.takeWhile (pathChars.mem ·)
  | _ => []

def targetOf (s : List Char) : List Char :=
  let hostAndPort := hostOf s ++ portOf (s.drop (hostOf s).length)
  hostAndPort ++ pathOf (s.drop hostAndPort.length)

def schemes : List (List Char) :=
  ["http://".toList, "https://".toList]

def linkAt? (s : List Char) : Option (List Char) :=
  match schemes.find? (Text.startsWith · s) with
  | some scheme =>
      if hostOf (s.drop scheme.length) = [] then none
      else some (scheme ++ targetOf (s.drop scheme.length))
  | none => none

/-! ## The pattern reads as the scanner -/

theorem walk_textThen (text : List Char) (node : Node) (next : After) (p : Pattern.Place)
    (gs : Groups) :
    (textThen text node).walk next p gs =
      if Text.startsWith text p.rest then node.walk next (p.past text) gs else none := by
  induction text generalizing p with
  | nil => simp [textThen, Text.startsWith, Text.afterPrefix?]
  | cons c text ih =>
      have hcons : (textThen (c :: text) node).walk next p gs =
          (Node.one (.one c)).walk ((textThen text node).walk next) p gs := rfl
      rw [hcons, Pattern.walk_one]
      cases hrest : p.rest with
      | nil => simp [Text.startsWith, Text.afterPrefix?]
      | cons d rest =>
          by_cases hd : d = c
          · subst hd
            have hset : (CharSet.one d).mem d = true := Pattern.mem_one_iff.2 rfl
            have hstarts : Text.startsWith (d :: text) (d :: rest) = Text.startsWith text rest := by
              simp [Text.startsWith, Text.afterPrefix?]
            have hpast : (p.past [d]).rest = rest := by
              rw [Pattern.Place.rest_past, hrest]
              rfl
            simp only [hset, if_true, ih, hpast, hstarts, Pattern.Place.past_past,
              List.singleton_append]
          · have hset : (CharSet.one c).mem d = false := by
              simpa using mt Pattern.mem_one_iff.1 hd
            simp [hset, Text.startsWith, Text.afterPrefix?, Ne.symm hd]

theorem walk_optional {a : Node} {next : After} (hnext : Always next) {p : Pattern.Place}
    {gs : Groups} {s : List Char}
    (ha : a.walk next p gs = if s = [] then none else next (p.past s) gs) :
    (Node.loop a 0 (some 1) true).walk next p gs = next (p.past s) gs := by
  rw [Pattern.walk_loop_optional, ha]
  by_cases hs : s = []
  · simp [hs]
  · rw [if_neg hs]
    obtain ⟨result, hresult⟩ := Option.isSome_iff_exists.1 (hnext (p.past s) gs)
    rw [hresult]
    rfl

theorem walk_charNode (c : Char) (a : Node) (next : After) (p : Pattern.Place) (gs : Groups) :
    (Node.seq (charNode c) a).walk next p gs =
      if Text.startsWith [c] p.rest then a.walk next (p.past [c]) gs else none :=
  walk_textThen [c] a next p gs

theorem walk_port {next : After} (hnext : Always next) (p : Pattern.Place) (gs : Groups) :
    (Node.loop portNode 0 (some 1) true).walk next p gs = next (p.past (portOf p.rest)) gs := by
  apply walk_optional hnext
  rw [portNode, walk_charNode, Pattern.walk_run hnext, Pattern.Place.past_past,
    Pattern.Place.rest_past]
  cases hrest : p.rest with
  | nil => simp [Text.startsWith, Text.afterPrefix?, portOf]
  | cons c s =>
      by_cases hc : c = ':'
      · subst hc
        by_cases hdigits : s.takeWhile (CharSet.digits.mem ·) = []
        · simp [Text.startsWith, Text.afterPrefix?, portOf, hdigits]
        · have hpos : 1 ≤ (s.takeWhile (CharSet.digits.mem ·)).length :=
            List.length_pos_iff.2 hdigits
          simp [Text.startsWith, Text.afterPrefix?, portOf, hdigits, hpos]
      · simp [Text.startsWith, Text.afterPrefix?, portOf, hc, Ne.symm hc]

theorem walk_path {next : After} (hnext : Always next) (p : Pattern.Place) (gs : Groups) :
    (Node.loop pathNode 0 (some 1) true).walk next p gs = next (p.past (pathOf p.rest)) gs := by
  apply walk_optional hnext
  rw [pathNode, walk_charNode, Pattern.walk_run hnext, Pattern.Place.past_past,
    Pattern.Place.rest_past]
  cases hrest : p.rest with
  | nil => simp [Text.startsWith, Text.afterPrefix?, pathOf]
  | cons c s =>
      by_cases hc : c = '/'
      · subst hc
        simp [Text.startsWith, Text.afterPrefix?, pathOf]
      · simp [Text.startsWith, Text.afterPrefix?, pathOf, hc, Ne.symm hc]

def targetNode : Node :=
  .seq (.run hostChars 1 none true)
    (.seq (.loop portNode 0 (some 1) true) (.loop pathNode 0 (some 1) true))

theorem matchAt_targetNode (p : Pattern.Place) :
    matchAt targetNode p =
      if hostOf p.rest = [] then none else some (p.past (targetOf p.rest), []) := by
  have hpath : Always ((Node.loop pathNode 0 (some 1) true).walk fun q gs => some (q, gs)) :=
    Pattern.always_end.optional pathNode
  have hport := hpath.optional portNode
  have hrun := Pattern.walk_run hport hostChars 1 p []
  calc
    matchAt targetNode p = _ := hrun
    _ = _ := by
      rw [walk_port hpath, walk_path Pattern.always_end]
      simp only [Pattern.Place.rest_past, Pattern.Place.past_past]
      by_cases hhost : hostOf p.rest = []
      · have hempty : p.rest.takeWhile (hostChars.mem ·) = [] := hhost
        simp [hhost, hempty]
      · have hpos : 1 ≤ (p.rest.takeWhile (hostChars.mem ·)).length :=
          List.length_pos_iff.2 hhost
        rw [if_neg hhost, if_pos hpos]
        rfl

/-! ## Schemes -/

theorem matchAt_linkNode_eq (p : Pattern.Place) :
    matchAt linkNode p =
      match schemes.find? (Text.startsWith · p.rest) with
      | some scheme => matchAt targetNode (p.past scheme)
      | none => none := by
  have hwalk : matchAt linkNode p = (textThen "http".toList (.seq (.run (.one 's') 0 (some 1) true)
      (textThen "://".toList targetNode))).walk (fun q gs => some (q, gs)) p [] := rfl
  have hschemes : schemes = ["http".toList ++ "://".toList, "http".toList ++ "s://".toList] := by
    decide
  rw [hwalk, walk_textThen, hschemes]
  by_cases hhttp : Text.startsWith "http".toList p.rest = true
  · obtain ⟨rest, hrest⟩ := Text.startsWith_iff.1 hhttp
    have hbehind : (p.past "http".toList).rest = rest := by
      rw [Pattern.Place.rest_past, hrest, List.drop_left]
    rw [if_pos hhttp, Node.walk, Pattern.walk_run_optional, walk_textThen, hbehind]
    simp only [List.find?_cons, List.find?_nil, hrest, Text.startsWith_append]
    cases rest with
    | nil => rfl
    | cons c rest =>
        by_cases hc : c = 's'
        · subst hc
          have hset : (CharSet.one 's').mem 's' = true := Pattern.mem_one_iff.2 rfl
          have hno : Text.startsWith "://".toList ('s' :: rest) = false := rfl
          have hsecure : Text.startsWith "s://".toList ('s' :: rest) =
              Text.startsWith "://".toList rest := Text.startsWith_append ['s'] "://".toList rest
          have hpast : (p.past ("http".toList ++ ['s'])).rest = rest := by
            rw [Pattern.Place.rest_past, hrest]
            rfl
          simp only [hset, if_true, walk_textThen, hno, hsecure, Pattern.Place.past_past, hpast,
            Bool.false_eq_true, if_false, Option.or_none]
          cases Text.startsWith "://".toList rest <;> rfl
        · have hset : (CharSet.one 's').mem c = false := by
            simpa using mt Pattern.mem_one_iff.1 hc
          have hno : Text.startsWith "s://".toList (c :: rest) = false := by
            simp [Text.startsWith, Text.afterPrefix?, Ne.symm hc]
          simp only [hset, walk_textThen, hno, Pattern.Place.past_past]
          cases Text.startsWith "://".toList (c :: rest) <;> rfl
  · have hnone := Text.startsWith_append_of_not hhttp
    rw [if_neg hhttp, List.find?_cons, hnone, List.find?_cons, hnone]
    rfl

/-- The pattern matches exactly the link that a scanner reads. -/
theorem matchAt_linkNode (p : Pattern.Place) :
    matchAt linkNode p = (linkAt? p.rest).map fun link => (p.past link, []) := by
  rw [matchAt_linkNode_eq, linkAt?]
  cases schemes.find? (Text.startsWith · p.rest) with
  | none => rfl
  | some scheme =>
      simp only [matchAt_targetNode, Pattern.Place.rest_past, Pattern.Place.past_past]
      split <;> rfl

/-! ## Where links begin -/

/-- Whether a link begins with a text: a scheme and a character of a host. -/
def Opens (s : List Char) : Prop :=
  ∃ scheme ∈ schemes, ∃ c rest, hostChars.mem c = true ∧ s = scheme ++ c :: rest

theorem find?_schemes_append {scheme : List Char} (h : scheme ∈ schemes) (rest : List Char) :
    schemes.find? (Text.startsWith · (scheme ++ rest)) = some scheme := by
  have hcases : scheme = "http://".toList ∨ scheme = "https://".toList := by
    simpa [schemes] using h
  rcases hcases with rfl | rfl <;> rfl

theorem hostOf_ne_nil_iff {s : List Char} :
    hostOf s ≠ [] ↔ ∃ c rest, hostChars.mem c = true ∧ s = c :: rest := by
  cases s with
  | nil => simp [hostOf]
  | cons c s => cases h : hostChars.mem c <;> simp [hostOf, h]

theorem linkAt?_isSome_iff {s : List Char} : (linkAt? s).isSome = true ↔ Opens s := by
  constructor
  · intro h
    unfold linkAt? at h
    split at h
    · rename_i scheme hfind
      split at h
      · simp at h
      · rename_i hhost
        have hstarts := List.find?_some hfind
        obtain ⟨rest, hrest⟩ := Text.startsWith_iff.1 hstarts
        rw [hrest, List.drop_left] at hhost
        obtain ⟨c, rest, hc, rfl⟩ := hostOf_ne_nil_iff.1 hhost
        exact ⟨scheme, List.mem_of_find?_eq_some hfind, c, rest, hc, hrest⟩
    · simp at h
  · rintro ⟨scheme, hscheme, c, rest, hc, rfl⟩
    have hhost : hostOf (c :: rest) ≠ [] := hostOf_ne_nil_iff.2 ⟨c, rest, hc, rfl⟩
    simp [linkAt?, find?_schemes_append hscheme, hhost]

theorem linkAt?_eq_none_iff {s : List Char} : linkAt? s = none ↔ ¬ Opens s := by
  rw [← linkAt?_isSome_iff, Option.not_isSome_iff_eq_none]

theorem Opens.append {s : List Char} (h : Opens s) (t : List Char) : Opens (s ++ t) := by
  obtain ⟨scheme, hscheme, c, rest, hc, rfl⟩ := h
  exact ⟨scheme, hscheme, c, rest ++ t, hc, by simp⟩

theorem eq_cons_of_mem_schemes {scheme : List Char} (h : scheme ∈ schemes) :
    ∃ rest, scheme = 'h' :: rest ∧ 'h' ∉ rest := by
  have hcases : scheme = "http://".toList ∨ scheme = "https://".toList := by
    simpa [schemes] using h
  rcases hcases with rfl | rfl
  · exact ⟨"ttp://".toList, rfl, by decide⟩
  · exact ⟨"ttps://".toList, rfl, by decide⟩

theorem Opens.eq_cons {s : List Char} (h : Opens s) : ∃ rest, s = 'h' :: rest := by
  obtain ⟨scheme, hscheme, c, rest, _, rfl⟩ := h
  obtain ⟨tail, rfl, _⟩ := eq_cons_of_mem_schemes hscheme
  exact ⟨tail ++ c :: rest, rfl⟩

/--
Whether a link begins before an `h` does not depend on what follows the `h`: a scheme has
no second one, and the `h` itself may stand in a host.
-/
theorem Opens.of_before_h {s t : List Char} (hne : s ≠ []) (h : Opens (s ++ 'h' :: t))
    (t' : List Char) : Opens (s ++ 'h' :: t') := by
  obtain ⟨scheme, hscheme, c, rest, hc, heq⟩ := h
  rcases List.append_eq_append_iff.1 heq with ⟨more, hmore, hrest⟩ | ⟨more, hmore, hrest⟩
  · cases more with
    | nil =>
        simp only [List.append_nil] at hmore
        refine ⟨scheme, hscheme, 'h', t', by decide, by rw [hmore]⟩
    | cons d more =>
        obtain ⟨tail, htail, hno⟩ := eq_cons_of_mem_schemes hscheme
        simp only [List.cons_append, List.cons.injEq] at hrest
        cases s with
        | nil => exact absurd rfl hne
        | cons e s =>
            rw [hmore, List.cons_append, List.cons.injEq] at htail
            exact absurd (by simp [← htail.2, ← hrest.1]) hno
  · subst hmore
    cases more with
    | nil => exact ⟨scheme, hscheme, 'h', t', by decide, by simp⟩
    | cons d more =>
        simp only [List.cons_append, List.cons.injEq] at hrest
        exact ⟨scheme, hscheme, d, more ++ 'h' :: t', hrest.1 ▸ hc, by simp⟩

/-! ## The links of a text -/

theorem append_starts {a b s : List Char} (ha : a <+: s) (hb : b <+: s.drop a.length) :
    a ++ b <+: s := by
  obtain ⟨rest, rfl⟩ := ha
  rw [List.drop_left] at hb
  exact (List.prefix_append_right_inj a).2 hb

theorem portOf_starts (s : List Char) : portOf s <+: s := by
  unfold portOf
  split
  · split
    · exact List.nil_prefix
    · exact List.cons_prefix_cons.2 ⟨rfl, List.takeWhile_prefix _⟩
  · exact List.nil_prefix

theorem pathOf_starts (s : List Char) : pathOf s <+: s := by
  unfold pathOf
  split
  · exact List.cons_prefix_cons.2 ⟨rfl, List.takeWhile_prefix _⟩
  · exact List.nil_prefix

theorem targetOf_starts (s : List Char) : targetOf s <+: s := by
  have hhost : hostOf s <+: s := List.takeWhile_prefix _
  exact append_starts (append_starts hhost (portOf_starts _)) (pathOf_starts _)

theorem of_linkAt? {s link : List Char} (h : linkAt? s = some link) :
    link <+: s ∧ Opens link := by
  have hopens : Opens s := linkAt?_isSome_iff.1 (by rw [h]; rfl)
  obtain ⟨scheme, hscheme, c, rest, hc, rfl⟩ := hopens
  have hhost : hostOf (c :: rest) = c :: rest.takeWhile (hostChars.mem ·) := by
    simp [hostOf, hc]
  have hlink : link = scheme ++ targetOf (c :: rest) := by
    simpa [linkAt?, find?_schemes_append hscheme, hhost] using h.symm
  subst hlink
  constructor
  · exact (List.prefix_append_right_inj scheme).2 (targetOf_starts _)
  · refine ⟨scheme, hscheme, c, (targetOf (c :: rest)).drop 1, hc, ?_⟩
    simp [targetOf, hhost]

theorem searchFrom_of_linkAt? {passed : List Char} {p : Pattern.Place} {link : List Char}
    (h : linkAt? p.rest = some link) :
    searchFrom linkNode passed p p.rest =
      some ⟨passed.reverse, link, p.rest.drop link.length, []⟩ := by
  unfold searchFrom
  rw [matchAt_linkNode, h]
  simp [Pattern.Place.textTo_past (of_linkAt? h).1]

/-- The first match is the first link: none begins before it. -/
theorem searchFrom_linkNode {passed : List Char} {p : Pattern.Place} {m : Match}
    (h : searchFrom linkNode passed p p.rest = some m) :
    ∃ gap, m.before = passed.reverse ++ gap ∧ p.rest = gap ++ m.matched ++ m.after ∧
      Opens m.matched ∧
      ∀ b a, gap = b ++ a → a ≠ [] → ¬ Opens (a ++ m.matched ++ m.after) := by
  obtain ⟨index, before, rest⟩ := p
  induction rest generalizing passed index before with
  | nil =>
      unfold searchFrom at h
      rw [matchAt_linkNode] at h
      simp [linkAt?, schemes, Text.startsWith, Text.afterPrefix?] at h
  | cons c rest ih =>
      cases hlink : linkAt? (c :: rest) with
      | some link =>
          rw [searchFrom_of_linkAt? (p := ⟨index, before, c :: rest⟩) hlink] at h
          simp only [Option.some.injEq] at h
          subst h
          obtain ⟨⟨after, hafter⟩, hopens⟩ := of_linkAt? hlink
          refine ⟨[], by simp, ?_, hopens, ?_⟩
          · simp [← hafter]
          · intro b a hgap hne
            simp_all
      | none =>
          unfold searchFrom at h
          rw [matchAt_linkNode, hlink] at h
          obtain ⟨gap, hbefore, hrest, hopens, hno⟩ := ih (index + 1) (some c) h
          have hall : rest = gap ++ m.matched ++ m.after := hrest
          refine ⟨c :: gap, by simp [hbefore], by simp [hall], hopens, ?_⟩
          intro b a hgap hne
          cases b with
          | nil =>
              have hnone := linkAt?_eq_none_iff.1 hlink
              rw [List.nil_append] at hgap
              simpa [← hgap, ← hall] using hnone
          | cons d b =>
              simp only [List.cons_append, List.cons.injEq] at hgap
              exact hno b a hgap.2 hne

def IsGap (gap : List Char) : Prop :=
  ∀ b a, gap = b ++ a → a ≠ [] → ∀ t, ¬ Opens (a ++ 'h' :: t)

/-- How links lie in a text, one behind the other, with gaps before them. -/
inductive LaidOut : List Char → List Match → Prop
  | rest (text : List Char) : LaidOut text []
  | link {m : Match} {ms : List Match} (opens : Opens m.matched)
      (gap : IsGap m.before) (behind : LaidOut m.after ms) :
      LaidOut (m.before ++ m.matched ++ m.after) (m :: ms)

theorem LaidOut.of_cons {text : List Char} {m : Match} {ms : List Match}
    (h : LaidOut text (m :: ms)) :
    text = m.before ++ m.matched ++ m.after ∧ Opens m.matched ∧ IsGap m.before ∧
      LaidOut m.after ms := by
  cases h with
  | link opens gap behind => exact ⟨rfl, opens, gap, behind⟩

theorem matchesFrom_laidOut (fuel : Nat) (p : Pattern.Place) :
    LaidOut p.rest (linkPattern.matchesFrom fuel p) := by
  induction fuel generalizing p with
  | zero => exact .rest _
  | succ fuel ih =>
      unfold Pattern.matchesFrom
      cases hsearch : searchFrom linkPattern.node [] p p.rest with
      | none => exact .rest _
      | some m =>
          obtain ⟨gap, hbefore, hrest, hopens, hno⟩ := searchFrom_linkNode hsearch
          obtain ⟨tail, htail⟩ := hopens.eq_cons
          simp only [List.reverse_nil, List.nil_append] at hbefore
          subst hbefore
          have hgap : IsGap m.before := by
            intro b a hsplit hne t h
            apply hno b a hsplit hne
            rw [htail, List.append_assoc]
            exact h.of_before_h hne _
          rw [hrest]
          cases hlast : m.matched.reverse with
          | nil => simp [htail] at hlast
          | cons last passed =>
              simp only [hlast]
              exact .link hopens hgap
                (ih ⟨p.index + m.before.length + m.matched.length, some last, m.after⟩)

/-- The matches of the pattern are the links of a text. -/
theorem matchesIn_laidOut (text : List Char) :
    LaidOut text (linkPattern.matchesIn text) :=
  matchesFrom_laidOut _ (.start text)

end Message

end LinkHygiene
