import LinkHygiene.Proofs.Message.Scanner

/-!
# Extraction as a scan

The links of a text are those that a scanner reads from left to right: it goes to the first
place where a link begins, takes the longest host, a port that has digits and a path, and
goes on behind them. The scanner is described by what it reads, without patterns.
-/

namespace LinkHygiene

namespace Message

open Pattern (searchFrom)

/-! ## What a scanner reads -/

def isHostChar (c : Char) : Bool :=
  c.isAlphanum || ['_', '-', '.'].contains c

def isPathChar (c : Char) : Bool :=
  c.isAlphanum ||
    ['_', '-', '.', '/', '[', ']', '?', '%', '&', '=', '+', '#', ',', ';', '@', '~'].contains c

structure IsRun (p : Char → Bool) (run rest : List Char) : Prop where
  all : ∀ c ∈ run, p c = true
  ends : ∀ c after, rest = c :: after → p c = false

/-- A colon is read with the digits behind it, and left where it is without any. -/
inductive ReadsPort : (port rest : List Char) → Prop
  | port {digits rest : List Char} (ne : digits ≠ []) (run : IsRun Char.isDigit digits rest) :
      ReadsPort (':' :: digits) rest
  | none {rest : List Char} (absent : ∀ d after, rest = ':' :: d :: after → d.isDigit = false) :
      ReadsPort [] rest

/-- A slash is read with the path characters behind it, which may be none. -/
inductive ReadsPath : (path rest : List Char) → Prop
  | path {signs rest : List Char} (run : IsRun isPathChar signs rest) :
      ReadsPath ('/' :: signs) rest
  | none {rest : List Char} (absent : ∀ after, rest ≠ '/' :: after) : ReadsPath [] rest

/-- What is read of a text that a link begins with, and what is left. -/
inductive ReadsLink : (link rest : List Char) → Prop
  | link {scheme host port path rest : List Char} (scheme_mem : scheme ∈ schemes)
      (host_ne : host ≠ []) (host_run : IsRun isHostChar host (port ++ path ++ rest))
      (port_reads : ReadsPort port (path ++ rest)) (path_reads : ReadsPath path rest) :
      ReadsLink (scheme ++ (host ++ port ++ path)) rest

/-- Whether a link begins here: a scheme, and a character of a host behind it. -/
def Begins (s : List Char) : Prop :=
  ∃ scheme ∈ schemes, ∃ c rest, isHostChar c = true ∧ s = scheme ++ c :: rest

/--
How a text is scanned. No link begins in the gap before the one that is read next, and after
the last one no link begins at all.
-/
inductive Scans : (text : List Char) → (links : List (List Char)) → Prop
  | done {text : List Char} (no_more : ∀ passed here, text = passed ++ here → ¬ Begins here) :
      Scans text []
  | link {gap link rest : List Char} {links : List (List Char)}
      (skips : ∀ passed here, gap = passed ++ here → here ≠ [] → ¬ Begins (here ++ (link ++ rest)))
      (reads : ReadsLink link rest) (behind : Scans rest links) :
      Scans (gap ++ (link ++ rest)) (link :: links)

/-! ## Kinds of characters -/

theorem mem_ofChars (c : Char) (cs : List Char) :
    (CharSet.ofChars cs).mem c = cs.contains c := by
  induction cs with
  | nil => rfl
  | cons d cs ih =>
      have hone : (CharSet.one d).mem c = (c == d) := by
        rw [Bool.eq_iff_iff, Pattern.mem_one_iff, beq_iff_eq]
      cases cs with
      | nil =>
          rw [List.contains_cons, List.contains_nil, Bool.or_false, ← hone]
          rfl
      | cons e cs =>
          have hcons : (CharSet.ofChars (d :: e :: cs)).mem c =
              ((CharSet.one d).mem c || (CharSet.ofChars (e :: cs)).mem c) := rfl
          rw [hcons, ih, hone, ← List.contains_cons]

theorem mem_digits : (CharSet.digits.mem ·) = Char.isDigit := rfl

theorem mem_alphanumAnd (c : Char) (signs : List Char) :
    (CharSet.ofList [.uppers, .lowers, .digits, .ofChars signs]).mem c =
      (c.isAlphanum || signs.contains c) := by
  have hupper : CharSet.uppers.mem c = c.isUpper := (Bool.decide_and _ _).symm
  have hlower : CharSet.lowers.mem c = c.isLower := rfl
  have hdigit : CharSet.digits.mem c = c.isDigit := rfl
  have halphanum : c.isAlphanum = (c.isUpper || c.isLower || c.isDigit) := rfl
  rw [halphanum]
  simp only [CharSet.ofList, CharSet.mem_union, hupper, hlower, hdigit, mem_ofChars, Bool.or_assoc]

theorem mem_hostChars : (hostChars.mem ·) = isHostChar := by
  funext c
  exact mem_alphanumAnd c _

theorem mem_pathChars : (pathChars.mem ·) = isPathChar := by
  funext c
  exact mem_alphanumAnd c _

theorem begins_iff {s : List Char} : Begins s ↔ Opens s := by
  have hmem : ∀ c, hostChars.mem c = isHostChar c := fun c => congrFun mem_hostChars c
  simp only [Begins, Opens, hmem]

/-! ## Runs -/

theorem exists_isRun (p : Char → Bool) (s : List Char) :
    ∃ run rest, s = run ++ rest ∧ IsRun p run rest := by
  refine ⟨s.takeWhile p, s.dropWhile p, List.takeWhile_append_dropWhile.symm, ?_, ?_⟩
  · intro c hc
    exact (List.all_eq_true.1 List.all_takeWhile) c hc
  · intro c after hrest
    have hhead := List.head?_dropWhile_not p s
    simpa [hrest] using hhead

theorem IsRun.takeWhile_eq {p : Char → Bool} {run rest : List Char} (h : IsRun p run rest) :
    (run ++ rest).takeWhile p = run := by
  rw [List.takeWhile_append_of_pos h.all]
  cases rest with
  | nil => simp
  | cons c rest => simp [h.ends c rest rfl]

theorem IsRun.shorten {p : Char → Bool} {run rest more : List Char}
    (h : IsRun p run (rest ++ more)) : IsRun p run rest := by
  refine ⟨h.all, fun c after hrest => h.ends c (after ++ more) ?_⟩
  rw [hrest, List.cons_append]

/-! ## Ports and paths -/

theorem exists_readsPort (s : List Char) : ∃ port rest, s = port ++ rest ∧ ReadsPort port rest := by
  by_cases hcolon : ∃ t, s = ':' :: t
  · obtain ⟨t, rfl⟩ := hcolon
    obtain ⟨digits, rest, rfl, hrun⟩ := exists_isRun Char.isDigit t
    by_cases hne : digits = []
    · subst hne
      refine ⟨[], ':' :: rest, rfl, .none fun d after heq => ?_⟩
      exact hrun.ends d after (List.cons.inj heq).2
    · exact ⟨':' :: digits, rest, rfl, .port hne hrun⟩
  · exact ⟨[], s, rfl, .none fun d after heq => absurd ⟨d :: after, heq⟩ hcolon⟩

theorem ReadsPort.portOf_eq {port rest : List Char} (h : ReadsPort port rest) :
    portOf (port ++ rest) = port := by
  cases h with
  | @port digits _ hne hrun =>
      have hdigits : (digits ++ rest).takeWhile (CharSet.digits.mem ·) = digits := by
        rw [mem_digits, hrun.takeWhile_eq]
      simp only [List.cons_append, portOf, hdigits, if_neg hne]
  | none habsent =>
      rw [List.nil_append]
      unfold portOf
      split
      · rename_i t
        rw [mem_digits]
        apply if_pos
        cases t with
        | nil => rfl
        | cons d after => simp [habsent d after rfl]
      · rfl

theorem ReadsPort.shorten {port rest more : List Char} (h : ReadsPort port (rest ++ more)) :
    ReadsPort port rest := by
  cases h with
  | port hne hrun => exact .port hne hrun.shorten
  | none habsent =>
      refine .none fun d after heq => habsent d (after ++ more) ?_
      rw [heq, List.cons_append, List.cons_append]

theorem exists_readsPath (s : List Char) : ∃ path rest, s = path ++ rest ∧ ReadsPath path rest := by
  by_cases hslash : ∃ t, s = '/' :: t
  · obtain ⟨t, rfl⟩ := hslash
    obtain ⟨signs, rest, rfl, hrun⟩ := exists_isRun isPathChar t
    exact ⟨'/' :: signs, rest, rfl, .path hrun⟩
  · exact ⟨[], s, rfl, .none fun after heq => hslash ⟨after, heq⟩⟩

theorem ReadsPath.pathOf_eq {path rest : List Char} (h : ReadsPath path rest) :
    pathOf (path ++ rest) = path := by
  cases h with
  | path hrun => simp only [List.cons_append, pathOf, mem_pathChars, hrun.takeWhile_eq]
  | none habsent =>
      rw [List.nil_append]
      unfold pathOf
      split
      · rename_i t
        exact absurd rfl (habsent t)
      · rfl

theorem ReadsPath.shorten {path rest more : List Char} (h : ReadsPath path (rest ++ more)) :
    ReadsPath path rest := by
  cases h with
  | path hrun => exact .path hrun.shorten
  | none habsent =>
      refine .none fun after heq => habsent (after ++ more) ?_
      rw [heq, List.cons_append]

/-! ## Links -/

theorem exists_readsLink {s : List Char} (h : Begins s) :
    ∃ link rest, s = link ++ rest ∧ ReadsLink link rest := by
  obtain ⟨scheme, hscheme, c, t, hc, rfl⟩ := h
  obtain ⟨host, behindHost, hhost, hrun⟩ := exists_isRun isHostChar (c :: t)
  obtain ⟨port, behindPort, rfl, hport⟩ := exists_readsPort behindHost
  obtain ⟨path, rest, rfl, hpath⟩ := exists_readsPath behindPort
  have hne : host ≠ [] := by
    rintro rfl
    rw [hrun.ends c t (by rw [hhost, List.nil_append])] at hc
    contradiction
  rw [← List.append_assoc] at hrun
  exact ⟨_, rest, by simp [hhost], .link hscheme hne hrun hport hpath⟩

theorem ReadsLink.begins {link rest : List Char} (h : ReadsLink link rest) :
    Begins (link ++ rest) := by
  cases h with
  | @link scheme host port path _ hscheme hne hrun hport hpath =>
      obtain ⟨c, more, rfl⟩ := List.exists_cons_of_ne_nil hne
      exact ⟨scheme, hscheme, c, more ++ port ++ path ++ rest, hrun.all c List.mem_cons_self,
        by simp⟩

theorem ReadsLink.linkAt?_eq {link rest : List Char} (h : ReadsLink link rest) :
    linkAt? (link ++ rest) = some link := by
  cases h with
  | @link scheme host port path _ hscheme hne hrun hport hpath =>
      have hhost : hostOf (host ++ (port ++ (path ++ rest))) = host := by
        rw [List.append_assoc] at hrun
        rw [hostOf, mem_hostChars, hrun.takeWhile_eq]
      have htarget : targetOf (host ++ (port ++ (path ++ rest))) = host ++ port ++ path := by
        have hbehind : (host ++ (port ++ (path ++ rest))).drop (host ++ port).length =
            path ++ rest := by
          rw [← List.append_assoc, List.drop_left]
        simp only [targetOf, hhost, List.drop_left, hport.portOf_eq, hbehind, hpath.pathOf_eq]
      have htext : scheme ++ (host ++ port ++ path) ++ rest =
          scheme ++ (host ++ (port ++ (path ++ rest))) := by simp
      unfold linkAt?
      simp only [htext, find?_schemes_append hscheme, List.drop_left, hhost, if_neg hne, htarget]

/-- A scanner reads the same link when the text ends behind it. -/
theorem ReadsLink.alone {link rest : List Char} (h : ReadsLink link rest) : ReadsLink link [] := by
  obtain ⟨hscheme, hne, hrun, hport, hpath⟩ := h
  refine .link hscheme hne ?_ ?_ ?_
  · rw [List.append_nil]
    exact hrun.shorten
  · rw [List.append_nil]
    exact hport.shorten
  · have hlonger : ReadsPath _ ([] ++ rest) := hpath
    exact hlonger.shorten

theorem linkAt?_eq_some_iff {s link : List Char} :
    linkAt? s = some link ↔ ∃ rest, s = link ++ rest ∧ ReadsLink link rest := by
  constructor
  · intro h
    have hbegins : Begins s := begins_iff.2 (linkAt?_isSome_iff.1 (by rw [h]; rfl))
    obtain ⟨read, rest, rfl, hreads⟩ := exists_readsLink hbegins
    rw [hreads.linkAt?_eq] at h
    obtain rfl := Option.some.inj h
    exact ⟨rest, rfl, hreads⟩
  · rintro ⟨rest, rfl, hreads⟩
    exact hreads.linkAt?_eq

theorem not_begins_of_linkAt?_eq_none {s : List Char} (h : linkAt? s = none) : ¬ Begins s := by
  rw [begins_iff]
  exact linkAt?_eq_none_iff.1 h

/-! ## From link to link -/

def nextLink? : List Char → Option (List Char × List Char × List Char)
  | [] => none
  | c :: s =>
      match linkAt? (c :: s) with
      | some link => some ([], link, (c :: s).drop link.length)
      | none => (nextLink? s).map fun (gap, link, rest) => (c :: gap, link, rest)

theorem not_begins_nil : ¬ Begins [] := by
  rintro ⟨scheme, _, c, rest, _, h⟩
  simp at h

theorem searchFrom_eq_nextLink? (passed : List Char) (p : Pattern.Place) :
    searchFrom linkNode passed p p.rest =
      (nextLink? p.rest).map fun (gap, link, rest) => ⟨passed.reverse ++ gap, link, rest, []⟩ := by
  obtain ⟨index, before, rest⟩ := p
  induction rest generalizing passed index before with
  | nil =>
      have hnone : linkAt? [] = none := rfl
      unfold searchFrom
      rw [matchAt_linkNode, hnone]
      rfl
  | cons c rest ih =>
      cases hlink : linkAt? (c :: rest) with
      | some link =>
          rw [searchFrom_of_linkAt? (p := ⟨index, before, c :: rest⟩) hlink]
          simp [nextLink?, hlink]
      | none =>
          unfold searchFrom
          rw [matchAt_linkNode, hlink]
          simp only [Option.map_none, nextLink?, hlink, Option.map_map]
          rw [ih (c :: passed) (index + 1) (some c)]
          congr 1
          funext read
          simp

/-- What stands before the first link, and the link itself. -/
theorem of_nextLink? {s gap link rest : List Char} (h : nextLink? s = some (gap, link, rest)) :
    s = gap ++ (link ++ rest) ∧ ReadsLink link rest ∧
      ∀ passed here, gap = passed ++ here → here ≠ [] → ¬ Begins (here ++ (link ++ rest)) := by
  induction s generalizing gap with
  | nil => simp [nextLink?] at h
  | cons c s ih =>
      cases hlink : linkAt? (c :: s) with
      | some read =>
          simp only [nextLink?, hlink, Option.some.injEq, Prod.mk.injEq] at h
          obtain ⟨rfl, rfl, hrest⟩ := h
          obtain ⟨behind, heq, hreads⟩ := linkAt?_eq_some_iff.1 hlink
          obtain rfl : behind = rest := by
            rw [heq, List.drop_left] at hrest
            exact hrest
          refine ⟨heq, hreads, fun passed here hnil hne => ?_⟩
          exact absurd (List.append_eq_nil_iff.1 hnil.symm).2 hne
      | none =>
          simp only [nextLink?, hlink, Option.map_eq_some_iff, Prod.mk.injEq] at h
          obtain ⟨⟨gap', link', rest'⟩, hnext, rfl, rfl, rfl⟩ := h
          obtain ⟨hs, hreads, hskips⟩ := ih hnext
          refine ⟨by rw [hs, List.cons_append], hreads, fun passed here hgap hne => ?_⟩
          cases passed with
          | nil =>
              obtain rfl : c :: gap' = here := hgap
              rw [List.cons_append, ← hs]
              exact not_begins_of_linkAt?_eq_none hlink
          | cons d passed => exact hskips passed here (List.cons.inj hgap).2 hne

theorem nextLink?_eq_none_iff {s : List Char} :
    nextLink? s = none ↔ ∀ passed here, s = passed ++ here → ¬ Begins here := by
  induction s with
  | nil =>
      simp only [nextLink?, true_iff]
      intro passed here hs
      obtain rfl := (List.append_eq_nil_iff.1 hs.symm).2
      exact not_begins_nil
  | cons c s ih =>
      cases hlink : linkAt? (c :: s) with
      | some link =>
          simp only [nextLink?, hlink, reduceCtorEq, false_iff]
          intro h
          have hbegins : Opens (c :: s) := linkAt?_isSome_iff.1 (by rw [hlink]; rfl)
          exact h [] (c :: s) rfl (begins_iff.2 hbegins)
      | none =>
          simp only [nextLink?, hlink, Option.map_eq_none_iff, ih]
          constructor
          · intro h passed here hs
            cases passed with
            | nil =>
                obtain rfl : c :: s = here := hs
                exact not_begins_of_linkAt?_eq_none hlink
            | cons d passed => exact h passed here (List.cons.inj hs).2
          · intro h passed here hs
            exact h (c :: passed) here (by rw [hs, List.cons_append])

theorem nextLink?_of_reads {gap link rest : List Char}
    (hskips : ∀ passed here, gap = passed ++ here → here ≠ [] → ¬ Begins (here ++ (link ++ rest)))
    (hreads : ReadsLink link rest) : nextLink? (gap ++ (link ++ rest)) = some (gap, link, rest) := by
  induction gap with
  | nil =>
      cases hlink : link ++ rest with
      | nil => exact absurd (hlink ▸ hreads.begins) not_begins_nil
      | cons c s =>
          have hread := hreads.linkAt?_eq
          rw [hlink] at hread
          rw [List.nil_append, nextLink?, hread]
          simp only [← hlink, List.drop_left]
  | cons c gap ih =>
      have hnone : linkAt? (c :: (gap ++ (link ++ rest))) = none := by
        rw [linkAt?_eq_none_iff, ← begins_iff]
        exact hskips [] (c :: gap) rfl (List.cons_ne_nil c gap)
      have hnext := ih fun passed here hgap => hskips (c :: passed) here (by rw [hgap]; rfl)
      rw [List.cons_append, nextLink?, hnone, hnext]
      rfl

/-! ## Scanning a text -/

theorem ReadsLink.ne_nil {link rest : List Char} (h : ReadsLink link rest) : link ≠ [] := by
  rintro rfl
  exact not_begins_nil h.alone.begins

/-- Every text can be scanned: what is left behind a link is shorter. -/
theorem exists_scans (text : List Char) : ∃ links, Scans text links := by
  cases hnext : nextLink? text with
  | none => exact ⟨[], .done (nextLink?_eq_none_iff.1 hnext)⟩
  | some read =>
      obtain ⟨gap, link, rest⟩ := read
      obtain ⟨htext, hreads, hskips⟩ := of_nextLink? hnext
      have hpos : 0 < link.length := List.length_pos_iff.2 hreads.ne_nil
      have hshorter : rest.length < text.length := by
        rw [htext, List.length_append, List.length_append]
        omega
      obtain ⟨links, hbehind⟩ := exists_scans rest
      exact ⟨link :: links, htext ▸ .link hskips hreads hbehind⟩
termination_by text.length

/-- Whatever a scanner reads, the pattern matches, link by link. -/
theorem Scans.matchesFrom_eq {text : List Char} {links : List (List Char)} (h : Scans text links)
    {fuel : Nat} (hfuel : text.length < fuel) (index : Nat) (before : Option Char) :
    (linkPattern.matchesFrom fuel ⟨index, before, text⟩).map (·.matched) = links := by
  induction h generalizing fuel index before with
  | @done text hnone =>
      obtain ⟨fuel, rfl⟩ : ∃ n, fuel = n + 1 := ⟨fuel - 1, by omega⟩
      have hsearch : searchFrom linkPattern.node [] ⟨index, before, text⟩ text = _ :=
        searchFrom_eq_nextLink? [] ⟨index, before, text⟩
      rw [nextLink?_eq_none_iff.2 hnone] at hsearch
      simp [Pattern.matchesFrom, hsearch]
  | @link gap link rest links hskips hreads _ ih =>
      obtain ⟨fuel, rfl⟩ : ∃ n, fuel = n + 1 := ⟨fuel - 1, by omega⟩
      have hsearch : searchFrom linkPattern.node [] ⟨index, before, gap ++ (link ++ rest)⟩
          (gap ++ (link ++ rest)) = _ := searchFrom_eq_nextLink? [] ⟨index, before, _⟩
      rw [nextLink?_of_reads hskips hreads] at hsearch
      have hpos : 0 < link.length := List.length_pos_iff.2 hreads.ne_nil
      have hshorter : rest.length < fuel := by
        simp only [List.length_append] at hfuel
        omega
      cases hlast : link.reverse with
      | nil => exact absurd (List.reverse_eq_nil_iff.1 hlast) hreads.ne_nil
      | cons last passed => simp [Pattern.matchesFrom, hsearch, hlast, ih hshorter]

theorem Scans.extractLinks_eq {text : String} {links : List (List Char)}
    (h : Scans text.toList links) : (extractLinks text).map String.toList = links := by
  have hmatched := h.matchesFrom_eq (Nat.lt_succ_self _) 0 none
  rw [extractLinks, Pattern.findAll, List.map_map]
  simpa [Function.comp_def, Pattern.matchesIn, Pattern.Place.start] using hmatched

theorem scans_extractLinks (text : String) :
    Scans text.toList ((extractLinks text).map String.toList) := by
  obtain ⟨links, h⟩ := exists_scans text.toList
  rw [h.extractLinks_eq]
  exact h

theorem Scans.exists_reads {text : List Char} {links : List (List Char)} (h : Scans text links) :
    ∀ link ∈ links, ∃ rest, ReadsLink link rest := by
  induction h with
  | done _ => simp
  | link _ hreads _ ih => exact List.forall_mem_cons.2 ⟨⟨_, hreads⟩, ih⟩

/-- A text that is all one link is scanned as that link. -/
theorem ReadsLink.scans_alone {link : List Char} (h : ReadsLink link []) : Scans link [link] := by
  have hdone : Scans [] [] := by
    refine .done fun passed here hnil => ?_
    obtain rfl := (List.append_eq_nil_iff.1 hnil.symm).2
    exact not_begins_nil
  have hscans : Scans ([] ++ (link ++ [])) [link] :=
    .link (fun passed here hnil hne => absurd (List.append_eq_nil_iff.1 hnil.symm).2 hne) h hdone
  simpa using hscans

/--
The links that are extracted from a text are those that a scanner reads from left to right,
and no others. So they stand in the text one behind the other, none begins in the gaps
between them, and from a link alone exactly this link is extracted.
-/
theorem extractLinks_scans (text : String) :
    (∀ links, Scans text.toList links ↔ links = (extractLinks text).map String.toList) ∧
      ∀ link ∈ extractLinks text, extractLinks link = [link] := by
  have hscans := scans_extractLinks text
  refine ⟨fun links => ⟨fun h => h.extractLinks_eq.symm, fun h => h ▸ hscans⟩, ?_⟩
  intro link hlink
  obtain ⟨rest, hreads⟩ := hscans.exists_reads link.toList (List.mem_map_of_mem hlink)
  have halone := hreads.alone.scans_alone.extractLinks_eq
  have hmap := congrArg (List.map String.ofList) halone
  simpa [Function.comp_def] using hmap

/-- A colon without digits, a scheme inside a host and one inside a path, a host that is missing. -/
theorem extractLinks_scans_corners :
    let text := "xhttp://a.b:/ http://https://c.d:80e/ http://f/?u=https://g http:///"
    let links := ["http://a.b", "http://https", "http://f/?u=https"]
    extractLinks text = links ∧ Scans text.toList (links.map String.toList) ∧
      extractLinks "http://f/?u=https" = ["http://f/?u=https"] := by
  intro text links
  have hlinks : extractLinks text = links := by decide +kernel
  obtain ⟨hscans, halone⟩ := extractLinks_scans text
  refine ⟨hlinks, (hscans _).2 (by rw [hlinks]), halone _ ?_⟩
  rw [hlinks]
  decide

end Message

end LinkHygiene
