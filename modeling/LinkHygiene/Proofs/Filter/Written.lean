import LinkHygiene.Filter.Line
import LinkHygiene.Proofs.Text.Occurrence
import LinkHygiene.Proofs.Text.Split
import LinkHygiene.Proofs.Text.Trim

/-!
# Filter lines read back

A line is written from an effect, a domain, a path, a parameter and modifiers: commas of the
parameter get a backslash, and the fields are put behind one another. Reading such a line
gives back what it was written from: one rule, or the rules of the first list of domains
among the modifiers, one for each entry that is not blank.
-/

namespace LinkHygiene

/-! ## Patterns between slashes -/

def IsSlashed (param : List Char) : Prop :=
  ∃ body, body ≠ [] ∧ param = '/' :: (body ++ ['/'])

theorem TrackingRule.slashed?_eq_some_iff {param body : List Char} :
    slashed? param = some body ↔ body ≠ [] ∧ param = '/' :: (body ++ ['/']) := by
  constructor
  · intro h
    unfold slashed? at h
    split at h
    · rename_i rest
      split at h
      · rename_i c reversed hreverse
        obtain rfl := Option.some.inj h
        have hrest := congrArg List.reverse hreverse
        rw [List.reverse_reverse, List.reverse_cons] at hrest
        exact ⟨by simp, by rw [hrest]⟩
      · cases h
    · cases h
  · rintro ⟨hne, rfl⟩
    obtain ⟨c, reversed, hreversed⟩ := List.exists_cons_of_ne_nil (List.reverse_ne_nil_iff.2 hne)
    have hbody : (c :: reversed).reverse = body := by rw [← hreversed, List.reverse_reverse]
    simp [slashed?, ← hbody]

instance (param : List Char) : Decidable (IsSlashed param) :=
  decidable_of_iff ((TrackingRule.slashed? param).isSome = true) <| by
    simp only [Option.isSome_iff_exists, TrackingRule.slashed?_eq_some_iff, IsSlashed]

namespace FilterLine

/-! ## Fields -/

def escapeCommas : List Char → List Char
  | [] => []
  | c :: s => if c = ',' then '\\' :: ',' :: escapeCommas s else c :: escapeCommas s

/-- Whether every comma of a text has a backslash before it, so that it is one field. -/
def IsWhole : (escaped : Bool) → List Char → Prop
  | _, [] => True
  | escaped, c :: s => (c = ',' → escaped = true) ∧ IsWhole (c == '\\') s

/-- Whether what follows a text has a backslash before it. -/
def escapesNext (escaped : Bool) (s : List Char) : Bool :=
  s.getLast?.elim escaped (· == '\\')

theorem escapesNext_cons (escaped : Bool) (c : Char) (s : List Char) :
    escapesNext escaped (c :: s) = escapesNext (c == '\\') s := by
  cases s with
  | nil => rfl
  | cons d s =>
      rw [escapesNext, escapesNext, List.getLast?_cons_cons]
      simp [List.getLast?_cons]

theorem splitModifiersFrom_append {escaped : Bool} {s : List Char} (h : IsWhole escaped s)
    (field rest : List Char) :
    splitModifiersFrom escaped field (s ++ rest) =
      splitModifiersFrom (escapesNext escaped s) (s.reverse ++ field) rest := by
  induction s generalizing escaped field with
  | nil => rfl
  | cons c s ih =>
      have hcomma : ¬ (c = ',' && !escaped) = true := by
        simp only [Bool.and_eq_true, decide_eq_true_eq, Bool.not_eq_true', not_and]
        intro hc
        simp [h.1 hc]
      rw [List.cons_append, splitModifiersFrom, if_neg hcomma, ih h.2, escapesNext_cons]
      simp

theorem splitModifiers_of_isWhole {s : List Char} (h : IsWhole false s) :
    splitModifiers s = [s] := by
  have hsplit := splitModifiersFrom_append h [] []
  rw [List.append_nil, List.append_nil] at hsplit
  rw [splitModifiers, hsplit, splitModifiersFrom, List.reverse_reverse]

/-- A field ends at the comma behind it, if there is no backslash between. -/
theorem splitModifiers_append_comma {s : List Char} (h : IsWhole false s)
    (hend : s.getLast? ≠ some '\\') (rest : List Char) :
    splitModifiers (s ++ ',' :: rest) = s :: splitModifiers rest := by
  have hnext : escapesNext false s = false := by
    unfold escapesNext
    cases hlast : s.getLast? with
    | none => rfl
    | some c =>
        have hc : c ≠ '\\' := fun hc => hend (by rw [hlast, hc])
        simpa using hc
  rw [splitModifiers, splitModifiersFrom_append h, hnext, splitModifiersFrom]
  simp [splitModifiers]

theorem splitModifiers_fields {s last : List Char} {fields : List (List Char)}
    (h : ∀ field ∈ s :: fields, IsWhole false field ∧ field.getLast? ≠ some '\\')
    (hlast : IsWhole false last) :
    splitModifiers (s ++ fields.flatMap (',' :: ·) ++ ',' :: last) =
      s :: (fields ++ [last]) := by
  induction fields generalizing s with
  | nil =>
      obtain ⟨hs, hend⟩ := h s List.mem_cons_self
      simp [splitModifiers_append_comma hs hend, splitModifiers_of_isWhole hlast]
  | cons next fields ih =>
      obtain ⟨hs, hend⟩ := h s List.mem_cons_self
      have hrest := ih fun field hfield => h field (List.mem_cons_of_mem s hfield)
      calc
        splitModifiers (s ++ (next :: fields).flatMap (',' :: ·) ++ ',' :: last) =
            splitModifiers
              (s ++ ',' :: (next ++ fields.flatMap (',' :: ·) ++ ',' :: last)) := by
          simp
        _ = s :: splitModifiers (next ++ fields.flatMap (',' :: ·) ++ ',' :: last) :=
          splitModifiers_append_comma hs hend _
        _ = s :: (next :: fields ++ [last]) := by
          rw [hrest]
          rfl

theorem isWhole_of_not_mem {escaped : Bool} {s : List Char} (h : ',' ∉ s) :
    IsWhole escaped s := by
  induction s generalizing escaped with
  | nil => trivial
  | cons c s ih =>
      exact ⟨fun hc => absurd (by simp [hc]) h, ih fun hs => h (List.mem_cons_of_mem c hs)⟩

/-! ## Commas of the parameter -/

theorem isWhole_escapeCommas (escaped : Bool) (s : List Char) :
    IsWhole escaped (escapeCommas s) := by
  induction s generalizing escaped with
  | nil => trivial
  | cons c s ih =>
      unfold escapeCommas
      split
      · exact ⟨fun hc => absurd hc (by decide), fun _ => rfl, ih _⟩
      · rename_i hc
        exact ⟨fun hcomma => absurd hcomma hc, ih _⟩

theorem getLast?_escapeCommas (s : List Char) : (escapeCommas s).getLast? = s.getLast? := by
  induction s with
  | nil => rfl
  | cons c s ih =>
      unfold escapeCommas
      split
      · rename_i hc
        rw [List.getLast?_cons, List.getLast?_cons, List.getLast?_cons, ih, hc]
        simp
      · rw [List.getLast?_cons, List.getLast?_cons, ih]

theorem unescapeCommas_cons {c : Char} {s : List Char}
    (h : c = '\\' → s.head? ≠ some ',') : unescapeCommas (c :: s) = c :: unescapeCommas s := by
  rw [unescapeCommas]
  intro rest hc hs
  exact h hc (by rw [hs]; rfl)

theorem unescapeCommas_escapeCommas (s : List Char) : unescapeCommas (escapeCommas s) = s := by
  induction s with
  | nil => rfl
  | cons c s ih =>
      unfold escapeCommas
      split
      · rename_i hc
        rw [unescapeCommas, ih, hc]
      · rw [unescapeCommas_cons, ih]
        intro _
        cases s with
        | nil => simp [escapeCommas]
        | cons d s =>
            unfold escapeCommas
            split
            · simp
            · rename_i hd
              simpa using hd

theorem isTight_escapeCommas {s : List Char} (h : Text.IsTight s) :
    Text.IsTight (escapeCommas s) := by
  refine ⟨?_, by rw [getLast?_escapeCommas]; exact h.2⟩
  intro c hc
  cases s with
  | nil => cases hc
  | cons d s =>
      unfold escapeCommas at hc
      split at hc
      · obtain rfl := Option.some.inj hc
        decide
      · obtain rfl := Option.some.inj hc
        exact h.1 d rfl

end FilterLine

/-! ## Lines -/

/-- What a line is written from. -/
structure WrittenLine where
  effect : Effect
  domain : List Char
  path : Option (List Char)
  param : List Char
  modifiers : List (List Char)

namespace WrittenLine

open FilterLine

def effectSign : Effect → List Char
  | .remove => []
  | .allow => ['@', '@']

def target (l : WrittenLine) : List Char :=
  '|' :: '|' :: (l.domain ++ l.path.getD ['^'])

def fields (l : WrittenLine) : List Char :=
  escapeCommas l.param ++ l.modifiers.flatMap (',' :: ·)

def text (l : WrittenLine) : List Char :=
  effectSign l.effect ++ (l.target ++ (removeSign ++ l.fields))

/-- Characters of a domain: no blank, nothing that ends a domain, no letter from A to Z. -/
def IsDomainChar (c : Char) : Prop :=
  Text.isBlank c = false ∧ c ≠ '/' ∧ c ≠ '^' ∧ c ≠ '$' ∧ ¬ ('A' ≤ c ∧ c ≤ 'Z')

instance (c : Char) : Decidable (IsDomainChar c) :=
  inferInstanceAs (Decidable (_ ∧ _))

/-- A path: it begins with a slash and ends with none of the signs that mean nothing there. -/
structure IsPath (path : List Char) : Prop where
  begins : path.head? = some '/'
  plain : ∀ c ∈ path, Text.isBlank c = false ∧ c ≠ '$'
  ends : ∀ c, path.getLast? = some c → c ≠ '^' ∧ c ≠ '*' ∧ c ≠ '|'

structure IsParam (param : List Char) : Prop where
  ne_nil : param ≠ []
  isTight : Text.IsTight param
  ends : param.getLast? ≠ some '\\'
  reads : ∀ body, body ≠ [] → param = '/' :: (body ++ ['/']) →
    (Pattern.ofText? (String.ofList body)).isSome = true

/-- Lines whose parts can be told apart. -/
structure IsCanonical (l : WrittenLine) : Prop where
  domain_ne_nil : l.domain ≠ []
  domain : ∀ c ∈ l.domain, IsDomainChar c
  path : ∀ path, l.path = some path → IsPath path
  param : IsParam l.param
  modifiers : ∀ m ∈ l.modifiers, ',' ∉ m ∧ m.getLast? ≠ some '\\'

def rule (l : WrittenLine) : TrackingRule where
  domain := String.ofList l.domain
  path := l.path.map String.ofList
  param := String.ofList l.param
  effect := l.effect
  isRegex := decide (IsSlashed l.param)

def ruleFor (l : WrittenLine) (entry : List Char) : TrackingRule :=
  if entry.head? = some '~' then
    { l.rule with domain := String.ofList entry.tail, effect := .allow }
  else { l.rule with domain := String.ofList entry }

/-- The entries of a list of domains that there are rules for, without blanks around them. -/
def entries (list : List (List Char)) : List (List Char) :=
  (list.map Text.trim).filter fun entry => entry ≠ [] ∧ entry ≠ ['~']

variable {l : WrittenLine}

/-! ## The target -/

theorem IsCanonical.mem_target (h : l.IsCanonical) {c : Char} (hc : c ∈ l.target) :
    Text.isBlank c = false ∧ c ≠ '$' := by
  rw [target, List.mem_cons, List.mem_cons, List.mem_append] at hc
  rcases hc with rfl | rfl | hc | hc
  · decide
  · decide
  · exact ⟨(h.domain c hc).1, (h.domain c hc).2.2.2.1⟩
  · cases hpath : l.path with
    | none =>
        rw [hpath, Option.getD_none, List.mem_singleton] at hc
        subst hc
        decide
    | some path =>
        rw [hpath, Option.getD_some] at hc
        exact (h.path path hpath).plain c hc

theorem IsCanonical.trim_target (h : l.IsCanonical) : Text.trim l.target = l.target :=
  (Text.isTight_of_forall fun _ hc => (h.mem_target hc).1).trim_eq

theorem IsCanonical.splitTarget_target (h : l.IsCanonical) :
    splitTarget l.target = (l.domain, l.path) := by
  have hdomain : ∀ c ∈ l.domain, isSeparator c = false := by
    intro c hc
    obtain ⟨_, hslash, hcaret, _⟩ := h.domain c hc
    simp [isSeparator, hslash, hcaret]
  have hlead : Text.afterPrefix? ['|', '|'] l.target = some (l.domain ++ l.path.getD ['^']) :=
    rfl
  unfold splitTarget
  simp only [hlead]
  cases hpath : l.path with
  | none => simp [Text.breakAt_append_cons [] hdomain (by decide : isSeparator '^' = true)]
  | some path =>
      obtain ⟨rest, rfl⟩ := List.head?_eq_some_iff.1 (h.path path hpath).begins
      simp [Text.breakAt_append_cons rest hdomain (by decide : isSeparator '/' = true)]

theorem IsCanonical.domainOf_domain (h : l.IsCanonical) :
    domainOf l.domain = String.ofList l.domain := by
  have hlower : l.domain.map Text.asciiLower = l.domain.map id := by
    rw [List.map_inj_left]
    intro c hc
    have hcapital := (h.domain c hc).2.2.2.2
    simp only [Text.asciiLower, Bool.and_eq_true, decide_eq_true_eq, if_neg hcapital, id]
  rw [domainOf, if_neg (by simpa using h.domain_ne_nil), hlower, List.map_id]

theorem trimPath_eq {path : List Char} (h : IsPath path) : trimPath path = path := by
  cases hlast : path.getLast? with
  | none =>
      obtain rfl := List.getLast?_eq_none_iff.1 hlast
      rfl
  | some c =>
      obtain ⟨lead, rfl⟩ := List.getLast?_eq_some_iff.1 hlast
      obtain ⟨hcaret, hstar, hbar⟩ := h.ends c hlast
      have hstays : isPathEnd c = false := by simp [isPathEnd, hcaret, hstar, hbar]
      simp [trimPath, hstays]

theorem IsCanonical.pathOf_path (h : l.IsCanonical) :
    pathOf l.path = l.path.map String.ofList := by
  cases hpath : l.path with
  | none => rfl
  | some path =>
      have hcanonical := h.path path hpath
      have htrim := trimPath_eq hcanonical
      obtain ⟨rest, rfl⟩ := List.head?_eq_some_iff.1 hcanonical.begins
      simp only [pathOf, Option.map_some, htrim]

/-! ## The fields -/

theorem IsCanonical.isUsable_param (h : l.IsCanonical) :
    isUsable (String.ofList l.param) = true := by
  have hnonempty : (String.ofList l.param).isEmpty = false := by
    simpa using h.param.ne_nil
  unfold isUsable TrackingRule.isSlashed TrackingRule.unslashed
  rw [hnonempty, String.toList_ofList]
  cases hslashed : TrackingRule.slashed? l.param with
  | none => rfl
  | some body =>
      obtain ⟨hbody, hparam⟩ := TrackingRule.slashed?_eq_some_iff.1 hslashed
      simp [h.param.reads body hbody hparam]

theorem isSlashed_ofList (param : List Char) :
    TrackingRule.isSlashed (String.ofList param) = decide (IsSlashed param) := by
  rw [TrackingRule.isSlashed, String.toList_ofList, Bool.eq_iff_iff, decide_eq_true_iff,
    Option.isSome_iff_exists]
  simp only [TrackingRule.slashed?_eq_some_iff, IsSlashed]

theorem IsCanonical.exists_splitModifiers (h : l.IsCanonical) :
    ∃ fields, splitModifiers (Text.trimEnd l.fields) = escapeCommas l.param :: fields ∧
      domainList? fields = domainList? l.modifiers := by
  have hparam : IsWhole false (escapeCommas l.param) ∧
      (escapeCommas l.param).getLast? ≠ some '\\' :=
    ⟨isWhole_escapeCommas false _, by rw [getLast?_escapeCommas]; exact h.param.ends⟩
  rcases List.eq_nil_or_concat l.modifiers with hnone | ⟨before, last, hsome⟩
  · have htight := isTight_escapeCommas h.param.isTight
    refine ⟨[], ?_, by rw [hnone]⟩
    rw [fields, hnone, List.flatMap_nil, List.append_nil,
      Text.trimEnd_eq_of_getLast? htight.2, splitModifiers_of_isWhole hparam.1]
  · rw [List.concat_eq_append] at hsome
    have hmodifiers := h.modifiers
    rw [hsome, List.forall_mem_append, List.forall_mem_singleton] at hmodifiers
    have hlast : IsWhole false (Text.trimEnd last) :=
      isWhole_of_not_mem fun hcomma => hmodifiers.2.1 (Text.mem_of_mem_trimEnd hcomma)
    have hfields : ∀ field ∈ escapeCommas l.param :: before,
        IsWhole false field ∧ field.getLast? ≠ some '\\' := by
      rw [List.forall_mem_cons]
      refine ⟨hparam, fun m hm => ?_⟩
      exact ⟨isWhole_of_not_mem (hmodifiers.1 m hm).1, (hmodifiers.1 m hm).2⟩
    refine ⟨before ++ [Text.trimEnd last], ?_, ?_⟩
    · rw [← splitModifiers_fields hfields hlast, ← Text.trimEnd_append_cons (by decide)]
      simp [fields, hsome]
    · simp [domainList?, hsome, List.findSome?_append, Text.trim_trimEnd]

theorem IsCanonical.rulesOf_eq (h : l.IsCanonical) :
    rulesOf l.effect l.target (Text.trimEnd l.fields) =
      match domainList? l.modifiers with
      | some list => ((Text.splitOn '|' list).map Text.trim).filterMap (entryRule? l.rule)
      | none => [l.rule] := by
  obtain ⟨fields, hfields, hlist⟩ := h.exists_splitModifiers
  have hparam : unescapeCommas (Text.trim (escapeCommas l.param)) = l.param := by
    rw [(isTight_escapeCommas h.param.isTight).trim_eq, unescapeCommas_escapeCommas]
  unfold rulesOf
  simp only [hfields, List.headD_cons, List.tail_cons, hparam, h.isUsable_param, if_true,
    h.trim_target, h.splitTarget_target, h.domainOf_domain, h.pathOf_path, isSlashed_ofList,
    hlist]
  rfl

/-! ## Whole lines -/

theorem trim_text (l : WrittenLine) :
    Text.trim l.text =
      effectSign l.effect ++ (l.target ++ (removeSign ++ Text.trimEnd l.fields)) := by
  have hstart : Text.trimStart l.text = l.text := by
    unfold text target
    cases l.effect with
    | remove => exact Text.trimStart_cons_of_not_blank (by decide) _
    | allow => exact Text.trimStart_cons_of_not_blank (by decide) _
  have hsign : removeSign = "$removeparam".toList ++ ['='] := by decide +kernel
  have htext : ∀ fields, effectSign l.effect ++ (l.target ++ (removeSign ++ fields)) =
      effectSign l.effect ++ l.target ++ "$removeparam".toList ++ '=' :: fields := by
    intro fields
    rw [hsign]
    simp only [List.append_assoc, List.singleton_append]
  rw [Text.trim, hstart, text, htext, htext, Text.trimEnd_append_cons (by decide)]

theorem isComment_effectSign (effect : Effect) (l : WrittenLine) (rest : List Char) :
    isComment (effectSign effect ++ (l.target ++ rest)) = false := by
  cases effect <;> rfl

theorem splitEffect_effectSign (effect : Effect) (l : WrittenLine) (rest : List Char) :
    splitEffect (effectSign effect ++ (l.target ++ rest)) = (effect, l.target ++ rest) := by
  cases effect <;> rfl

theorem IsCanonical.parse_eq (h : l.IsCanonical) :
    parse l.text = rulesOf l.effect l.target (Text.trimEnd l.fields) := by
  have hdollar : '$' ∉ l.target := fun hmem => (h.mem_target hmem).2 rfl
  have hcut : Text.cut? removeSign (l.target ++ (removeSign ++ Text.trimEnd l.fields)) =
      some (l.target, Text.trimEnd l.fields) := Text.cut?_of_not_mem hdollar _ _
  unfold parse
  simp only [trim_text, isComment_effectSign, splitEffect_effectSign, hcut, Bool.false_eq_true,
    if_false]

/-! ## Lists of domains -/

theorem afterPrefix?_eq_none_iff {lead s : List Char} :
    Text.afterPrefix? lead s = none ↔ ¬ lead <+: s := by
  rw [← Option.not_isSome_iff_eq_none, ← Text.startsWith, Text.startsWith_iff]
  exact not_congr (exists_congr fun _ => eq_comm)

theorem domainList?_eq_none {modifiers : List (List Char)}
    (h : ∀ m ∈ modifiers, ¬ domainSign <+: Text.trim m) : domainList? modifiers = none := by
  rw [domainList?, List.findSome?_eq_none_iff]
  exact fun m hm => afterPrefix?_eq_none_iff.2 (h m hm)

theorem domainList?_append_cons {before : List (List Char)} {m list : List Char}
    (hbefore : ∀ b ∈ before, ¬ domainSign <+: Text.trim b)
    (hm : Text.trim m = domainSign ++ list) (behind : List (List Char)) :
    domainList? (before ++ m :: behind) = some list := by
  have hnone := domainList?_eq_none hbefore
  rw [domainList?] at hnone ⊢
  rw [List.findSome?_append, hnone, List.findSome?_cons, hm, Text.afterPrefix?_append]
  rfl

theorem entryRule?_eq (l : WrittenLine) (entry : List Char) :
    entryRule? l.rule entry =
      if entry ≠ [] ∧ entry ≠ ['~'] then some (l.ruleFor entry) else none := by
  unfold entryRule?
  split
  · rfl
  · rfl
  · rename_i excluded htilde
    have hexcluded : excluded ≠ [] := fun hnil => htilde (by rw [hnil])
    simp [ruleFor, hexcluded]
  · rename_i hnil hlone htilde
    have hhead : entry.head? ≠ some '~' := by
      intro h
      obtain ⟨rest, rfl⟩ := List.head?_eq_some_iff.1 h
      exact htilde rest rfl
    rw [if_pos ⟨hnil, hlone⟩, ruleFor, if_neg hhead]

/-- Each entry that is not blank and not just a tilde has its rule. -/
theorem filterMap_entryRule? (l : WrittenLine) (list : List (List Char)) :
    (list.map Text.trim).filterMap (entryRule? l.rule) = (entries list).map l.ruleFor := by
  unfold entries
  induction list.map Text.trim with
  | nil => rfl
  | cons entry rest ih =>
      rw [List.filterMap_cons, entryRule?_eq, List.filter_cons, ih]
      by_cases h : entry ≠ [] ∧ entry ≠ ['~']
      · simp [h]
      · simp only [if_neg h, decide_eq_false h]
        rfl

/--
A line is read back as what it was written from. Without a list of domains among its
modifiers it gives the one rule that it was written for. Otherwise the first such list
counts, and for each entry that is neither blank nor just a tilde there is a rule with the
same path and parameter: one that protects if there is a tilde, and else one with the effect
of the line.
-/
theorem parse_text (h : l.IsCanonical) :
    ((∀ m ∈ l.modifiers, ¬ domainSign <+: Text.trim m) → parse l.text = [l.rule]) ∧
    ∀ (before : List (List Char)) (m : List Char) (behind list : List (List Char)),
      l.modifiers = before ++ m :: behind → (∀ b ∈ before, ¬ domainSign <+: Text.trim b) →
        list ≠ [] → (∀ entry ∈ list, '|' ∉ entry) →
          Text.trim m = domainSign ++ Text.joinWith ['|'] list →
            parse l.text = (entries list).map l.ruleFor := by
  rw [h.parse_eq, h.rulesOf_eq]
  constructor
  · intro hnone
    rw [domainList?_eq_none hnone]
  · intro before m behind list hmodifiers hbefore hne hlist hm
    rw [hmodifiers, domainList?_append_cons hbefore hm]
    simp only [Text.splitOn_joinWith hne hlist]
    exact filterMap_entryRule? l list

def shopLine : WrittenLine where
  effect := .remove
  domain := "*.shop-1.example".toList
  path := some "/a^b".toList
  param := "/^x\x7b1,3\x7d$/".toList
  modifiers := [" third-party ".toList, " domain= a.example |~b.example|~|".toList,
    "domain=c.example ".toList]

theorem isCanonical_shopLine : shopLine.IsCanonical where
  domain_ne_nil := by decide +kernel
  domain := by simp [shopLine, IsDomainChar, Text.isBlank]
  path path hpath := by
    obtain rfl := Option.some.inj hpath
    refine ⟨by decide +kernel, by simp [Text.isBlank], fun c hc => ?_⟩
    obtain rfl : 'b' = c := by simpa [shopLine] using hc
    decide
  param := by
    refine ⟨by decide +kernel, Text.isTight_of_forall ?_, by decide +kernel, ?_⟩
    · simp [shopLine, Text.isBlank]
    · intro body hbody hparam
      have hslashed := TrackingRule.slashed?_eq_some_iff.2 ⟨hbody, hparam⟩
      have hread : TrackingRule.slashed? shopLine.param = some "^x\x7b1,3\x7d$".toList := by
        decide +kernel
      obtain rfl := Option.some.inj (hread.symm.trans hslashed)
      decide +kernel
  modifiers := by decide +kernel

/-- The first list gives two rules: the tilde protects, and what is blank gives none. -/
theorem parse_text_shopLine :
    shopLine.text = ("||*.shop-1.example/a^b$removeparam=/^x\x7b1\\,3\x7d$/, third-party ," ++
      " domain= a.example |~b.example|~|,domain=c.example ").toList ∧
    parse shopLine.text =
      [⟨"a.example", some "/a^b", "/^x\x7b1,3\x7d$/", .remove, true⟩,
        ⟨"b.example", some "/a^b", "/^x\x7b1,3\x7d$/", .allow, true⟩] := by
  refine ⟨by decide +kernel, ?_⟩
  rw [(parse_text isCanonical_shopLine).2 [" third-party ".toList]
    " domain= a.example |~b.example|~|".toList ["domain=c.example ".toList]
    [" a.example ".toList, "~b.example".toList, "~".toList, []] rfl (by decide +kernel)
    (by decide) (by decide +kernel) (by decide +kernel)]
  decide +kernel

end WrittenLine

end LinkHygiene
