import LinkHygiene.Message.Clean
import LinkHygiene.Proofs.Message.Scanner
import LinkHygiene.Proofs.Text.Occurrence

/-!
# Replacing links in their places

A link is replaced where it occurs first in what the text has become by then. This is
its own place unless a text before it holds it as well: a longer link, the same link
when it has been left as it was, or what another link has been cleaned to. So texts
with one link are rewritten in place whatever the link is cleaned to, and texts with
more links are not.
-/

namespace LinkHygiene

namespace Message

open Text (FirstBehind replaceFirst)

/-- A text with other texts in the place of its matches; matches without one stay. -/
def fill : (text : List Char) → List Match → List (List Char) → List Char
  | _, m :: ms, c :: cs => m.before ++ c ++ fill m.after ms cs
  | text, _, _ => text

/-- A text with the first occurrence of what is matched replaced, match by match. -/
def replaceEach : (text : List Char) → List Match → List (List Char) → List Char
  | text, m :: ms, c :: cs => replaceEach (replaceFirst m.matched c text) ms cs
  | text, _, _ => text

/-- Whether no match occurs before its place when its turn comes; `done` stands before all. -/
def FoundFrom : (done : List Char) → List Match → List (List Char) → Prop
  | done, m :: ms, c :: cs =>
      FirstBehind m.matched (done ++ m.before) ∧ FoundFrom (done ++ m.before ++ c) ms cs
  | _, _, _ => True

instance decidableFoundFrom : (done : List Char) → (ms : List Match) →
    (cs : List (List Char)) → Decidable (FoundFrom done ms cs)
  | done, m :: ms, c :: cs =>
      have := decidableFoundFrom (done ++ m.before ++ c) ms cs
      inferInstanceAs (Decidable (FirstBehind m.matched (done ++ m.before) ∧
        FoundFrom (done ++ m.before ++ c) ms cs))
  | _, [], _ => isTrue trivial
  | _, _ :: _, [] => isTrue trivial

/-! ## From place to place -/

theorem replaceEach_cons {done : List Char} {m : Match}
    (h : FirstBehind m.matched (done ++ m.before)) (ms : List Match) (c : List Char)
    (cs : List (List Char)) :
    replaceEach (done ++ (m.before ++ m.matched ++ m.after)) (m :: ms) (c :: cs) =
      replaceEach (done ++ m.before ++ c ++ m.after) ms cs := by
  have hreplace := Text.replaceFirst_of_first h c m.after
  simp only [List.append_assoc] at hreplace
  simp only [replaceEach, List.append_assoc, hreplace]

theorem append_fill_cons (done text : List Char) (m : Match) (ms : List Match)
    (c : List Char) (cs : List (List Char)) :
    done ++ fill text (m :: ms) (c :: cs) = done ++ m.before ++ c ++ fill m.after ms cs := by
  simp [fill]

/-- Matches that are found in turn are replaced in their places. -/
theorem replaceEach_of_found {done text : List Char} {ms : List Match}
    {cs : List (List Char)} (hlaid : LaidOut text ms) (h : FoundFrom done ms cs) :
    replaceEach (done ++ text) ms cs = done ++ fill text ms cs := by
  induction hlaid generalizing done cs with
  | rest text => rfl
  | link opens gap behind ih =>
      cases cs with
      | nil => rfl
      | cons c cs => rw [replaceEach_cons h.1, append_fill_cons, ih h.2]

/-- A match that is not found in its turn shows when it is replaced by a blank. -/
theorem firstBehind_of_replaceEach {done : List Char} {m : Match} {ms : List Match}
    (hopens : Opens m.matched)
    (h : replaceEach (done ++ (m.before ++ m.matched ++ m.after)) (m :: ms) [[' ']] =
      done ++ fill (m.before ++ m.matched ++ m.after) (m :: ms) [[' ']]) :
    FirstBehind m.matched (done ++ m.before) := by
  obtain ⟨tail, htail⟩ := hopens.eq_cons
  apply Classical.byContradiction
  intro hnot
  rw [htail] at hnot
  apply Text.replaceFirst_ne_of_not_first hnot (d := ' ') (by decide) [] m.after
  simpa [replaceEach, fill, htail] using h

theorem foundFrom_nil (done : List Char) (ms : List Match) : FoundFrom done ms [] := by
  cases ms <;> trivial

theorem FoundFrom.take {done : List Char} {ms : List Match} {cs : List (List Char)}
    (h : FoundFrom done ms cs) {k : Nat} (hk : k < cs.length) (c : List Char) :
    FoundFrom done ms (cs.take k ++ [c]) := by
  induction ms generalizing done cs k with
  | nil => trivial
  | cons m ms ih =>
      cases cs with
      | nil => simp at hk
      | cons c₀ cs =>
          cases k with
          | zero => exact ⟨h.1, foundFrom_nil _ ms⟩
          | succ k => exact ⟨h.1, ih h.2 (by simpa using hk)⟩

/-- Matches are found in turn exactly if each replacement is made in its place. -/
theorem foundFrom_iff {done text : List Char} {ms : List Match} {cs : List (List Char)}
    (hlaid : LaidOut text ms) (hlength : cs.length = ms.length) :
    FoundFrom done ms cs ↔
      ∀ k < cs.length, ∀ c,
        replaceEach (done ++ text) ms (cs.take k ++ [c]) =
          done ++ fill text ms (cs.take k ++ [c]) := by
  induction hlaid generalizing done cs with
  | rest text =>
      obtain rfl : cs = [] := List.length_eq_zero_iff.1 hlength
      simp [FoundFrom]
  | @link m ms opens gap behind ih =>
      cases cs with
      | nil => simp at hlength
      | cons c₀ cs =>
          have hlength' : cs.length = ms.length := by simpa using hlength
          constructor
          · intro h k hk c
            exact replaceEach_of_found (.link opens gap behind) (h.take hk c)
          · intro h
            have hfirst := firstBehind_of_replaceEach opens (h 0 (by simp) [' '])
            refine ⟨hfirst, (ih hlength').2 ?_⟩
            intro k hk c
            have hnext := h (k + 1) (by simpa using hk) c
            rw [List.take_succ_cons, List.cons_append, replaceEach_cons hfirst,
              append_fill_cons] at hnext
            exact hnext

/-! ## One link, and more -/

/-- In front of what begins like a link, a gap without links hides none. -/
theorem firstBehind_of_gap {gap needle : List Char} (hopens : Opens needle)
    (hgap : IsGap gap) : FirstBehind needle gap := by
  intro b a heq
  rw [List.append_assoc] at heq
  rcases List.append_eq_append_iff.1 heq with ⟨more, _, hmore⟩ | ⟨more, hmore, hrest⟩
  · have hlength := congrArg List.length hmore
    simp only [List.length_append] at hlength
    exact List.length_eq_zero_iff.1 (by omega)
  · by_cases hempty : more = []
    · simpa [hempty] using hrest
    · obtain ⟨tail, htail⟩ := hopens.eq_cons
      have hearly : Opens (more ++ 'h' :: tail) := by
        rw [← htail, ← hrest]
        exact hopens.append a
      exact absurd hearly (hgap b more hmore hempty tail)

theorem replaceEach_self (text : List Char) (ms : List Match) :
    replaceEach text ms (ms.map (·.matched)) = text := by
  induction ms generalizing text with
  | nil => rfl
  | cons m ms ih => rw [List.map_cons, replaceEach, Text.replaceFirst_self, ih]

theorem fill_self {text : List Char} {ms : List Match} (h : LaidOut text ms) :
    fill text ms (ms.map (·.matched)) = text := by
  induction h with
  | rest text => rfl
  | link opens gap behind ih => rw [List.map_cons, fill, ih]

theorem foundFrom_of_length_le {text : List Char} {ms : List Match} (hlaid : LaidOut text ms)
    (hlength : ms.length ≤ 1) (cs : List (List Char)) : FoundFrom [] ms cs := by
  cases hlaid with
  | rest text => trivial
  | @link m ms opens gap behind =>
      obtain rfl : ms = [] := List.length_eq_zero_iff.1 (by simpa using hlength)
      cases cs with
      | nil => trivial
      | cons c cs => exact ⟨firstBehind_of_gap opens gap, trivial⟩

/--
When the first of several links is cleaned to the second one, this one is found in the
place of the first when its turn comes.
-/
theorem exists_replaceEach_ne {text : List Char} {ms : List Match} (hlaid : LaidOut text ms)
    (hlength : 2 ≤ ms.length) :
    ∃ cs, cs.length = ms.length ∧ replaceEach text ms cs ≠ fill text ms cs := by
  obtain ⟨m₁, m₂, ms, rfl⟩ : ∃ m₁ m₂ rest, ms = m₁ :: m₂ :: rest := by
    match ms, hlength with
    | m₁ :: m₂ :: rest, _ => exact ⟨m₁, m₂, rest, rfl⟩
  obtain ⟨htext, hopens₁, hgap₁, hbehind₁⟩ := hlaid.of_cons
  obtain ⟨hafter₁, hopens₂, _, hbehind₂⟩ := hbehind₁.of_cons
  obtain ⟨tail, htail⟩ := hopens₂.eq_cons
  refine ⟨m₂.matched :: [' '] :: ms.map (·.matched), by simp, ?_⟩
  have hreplaced : replaceEach text (m₁ :: m₂ :: ms)
      (m₂.matched :: [' '] :: ms.map (·.matched)) = m₁.before ++ [' '] ++ m₁.after := by
    have hfirst := Text.replaceFirst_of_first (firstBehind_of_gap hopens₁ hgap₁)
      m₂.matched m₁.after
    have hsecond := Text.replaceFirst_of_first (firstBehind_of_gap hopens₂ hgap₁)
      [' '] m₁.after
    rw [replaceEach, replaceEach, htext, hfirst, hsecond, replaceEach_self]
  have hfilled : fill text (m₁ :: m₂ :: ms) (m₂.matched :: [' '] :: ms.map (·.matched)) =
      m₁.before ++ m₂.matched ++ (m₂.before ++ [' '] ++ m₂.after) := by
    rw [fill, fill, fill_self hbehind₂]
  rw [hreplaced, hfilled, htail]
  simp

/-! ## Texts -/

/-- A text with its links replaced, one after the other, by what they are cleaned to. -/
def rewritten (text : String) (cleaned : List String) : String :=
  replaceLinks text ((extractLinks text).zipWith Replacement.mk cleaned)

/-- A text with what its links are cleaned to in their places. -/
def inPlace (text : String) (cleaned : List String) : String :=
  String.ofList
    (fill text.toList (linkPattern.matchesIn text.toList) (cleaned.map (·.toList)))

/-- Whether no link of a text occurs before its place when its turn comes. -/
def FoundInTurn (text : String) (cleaned : List String) : Prop :=
  FoundFrom [] (linkPattern.matchesIn text.toList) (cleaned.map (·.toList))

instance (text : String) (cleaned : List String) : Decidable (FoundInTurn text cleaned) :=
  decidableFoundFrom _ _ _

theorem foldl_replaceFirst (text : List Char) (ms : List Match) (cleaned : List String) :
    ((ms.map fun m => String.ofList m.matched).zipWith Replacement.mk cleaned).foldl
        (fun text r => replaceFirst r.raw.toList r.cleaned.toList text) text =
      replaceEach text ms (cleaned.map (·.toList)) := by
  induction ms generalizing text cleaned with
  | nil => rfl
  | cons m ms ih =>
      cases cleaned with
      | nil => rfl
      | cons c cleaned =>
          simp only [List.map_cons, List.zipWith_cons_cons, List.foldl_cons, replaceEach,
            String.toList_ofList]
          exact ih _ _

theorem rewritten_eq (text : String) (cleaned : List String) :
    rewritten text cleaned =
      String.ofList (replaceEach text.toList (linkPattern.matchesIn text.toList)
        (cleaned.map (·.toList))) := by
  rw [rewritten, replaceLinks, extractLinks, Pattern.findAll, List.map_map]
  exact congrArg String.ofList (foldl_replaceFirst _ _ _)

theorem length_extractLinks (text : String) :
    (extractLinks text).length = (linkPattern.matchesIn text.toList).length := by
  simp [extractLinks, Pattern.findAll]

/--
Links that are found in turn are replaced in their places. This condition cannot be
weakened: every single replacement is made in its place, whatever the link is cleaned
to, only if it holds. It holds for all that the links may be cleaned to, and the text is
always rewritten in place, exactly if the text has no second link.
-/
theorem rewritten_in_place (text : String) :
    (∀ cleaned, FoundInTurn text cleaned →
      rewritten text cleaned = inPlace text cleaned) ∧
    (∀ cleaned, cleaned.length = (extractLinks text).length →
      (FoundInTurn text cleaned ↔
        ∀ k < cleaned.length, ∀ c,
          rewritten text (cleaned.take k ++ [c]) = inPlace text (cleaned.take k ++ [c]))) ∧
    ((∀ cleaned, cleaned.length = (extractLinks text).length →
        rewritten text cleaned = inPlace text cleaned) ↔
      (extractLinks text).length ≤ 1) := by
  have hlaid := matchesIn_laidOut text.toList
  have hfound : ∀ cleaned, FoundInTurn text cleaned →
      rewritten text cleaned = inPlace text cleaned := by
    intro cleaned h
    have hreplaced := replaceEach_of_found hlaid h
    rw [List.nil_append, List.nil_append] at hreplaced
    rw [rewritten_eq, inPlace, hreplaced]
  refine ⟨hfound, ?_, ?_⟩
  · intro cleaned hlength
    rw [length_extractLinks] at hlength
    have hlength' : (cleaned.map (·.toList)).length =
        (linkPattern.matchesIn text.toList).length := by simpa using hlength
    rw [FoundInTurn, foundFrom_iff hlaid hlength']
    simp only [rewritten_eq, inPlace, String.ofList_inj, List.nil_append, List.map_append,
      List.map_take, List.map_cons, List.map_nil, List.length_map]
    constructor
    · intro h k hk c
      exact h k hk c.toList
    · intro h k hk c
      simpa using h k hk (String.ofList c)
  · rw [length_extractLinks]
    constructor
    · intro h
      apply Classical.byContradiction
      intro hlength
      obtain ⟨cs, hcs, hne⟩ := exists_replaceEach_ne hlaid (by omega)
      have hequal := h (cs.map String.ofList) (by simpa using hcs)
      rw [rewritten_eq, inPlace, String.ofList_inj] at hequal
      apply hne
      simpa [Function.comp_def] using hequal
    · intro hlength cleaned _
      exact hfound cleaned (foundFrom_of_length_le hlaid hlength _)

/-- A link that occurs twice is replaced in both places when its first one has been changed. -/
theorem rewritten_in_place_twice :
    let text := "http://a.b/?u=1 http://c.d/?u=2 http://a.b/?u=1"
    let cleaned := ["http://a.b/", "http://c.d/", "http://a.b/"]
    FoundInTurn text cleaned ∧ rewritten text cleaned = inPlace text cleaned ∧
      rewritten text cleaned = "http://a.b/ http://c.d/ http://a.b/" := by
  intro text cleaned
  have hfound : FoundInTurn text cleaned := by decide +kernel
  exact ⟨hfound, (rewritten_in_place text).1 cleaned hfound, by decide +kernel⟩

/-- A link that a longer one starts with is replaced inside of that. -/
theorem shorter_link_is_replaced_in_longer :
    let text := "http://a.b/cd http://a.b/c"
    let cleaned := ["http://a.b/cd", "http://x.y/"]
    extractLinks text = ["http://a.b/cd", "http://a.b/c"] ∧ ¬ FoundInTurn text cleaned ∧
      rewritten text cleaned = "http://x.y/d http://a.b/c" ∧
      inPlace text cleaned = "http://a.b/cd http://x.y/" := by
  decide +kernel

end Message

end LinkHygiene
