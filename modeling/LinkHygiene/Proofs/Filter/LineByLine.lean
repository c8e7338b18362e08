import Mathlib.Data.List.Forall2
import LinkHygiene.Filter.Line
import LinkHygiene.Proofs.Text.Split
import LinkHygiene.Proofs.Text.Trim

/-!
# Filter lists, line by line

The rules of a list are those of its lines, one line after the other, and a line gives the
same rules with blanks around it as without. What line ends add to a line is blank, and an
empty line gives no rules, so it does not matter how lines end, nor whether the last one does.
-/

namespace LinkHygiene

namespace FilterLine

/-! ## One line -/

/-- Whether a line is another one with blanks around it. -/
def IsPadded (line padded : List Char) : Prop :=
  ∃ before after, padded = before ++ line ++ after ∧
    (∀ c ∈ before, Text.isBlank c = true) ∧ ∀ c ∈ after, Text.isBlank c = true

theorem IsPadded.refl (line : List Char) : IsPadded line line :=
  ⟨[], [], by simp, by simp, by simp⟩

theorem isPadded_return (line : List Char) : IsPadded line (line ++ ['\r']) :=
  ⟨[], ['\r'], by simp, by simp, List.all_eq_true.1 (by decide)⟩

theorem isPadded_dropReturn (line : List Char) : IsPadded (Text.dropReturn line) line := by
  unfold Text.dropReturn
  split
  · rename_i rest hreverse
    have hline : line = rest.reverse ++ ['\r'] := by
      rw [← List.reverse_reverse line, hreverse, List.reverse_cons]
    exact hline ▸ isPadded_return rest.reverse
  · exact IsPadded.refl line

/-- A line is trimmed before anything else is done with it. -/
theorem IsPadded.parse_eq {line padded : List Char} (h : IsPadded line padded) :
    parse padded = parse line := by
  obtain ⟨before, after, rfl, hbefore, hafter⟩ := h
  unfold parse
  rw [Text.trim_append_of_blank hbefore hafter]

theorem parse_nil : parse [] = [] := by
  decide +kernel

/-! ## All lines -/

theorem flatMap_parse_endLines (fields : List (List Char)) :
    (Text.endLines fields).flatMap parse = fields.flatMap parse := by
  induction fields with
  | nil => rfl
  | cons line rest ih =>
      cases rest with
      | nil =>
          cases line with
          | nil => simp [Text.endLines, parse_nil]
          | cons c line => rfl
      | cons next rest =>
          rw [Text.endLines, List.flatMap_cons, ih, ← (isPadded_dropReturn line).parse_eq,
            ← List.flatMap_cons]
          exact List.cons_ne_nil next rest

theorem flatMap_parse_of_isPadded {lines padded : List (List Char)}
    (h : List.Forall₂ IsPadded lines padded) : padded.flatMap parse = lines.flatMap parse := by
  induction h with
  | nil => rfl
  | cons hline _ ih => rw [List.flatMap_cons, List.flatMap_cons, hline.parse_eq, ih]

/-- A text with a carriage return before each line feed. -/
def withReturns (s : List Char) : List Char :=
  s.flatMap fun c => if c = '\n' then ['\r', '\n'] else [c]

theorem isPadded_withReturns (field s : List Char) :
    List.Forall₂ IsPadded (Text.splitFrom '\n' field s)
      (Text.splitFrom '\n' field (withReturns s)) := by
  induction s generalizing field with
  | nil => exact .cons (.refl _) .nil
  | cons c s ih =>
      by_cases hc : c = '\n'
      · subst hc
        have hline : IsPadded field.reverse ('\r' :: field).reverse := by
          rw [List.reverse_cons]
          exact isPadded_return field.reverse
        exact .cons hline (ih [])
      · have hreturns : withReturns (c :: s) = c :: withReturns s := by
          simp [withReturns, hc]
        rw [hreturns, Text.splitFrom, Text.splitFrom, if_neg hc, if_neg hc]
        exact ih (c :: field)

end FilterLine

open FilterLine (IsPadded withReturns)

theorem parseFilterList_eq (text : String) :
    parseFilterList text = (text.toList.splitOn '\n').flatMap FilterLine.parse := by
  rw [parseFilterList, Text.lines, FilterLine.flatMap_parse_endLines, Text.splitOn_eq]

theorem parseFilterList_append (text more : String) :
    parseFilterList (text ++ "\n" ++ more) = parseFilterList text ++ parseFilterList more := by
  have hlist : (text ++ "\n" ++ more).toList = text.toList ++ '\n' :: more.toList := by simp
  simp only [parseFilterList_eq, hlist, ← Text.splitOn_eq, Text.splitOn_append,
    List.flatMap_append]

theorem parseFilterList_of_not_mem {line : String} (h : '\n' ∉ line.toList) :
    parseFilterList line = FilterLine.parse line.toList := by
  rw [parseFilterList_eq, List.splitOn_eq_singleton h, List.flatMap_singleton]

/--
The rules of a list are put together from those of its parts, wherever it is taken apart at a
line feed, and a line between two others adds its own rules only. Carriage returns at line
ends and blanks around lines, in whatever lines they are, make no difference.
-/
theorem parseFilterList_line_by_line (text : String) :
    (∀ more, parseFilterList (text ++ "\n" ++ more) =
        parseFilterList text ++ parseFilterList more) ∧
      (∀ line more, '\n' ∉ line.toList →
        parseFilterList (text ++ "\n" ++ line ++ "\n" ++ more) =
          parseFilterList text ++ FilterLine.parse line.toList ++ parseFilterList more) ∧
      parseFilterList (String.ofList (withReturns text.toList)) = parseFilterList text ∧
      ∀ padded : String,
        List.Forall₂ IsPadded (text.toList.splitOn '\n') (padded.toList.splitOn '\n') →
          parseFilterList padded = parseFilterList text := by
  refine ⟨parseFilterList_append text, fun line more hline => ?_, ?_, fun padded hpadded => ?_⟩
  · rw [parseFilterList_append, parseFilterList_append, parseFilterList_of_not_mem hline]
  · have hlines := FilterLine.isPadded_withReturns [] text.toList
    rw [parseFilterList_eq, parseFilterList_eq, String.toList_ofList, ← Text.splitOn_eq,
      ← Text.splitOn_eq]
    exact FilterLine.flatMap_parse_of_isPadded hlines
  · rw [parseFilterList_eq, parseFilterList_eq]
    exact FilterLine.flatMap_parse_of_isPadded hpadded

/-- Two lines with tabs and spaces around them, and a line without a parameter between them. -/
theorem parseFilterList_line_by_line_padded :
    let text := "! list\n$removeparam=a"
    let padded := "\t! list\n  $removeparam=a \t"
    let line := "||b.example^$removeparam="
    let rule : TrackingRule := ⟨"global", none, "a", .remove, false⟩
    List.Forall₂ IsPadded (text.toList.splitOn '\n') (padded.toList.splitOn '\n') ∧
      '\n' ∉ line.toList ∧ parseFilterList padded = [rule] ∧
      parseFilterList (text ++ "\n" ++ line ++ "\n" ++ padded) = [rule, rule] := by
  intro text padded line rule
  have htext : text.toList.splitOn '\n' = ["! list".toList, "$removeparam=a".toList] := by
    decide +kernel
  have hpadded : padded.toList.splitOn '\n' =
      ["\t! list".toList, "  $removeparam=a \t".toList] := by
    decide +kernel
  have hlines : List.Forall₂ IsPadded (text.toList.splitOn '\n') (padded.toList.splitOn '\n') := by
    rw [htext, hpadded]
    refine .cons ⟨['\t'], [], by simp, List.all_eq_true.1 (by decide), by simp⟩ (.cons ?_ .nil)
    exact ⟨[' ', ' '], [' ', '\t'], by decide +kernel, List.all_eq_true.1 (by decide),
      List.all_eq_true.1 (by decide)⟩
  have hline : '\n' ∉ line.toList := by decide +kernel
  have hrule : parseFilterList text = [rule] := by decide +kernel
  have hnone : FilterLine.parse line.toList = [] := by decide +kernel
  obtain ⟨-, hbetween, -, hpad⟩ := parseFilterList_line_by_line text
  have hsame : parseFilterList padded = [rule] := (hpad padded hlines).trans hrule
  refine ⟨hlines, hline, hsame, ?_⟩
  rw [hbetween line padded hline, hrule, hnone, hsame]
  rfl

end LinkHygiene
