import LinkHygiene.Fetch.Header
import LinkHygiene.Proofs.Text.Occurrence
import LinkHygiene.Proofs.Text.Split
import LinkHygiene.Proofs.Text.Trim

/-!
# The location of the last response

A transfer hands over the lines of all its responses. What is known of the location after some
lines is what the last of them says that gives one, among those behind the last status line;
a further line keeps this. So nothing is left of an earlier response.
-/

namespace LinkHygiene

namespace Header

/-! ## Lines -/

/-- Whether a line, without the blanks around it, begins a response. -/
def BeginsResponse (line : List Char) : Prop :=
  "HTTP/".toList <+: Text.trim line

instance (line : List Char) : Decidable (BeginsResponse line) :=
  inferInstanceAs (Decidable (_ <+: _))

/--
Whether a line gives a location: before its first colon stands the name of the header, in
whatever case, and behind it the value.
-/
def GivesLocation (line value : List Char) : Prop :=
  ∃ name rest, line = name ++ ':' :: rest ∧ ':' ∉ name ∧
    (Text.trim name).map Text.asciiLower = "location".toList ∧ value = Text.trim rest

theorem isStatusLine_trim (line : List Char) :
    isStatusLine (Text.trim line) = true ↔ BeginsResponse line := by
  rw [isStatusLine, Text.startsWith_iff]
  constructor
  · rintro ⟨rest, h⟩
    exact ⟨rest, h.symm⟩
  · rintro ⟨rest, h⟩
    exact ⟨rest, h.symm⟩

theorem locationValue?_append_cons {name : List Char} (h : ':' ∉ name) (rest : List Char) :
    locationValue? (name ++ ':' :: rest) =
      if (Text.trim name).map Text.asciiLower = "location".toList then some (Text.trim rest)
      else none := by
  have hcut : Text.cut? [':'] (name ++ ':' :: rest) = some (name, rest) :=
    Text.cut?_of_not_mem h [] rest
  rw [locationValue?, hcut]

theorem locationValue?_of_not_mem {line : List Char} (h : ':' ∉ line) :
    locationValue? line = none := by
  have hcut : Text.cut? [':'] line = none := by
    rw [Option.eq_none_iff_forall_ne_some]
    rintro ⟨before, after⟩ hcut
    exact h (Text.eq_of_cut? hcut ▸ by simp)
  rw [locationValue?, hcut]

theorem locationValue?_eq_some_iff {line value : List Char} :
    locationValue? line = some value ↔ GivesLocation line value := by
  constructor
  · intro h
    by_cases hcolon : ':' ∈ line
    · obtain ⟨name, rest, rfl, hname⟩ := List.eq_append_cons_of_mem hcolon
      rw [locationValue?_append_cons hname, Option.ite_none_right_eq_some] at h
      exact ⟨name, rest, rfl, hname, h.1, (Option.some.inj h.2).symm⟩
    · rw [locationValue?_of_not_mem hcolon] at h
      cases h
  · rintro ⟨name, rest, rfl, hname, hlower, rfl⟩
    rw [locationValue?_append_cons hname, if_pos hlower]

theorem locationValue?_eq_none_iff {line : List Char} :
    locationValue? line = none ↔ ∀ value, ¬ GivesLocation line value := by
  simp only [Option.eq_none_iff_forall_ne_some, ne_eq, locationValue?_eq_some_iff]

/-- Blanks around a line stand at the far ends of its name and its value. -/
theorem locationValue?_trim (line : List Char) :
    locationValue? (Text.trim line) = locationValue? line := by
  by_cases hcolon : ':' ∈ line
  · obtain ⟨name, rest, rfl, hname⟩ := List.eq_append_cons_of_mem hcolon
    have hstart : ':' ∉ Text.trimStart name := fun h => hname (Text.mem_of_mem_trimStart h)
    rw [Text.trim_append_cons (by decide), locationValue?_append_cons hstart,
      locationValue?_append_cons hname, Text.trim_trimStart, Text.trim_trimEnd]
  · have htrim : ':' ∉ Text.trim line := fun h =>
      hcolon (Text.mem_of_mem_trimStart (Text.mem_of_mem_trimEnd h))
    rw [locationValue?_of_not_mem hcolon, locationValue?_of_not_mem htrim]

/-! ## One more line -/

/-- A status line clears what is known, and a line that gives a location replaces it. -/
theorem step_eq (known : Option (List Char)) (line : List Char) :
    step known line =
      if BeginsResponse line then none else (locationValue? line).or known := by
  unfold step
  simp only [isStatusLine_trim, locationValue?_trim]
  split
  · rfl
  · cases locationValue? line <;> rfl

theorem step_of_beginsResponse {line : List Char} (h : BeginsResponse line)
    (known : Option (List Char)) : step known line = none := by
  rw [step_eq, if_pos h]

/-! ## All lines -/

/-- The lines behind the last one that begins a response, or all if none does. -/
def lastBlock (lines : List (List Char)) : List (List Char) :=
  (lines.reverse.takeWhile fun line => !decide (BeginsResponse line)).reverse

def announced (block : List (List Char)) : Option (List Char) :=
  block.reverse.findSome? locationValue?

theorem lastBlock_concat (lines : List (List Char)) (line : List Char) :
    lastBlock (lines ++ [line]) =
      if BeginsResponse line then [] else lastBlock lines ++ [line] := by
  unfold lastBlock
  rw [List.reverse_append, List.reverse_singleton, List.singleton_append, List.takeWhile_cons]
  by_cases h : BeginsResponse line <;> simp [h]

theorem announced_concat (block : List (List Char)) (line : List Char) :
    announced (block ++ [line]) = (locationValue? line).or (announced block) := by
  unfold announced
  rw [List.reverse_append, List.reverse_singleton, List.singleton_append, List.findSome?_cons]
  cases locationValue? line <;> rfl

theorem step_announced (read : List (List Char)) (line : List Char) :
    step (announced (lastBlock read)) line = announced (lastBlock (read ++ [line])) := by
  rw [step_eq, lastBlock_concat]
  split
  · rfl
  · rw [announced_concat]

theorem foldl_step_announced (read lines : List (List Char)) :
    lines.foldl step (announced (lastBlock read)) = announced (lastBlock (read ++ lines)) := by
  induction lines generalizing read with
  | nil => simp
  | cons line lines ih =>
      rw [List.foldl_cons, step_announced, ih, List.append_assoc, List.singleton_append]

theorem location?_eq (lines : List String) :
    location? lines = (announced (lastBlock (lines.map String.toList))).map String.ofList := by
  have hrun := foldl_step_announced [] (lines.map String.toList)
  rw [List.foldl_map] at hrun
  exact congrArg _ hrun

theorem announced_eq_some_iff {block : List (List Char)} {value : List Char} :
    announced block = some value ↔
      ∃ before line after, block = before ++ line :: after ∧ GivesLocation line value ∧
        ∀ later ∈ after, ∀ other, ¬ GivesLocation later other := by
  rw [announced, List.findSome?_eq_some_iff]
  constructor
  · rintro ⟨after, line, before, hblock, hvalue, hafter⟩
    refine ⟨before.reverse, line, after.reverse, ?_, locationValue?_eq_some_iff.1 hvalue, ?_⟩
    · rw [← List.reverse_reverse block, hblock]
      simp
    · exact fun later hlater =>
        locationValue?_eq_none_iff.1 (hafter later (List.mem_reverse.1 hlater))
  · rintro ⟨before, line, after, rfl, hvalue, hafter⟩
    refine ⟨after.reverse, line, before.reverse, by simp, locationValue?_eq_some_iff.2 hvalue, ?_⟩
    exact fun later hlater =>
      locationValue?_eq_none_iff.2 (hafter later (List.mem_reverse.1 hlater))

theorem announced_eq_none_iff {block : List (List Char)} :
    announced block = none ↔ ∀ line ∈ block, ∀ value, ¬ GivesLocation line value := by
  simp only [announced, List.findSome?_eq_none_iff, List.mem_reverse, locationValue?_eq_none_iff]

/--
Whatever bytes the lines of a transfer are, its location is the value of the last line that
gives one, among those behind the last line that begins a response, and it has none if no line
there gives one. So what stands before a status line never matters.
-/
theorem location?_exactly (raw : List (List UInt8)) :
    (∀ value, location? (raw.map line) = some value ↔
        ∃ before line after, lastBlock (raw.map lineText) = before ++ line :: after ∧
          GivesLocation line value.toList ∧
          ∀ later ∈ after, ∀ other, ¬ GivesLocation later other) ∧
      (location? (raw.map line) = none ↔
        ∀ line ∈ lastBlock (raw.map lineText), ∀ value, ¬ GivesLocation line value) ∧
      ∀ (before after : List String) (status : String), BeginsResponse status.toList →
        location? (before ++ status :: after) = location? after := by
  have hlocation : location? (raw.map line) =
      (announced (lastBlock (raw.map lineText))).map String.ofList := by
    have htexts : (raw.map line).map String.toList = raw.map lineText := by
      rw [List.map_map]
      exact List.map_congr_left fun bytes _ => String.toList_ofList
    rw [location?_eq, htexts]
  refine ⟨fun value => ?_, ?_, fun before after status hstatus => ?_⟩
  · rw [hlocation, ← announced_eq_some_iff, Option.map_eq_some_iff]
    constructor
    · rintro ⟨text, htext, rfl⟩
      rw [htext, String.toList_ofList]
    · exact fun h => ⟨value.toList, h, String.ofList_toList⟩
  · rw [hlocation, Option.map_eq_none_iff, announced_eq_none_iff]
  · unfold location?
    rw [List.foldl_append, List.foldl_cons, step_of_beginsResponse hstatus]

/-- The location of an interim response is gone, and the last of two others is taken. -/
theorem location?_exactly_interim :
    let interim := ["HTTP/1.1 103 Early Hints", "Location: /early"]
    let status := " HTTP/1.1 302 Found"
    let final := ["Location: /first", "LoCaTion :\thttp://b:80/HTTP/ ", "X-Location: /third", ""]
    BeginsResponse status.toList ∧
      location? (interim ++ status :: final) = some "http://b:80/HTTP/" := by
  intro interim status final
  have hstatus : BeginsResponse status.toList := by decide +kernel
  obtain ⟨-, -, hreset⟩ := location?_exactly []
  refine ⟨hstatus, ?_⟩
  rw [hreset interim final status hstatus]
  decide +kernel

end Header

end LinkHygiene
