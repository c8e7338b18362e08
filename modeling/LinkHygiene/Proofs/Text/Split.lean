import LinkHygiene.Text.Split

/-!
# Splitting and joining

A text starts with its prefixes, and fields that hold no separator are given back by
splitting what joining made of them.
-/

namespace LinkHygiene

namespace Text

/-! ## Prefixes -/

theorem startsWith_append (a b s : List Char) :
    startsWith (a ++ b) (a ++ s) = startsWith b s := by
  induction a with
  | nil => rfl
  | cons c a ih => simpa [startsWith, afterPrefix?] using ih

theorem startsWith_iff {lead s : List Char} :
    startsWith lead s = true ↔ ∃ rest, s = lead ++ rest := by
  constructor
  · intro h
    obtain ⟨rest, hrest⟩ := Option.isSome_iff_exists.1 h
    exact ⟨rest, eq_append_of_afterPrefix? hrest⟩
  · rintro ⟨rest, rfl⟩
    rw [startsWith, afterPrefix?_append]
    rfl

theorem startsWith_append_of_not {lead s : List Char} (h : ¬ startsWith lead s = true)
    (more : List Char) : startsWith (lead ++ more) s = false := by
  rw [Bool.eq_false_iff]
  intro hmore
  obtain ⟨rest, hrest⟩ := startsWith_iff.1 hmore
  exact h (startsWith_iff.2 ⟨more ++ rest, by rw [hrest, List.append_assoc]⟩)

/-! ## Fields -/

theorem splitFrom_of_not_mem {separator : Char} {s : List Char} (field : List Char)
    (h : separator ∉ s) : splitFrom separator field s = [field.reverse ++ s] := by
  induction s generalizing field with
  | nil => simp [splitFrom]
  | cons c s ih =>
      have hc : c ≠ separator := fun hc => h (by simp [hc])
      have hs : separator ∉ s := fun hs => h (List.mem_cons_of_mem c hs)
      rw [splitFrom, if_neg hc, ih (c :: field) hs]
      simp

theorem splitOn_of_not_mem {separator : Char} {s : List Char} (h : separator ∉ s) :
    splitOn separator s = [s] := by
  simpa [splitOn] using splitFrom_of_not_mem [] h

theorem splitOn_joinWith {separator : Char} {fields : List (List Char)} (hne : fields ≠ [])
    (hfields : ∀ field ∈ fields, separator ∉ field) :
    splitOn separator (joinWith [separator] fields) = fields := by
  induction fields with
  | nil => exact absurd rfl hne
  | cons field rest ih =>
      have hfield : separator ∉ field := hfields field List.mem_cons_self
      cases rest with
      | nil => exact splitOn_of_not_mem hfield
      | cons next rest =>
          have hrest := ih (by simp) fun f hf => hfields f (List.mem_cons_of_mem field hf)
          calc
            splitOn separator (joinWith [separator] (field :: next :: rest)) =
                splitOn separator
                  (field ++ separator :: joinWith [separator] (next :: rest)) := by
              simp [joinWith]
            _ = splitOn separator field ++
                splitOn separator (joinWith [separator] (next :: rest)) :=
              splitOn_append separator _ _
            _ = field :: next :: rest := by
              rw [splitOn_of_not_mem hfield, hrest]
              rfl

/-! ## Fields as those of lists -/

theorem splitFrom_eq (separator : Char) (field s : List Char) :
    splitFrom separator field s = List.splitOnPPrepend (· == separator) s field := by
  induction s generalizing field with
  | nil => rfl
  | cons c s ih => by_cases h : c = separator <;> simp [splitFrom, List.splitOnPPrepend, h, ih]

theorem splitOn_eq (separator : Char) (s : List Char) : splitOn separator s = s.splitOn separator :=
  splitFrom_eq separator [] s

theorem joinWith_eq (separator : List Char) (fields : List (List Char)) :
    joinWith separator fields = separator.intercalate fields := by
  induction fields with
  | nil => rfl
  | cons field rest ih =>
      cases rest with
      | nil => simp [joinWith]
      | cons next rest => rw [joinWith, ih, List.intercalate_cons_cons]; simp

/-! ## Characters of fields -/

theorem splitFrom_map {separator : Char} {f : Char → Char}
    (hf : ∀ c, f c = separator ↔ c = separator) (field s : List Char) :
    splitFrom separator (field.map f) (s.map f) = (splitFrom separator field s).map (·.map f) := by
  induction s generalizing field with
  | nil => simp [splitFrom]
  | cons c s ih =>
      have hnil := ih []
      have hnext := ih (c :: field)
      simp only [List.map_nil, List.map_cons] at hnil hnext
      by_cases h : c = separator
      · simp [splitFrom, h, (hf separator).2 rfl, hnil]
      · simp [splitFrom, h, hf c, hnext]

/-- What keeps separators and makes no others can be done to a text or to its fields. -/
theorem splitOn_map {separator : Char} {f : Char → Char}
    (hf : ∀ c, f c = separator ↔ c = separator) (s : List Char) :
    splitOn separator (s.map f) = (splitOn separator s).map (·.map f) :=
  splitFrom_map hf [] s

theorem mem_joinWith {separator : List Char} {fields : List (List Char)} {c : Char}
    (h : c ∈ joinWith separator fields) : c ∈ separator ∨ ∃ field ∈ fields, c ∈ field := by
  induction fields with
  | nil => simp [joinWith] at h
  | cons field rest ih =>
      cases rest with
      | nil => exact .inr ⟨field, List.mem_cons_self, h⟩
      | cons next rest =>
          rw [joinWith, List.mem_append, List.mem_append] at h
          · rcases h with (h | h) | h
            · exact .inr ⟨field, List.mem_cons_self, h⟩
            · exact .inl h
            · rcases ih h with hseparator | ⟨later, hlater, hc⟩
              · exact .inl hseparator
              · exact .inr ⟨later, List.mem_cons_of_mem field hlater, hc⟩
          · simp

theorem breakAt_append_cons {stop : Char → Bool} {s : List Char} {c : Char}
    (rest : List Char) (hs : ∀ d ∈ s, stop d = false) (hc : stop c = true) :
    breakAt stop (s ++ c :: rest) = (s, c :: rest) := by
  induction s with
  | nil => simp [breakAt, hc]
  | cons d s ih =>
      have hd : stop d = false := hs d List.mem_cons_self
      have hrest := ih fun e he => hs e (List.mem_cons_of_mem d he)
      simp only [breakAt, Prod.mk.injEq] at hrest
      simp [breakAt, hd, hrest.1, hrest.2]

end Text

end LinkHygiene
