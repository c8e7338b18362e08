/-!
# Taking texts apart

Prefixes, the first occurrence of a piece of text, and the fields between
separators, on lists of characters. The loops that run over whole documents
carry what they have read in reverse, so that long texts need no deep stack.
-/

namespace LinkHygiene

namespace Text

def afterPrefix? : (lead s : List Char) → Option (List Char)
  | [], s => some s
  | _ :: _, [] => none
  | p :: lead, c :: s => if p = c then afterPrefix? lead s else none

def startsWith (lead s : List Char) : Bool :=
  (afterPrefix? lead s).isSome

theorem afterPrefix?_append (lead s : List Char) :
    afterPrefix? lead (lead ++ s) = some s := by
  induction lead with
  | nil => rfl
  | cons p lead ih => simp [afterPrefix?, ih]

theorem eq_append_of_afterPrefix? {lead s rest : List Char}
    (h : afterPrefix? lead s = some rest) : s = lead ++ rest := by
  induction lead generalizing s with
  | nil =>
      simp only [afterPrefix?, Option.some.injEq] at h
      simp [h]
  | cons p lead ih =>
      cases s with
      | nil => simp [afterPrefix?] at h
      | cons c s =>
          simp only [afterPrefix?] at h
          split at h
          · rename_i hpc
            simp [hpc, ih h]
          · simp at h

/-- `cut?` with the characters already passed over, in reverse. -/
def cutFrom (needle : List Char) :
    (passed s : List Char) → Option (List Char × List Char)
  | passed, s =>
      match afterPrefix? needle s with
      | some rest => some (passed.reverse, rest)
      | none =>
          match s with
          | [] => none
          | c :: s => cutFrom needle (c :: passed) s

/-- What stands before and after the first occurrence of `needle`. -/
def cut? (needle s : List Char) : Option (List Char × List Char) :=
  cutFrom needle [] s

theorem eq_of_cutFrom {needle passed s before after : List Char}
    (h : cutFrom needle passed s = some (before, after)) :
    passed.reverse ++ s = before ++ needle ++ after := by
  induction s generalizing passed with
  | nil =>
      unfold cutFrom at h
      split at h
      · rename_i rest hrest
        have := eq_append_of_afterPrefix? hrest
        simp only [Option.some.injEq, Prod.mk.injEq] at h
        rw [← h.1, ← h.2, this, List.append_assoc]
      · simp at h
  | cons c s ih =>
      unfold cutFrom at h
      split at h
      · rename_i rest hrest
        have := eq_append_of_afterPrefix? hrest
        simp only [Option.some.injEq, Prod.mk.injEq] at h
        rw [← h.1, ← h.2, this, List.append_assoc]
      · have := ih h
        simpa using this

theorem eq_of_cut? {needle s before after : List Char}
    (h : cut? needle s = some (before, after)) : s = before ++ needle ++ after := by
  simpa using eq_of_cutFrom h

def replaceFirst (needle by_ s : List Char) : List Char :=
  match cut? needle s with
  | some (before, after) => before ++ by_ ++ after
  | none => s

/-- `splitOn` with the current field, in reverse. -/
def splitFrom (separator : Char) : (field s : List Char) → List (List Char)
  | field, [] => [field.reverse]
  | field, c :: s =>
      if c = separator then field.reverse :: splitFrom separator [] s
      else splitFrom separator (c :: field) s

/-- The fields between separators; one more than there are separators. -/
def splitOn (separator : Char) (s : List Char) : List (List Char) :=
  splitFrom separator [] s

theorem splitFrom_append (separator : Char) (field s t : List Char) :
    splitFrom separator field (s ++ separator :: t) =
      splitFrom separator field s ++ splitOn separator t := by
  induction s generalizing field with
  | nil => simp [splitFrom, splitOn]
  | cons c s ih =>
      by_cases h : c = separator <;> simp [splitFrom, h, ih]

theorem splitOn_append (separator : Char) (s t : List Char) :
    splitOn separator (s ++ separator :: t) =
      splitOn separator s ++ splitOn separator t :=
  splitFrom_append separator [] s t

def joinWith (separator : List Char) : List (List Char) → List Char
  | [] => []
  | [field] => field
  | field :: fields => field ++ separator ++ joinWith separator fields

/-- The text up to the first character for which `stop` holds, and the rest. -/
def breakAt (stop : Char → Bool) (s : List Char) : List Char × List Char :=
  (s.takeWhile (fun c => !stop c), s.dropWhile (fun c => !stop c))

end Text

end LinkHygiene
