import LinkHygiene.Proofs.Url.Authority
import LinkHygiene.Proofs.Url.Shape

/-!
# Paths that are set

A path that is set holds neither a question mark nor a number sign, whatever text it is
set to. So what is written behind it is read as the query and the fragment that were
there before, and as nothing else.
-/

namespace LinkHygiene

namespace Url

/-- Whether a piece of a path holds no sign that would end the path. -/
def Closed (segment : String) : Prop :=
  ∀ c ∈ segment.toList, c ≠ '?' ∧ c ≠ '#'

def isTidy (c : Char) : Bool :=
  !isMargin c && c != '?' && c != '#'

/-- Whether a piece of a path holds nothing that would end the path or be trimmed off. -/
def Tidy (segment : String) : Prop :=
  ∀ c ∈ segment.toList, isTidy c = true

theorem Tidy.closed {segment : String} (h : Tidy segment) : Closed segment := by
  intro c hc
  have htidy := h c hc
  simp only [isTidy, Bool.and_eq_true, bne_iff_ne] at htidy
  exact ⟨htidy.1.2, htidy.2⟩

theorem tidy_empty : Tidy "" := by
  intro c hc
  exact absurd hc List.not_mem_nil

theorem isTidy_of_mem_escaped {s : List Char} {c : Char}
    (h : c ∈ Percent.encode Percent.inPath s) : isTidy c = true := by
  apply Percent.of_mem_encode h (by decide) (by decide)
  intro d _ hplain
  simp only [Percent.inPath, Bool.or_eq_false_iff, List.contains_cons,
    beq_eq_false_iff_ne] at hplain
  simp [isTidy, not_isMargin_of_not_inFragment hplain.1, hplain.2]

theorem tidy_escaped (s : List Char) :
    Tidy (String.ofList (Percent.encode Percent.inPath s)) := by
  intro c hc
  rw [String.toList_ofList] at hc
  exact isTidy_of_mem_escaped hc

theorem tidy_drive (s : List Char) :
    Tidy (String.ofList ((Percent.encode Percent.inPath s).take 1 ++ [':'])) := by
  intro c hc
  rw [String.toList_ofList, List.mem_append, List.mem_singleton] at hc
  rcases hc with hc | rfl
  · exact isTidy_of_mem_escaped (List.mem_of_mem_take hc)
  · decide

theorem mem_of_mem_shorten {passed : List String} {segment : String}
    (h : segment ∈ shorten passed) : segment ∈ passed := by
  unfold shorten at h
  split at h
  · exact h
  · split at h
    · exact h
    · exact List.mem_cons_of_mem _ h

theorem tidy_walk (kind : SchemeKind) {passed : List String} (hpassed : ∀ s ∈ passed, Tidy s)
    (pieces : List (List Char)) : ∀ s ∈ walk kind passed pieces, Tidy s := by
  induction pieces generalizing passed with
  | nil => exact hpassed
  | cons piece rest ih =>
      have hcons : ∀ {segment : String} {list : List String}, Tidy segment →
          (∀ s ∈ list, Tidy s) → ∀ s ∈ segment :: list, Tidy s :=
        fun hsegment hlist => List.forall_mem_cons.2 ⟨hsegment, hlist⟩
      have hshort : ∀ s ∈ shorten passed, Tidy s := fun s hs =>
        hpassed s (mem_of_mem_shorten hs)
      unfold walk
      dsimp only
      split
      · apply ih
        split
        · exact hcons tidy_empty hshort
        · exact hshort
      · split
        · apply ih
          split
          · exact hcons tidy_empty hpassed
          · exact hpassed
        · split
          · exact ih (hcons (tidy_drive piece) hpassed)
          · exact ih (hcons (tidy_escaped piece) hpassed)

theorem tidy_dropEmptyLead {segments : List String} (h : ∀ s ∈ segments, Tidy s) :
    ∀ s ∈ dropEmptyLead segments, Tidy s := by
  unfold dropEmptyLead
  split
  · intro s hs
    rw [List.mem_singleton.1 hs]
    exact tidy_empty
  · intro s hs
    exact h s ((List.dropWhile_sublist _).mem hs)

theorem tidy_resolveSegments (kind : SchemeKind) (pieces : List (List Char)) :
    ∀ s ∈ resolveSegments kind [] pieces, Tidy s := by
  have hwalk : ∀ pieces, ∀ s ∈ (walk kind [] pieces).reverse, Tidy s := by
    intro pieces s hs
    exact tidy_walk kind (fun _ h => absurd h List.not_mem_nil) pieces s (List.mem_reverse.1 hs)
  cases kind with
  | file => exact tidy_dropEmptyLead (hwalk _)
  | web => exact hwalk pieces
  | other => exact hwalk pieces

theorem tidy_pathAfterAuthority (kind : SchemeKind) (text : List Char) :
    ∀ s ∈ pathAfterAuthority kind text, Tidy s := by
  unfold pathAfterAuthority
  split
  · intro s hs
    exact absurd hs List.not_mem_nil
  · exact tidy_resolveSegments _ _
  · exact tidy_resolveSegments _ _
  · split
    · exact tidy_resolveSegments _ _
    · exact tidy_resolveSegments _ _

/-- A path of segments is set to a path of tidy segments, whatever it is set to. -/
theorem exists_path_setPath {u : Url} (h : u.isPlain = false) (path : String) :
    ∃ list, (u.setPath path).path = .segments list ∧ ∀ s ∈ list, Tidy s := by
  cases hpath : u.path with
  | plain text => simp [isPlain, hpath] at h
  | segments before =>
      unfold setPath readPath
      simp only [hpath]
      split
      · exact ⟨[], rfl, fun _ hs => absurd hs List.not_mem_nil⟩
      · exact ⟨[], rfl, fun _ hs => absurd hs List.not_mem_nil⟩
      · exact ⟨_, rfl, tidy_pathAfterAuthority _ _⟩

/-- What is written for a path that was set ends before the query. -/
theorem closed_pathText_setPath {u : Url} (h : u.isPlain = false) (path : String) :
    Closed (u.setPath path).pathText := by
  obtain ⟨list, hlist, htidy⟩ := exists_path_setPath h path
  intro c hc
  rw [pathText, hlist, String.toList_ofList, Path.render] at hc
  obtain ⟨segment, hsegment, hc⟩ := List.mem_flatMap.1 hc
  rcases List.mem_cons.1 hc with rfl | hc
  · decide
  · exact (htidy segment hsegment).closed c hc

end Url

end LinkHygiene
