import LinkHygiene.Proofs.Url.Form
import LinkHygiene.Url.Basic

/-!
# Rebuilding queries

A URL whose query is rebuilt from a list of pairs has exactly these pairs, and
nothing but its query has changed.
-/

namespace LinkHygiene

namespace Url

theorem query_setQueryPairs_nil (u : Url) : (u.setQueryPairs []).query = none := by
  simp only [setQueryPairs, dropTrailingBlanks]
  split
  · split <;> rfl
  · rfl

theorem setQueryPairs_of_ne_nil (u : Url) {pairs : List Form.Pair} (h : pairs ≠ []) :
    u.setQueryPairs pairs = { u with query := some (String.ofList (Form.encode pairs)) } := by
  cases pairs with
  | nil => exact absurd rfl h
  | cons p rest => rfl

@[simp] theorem queryPairs_setQueryPairs (u : Url) (pairs : List Form.Pair) :
    (u.setQueryPairs pairs).queryPairs = pairs := by
  cases pairs with
  | nil => simp [queryPairs, query_setQueryPairs_nil]
  | cons p rest =>
      rw [setQueryPairs_of_ne_nil u (by simp)]
      simp [queryPairs, Form.decode_encode]

theorem setQueryPairs_nil_of_segments {u : Url} (h : u.isPlain = false) :
    u.setQueryPairs [] = { u with query := none } := by
  cases hpath : u.path with
  | plain text => simp [isPlain, hpath] at h
  | segments list => simp [setQueryPairs, dropTrailingBlanks, hpath]

theorem path_setQueryPairs {u : Url} (h : u.isPlain = false) (pairs : List Form.Pair) :
    (u.setQueryPairs pairs).path = u.path := by
  cases pairs with
  | nil => rw [setQueryPairs_nil_of_segments h]
  | cons p rest => rfl

@[simp] theorem isPlain_setQueryPairs (u : Url) (pairs : List Form.Pair) :
    (u.setQueryPairs pairs).isPlain = u.isPlain := by
  cases pairs with
  | nil =>
      cases hpath : u.path with
      | plain text =>
          simp only [setQueryPairs, dropTrailingBlanks, hpath]
          split <;> simp [isPlain, hpath]
      | segments list => simp [setQueryPairs, dropTrailingBlanks, isPlain, hpath]
  | cons p rest => rfl

@[simp] theorem host?_setQueryPairs (u : Url) (pairs : List Form.Pair) :
    (u.setQueryPairs pairs).host? = u.host? := by
  simp [host?]

@[simp] theorem hostText?_setQueryPairs (u : Url) (pairs : List Form.Pair) :
    (u.setQueryPairs pairs).hostText? = u.hostText? := by
  simp [hostText?]

theorem pathText_setQueryPairs {u : Url} (h : u.isPlain = false) (pairs : List Form.Pair) :
    (u.setQueryPairs pairs).pathText = u.pathText := by
  rw [pathText, path_setQueryPairs h, pathText]

theorem queryPairs_of_isNone {u : Url} (h : u.query.isNone = true) : u.queryPairs = [] := by
  simp only [Option.isNone_iff_eq_none] at h
  simp [queryPairs, h]

/-- What is written in the end is the last list of pairs. -/
theorem setQueryPairs_setQueryPairs {u : Url} (h : u.isPlain = false)
    (pairs later : List Form.Pair) :
    (u.setQueryPairs pairs).setQueryPairs later = u.setQueryPairs later := by
  have hplain : (u.setQueryPairs pairs).isPlain = false := by
    rw [isPlain_setQueryPairs, h]
  cases later with
  | nil =>
      rw [setQueryPairs_nil_of_segments hplain, setQueryPairs_nil_of_segments h]
      cases pairs with
      | nil => rw [setQueryPairs_nil_of_segments h]
      | cons p rest => rfl
  | cons q more =>
      rw [setQueryPairs_of_ne_nil (u.setQueryPairs pairs) (List.cons_ne_nil q more),
        setQueryPairs_of_ne_nil u (List.cons_ne_nil q more)]
      cases pairs with
      | nil => rw [setQueryPairs_nil_of_segments h]
      | cons p rest => rfl

end Url

end LinkHygiene
