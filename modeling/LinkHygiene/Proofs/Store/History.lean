import LinkHygiene.Proofs.Store.Replacement

/-!
# What a store holds over time

Refreshes succeed, are skipped or fail, downloads do not arrive, the database begins and
ceases to refuse rows, and the store is closed and opened again. Whatever comes in
whatever order, the table holds the rules of the list that was last reported to be
loaded, and until then the rows with which it began.
-/

namespace LinkHygiene

namespace Store

/-! ## Events -/

inductive Event where
  | refresh (text : String) (batch : Nat)
  /-- A refresh whose list does not arrive. -/
  | failedDownload (message : String) (batch : Nat)
  | refuse (param : String)
  | allow (param : String)
  | refuseNothing
  | reopen
deriving Repr, DecidableEq

def step (s : Store) : Event → Option Report × Store
  | .refresh text batch =>
      let (report, s) := s.refresh (.ok text) batch
      (some report, s)
  | .failedDownload message batch =>
      let (report, s) := s.refresh (.error message) batch
      (some report, s)
  | .refuse param => (none, s.refuse param)
  | .allow param => (none, s.allow param)
  | .refuseNothing => (none, s.refuseNothing)
  | .reopen => (none, s.reopen)

def after (s : Store) : List Event → Store
  | [] => s
  | event :: events => (s.step event).2.after events

def loaded? (s : Store) (event : Event) : Option String :=
  match event, (s.step event).1 with
  | .refresh text _, some (.ok _) => some text
  | _, _ => none

/-- The list that was last reported to be loaded. -/
def lastLoaded? (s : Store) : List Event → Option String
  | [] => none
  | event :: events => ((s.step event).2.lastLoaded? events).or (s.loaded? event)

/-- The rows of a list. -/
def rowsOf (text : String) : List Row :=
  (parseFilterList text).map Row.ofRule

/-! ## One refresh -/

/-- What a refresh with the rules of a list reports, and what it does to the store. -/
structure Refreshed (s : Store) (text : String) (report : Report) (next : Store) : Prop where
  skipped_iff : (∃ message, report = .skipped message) ↔ parseFilterList text = []
  ok_iff : ∀ count, report = .ok count ↔
    (parseFilterList text ≠ [] ∧ s.takes (parseFilterList text)) ∧
      count = (parseFilterList text).length
  error_iff : (∃ message, report = .error message) ↔
    parseFilterList text ≠ [] ∧ ¬ s.takes (parseFilterList text)
  replaced : (∃ count, report = .ok count) → next = { s with table := some (rowsOf text) }
  kept : (∀ count, report ≠ .ok count) → next = s

theorem refreshed {s : Store} {rows : List Row} (htable : s.table = some rows)
    (text : String) (batch : Nat) :
    Refreshed s text (s.refreshFromText text batch).1 (s.refreshFromText text batch).2 := by
  by_cases hnil : parseFilterList text = []
  · rw [refreshFromText_of_nil hnil]
    constructor <;> simp [hnil, Report.nothingParsed]
  · rw [refreshFromText_of_ne_nil hnil]
    by_cases htakes : s.takes (parseFilterList text)
    · rw [replaceAll_of_takes htable htakes]
      constructor <;> simp [hnil, htakes, rowsOf, eq_comm]
    · obtain ⟨count, hreplace⟩ := replaceAll_of_refused htable htakes batch
      rw [hreplace]
      constructor <;> simp [hnil, htakes]

/-! ## One event -/

/-- An event puts the list in that it is reported to have loaded, and nothing else. -/
theorem table_step {s : Store} {rows : List Row} (htable : s.table = some rows)
    (event : Event) :
    (s.step event).2.table = some (((s.loaded? event).map rowsOf).getD rows) := by
  cases event with
  | refresh text batch =>
      have h := refreshed htable text batch
      cases hreport : (s.refreshFromText text batch).1 with
      | ok count =>
          have hnext := h.replaced ⟨count, hreport⟩
          simp [step, refresh, loaded?, hreport, hnext]
      | skipped message =>
          have hnext := h.kept (by simp [hreport])
          simp [step, refresh, loaded?, hreport, hnext, htable]
      | error message =>
          have hnext := h.kept (by simp [hreport])
          simp [step, refresh, loaded?, hreport, hnext, htable]
  | failedDownload message batch => simp [step, refresh, loaded?, htable]
  | refuse param => simp [step, Store.refuse, loaded?, htable]
  | allow param => simp [step, Store.allow, loaded?, htable]
  | refuseNothing => simp [step, Store.refuseNothing, loaded?, htable]
  | reopen => simp [step, Store.reopen, loaded?, htable]

/-- Only a list with rules in it is reported to be loaded. -/
theorem rowsOf_ne_nil_of_loaded? {s : Store} {rows : List Row} (htable : s.table = some rows)
    {event : Event} {text : String} (h : s.loaded? event = some text) : rowsOf text ≠ [] := by
  cases event with
  | refresh list batch =>
      have hrefreshed := refreshed htable list batch
      cases hreport : (s.refreshFromText list batch).1 with
      | ok count =>
          have htext : list = text := by
            simpa [loaded?, step, refresh, hreport] using h
          have hrules := ((hrefreshed.ok_iff count).1 hreport).1.1
          rw [← htext]
          simpa [rowsOf] using hrules
      | skipped message => simp [loaded?, step, refresh, hreport] at h
      | error message => simp [loaded?, step, refresh, hreport] at h
  | _ => simp [loaded?] at h

/-! ## Any number of events -/

theorem table_after {s : Store} {rows : List Row} (htable : s.table = some rows)
    (events : List Event) :
    (s.after events).table = some (((s.lastLoaded? events).map rowsOf).getD rows) := by
  induction events generalizing s rows with
  | nil => simpa [after, lastLoaded?] using htable
  | cons event events ih =>
      have hstep := table_step htable event
      rw [after, ih hstep, lastLoaded?]
      cases hlast : (s.step event).2.lastLoaded? events with
      | none => simp
      | some text => simp

theorem rowsOf_ne_nil_of_lastLoaded? {s : Store} {rows : List Row}
    (htable : s.table = some rows) {events : List Event} {text : String}
    (h : s.lastLoaded? events = some text) : rowsOf text ≠ [] := by
  induction events generalizing s rows with
  | nil => simp [lastLoaded?] at h
  | cons event events ih =>
      have hstep := table_step htable event
      rw [lastLoaded?] at h
      cases hlast : (s.step event).2.lastLoaded? events with
      | none =>
          rw [hlast, Option.none_or] at h
          exact rowsOf_ne_nil_of_loaded? htable h
      | some list =>
          rw [hlast, Option.some_or, Option.some.injEq] at h
          subst h
          exact ih hstep hlast

/--
After any events the table holds the rows of the list last reported to be loaded, or
the rows with which it began. Each further refresh reports what it has done, and a table
with rows in it never becomes empty.
-/
theorem last_loaded_list_is_held (rows : List Row) (refused : List String)
    (events : List Event) :
    let start : Store := ⟨some rows, refused⟩
    let s := start.after events
    s.table = some (((start.lastLoaded? events).map rowsOf).getD rows) ∧
      (rows ≠ [] → s.table ≠ some []) ∧
      (∀ text batch, Refreshed s text (s.refreshFromText text batch).1
        (s.refreshFromText text batch).2) ∧
      ∀ message batch, s.refresh (.error message) batch = (.error message, s) := by
  intro start s
  have htable : s.table = some (((start.lastLoaded? events).map rowsOf).getD rows) :=
    table_after rfl events
  refine ⟨htable, ?_, ?_, ?_⟩
  · intro hrows hempty
    rw [htable, Option.some.injEq] at hempty
    cases hlast : start.lastLoaded? events with
    | none => exact hrows (by simpa [hlast] using hempty)
    | some text =>
        exact rowsOf_ne_nil_of_lastLoaded? rfl hlast (by simpa [hlast] using hempty)
  · intro text batch
    exact refreshed htable text batch
  · intro message batch
    rfl

end Store

end LinkHygiene
