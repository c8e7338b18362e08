/-!
# Code point tables

Character properties are published as long lists of code points. This module
holds the two shapes such a list takes here, a set of intervals and a map made
of runs, and the compact hexadecimal notation in which the table modules write
them.

A set is written as blank-separated items `41-5a` (an interval) or `5f` (one
code point). A map is written as items `41-5a>61` (each code point of the
interval goes to the one at the same distance from `61`), `100-12e/2>101` (every
second code point of the interval), and `df>73+73` (one code point to several).
Items are increasing and do not overlap.
-/

namespace LinkHygiene

namespace Unicode

def hexDigit? (c : Char) : Option Nat :=
  if '0' ≤ c && c ≤ '9' then some (c.toNat - '0'.toNat)
  else if 'a' ≤ c && c ≤ 'f' then some (c.toNat - 'a'.toNat + 10)
  else if 'A' ≤ c && c ≤ 'F' then some (c.toNat - 'A'.toNat + 10)
  else none

/-- A set of code points, as increasing disjoint closed intervals. -/
structure RangeSet where
  ranges : Array (Nat × Nat)
deriving Inhabited

namespace RangeSet

/-- Binary search; `fuel` bounds the number of halvings. -/
def searchFuel (ranges : Array (Nat × Nat)) (n : Nat) :
    (fuel lo hi : Nat) → Bool
  | 0, _, _ => false
  | fuel + 1, lo, hi =>
      if lo < hi then
        let mid := (lo + hi) / 2
        match ranges[mid]? with
        | none => false
        | some (first, last) =>
            if n < first then searchFuel ranges n fuel lo mid
            else if last < n then searchFuel ranges n fuel (mid + 1) hi
            else true
      else false

def containsNat (s : RangeSet) (n : Nat) : Bool :=
  searchFuel s.ranges n (s.ranges.size + 1) 0 s.ranges.size

def contains (s : RangeSet) (c : Char) : Bool :=
  s.containsNat c.toNat

structure Reader where
  lower : Option Nat
  value : Nat
  started : Bool
  found : Array (Nat × Nat)

def Reader.close (r : Reader) : Reader :=
  if r.started then
    ⟨none, 0, false, r.found.push (r.lower.getD r.value, r.value)⟩
  else
    ⟨none, 0, false, r.found⟩

def Reader.feed (r : Reader) (c : Char) : Reader :=
  match hexDigit? c with
  | some d => { r with value := r.value * 16 + d, started := true }
  | none =>
      if c = '-' then { r with lower := some r.value, value := 0 }
      else r.close

def ofRows (rows : List String) : RangeSet :=
  let read := rows.foldl (fun r row => (row.toList.foldl Reader.feed r).close)
    ⟨none, 0, false, #[]⟩
  ⟨read.found⟩

end RangeSet

/--
A run of a map: the code points `first`, `first + step`, … up to `last`. When
`image` holds one code point, the run is shifted onto the one that starts there;
otherwise `first` alone is mapped, to all of `image`.
-/
structure MapRun where
  first : Nat
  last : Nat
  step : Nat
  image : List Nat
deriving Inhabited

namespace MapRun

def covers (run : MapRun) (n : Nat) : Bool :=
  run.first ≤ n && n ≤ run.last && (n - run.first) % run.step == 0

def apply (run : MapRun) (n : Nat) : List Nat :=
  match run.image with
  | [start] => [start + (n - run.first)]
  | image => image

/-- The code point that a shifting run sends to `n`, if there is one. -/
def source? (run : MapRun) (n : Nat) : Option Nat :=
  match run.image with
  | [start] =>
      if start ≤ n && run.covers (run.first + (n - start)) then
        some (run.first + (n - start))
      else none
  | _ => none

end MapRun

structure RunMap where
  runs : Array MapRun
deriving Inhabited

namespace RunMap

/-- The last run that starts at or before `n` is the only one that can cover it. -/
def searchFuel (runs : Array MapRun) (n : Nat) :
    (fuel lo hi : Nat) → Option MapRun
  | 0, _, _ => none
  | fuel + 1, lo, hi =>
      if lo < hi then
        let mid := (lo + hi) / 2
        match runs[mid]? with
        | none => none
        | some run =>
            if n < run.first then searchFuel runs n fuel lo mid
            else if run.last < n then searchFuel runs n fuel (mid + 1) hi
            else if run.covers n then some run
            else none
      else none

def find? (m : RunMap) (n : Nat) : Option (List Nat) :=
  (searchFuel m.runs n (m.runs.size + 1) 0 m.runs.size).map (MapRun.apply · n)

def sources (m : RunMap) (n : Nat) : List Nat :=
  m.runs.foldr (fun run acc => match run.source? n with
    | some k => k :: acc
    | none => acc) []

structure Reader where
  first : Option Nat
  last : Option Nat
  step : Nat
  image : List Nat
  inImage : Bool
  inStep : Bool
  value : Nat
  started : Bool
  found : Array MapRun

def Reader.fresh (found : Array MapRun) : Reader :=
  ⟨none, none, 1, [], false, false, 0, false, found⟩

def Reader.close (r : Reader) : Reader :=
  match r.first with
  | none => Reader.fresh r.found
  | some first =>
      let image := if r.started then r.image ++ [r.value] else r.image
      Reader.fresh (r.found.push ⟨first, r.last.getD first, r.step, image⟩)

def Reader.feed (r : Reader) (c : Char) : Reader :=
  match hexDigit? c with
  | some d => { r with value := r.value * 16 + d, started := true }
  | none =>
      if c = '-' then { r with first := some r.value, value := 0, started := false }
      else if c = '/' then
        { r with last := some r.value, value := 0, inStep := true, started := false }
      else if c = '>' then
        let r' : Reader :=
          if r.inStep then { r with step := r.value }
          else match r.first with
            | none => { r with first := some r.value, last := some r.value }
            | some _ => { r with last := some r.value }
        { r' with value := 0, inImage := true, started := false }
      else if c = '+' then
        { r with image := r.image ++ [r.value], value := 0, started := false }
      else r.close

def ofRows (rows : List String) : RunMap :=
  let read := rows.foldl (fun r row => (row.toList.foldl Reader.feed r).close)
    (Reader.fresh #[])
  ⟨read.found⟩

end RunMap

end Unicode

end LinkHygiene
