import LinkHygiene.Text.Split
import LinkHygiene.Unicode.Table

/-!
# Numeric addresses

Internet addresses of four and of sixteen bytes. A four-byte address is read from
one to four numbers, decimal, octal or hexadecimal, of which the last fills all
bytes that are left; a sixteen-byte address is read from groups of hexadecimal
digits and written with its first longest run of zero groups left out.
-/

namespace LinkHygiene

namespace Address

def digitIn? (radix : Nat) (c : Char) : Option Nat :=
  match Unicode.hexDigit? c with
  | some d => if d < radix then some d else none
  | none => none

def numberIn? (radix : Nat) : (value : Nat) → List Char → Option Nat
  | value, [] => some value
  | value, c :: s =>
      match digitIn? radix c with
      | some d => numberIn? radix (value * radix + d) s
      | none => none

/-- One part of a four-byte address; `0x` and a leading zero choose the radix. -/
def part? : List Char → Option Nat
  | [] => none
  | '0' :: 'x' :: s => numberIn? 16 0 s
  | '0' :: 'X' :: s => numberIn? 16 0 s
  | '0' :: c :: s => numberIn? 8 0 (c :: s)
  | s => numberIn? 10 0 s

def isDigit (c : Char) : Bool :=
  '0' ≤ c && c ≤ '9'

/-- Whether a name is meant as an address: its last label is a number. -/
def endsInNumber (name : List Char) : Bool :=
  match (Text.splitOn '.' name).reverse with
  | [] => false
  | [] :: [] => false
  | [] :: last :: _ => isNumber last
  | last :: _ => isNumber last
where
  isNumber (last : List Char) : Bool :=
    (!last.isEmpty && last.all isDigit) || (part? last).isSome

def parts? : List (List Char) → Option (List Nat)
  | [] => some []
  | p :: ps =>
      match part? p, parts? ps with
      | some n, some ns => some (n :: ns)
      | _, _ => none

def span : (bytes : Nat) → Nat
  | 0 => 1
  | bytes + 1 => 256 * span bytes

def ofBytes (bytes : List Nat) : Nat :=
  bytes.foldl (fun n byte => n * 256 + byte) 0

def v4? (name : List Char) : Option Nat :=
  let fields := Text.splitOn '.' name
  let fields := if fields.getLast? = some [] then fields.dropLast else fields
  if 4 < fields.length then none
  else match parts? fields with
    | none => none
    | some numbers =>
        match numbers.reverse with
        | [] => none
        | last :: before =>
            let leading := before.reverse
            let room := span (4 - leading.length)
            if room ≤ last || leading.any (255 < ·) then none
            else some (ofBytes leading * room + last)

def renderV4 (address : Nat) : List Char :=
  Text.joinWith ['.']
    ([3, 2, 1, 0].map fun place => (toString (address / span place % 256)).toList)

/-- Up to `count` hexadecimal digits: their value, how many there were, and the rest. -/
def hexGroup : (count : Nat) → (value read : Nat) → List Char → Nat × Nat × List Char
  | 0, value, read, s => (value, read, s)
  | _ + 1, value, read, [] => (value, read, [])
  | count + 1, value, read, c :: s =>
      match Unicode.hexDigit? c with
      | some d => hexGroup count (value * 16 + d) (read + 1) s
      | none => (value, read, c :: s)

def decimalByte? (s : List Char) : Option (Nat × List Char) :=
  let digits := s.takeWhile isDigit
  let rest := s.dropWhile isDigit
  match digits with
  | [] => none
  | '0' :: _ :: _ => none
  | _ =>
      match numberIn? 10 0 digits with
      | some n => if n ≤ 255 then some (n, rest) else none
      | none => none

def embeddedV4? (s : List Char) : Option (Nat × Nat) :=
  match decimalByte? s with
  | some (a, '.' :: s) =>
      match decimalByte? s with
      | some (b, '.' :: s) =>
          match decimalByte? s with
          | some (c, '.' :: s) =>
              match decimalByte? s with
              | some (d, []) => some (a * 256 + b, c * 256 + d)
              | _ => none
          | _ => none
      | _ => none
  | _ => none

def placesTaken (groups : List Nat) (gap : Option Nat) : Nat :=
  groups.length + (if gap.isSome then 1 else 0)

/--
Reads the groups after the first colons were handled. `groups` is in reverse and
`gap` the number of groups before the omitted zeros.
-/
def groupsFrom : (fuel : Nat) → (groups : List Nat) → (gap : Option Nat) →
    List Char → Option (List Nat × Option Nat)
  | _, groups, gap, [] => some (groups, gap)
  | 0, _, _, _ :: _ => none
  | fuel + 1, groups, gap, s =>
      if placesTaken groups gap = 8 then none
      else match s with
        | ':' :: rest =>
            if gap.isSome then none else groupsFrom fuel groups (some groups.length) rest
        | s =>
            let (value, read, rest) := hexGroup 4 0 0 s
            match rest with
            | '.' :: _ =>
                if read = 0 || 6 < placesTaken groups gap then none
                else match embeddedV4? s with
                  | some (high, low) => some (low :: high :: groups, gap)
                  | none => none
            | ':' :: rest =>
                match rest with
                | [] => none
                | rest => groupsFrom fuel (value :: groups) gap rest
            | [] => if read = 0 then none else some (value :: groups, gap)
            | _ :: _ => none

def fillGap (groups : List Nat) : Option Nat → Option (List Nat)
  | none => if groups.length = 8 then some groups else none
  | some gap =>
      if 8 < groups.length then none
      else some (groups.take gap ++ List.replicate (8 - groups.length) 0 ++ groups.drop gap)

def v6? (s : List Char) : Option (List Nat) :=
  let read :=
    match s with
    | ':' :: ':' :: rest => groupsFrom (s.length + 1) [] (some 0) rest
    | ':' :: _ => none
    | s => groupsFrom (s.length + 1) [] none s
  match read with
  | none => none
  | some (groups, gap) => fillGap groups.reverse gap

def hexText (n : Nat) : List Char :=
  Nat.toDigits 16 n

/-- Start and length of the first longest run of at least two zero groups. -/
def longestZeros (groups : List Nat) : Option (Nat × Nat) :=
  let runAt := fun i => ((groups.drop i).takeWhile (· == 0)).length
  (List.range groups.length).foldl (fun best i =>
    let n := runAt i
    match best with
    | none => if 2 ≤ n then some (i, n) else none
    | some (_, m) => if m < n then some (i, n) else best) none

def renderV6 (groups : List Nat) : List Char :=
  let colon := Text.joinWith [':']
  match longestZeros groups with
  | none => colon (groups.map hexText)
  | some (start, count) =>
      colon ((groups.take start).map hexText) ++ [':', ':'] ++
        colon ((groups.drop (start + count)).map hexText)

end Address

end LinkHygiene
