import LinkHygiene.Toml.Lexical

/-!
# TOML: numbers, dates and times

Digits may be separated by single underscores. Integers have 64 bits, floats must
stay finite when they are read, and dates must exist in the calendar.
-/

namespace LinkHygiene

namespace Toml

def isDigit (c : Char) : Bool :=
  '0' ≤ c && c ≤ '9'

/-! ## Digits -/

/-- The digits after the first one; an underscore has to be followed by a digit. -/
def moreDigits (fits : Char → Bool) : List Char → Option (List Char × List Char)
  | [] => some ([], [])
  | '_' :: [] => none
  | '_' :: c :: s =>
      if fits c then do
        let (digits, rest) ← moreDigits fits s
        pure (c :: digits, rest)
      else none
  | c :: s =>
      if fits c then do
        let (digits, rest) ← moreDigits fits s
        pure (c :: digits, rest)
      else some ([], c :: s)

def digits? (fits : Char → Bool) (s : List Char) : Option (List Char × List Char) :=
  match s with
  | c :: _ => if fits c then moreDigits fits s else none
  | [] => none

def wholeDigits? (s : List Char) : Option (List Char × List Char) :=
  match s with
  | '0' :: s => some (['0'], s)
  | s => digits? isDigit s

def splitSign (s : List Char) : Bool × List Char :=
  match s with
  | '-' :: s => (true, s)
  | '+' :: s => (false, s)
  | s => (false, s)

def valueOf (base : Nat) (digits : List Char) : Nat :=
  digits.foldl (fun n c => n * base + (Unicode.hexDigit? c).getD 0) 0

/-! ## Integers -/

def minInteger : Int := -9223372036854775808
def maxInteger : Int := 9223372036854775807

def integerOf? (n : Int) : Option Datum :=
  if minInteger ≤ n && n ≤ maxInteger then some (.integer n) else none

def isIn (base : Nat) (c : Char) : Bool :=
  match Unicode.hexDigit? c with
  | some d => d < base
  | none => false

/-- An integer in a base of its own, after its two leading characters. -/
def based? (base : Nat) (s : List Char) : Option (Datum × List Char) := do
  let (digits, s) ← digits? (isIn base) s
  pure (← integerOf? (valueOf base digits), s)

def integer? (s : List Char) : Option (Datum × List Char) :=
  match s with
  | '0' :: 'x' :: s => based? 16 s
  | '0' :: 'o' :: s => based? 8 s
  | '0' :: 'b' :: s => based? 2 s
  | s => do
      let (negative, s) := splitSign s
      let (digits, s) ← wholeDigits? s
      let n : Int := valueOf 10 digits
      pure (← integerOf? (if negative then -n else n), s)

/-! ## Floats -/

/-- Decimal numbers that are closer to infinity than to any finite float. -/
def overflowBound : Nat := (1 <<< 1024) - (1 <<< 970)

def withZeros : (zeros : Nat) → (n : Nat) → Nat
  | 0, n => n
  | zeros + 1, n => withZeros zeros (n * 10)

/-- Whether `digits` times ten to the power of `exponent` is beyond all floats. -/
def overflows (digits : List Char) (exponent : Int) : Bool :=
  let digits := digits.dropWhile (· == '0')
  let magnitude := (digits.length : Int) + exponent
  if digits.isEmpty || magnitude < 300 then false
  else if 320 < magnitude then true
  else
    let mantissa := valueOf 10 digits
    if exponent < 0 then withZeros exponent.natAbs overflowBound ≤ mantissa
    else overflowBound ≤ withZeros exponent.natAbs mantissa

def exponent? (s : List Char) : Option (Int × List Char) := do
  let (negative, s) := splitSign s
  let (digits, s) ← digits? isDigit s
  let n : Int := valueOf 10 digits
  pure (if negative then -n else n, s)

def startsExponent (s : List Char) : Bool :=
  match s with
  | c :: _ => c == 'e' || c == 'E'
  | [] => false

/-- A number with a fraction or an exponent, or one of the numbers with a name. -/
def float? (s : List Char) : Option (Datum × List Char) := do
  let (negative, s) := splitSign s
  match s with
  | 'i' :: 'n' :: 'f' :: s => pure (.float, s)
  | 'n' :: 'a' :: 'n' :: s => pure (.float, s)
  | s =>
      let (whole, s) ← wholeDigits? s
      let (fraction, s) ← (match s with
        | '.' :: s => digits? isDigit s
        | s => if startsExponent s then some ([], s) else none)
      let (exponent, s) ← (if startsExponent s then exponent? s.tail else some (0, s))
      if !negative && overflows (whole ++ fraction) (exponent - fraction.length) then none
      else pure (.float, s)

/-! ## Dates and times -/

def two? (least most : Nat) (s : List Char) : Option (Nat × List Char) :=
  match s with
  | a :: b :: s =>
      if isDigit a && isDigit b then
        let n := valueOf 10 [a, b]
        if least ≤ n && n ≤ most then some (n, s) else none
      else none
  | _ => none

def expect? (c : Char) (s : List Char) : Option (List Char) :=
  match s with
  | d :: s => if c = d then some s else none
  | [] => none

def isLeap (year : Nat) : Bool :=
  year % 4 == 0 && (year % 100 != 0 || year % 400 == 0)

def daysIn (year month : Nat) : Nat :=
  if month = 2 then if isLeap year then 29 else 28
  else if month = 4 || month = 6 || month = 9 || month = 11 then 30
  else 31

def date? (s : List Char) : Option (List Char) := do
  let (century, s) ← two? 0 99 s
  let (rest, s) ← two? 0 99 s
  let s ← expect? '-' s
  let (month, s) ← two? 1 12 s
  let s ← expect? '-' s
  let (_, s) ← two? 1 (daysIn (century * 100 + rest) month) s
  pure s

def time? (s : List Char) : Option (List Char) := do
  let (_, s) ← two? 0 23 s
  let s ← expect? ':' s
  let (_, s) ← two? 0 59 s
  let s ← expect? ':' s
  let (_, s) ← two? 0 60 s
  match s with
  | '.' :: s =>
      match s.takeWhile isDigit with
      | [] => none
      | _ => some (s.dropWhile isDigit)
  | s => some s

def offset? (s : List Char) : Option (List Char) :=
  match s with
  | 'Z' :: s => some s
  | 'z' :: s => some s
  | c :: s =>
      if c = '+' || c = '-' then do
        let (_, s) ← two? 0 23 s
        let s ← expect? ':' s
        let (_, s) ← two? 0 59 s
        pure s
      else some (c :: s)
  | [] => some []

def moment? (s : List Char) : Option (Datum × List Char) :=
  match date? s with
  | some s =>
      match s with
      | c :: after =>
          if c = 'T' || c = 't' || c = ' ' then
            match time? after with
            | some s => (offset? s).map (.moment, ·)
            | none => some (.moment, c :: after)
          else some (.moment, c :: after)
      | [] => some (.moment, [])
  | none => (time? s).map (.moment, ·)

def number? (s : List Char) : Option (Datum × List Char) :=
  ((moment? s).or (float? s)).or (integer? s)

end Toml

end LinkHygiene
