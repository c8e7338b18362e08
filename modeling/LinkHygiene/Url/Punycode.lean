/-!
# Punycode

Labels of internationalized host names as letters, digits and hyphens. The
ASCII characters of a label come first; then each other character is written as
the distance to the place where it has to be inserted, in digits of a base whose
thresholds adapt to the distances before.
-/

namespace LinkHygiene

namespace Punycode

def base : Nat := 36
def tMin : Nat := 1
def tMax : Nat := 26
def skew : Nat := 38
def damp : Nat := 700
def initialBias : Nat := 72
def initialCode : Nat := 128

/-- The largest distance that is handled; greater ones count as errors. -/
def limit : Nat := 0xFFFFFFFF

def threshold (bias k : Nat) : Nat :=
  if k ≤ bias + tMin then tMin
  else if bias + tMax ≤ k then tMax
  else k - bias

/-- Divides a large distance down; structural in the number of rounds. -/
def adaptRounds : (rounds delta k : Nat) → Nat
  | 0, _, k => k
  | rounds + 1, delta, k =>
      if (base - tMin) * tMax / 2 < delta then
        adaptRounds rounds (delta / (base - tMin)) (k + base)
      else k + (base - tMin + 1) * delta / (delta + skew)

def adapt (delta count : Nat) (first : Bool) : Nat :=
  let delta := if first then delta / damp else delta / 2
  adaptRounds 64 (delta + delta / count) 0

def digitValue? (c : Char) : Option Nat :=
  if '0' ≤ c && c ≤ '9' then some (c.toNat - '0'.toNat + 26)
  else if 'a' ≤ c && c ≤ 'z' then some (c.toNat - 'a'.toNat)
  else if 'A' ≤ c && c ≤ 'Z' then some (c.toNat - 'A'.toNat)
  else none

def digitChar (n : Nat) : Char :=
  if n < 26 then Char.ofNat ('a'.toNat + n) else Char.ofNat ('0'.toNat + (n - 26))

/-- Reads one distance: its value added to `i`, and the digits left. -/
def readDistance (bias : Nat) :
    (i weight k : Nat) → List Char → Option (Nat × List Char)
  | _, _, _, [] => none
  | i, weight, k, c :: rest =>
      match digitValue? c with
      | none => none
      | some digit =>
          let i := i + digit * weight
          if limit < i then none
          else
            let t := threshold bias k
            if digit < t then some (i, rest)
            else
              let weight := weight * (base - t)
              if limit < weight then none else readDistance bias i weight (k + base) rest

def insertAt (position : Nat) (c : Char) (text : List Char) : List Char :=
  text.take position ++ c :: text.drop position

/-- Inserts the characters that the digits describe; every one takes a digit. -/
def decodeRounds :
    (fuel code bias i : Nat) → (text digits : List Char) → Option (List Char)
  | _, _, _, _, text, [] => some text
  | 0, _, _, _, _, _ :: _ => none
  | fuel + 1, code, bias, i, text, digits =>
      match readDistance bias i 1 base digits with
      | none => none
      | some (position, rest) =>
          let count := text.length + 1
          let bias := adapt (position - i) count (i == 0)
          let code := code + position / count
          let position := position % count
          if code < 0xD800 || (0xDFFF < code && code < 0x110000) then
            decodeRounds fuel code bias (position + 1)
              (insertAt position (Char.ofNat code) text) rest
          else none

/-- The part before the last hyphen, and the part after it; all is digits if there is none. -/
def splitAtLastHyphen (s : List Char) : List Char × List Char :=
  let r := s.reverse
  match r.dropWhile (· != '-') with
  | [] => ([], s)
  | _ :: before => (before.reverse, (r.takeWhile (· != '-')).reverse)

def decode? (s : List Char) : Option (List Char) :=
  let (basic, digits) := splitAtLastHyphen s
  if basic.all (fun c => c.toNat < 128) then
    decodeRounds (digits.length + 1) initialCode initialBias 0 basic digits
  else none

def writeDistance (bias : Nat) : (fuel q k : Nat) → List Char
  | 0, _, _ => []
  | fuel + 1, q, k =>
      let t := threshold bias k
      if q < t then [digitChar q]
      else digitChar (t + (q - t) % (base - t)) ::
        writeDistance bias fuel ((q - t) / (base - t)) (k + base)

/-- The state of the encoder: distance, bias, characters written, and the output in reverse. -/
structure Encoding where
  delta : Nat
  bias : Nat
  handled : Nat
  output : List Char

def encodePass (code basicCount : Nat) (state : Encoding) : List Char → Encoding
  | [] => state
  | c :: rest =>
      if c.toNat < code then
        encodePass code basicCount { state with delta := state.delta + 1 } rest
      else if c.toNat = code then
        let digits := writeDistance state.bias 64 state.delta base
        let bias := adapt state.delta (state.handled + 1) (state.handled == basicCount)
        encodePass code basicCount
          ⟨0, bias, state.handled + 1, digits.reverse ++ state.output⟩ rest
      else encodePass code basicCount state rest

/-- The least code point of the label that is at least `code`. -/
def nextCode? (code : Nat) (s : List Char) : Option Nat :=
  s.foldl (fun best c =>
    if c.toNat < code then best
    else match best with
      | none => some c.toNat
      | some n => some (min n c.toNat)) none

def encodeRounds (s : List Char) (basicCount : Nat) :
    (fuel code : Nat) → Encoding → List Char
  | 0, _, state => state.output.reverse
  | fuel + 1, code, state =>
      match nextCode? code s with
      | none => state.output.reverse
      | some next =>
          let state := { state with delta := state.delta + (next - code) * (state.handled + 1) }
          let state := encodePass next basicCount state s
          encodeRounds s basicCount fuel (next + 1) { state with delta := state.delta + 1 }

def encode (s : List Char) : List Char :=
  let basic := s.filter (fun c => c.toNat < 128)
  let lead := if basic.isEmpty then [] else basic ++ ['-']
  lead ++ encodeRounds s basic.length (s.length + 1) initialCode
    ⟨0, initialBias, basic.length, []⟩

end Punycode

end LinkHygiene
