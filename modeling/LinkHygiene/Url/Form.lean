import LinkHygiene.Text.Split
import LinkHygiene.Url.Percent

/-!
# Form-encoded queries

A query as an ordered list of names and values. Pairs are separated by `&`, a
name ends at the first `=`, a plus sign is a blank, and all else that is not a
letter, a digit or one of `*`, `-`, `.`, `_` is written as escaped bytes.
-/

namespace LinkHygiene

namespace Form

structure Pair where
  name : String
  value : String
deriving Repr, DecidableEq, Inhabited

def isPlain (c : Char) : Bool :=
  ('a' ≤ c && c ≤ 'z') || ('A' ≤ c && c ≤ 'Z') || ('0' ≤ c && c ≤ '9') ||
    c == '*' || c == '-' || c == '.' || c == '_'

def encodeChar (c : Char) : List Char :=
  if isPlain c then [c]
  else if c = ' ' then ['+']
  else Percent.escapeChar c

def encodeText (s : List Char) : List Char :=
  s.flatMap encodeChar

def encodePair (p : Pair) : List Char :=
  encodeText p.name.toList ++ '=' :: encodeText p.value.toList

def encode (pairs : List Pair) : List Char :=
  Text.joinWith ['&'] (pairs.map encodePair)

def decodeText (s : List Char) : List Char :=
  Utf8.decodeLossy (Percent.decode (Utf8.encode (s.map fun c => if c = '+' then ' ' else c)))

def decodePair (s : List Char) : Pair :=
  let (name, value) := Text.breakAt (· == '=') s
  ⟨String.ofList (decodeText name), String.ofList (decodeText (value.drop 1))⟩

/-- The pairs of a query; empty fields between separators hold none. -/
def decode (query : List Char) : List Pair :=
  ((Text.splitOn '&' query).filter (fun field => !field.isEmpty)).map decodePair

end Form

end LinkHygiene
