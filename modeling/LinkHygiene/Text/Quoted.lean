/-!
# Quoted text

A text between double quotes. Quotes, backslashes and control characters are
escaped; which characters are controls is up to the notation.
-/

namespace LinkHygiene

namespace Quoted

/-- A number below 65536 in four digits. -/
def hexDigits (n : Nat) : List Char :=
  [n / 4096 % 16, n / 256 % 16, n / 16 % 16, n % 16].map Nat.digitChar

def encodeChar (isControl : Char → Bool) (c : Char) : List Char :=
  match c with
  | '"' => ['\\', '"']
  | '\\' => ['\\', '\\']
  | '\x08' => ['\\', 'b']
  | '\t' => ['\\', 't']
  | '\n' => ['\\', 'n']
  | '\x0C' => ['\\', 'f']
  | '\r' => ['\\', 'r']
  | c => if isControl c then '\\' :: 'u' :: hexDigits c.toNat else [c]

def encode (isControl : Char → Bool) (text : List Char) : List Char :=
  '"' :: text.flatMap (encodeChar isControl) ++ ['"']

def isJsonControl (c : Char) : Bool :=
  c.toNat < 0x20

def isTomlControl (c : Char) : Bool :=
  c.toNat < 0x20 || c.toNat == 0x7F

def json (text : String) : String :=
  String.ofList (encode isJsonControl text.toList)

/-- A text as TOML writes it on one line. -/
def toml (text : String) : String :=
  String.ofList (encode isTomlControl text.toList)

end Quoted

end LinkHygiene
