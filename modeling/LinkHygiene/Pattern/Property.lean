import LinkHygiene.Pattern.CharSet
import LinkHygiene.Unicode.Category
import LinkHygiene.Unicode.Property
import LinkHygiene.Unicode.Script

/-!
# Character properties in patterns

The sets of characters that patterns know by the name of a property: general
categories, scripts and yes-or-no properties. Names are compared without regard
to case, blanks, hyphens and underscores, and a leading "is" does not count.
-/

namespace LinkHygiene

namespace CharSet

def plainName (name : List Char) : String :=
  let lower := (name.filter (fun c => c.toNat < 128)).map fun c =>
    if 'A' ≤ c && c ≤ 'Z' then Char.ofNat (c.toNat + 32) else c
  let strip := fun (s : List Char) => s.filter fun c => c != ' ' && c != '_' && c != '-'
  match lower with
  | 'i' :: 's' :: rest =>
      let rest := strip rest
      if rest = ['c'] then "isc" else String.ofList rest
  | s => String.ofList (strip s)

def lookUp? (rows : List (List String × List String)) (name : String) : Option CharSet :=
  (rows.find? fun row => row.1.contains name).map fun row => table (.ofRows row.2)

def categories (names : List String) : CharSet :=
  ofList (names.filterMap (lookUp? Unicode.categoryRows))

def category? (name : String) : Option CharSet :=
  match name with
  | "any" => some any
  | "assigned" => some (compl (categories ["cn"]))
  | "ascii" => some (range '\x00' '\x7F')
  | "c" | "other" => some (categories ["cc", "cf", "cn", "co"])
  | "l" | "letter" => some (categories ["lu", "ll", "lt", "lm", "lo"])
  | "lc" | "casedletter" => some (categories ["lu", "ll", "lt"])
  | "m" | "mark" | "combiningmark" => some (categories ["mn", "mc", "me"])
  | "n" | "number" => some (categories ["nd", "nl", "no"])
  | "p" | "punctuation" | "punct" =>
      some (categories ["pc", "pd", "ps", "pe", "pi", "pf", "po"])
  | "s" | "symbol" => some (categories ["sm", "sc", "sk", "so"])
  | "z" | "separator" => some (categories ["zs", "zl", "zp"])
  | name => lookUp? Unicode.categoryRows name

def script? (name : String) : Option CharSet :=
  lookUp? Unicode.scriptRows name

def scriptExtension? (name : String) : Option CharSet :=
  lookUp? Unicode.scriptExtensionRows name

/-- A set known by one name; three short names belong to categories only. -/
def named? (name : String) : Option CharSet :=
  let property :=
    if ["cf", "sc", "lc"].contains name then Option.none
    else lookUp? Unicode.propertyRows name
  (property.or (category? name)).or (script? name)

def valued? (property value : String) : Option CharSet :=
  match property with
  | "gc" => category? value
  | "generalcategory" => category? value
  | "sc" => script? value
  | "script" => script? value
  | "scx" => scriptExtension? value
  | "scriptextensions" => scriptExtension? value
  | _ => Option.none

def properties (names : List String) : CharSet :=
  ofList (names.filterMap (lookUp? Unicode.propertyRows))

def decimals : CharSet :=
  categories ["nd"]

def blanks : CharSet :=
  properties ["whitespace"]

def asciiWordChars : CharSet :=
  ofList [letters, digits, one '_']

/-- Letters, marks, decimal digits, connecting punctuation and joining controls. -/
def wordChars : CharSet :=
  union asciiWordChars
    (inter (range (Char.ofNat 0x80) (Char.ofNat 0x10FFFF))
      (union (properties ["alphabetic", "joincontrol"])
        (categories ["mn", "mc", "me", "nd", "pc"])))

def alphabetic : CharSet :=
  properties ["alphabetic"]

def numbers : CharSet :=
  categories ["nd", "nl", "no"]

end CharSet

end LinkHygiene
