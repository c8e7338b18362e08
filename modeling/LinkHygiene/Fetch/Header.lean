import LinkHygiene.Text.Blank
import LinkHygiene.Text.Lowercase
import LinkHygiene.Text.Split
import LinkHygiene.Url.Percent

/-!
# Response headers

The raw header lines of a transfer as text, and the `Location` they announce. A
transfer can hold several responses, each led by a status line; only the last one
speaks for the resource.
-/

namespace LinkHygiene

namespace Header

/-- A byte as text: itself if it is ASCII, an escape otherwise. -/
def byteText (b : UInt8) : List Char :=
  if b < 0x80 then [Char.ofNat b.toNat] else Percent.escapeByte b

/-- The text of a raw line. When a byte is not UTF-8, all bytes beyond ASCII are escaped. -/
def lineText (bytes : List UInt8) : List Char :=
  Text.trimEnd (match Utf8.decode? bytes with
    | some text => text
    | none => bytes.flatMap byteText)

def line (bytes : List UInt8) : String :=
  String.ofList (lineText bytes)

def statusLead : List Char := "HTTP/".toList

def isStatusLine (line : List Char) : Bool :=
  Text.startsWith statusLead line

def locationValue? (line : List Char) : Option (List Char) :=
  match Text.cut? [':'] line with
  | none => none
  | some (name, value) =>
      if (Text.trim name).map Text.asciiLower = "location".toList then
        some (Text.trim value)
      else none

def step (known : Option (List Char)) (line : List Char) : Option (List Char) :=
  let line := Text.trim line
  if isStatusLine line then none
  else match locationValue? line with
    | some value => some value
    | none => known

/-- The location that the last response gives. -/
def location? (lines : List String) : Option String :=
  (lines.foldl (fun known line => step known line.toList) none).map String.ofList

end Header

end LinkHygiene
