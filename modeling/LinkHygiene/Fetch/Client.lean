import LinkHygiene.Fetch.Header
import LinkHygiene.Fetch.Probe
import LinkHygiene.Text.Utf8Stream

/-!
# Fetching

Requests over the web, and what is made of their answers: redirect probes, the
beginning of a page, or a whole text. Only web addresses are asked. How a request
travels is left to a transport, which brings back raw header lines and a body in
pieces, or nothing.
-/

namespace LinkHygiene

inductive Method where
  | head
  | get
deriving Repr, DecidableEq

def Method.text : Method → String
  | head => "HEAD"
  | get => "GET"

structure Request where
  method : Method
  url : String
  /-- Whether redirects are followed on the way. -/
  follow : Bool
deriving Repr, DecidableEq

structure Response where
  status : Nat
  /-- The header lines of all responses on the way. -/
  headers : List (List UInt8)
  /-- The body, in the pieces in which it arrives. -/
  body : List (List UInt8)
  /-- The address that answered in the end. -/
  finalUrl : String
deriving Repr, DecidableEq

/-- How requests travel; `none` if one does not come back. -/
abbrev Transport := Request → Option Response

def Transport.unreachable : Transport :=
  fun _ => none

inductive FetchError where
  | invalidUrl (url : String) (cause : UrlError)
  | unsupportedScheme (scheme url : String)
  | failed (method : Method) (url : String)
  | badStatus (url : String) (status : Nat)
deriving Repr, DecidableEq

namespace FetchError

def message : FetchError → String
  | invalidUrl url cause => "invalid URL " ++ url ++ ": " ++ cause.message
  | unsupportedScheme scheme url => "unsupported scheme \"" ++ scheme ++ "\" in " ++ url
  | failed method url => method.text ++ " " ++ url ++ " failed"
  | badStatus url status => "GET " ++ url ++ " returned HTTP " ++ toString status

end FetchError

/-- A page with redirects followed, as far as it was read. -/
structure Page where
  finalUrl : String
  body : String
  /-- Whether reading ended at the limit. -/
  truncated : Bool
deriving Repr, DecidableEq

/-! ## Bounded reading -/

structure PageRead where
  stream : Utf8.Stream := {}
  received : Nat := 0
  truncated : Bool := false

namespace PageRead

/-- After one more piece, of which no more is taken than the limit admits. -/
def push (limit : Nat) (r : PageRead) (piece : List UInt8) : PageRead :=
  let taken := piece.take (limit - r.received)
  let received := r.received + taken.length
  ⟨r.stream.push taken, received, limit ≤ received⟩

def readAll (limit : Nat) : (r : PageRead) → List (List UInt8) → PageRead
  | r, [] => r
  | r, piece :: rest =>
      let r := r.push limit piece
      if r.truncated then r else readAll limit r rest

def ofBody (limit : Nat) (body : List (List UInt8)) : PageRead :=
  readAll limit {} body

def text (r : PageRead) : String :=
  String.ofList r.stream.finish

end PageRead

/-! ## Requests -/

namespace Transport

def checkHttp (url : String) : Except FetchError Unit :=
  match Url.parse url with
  | .error cause => .error (.invalidUrl url cause)
  | .ok u => if u.isHttp then .ok () else .error (.unsupportedScheme u.scheme url)

def send (t : Transport) (r : Request) : Except FetchError Response :=
  match checkHttp r.url with
  | .error e => .error e
  | .ok () =>
      match t r with
      | none => .error (.failed r.method r.url)
      | some response => .ok response

/-- Status and location, without following redirects and without reading the body. -/
def probe (t : Transport) (method : Method) (url : String) : Except FetchError Probe :=
  (t.send ⟨method, url, false⟩).map fun response =>
    ⟨response.status, Header.location? (response.headers.map Header.line)⟩

/-- The beginning of a page, with redirects followed. -/
def page (t : Transport) (limit : Nat) (url : String) : Except FetchError Page :=
  (t.send ⟨.get, url, true⟩).map fun response =>
    let read := PageRead.ofBody limit response.body
    ⟨response.finalUrl, read.text, read.truncated⟩

/-- A whole text, with redirects followed; the answer has to be a success. -/
def download (t : Transport) (url : String) : Except FetchError String :=
  match t.send ⟨.get, url, true⟩ with
  | .error e => .error e
  | .ok response =>
      if 200 ≤ response.status && response.status < 300 then
        .ok (String.ofList (Utf8.decodeLossy response.body.flatten))
      else .error (.badStatus url response.status)

end Transport

end LinkHygiene
