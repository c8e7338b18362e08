import LinkHygiene.Fetch.Client

/-!
# The network of a resolution

What resolving a link asks of the network: probes and pages. An answer may depend
on everything that has been asked before, and it may fail to come.
-/

namespace LinkHygiene

inductive Call where
  | head (url : String)
  | get (url : String)
  | page (url : String)
deriving Repr, DecidableEq

namespace Call

def url : Call → String
  | head url => url
  | get url => url
  | page url => url

def text : Call → String
  | head url => "HEAD " ++ url
  | get url => "GET " ++ url
  | page url => "PAGE " ++ url

end Call

/-- The answers to requests, given the requests before, the latest first. -/
structure Network where
  head : (past : List Call) → (url : String) → Option Probe
  get : (past : List Call) → (url : String) → Option Probe
  page : (past : List Call) → (url : String) → Option Page

namespace Network

/-- A network that does not remember. -/
def fixed (head get : String → Option Probe) (page : String → Option Page) : Network :=
  ⟨fun _ => head, fun _ => get, fun _ => page⟩

def ofTransport (t : Transport) (limit : Nat) : Network :=
  fixed (fun url => (t.probe .head url).toOption) (fun url => (t.probe .get url).toOption)
    (fun url => (t.page limit url).toOption)

def emptyPage (url : String) : Page :=
  ⟨url, "", false⟩

/-- The network that answers with nothing of interest where `n` does not answer. -/
def calm (n : Network) : Network where
  head past url := some ((n.head past url).getD .uneventful)
  get past url := some ((n.get past url).getD .uneventful)
  page past url := some ((n.page past url).getD (emptyPage url))

end Network

end LinkHygiene
