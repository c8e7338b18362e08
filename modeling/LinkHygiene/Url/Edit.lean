import LinkHygiene.Url.Parse

/-!
# Changing URLs

Another host or another path for a URL that exists already. A change that the
URL does not admit is refused and leaves nothing behind.
-/

namespace LinkHygiene

namespace Url

/-- The part of a host setting before its port; brackets protect their colons. -/
def settingHost? (s : List Char) : Option (List Char) :=
  match s with
  | ':' :: _ => none
  | _ =>
      if s.head? = some '[' && s.getLast? = some ']' then some s
      else some (s.takeWhile (· != ':'))

def parseHostFor (kind : SchemeKind) (s : List Char) : Except UrlError Host :=
  if kind.isSpecial then Host.parse s else Host.parseOpaque s

/-- The URL on another host; `none` if it cannot be there. -/
def setHost? (u : Url) (host : String) : Option Url :=
  if u.isPlain then none
  else
    match settingHost? host.toList with
    | none => none
    | some s =>
        match parseHostFor u.kind s with
        | .error _ => none
        | .ok host =>
            let authority := u.authority.getD {}
            some { u with authority := some { authority with host := some host } }

/-- The path that a text means where a path of this URL stands. -/
def readPath (u : Url) (s : List Char) : Path :=
  let s := s.filter (fun c => !isIgnored c)
  match u.path with
  | .plain _ =>
      match s with
      | '/' :: rest =>
          .plain (String.ofList ("%2F".toList ++ Percent.encode Percent.inControls rest))
      | s => plainPath s
  | .segments _ =>
      match u.kind, s with
      | .other, '?' :: _ => .segments []
      | .other, '#' :: _ => .segments []
      | kind, s => .segments (pathAfterAuthority kind s)

def setPath (u : Url) (path : String) : Url :=
  { u with path := u.readPath path.toList }

end Url

end LinkHygiene
