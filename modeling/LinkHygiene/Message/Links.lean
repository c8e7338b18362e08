import LinkHygiene.Pattern.Basic

/-!
# Links in texts

The web links that a text holds: a scheme, a host, perhaps a port and a path. A
link ends at the first character that cannot belong to it.
-/

namespace LinkHygiene

namespace Message

open Pattern (Node)

def hostChars : CharSet :=
  .ofList [.uppers, .lowers, .digits, .ofChars ['_', '-', '.']]

def pathChars : CharSet :=
  .ofList [.uppers, .lowers, .digits,
    .ofChars ['_', '-', '.', '/', '[', ']', '?', '%', '&', '=', '+', '#', ',', ';', '@', '~']]

def charNode (c : Char) : Node :=
  .one (.one c)

/-- The characters of a text, and then something else. -/
def textThen (text : List Char) (next : Node) : Node :=
  text.foldr (fun c node => .seq (charNode c) node) next

def portNode : Node :=
  .seq (charNode ':') (.run .digits 1 none true)

def pathNode : Node :=
  .seq (charNode '/') (.run pathChars 0 none true)

def linkNode : Node :=
  textThen "http".toList
    (.seq (.run (.one 's') 0 (some 1) true)
      (textThen "://".toList
        (.seq (.run hostChars 1 none true)
          (.seq (.loop portNode 0 (some 1) true)
            (.loop pathNode 0 (some 1) true)))))

def linkPattern : Pattern :=
  { source :=
      "https?://[A-Za-z0-9_\\-.]+(?::[0-9]+)?(?:/[A-Za-z0-9_\\-./\\[\\]?%&=+#,;@~]*)?"
    node := linkNode
    names := [] }

def extractLinks (text : String) : List String :=
  (linkPattern.findAll text.toList).map String.ofList

end Message

end LinkHygiene
