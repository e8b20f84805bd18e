import PingPost.Pattern.Removal
import PingPost.Json.Value
import PingPost.Text.Blank

/-!
Sanitising: texts lose script blocks, markup, script addresses and event handlers before they are
sent to a buyer.
-/

namespace PingPost.Sanitize

open Pattern

/-- Names of the elements that are dropped with what they enclose. -/
def blockNames : Pattern :=
  oneOf (["script", "style", "iframe", "object", "embed"].map (word true))

/-- Any characters but the end of a tag. -/
def insideTag : Pattern := zeroOrMore (.set (CharSet.one '>').compl)

/-- A run of blanks, or none. -/
def blanks : Pattern := zeroOrMore (.set Text.PropertyRule.whiteSpace.set)

/-- An ASCII letter. -/
def letter : CharSet := ⟨[(65, 90), (97, 122)]⟩

/-- A dropped element, from its opening tag to the next closing tag of a dropped element. -/
def block : Pattern :=
  sequence [word false "<", blockNames, .anchor (.boundary false), insideTag, word false ">",
    .times (.set .all) 0 none false, word false "</", blockNames, blanks, word false ">"]

/-- A tag. -/
def tag : Pattern :=
  sequence [word false "<", optional (word false "/"), .set letter, insideTag, word false ">"]

/-- The scheme of an address that runs a script. -/
def scriptAddress : Pattern :=
  sequence [oneOf [word true "javascript", word true "vbscript"], blanks, word false ":"]

/-- The beginning of an event handler. -/
def handler : Pattern :=
  sequence [.anchor (.boundary false), word true "on",
    oneOrMore (.set (CharSet.range 97 122).anyCase), blanks,
    word false "="]

/-- What is removed, one after the other. -/
def removed : List Pattern := [block, tag, scriptAddress, handler]

/-- A text without what is removed, and without blanks at its ends. -/
def text (s : String) : String := Text.trim (removed.foldl (fun s p => p.removeAll s) s)

mutual

/-- A value whose texts are sanitised. -/
def value : Json → Json
  | .text s => .text (text s)
  | .list items => .list (valueItems items)
  | .object fields => .object (valueFields fields)
  | v => v

/-- Items whose texts are sanitised. -/
def valueItems : List Json → List Json
  | [] => []
  | v :: vs => value v :: valueItems vs

/-- Fields whose values are sanitised. -/
def valueFields : List (String × Json) → List (String × Json)
  | [] => []
  | (k, v) :: rest => (k, value v) :: valueFields rest

end

end PingPost.Sanitize
