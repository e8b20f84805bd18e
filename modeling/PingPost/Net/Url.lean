import PingPost.Net.Domain

/-!
Absolute URLs.

`Url.parse?` splits a text into its parts and brings each into its written form: the scheme in
small letters, the host in ASCII, the default port left out, dot segments resolved, and the
characters that may not stand in a part percent-encoded. `Url.text` joins the parts again.
-/

namespace PingPost.Net

/-- The kinds of scheme: those with a known default port, files, and all others. -/
inductive SchemeKind where
  | special
  | file
  | other
  deriving DecidableEq, Repr

/-- The kind of a scheme. -/
def SchemeKind.ofScheme (scheme : String) : SchemeKind :=
  if ["http", "https", "ws", "wss", "ftp"].contains scheme then .special
  else if scheme = "file" then .file
  else .other

/-- Whether the parts follow the rules of the web schemes. -/
def SchemeKind.isSpecial : SchemeKind → Bool
  | .other => false
  | _ => true

/-- Port of a scheme when none is written. -/
def defaultPort? (scheme : String) : Option Nat :=
  match scheme with
  | "http" | "ws" => some 80
  | "https" | "wss" => some 443
  | "ftp" => some 21
  | _ => none

/-- A URL in its written form. -/
structure Url where
  scheme : String
  rest : String
  deriving DecidableEq, Repr

namespace Url

/-- The parts of a URL where percent-encoding differs. -/
inductive Part where
  | userInfo
  | path
  | query (special : Bool)
  | fragment
  | plain
  deriving DecidableEq, Repr

/-- The printing ASCII characters that a part may not hold. -/
def Part.reserved : Part → List Char
  | .plain => []
  | .fragment => " \"<>`".toList
  | .path => " \"<>`#?\x7b\x7d".toList
  | .userInfo => " \"<>`#?\x7b\x7d/:;=@[\\]^|".toList
  | .query special => (if special then " \"#<>'" else " \"#<>").toList

/-- A byte as a percent escape. -/
def escapeByte (n : Nat) : List Char :=
  let digit (d : Nat) : Char := if d < 10 then Char.ofNat (48 + d) else Char.ofNat (55 + d)
  ['%', digit (n / 16), digit (n % 16)]

/-- A character in a part. -/
def encodeChar (part : Part) (c : Char) : List Char :=
  if c.toNat < 32 ∨ 127 ≤ c.toNat ∨ part.reserved.contains c then (utf8 [c]).flatMap escapeByte
  else [c]

/-- Whether a character ends the authority. -/
def endsAuthority (kind : SchemeKind) (c : Char) : Bool :=
  c == '/' || c == '?' || c == '#' || (c == '\\' && kind.isSpecial)

/-- User name and password in written form, with the sign that ends them, and the rest. -/
def userInfo? (kind : SchemeKind) (cs : List Char) : Except UrlError (List Char × List Char) :=
  let authority := cs.takeWhile fun c => !endsAuthority kind c
  match Text.splitLast? '@' authority with
  | none => .ok ([], cs)
  | some (info, after) =>
    let rest := cs.drop (info.length + 1)
    if info.isEmpty then
      if after.isEmpty ∧ !rest.isEmpty then .error .emptyHost else .ok ([], rest)
    else
      let (name, password) := match Text.splitFirst? ':' info with
        | some (name, password) => (name, password)
        | none => (info, [])
      let encode := List.flatMap (encodeChar .userInfo)
      let colon := if password.isEmpty then [] else ':' :: encode password
      if name.isEmpty ∧ password.isEmpty then .ok ([], rest)
      else .ok (encode name ++ colon ++ ['@'], rest)

/-- The characters of the host: up to a colon outside brackets or the end of the authority. -/
def hostSpan (kind : SchemeKind) (bracketed : Bool) : List Char → List Char × List Char
  | [] => ([], [])
  | c :: cs =>
    if (c = ':' ∧ !bracketed) ∨ endsAuthority kind c then ([], c :: cs)
    else
      let inside := if c = '[' then true else if c = ']' then false else bracketed
      let (host, rest) := hostSpan kind inside cs
      (c :: host, rest)

/-- A host of a scheme without rules of its own. -/
def plainHost? (cs : List Char) : Except UrlError (List Char) :=
  match cs with
  | '[' :: _ => host? cs
  | _ =>
    if cs.any isForbiddenInHost then .error .domainCharacter
    else .ok (cs.flatMap (encodeChar .plain))

/-- A port, and the rest. -/
def port? (kind : SchemeKind) (scheme : String) (cs : List Char) :
    Except UrlError (List Char × List Char) :=
  match cs with
  | ':' :: cs =>
    let (ds, rest) := Text.takeDigits cs
    let n := Text.digitsValue ds
    let ends := match rest with
      | [] => true
      | c :: _ => endsAuthority kind c || c == '\\'
    if 65535 < n ∨ !ends then .error .port
    else if ds.isEmpty ∨ defaultPort? scheme = some n then .ok ([], rest)
    else .ok (':' :: (toString n).toList, rest)
  | _ => .ok ([], cs)

/-- Whether a segment means the current place. -/
def isDot (segment : List Char) : Bool :=
  segment == ['.'] || segment.map Text.asciiLower == "%2e".toList

/-- Whether a segment means one place up. -/
def isDoubleDot (segment : List Char) : Bool :=
  [['.', '.'], "%2e.".toList, ".%2e".toList, "%2e%2e".toList].contains
    (segment.map Text.asciiLower)

/-- Whether a segment names a drive: a letter with a colon or a bar. -/
def isDrive : List Char → Bool
  | [c, d] => c.isAlpha && (d == ':' || d == '|')
  | _ => false

/-- The segments one place up, last one first: a drive is never left. -/
def placeUp : List (List Char) → List (List Char)
  | [] => []
  | s :: done => if isDrive s then s :: done else done

/-- Resolves dot segments. The first argument holds the segments so far, last one first. -/
def resolve : List (List Char) → List (List Char) → List (List Char)
  | done, [] => done.reverse
  | done, [s] =>
    if isDoubleDot s then ([] :: placeUp done).reverse
    else if isDot s then ([] :: done).reverse
    else (s :: done).reverse
  | done, s :: t :: rest =>
    if isDoubleDot s then resolve (placeUp done) (t :: rest)
    else if isDot s then resolve done (t :: rest)
    else resolve (s :: done) (t :: rest)

/-- The path in written form. -/
def pathText (kind : SchemeKind) (path : List Char) : List Char :=
  let isSlash (c : Char) : Bool := c == '/' || (c == '\\' && kind.isSpecial)
  let body := match path with
    | c :: cs => if isSlash c then cs else c :: cs
    | [] => []
  if path.isEmpty && !kind.isSpecial then []
  else
    let segments := (body.splitOnP isSlash).map (List.flatMap (encodeChar .path))
    (resolve [] segments).flatMap ('/' :: ·)

/-- Query and fragment in written form. -/
def tailText (kind : SchemeKind) (cs : List Char) : List Char :=
  let (query, fragment) := match Text.splitFirst? '#' cs with
    | some (q, f) => (q, '#' :: f.flatMap (encodeChar .fragment))
    | none => (cs, [])
  match query with
  | '?' :: q => '?' :: q.flatMap (encodeChar (.query kind.isSpecial)) ++ fragment
  | _ => fragment

/-- Path, query and fragment in written form. -/
def afterAuthority (kind : SchemeKind) (cs : List Char) : List Char :=
  let isPath (c : Char) : Bool := !(c == '?' || c == '#')
  pathText kind (cs.takeWhile isPath) ++ tailText kind (cs.dropWhile isPath)

/-- Everything behind the two slashes. -/
def withAuthority? (kind : SchemeKind) (scheme : String) (cs : List Char) :
    Except UrlError (List Char) := do
  let (info, cs) ← userInfo? kind cs
  let (written, cs) := hostSpan kind false cs
  if kind.isSpecial && written.isEmpty then throw .emptyHost
  let host ← if kind.isSpecial then host? written else plainHost? written
  if host.isEmpty && (cs.head? == some ':' || !info.isEmpty) then throw .emptyHost
  let (port, cs) ← port? kind scheme cs
  return "//".toList ++ info ++ host ++ port ++ afterAuthority kind cs

/-- The host of a file URL may be missing; one that is a drive letter belongs to the path. -/
def fileRest? (cs : List Char) : Except UrlError (List Char) := do
  let isSlash (c : Char) : Bool := c == '/' || c == '\\'
  match cs with
  | a :: b :: rest =>
    if isSlash a && isSlash b then
      let written := rest.takeWhile fun c => !(isSlash c || c == '?' || c == '#')
      let after := rest.drop written.length
      if isDrive written then return "//".toList ++ afterAuthority .file ('/' :: rest)
      if written.isEmpty then return "//".toList ++ afterAuthority .file after
      let host ← host? written
      let host := if host = "localhost".toList then [] else host
      return "//".toList ++ host ++ afterAuthority .file after
    else return "//".toList ++ afterAuthority .file cs
  | _ => return "//".toList ++ afterAuthority .file cs

/-- The scheme in small letters and the rest behind its colon. -/
def scheme? (cs : List Char) : Option (String × List Char) :=
  let isSchemeChar (c : Char) : Bool := c.isAlphanum || c == '+' || c == '-' || c == '.'
  let name := cs.takeWhile isSchemeChar
  match name, cs.drop name.length with
  | c :: _, ':' :: rest =>
    if c.isAlpha then some (String.ofList (name.map Text.asciiLower), rest) else none
  | _, _ => none

/-- Drops control characters and spaces at both ends, and tabs and line breaks everywhere. -/
def cleanInput (s : String) : List Char :=
  let isEdge (c : Char) : Bool := c.toNat ≤ 32
  let cs := ((s.toList.dropWhile isEdge).reverse.dropWhile isEdge).reverse
  cs.filter fun c => !(c == '\t' || c == '\n' || c == '\r')

/-- Reads an absolute URL. -/
def parse? (s : String) : Except UrlError Url :=
  match scheme? (cleanInput s) with
  | none => .error .relative
  | some (scheme, cs) =>
    let rest := match SchemeKind.ofScheme scheme with
      | .special => withAuthority? .special scheme (cs.dropWhile fun c => c == '/' || c == '\\')
      | .file => fileRest? cs
      | .other =>
        match cs with
        | '/' :: '/' :: cs => withAuthority? .other scheme cs
        | '/' :: _ => .ok (afterAuthority .other cs)
        | _ =>
          let isPath (c : Char) : Bool := !(c == '?' || c == '#')
          .ok ((cs.takeWhile isPath).flatMap (encodeChar .plain) ++
            tailText .other (cs.dropWhile isPath))
    rest.map fun r => ⟨scheme, String.ofList r⟩

/-- Written form of a URL. -/
def text (u : Url) : String := u.scheme ++ ":" ++ u.rest

end Url

end PingPost.Net
