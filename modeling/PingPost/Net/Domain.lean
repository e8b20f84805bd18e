import PingPost.Net.Name
import PingPost.Net.Address

/-!
Host names.

A domain is a name in its ASCII form. Characters that have a meaning in URLs are refused. A domain
whose last label is a number is a version 4 address with parts in decimal, octal or hexadecimal.
-/

namespace PingPost.Net

open Text (hexValue? digitsIn)

/-- Why a text is no URL. -/
inductive UrlError where
  | relative
  | emptyHost
  | internationalName
  | port
  | v4Address
  | v6Address
  | domainCharacter
  deriving DecidableEq, Repr

/-- Wording of an error. -/
def UrlError.message : UrlError → String
  | .relative => "relative URL without a base"
  | .emptyHost => "empty host"
  | .internationalName => "invalid international domain name"
  | .port => "invalid port number"
  | .v4Address => "invalid IPv4 address"
  | .v6Address => "invalid IPv6 address"
  | .domainCharacter => "invalid domain character"

/-- Characters that no host may hold. -/
def isForbiddenInHost (c : Char) : Bool :=
  c.toNat == 0 || "\t\n\r #/:<>?@[\\]^|".toList.contains c

/-- Characters that no domain may hold. -/
def isForbiddenInDomain (c : Char) : Bool :=
  isForbiddenInHost c || c.toNat < 32 || c == '%' || c.toNat == 127

/-- A domain in ASCII. -/
def asciiDomain? (cs : List Char) : Option (List Char) := do
  let domain ← asciiName? cs
  if domain.any isForbiddenInDomain then none else some domain

/-- A part of a version 4 address: hexadecimal after `0x`, octal after `0`, else decimal. -/
def addressPart? (cs : List Char) : Option Nat :=
  let inBase (base : Nat) (ds : List Char) : Option Nat := do
    let values ← ds.mapM hexValue?
    if values.all (· < base) then some (digitsIn base values) else none
  match cs with
  | [] => none
  | '0' :: 'x' :: ds => inBase 16 ds
  | '0' :: 'X' :: ds => inBase 16 ds
  | '0' :: d :: ds => inBase 8 (d :: ds)
  | ds => inBase 10 ds

/-- The labels without an empty one at the end. -/
def lastLabels (domain : List Char) : List (List Char) :=
  let labels := domain.splitOn '.'
  if labels.getLast? = some [] then labels.dropLast else labels

/-- Whether the last label is a number. -/
def endsInNumber (domain : List Char) : Bool :=
  match (lastLabels domain).getLast? with
  | none => false
  | some label => (!label.isEmpty && label.all Char.isDigit) || (addressPart? label).isSome

/-- A version 4 address in one to four parts; the last part fills the remaining bytes. -/
def hostAddress? (domain : List Char) : Option (List Nat) := do
  let labels := lastLabels domain
  if 4 < labels.length then none
  else
    let parts ← labels.mapM addressPart?
    let last ← parts.getLast?
    let front := parts.dropLast
    if front.any (255 < ·) ∨ Nat.pow 256 (4 - front.length) ≤ last then none
    else
      let n := front.foldr (fun p acc => p * Nat.pow 2 24 + acc / 256) 0
      let value := n + last
      some [value / Nat.pow 2 24, value / Nat.pow 2 16 % 256, value / 256 % 256, value % 256]

/-- UTF-8 bytes after percent escapes are replaced by the bytes they stand for. -/
def percentDecode : List Nat → List Nat
  | 0x25 :: a :: b :: rest =>
    match hexValue? (Char.ofNat a), hexValue? (Char.ofNat b) with
    | some x, some y => (16 * x + y) :: percentDecode rest
    | _, _ => 0x25 :: percentDecode (a :: b :: rest)
  | c :: rest => c :: percentDecode rest
  | [] => []

/-- UTF-8 bytes of a text. -/
def utf8 (cs : List Char) : List Nat := (String.ofList cs).toUTF8.toList.map UInt8.toNat

/-- The text of UTF-8 bytes. -/
def ofUtf8? (bytes : List Nat) : Option (List Char) :=
  (String.fromUTF8? (ByteArray.mk (bytes.map UInt8.ofNat).toArray)).map String.toList

/-- The host of a URL whose scheme has one, in its written form. -/
def host? (cs : List Char) : Except UrlError (List Char) :=
  match cs with
  | '[' :: rest =>
    if rest.getLast? = some ']' then
      match v6? rest.dropLast with
      | some gs => .ok ('[' :: (compressedText gs).toList ++ [']'])
      | none => .error .v6Address
    else .error .v6Address
  | _ =>
    match (ofUtf8? (percentDecode (utf8 cs))).bind asciiDomain? with
    | none => .error .internationalName
    | some [] => .error .emptyHost
    | some domain =>
      if endsInNumber domain then
        match hostAddress? domain with
        | some bytes => .ok (bytesText bytes).toList
        | none => .error .v4Address
      else .ok domain

end PingPost.Net
