import JobGraph.Decimal.Numeral
import JobGraph.Http.Percent
import JobGraph.Http.Punycode
import JobGraph.Text.Lowercase

/-!
# Hosts of URLs

The host of a URL is an address, a domain or, in a URL whose scheme is not known, any name. It
is brought into one form: addresses as numbers in their shortest form, domains in lowercase
ASCII.

Of the mapping of international names, UTS 46, a domain only goes through the lower-casing and the
encoding of labels. So the domains that are covered are those of ASCII in which no label begins
with `xn--`, and the others that the mapping leaves as they are and finds valid. Not covered are
domains with characters that it replaces otherwise or leaves out, such as full-width letters and
soft hyphens, and domains with labels that are encoded already, which it would decode and check.
-/

namespace JobGraph.Http

/-- Why a text is not a URL. -/
inductive UrlFault where
  /-- The text has no scheme. -/
  | relative
  | emptyHost
  | invalidDomain
  | invalidHostCharacter
  | invalidIpv4
  | invalidIpv6
  | invalidPort
deriving DecidableEq, Repr

/-- The message for a text that is not a URL. -/
def UrlFault.message : UrlFault → String
  | relative => "relative URL without a base"
  | emptyHost => "empty host"
  | invalidDomain => "invalid international domain name"
  | invalidHostCharacter => "invalid domain character"
  | invalidIpv4 => "invalid IPv4 address"
  | invalidIpv6 => "invalid IPv6 address"
  | invalidPort => "invalid port number"

namespace Host

/-! ### Addresses of four bytes -/

/-- The number that digits stand for, if they are digits of this base. -/
def numeral? (base : Nat) (cs : List Char) : Option Nat :=
  cs.foldl
    (fun value c => do
      let value ← value
      let digit ← Json.Draft.hexValue? c
      if digit < base then some (value * base + digit) else none)
    (some 0)

/-- The number of a part of an address: decimal, or octal or hexadecimal by its start. -/
def addressPart? : List Char → Option Nat
  | [] => none
  | '0' :: 'x' :: cs => numeral? 16 cs
  | '0' :: 'X' :: cs => numeral? 16 cs
  | '0' :: cs => numeral? 8 cs
  | cs => numeral? 10 cs

/-- The parts of a domain without an empty one at the end. -/
def parts (cs : List Char) : List (List Char) :=
  let parts := cs.splitOn '.'
  if parts.getLast? = some [] then parts.dropLast else parts

/-- Whether a domain is meant as an address, because its last part is a number. -/
def endsInNumber (cs : List Char) : Bool :=
  match (parts cs).getLast? with
  | none => false
  | some last => (!last.isEmpty && last.all Char.isDigit) || (addressPart? last).isSome

/-- The number of an address: all but the last part are bytes, and the last part has the
rest. -/
def ipv4? (cs : List Char) : Option Nat := do
  let parts := parts cs
  if 4 < parts.length then none
  let numbers ← parts.mapM addressPart?
  let last ← numbers.getLast?
  let bytes := numbers.dropLast
  if bytes.any (255 < ·) ∨ Nat.pow 256 (4 - bytes.length) ≤ last then none
  let high := bytes.foldl (fun value byte => value * 256 + byte) 0
  return high * Nat.pow 256 (4 - bytes.length) + last

/-- An address as four bytes. -/
def ipv4Text (address : Nat) : List Char :=
  (".".intercalate ([3, 2, 1, 0].map fun place =>
    toString (address / Nat.pow 256 place % 256))).toList

/-! ### Addresses of eight words -/

/-- A byte as it stands in an address of words. -/
def byte? (cs : List Char) : Option Nat :=
  if cs.isEmpty ∨ (1 < cs.length ∧ cs.head? = some '0') then none
  else (numeral? 10 cs).filter (· < 256)

/-- The words of a part of an address. The last part may be an address of four bytes. -/
def words? (last : Bool) (cs : List Char) : Option (List Nat) :=
  if last ∧ '.' ∈ cs then do
    match ← (cs.splitOn '.').mapM byte? with
    | [a, b, c, d] => some [a * 256 + b, c * 256 + d]
    | _ => none
  else if cs.isEmpty ∨ 4 < cs.length then none
  else (numeral? 16 cs).map fun word => [word]

/-- The words of parts between colons. -/
def wordsOf? (atEnd : Bool) : List (List Char) → Option (List Nat)
  | [] => some []
  | [part] => words? atEnd part
  | part :: parts => do
    let first ← words? false part
    let rest ← wordsOf? atEnd parts
    return first ++ rest

/-- The words of one side of an address, which is the end of it or not. -/
def side? (atEnd : Bool) (cs : List Char) : Option (List Nat) :=
  if cs.isEmpty then some [] else wordsOf? atEnd (cs.splitOn ':')

/-- A text split at its first two colons in a row. -/
def splitAtGap (before : List Char) : List Char → Option (List Char × List Char)
  | ':' :: ':' :: cs => some (before.reverse, cs)
  | c :: cs => splitAtGap (c :: before) cs
  | [] => none

/-- The eight words of an address, in which two colons stand for all words left out. -/
def ipv6? (cs : List Char) : Option (List Nat) :=
  match splitAtGap [] cs with
  | none => (side? true cs).filter (·.length = 8)
  | some (left, right) => do
    let left ← side? false left
    let right ← side? true right
    if left.length + right.length < 8 then
      some (left ++ List.replicate (8 - (left.length + right.length)) 0 ++ right)
    else none

/-- The length of the run of zeros that words start with. -/
def zeros (words : List Nat) : Nat :=
  (words.takeWhile (· = 0)).length

/-- The place and length of the longest run of zeros, the first one of several. -/
def longestGap : Nat → List Nat → Nat × Nat
  | _, [] => (0, 0)
  | place, word :: words =>
    let own := zeros (word :: words)
    let later := longestGap (place + 1) words
    if later.2 ≤ own then (place, own) else later

/-- The text of words between colons. -/
def wordsText (words : List Nat) : String :=
  ":".intercalate (words.map fun word => String.ofList (Nat.toDigits 16 word))

/-- An address of words, with the longest run of zeros left out. -/
def ipv6Text (words : List Nat) : List Char :=
  let (place, length) := longestGap 0 words
  (if length < 2 then wordsText words
    else wordsText (words.take place) ++ "::" ++ wordsText (words.drop (place + length))).toList

/-- The host of a text in brackets. -/
def bracketed (cs : List Char) : Except UrlFault (List Char) :=
  match cs.reverse with
  | ']' :: inner =>
    match ipv6? inner.reverse with
    | some words => .ok ('[' :: ipv6Text words ++ [']'])
    | none => .error .invalidIpv6
  | _ => .error .invalidIpv6

/-! ### Domains -/

/-- A character that may not stand in a domain. -/
def forbiddenInDomain (c : Char) : Bool :=
  c ≤ ' ' || c = '\x7f' || "%#/:<>?@[\\]^|".toList.contains c

/-- A domain in lowercase ASCII, if it is one of those that are covered. -/
def domain (cs : List Char) : Except UrlFault (List Char) :=
  match Text.ofUtf8? (unescape cs) with
  | none => .error .invalidDomain
  | some name =>
    let labels := (Text.lowercase name).toList.splitOn '.'
    let domain := ['.'].intercalate (labels.map Punycode.encode)
    if domain.any forbiddenInDomain then .error .invalidDomain
    else if domain.isEmpty then .error .emptyHost
    else if endsInNumber domain then
      match ipv4? domain with
      | some address => .ok (ipv4Text address)
      | none => .error .invalidIpv4
    else .ok domain

/-- The host of a URL whose scheme is known. -/
def ofSpecial : List Char → Except UrlFault (List Char)
  | [] => .error .emptyHost
  | '[' :: cs => bracketed cs
  | cs => domain cs

/-- A character that may not stand in a host of any kind. -/
def forbiddenInHost (c : Char) : Bool :=
  c = '\x00' || " #/:<>?@[\\]^|".toList.contains c

/-- The host of a URL whose scheme is not known. -/
def ofOther : List Char → Except UrlFault (List Char)
  | '[' :: cs => bracketed cs
  | cs =>
    if cs.any forbiddenInHost then .error .invalidHostCharacter
    else .ok (escape (fun c => c < ' ' || '~' < c) cs)

end Host

end JobGraph.Http
