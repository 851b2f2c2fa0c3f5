import JobGraph.Json.Draft
import JobGraph.Text.Utf8

/-!
# Percent-encoding

Bytes that may not stand in a part of an address are written as a percent sign and two
hexadecimal digits. Texts are encoded by their UTF-8 bytes.
-/

namespace JobGraph.Http

/-- A byte as a percent sign and two digits. -/
def escapeByte (b : UInt8) : List Char :=
  ['%', (Nat.digitChar (b.toNat / 16)).toUpper, (Nat.digitChar (b.toNat % 16)).toUpper]

/-- A character as it is, or when `p` holds of it, with all of its bytes escaped. -/
def escapeChar (p : Char → Bool) (c : Char) : List Char :=
  if p c then (String.utf8EncodeChar c).flatMap escapeByte else [c]

/-- A text with the characters escaped of which `p` holds. -/
def escape (p : Char → Bool) (cs : List Char) : List Char :=
  cs.flatMap (escapeChar p)

/-- The bytes of a text with its escapes resolved. A percent sign that starts no escape stands
for itself. -/
def unescape : List Char → List UInt8
  | '%' :: a :: b :: rest =>
    match Json.Draft.hexValue? a, Json.Draft.hexValue? b with
    | some high, some low => (high * 16 + low).toUInt8 :: unescape rest
    | _, _ => String.utf8EncodeChar '%' ++ unescape (a :: b :: rest)
  | c :: rest => String.utf8EncodeChar c ++ unescape rest
  | [] => []

/-- The text that stands behind a text with escapes. -/
def unescapeText (cs : List Char) : List Char :=
  Text.decodeUtf8 (unescape cs)

end JobGraph.Http
