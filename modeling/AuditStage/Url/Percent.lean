import AuditStage.Text.Utf8

/-! Octets written as a percent sign and two digits, where a character may not stand for itself. -/

namespace AuditStage.Url

/-- The upper-case hexadecimal digit of a number below sixteen. -/
def upperHex (n : Nat) : Char :=
  Char.ofNat (if n < 10 then '0'.toNat + n else 'A'.toNat + (n - 10))

/-- An octet as a percent sign and its two digits. -/
def percentOctet (octet : Nat) : List Char :=
  ['%', upperHex (octet / 16), upperHex (octet % 16)]

/-- One character, octet by octet where it has to be escaped. -/
def percentChar (escaped : Char → Bool) (c : Char) : List Char :=
  if escaped c then (Text.octets c).flatMap percentOctet else [c]

/-- A text with some characters escaped. -/
def percentEncode (escaped : Char → Bool) (cs : List Char) : List Char :=
  cs.flatMap (percentChar escaped)

/-- The value of a hexadecimal digit. -/
def hexDigit? (c : Char) : Option Nat :=
  if '0' ≤ c && c ≤ '9' then some (c.toNat - '0'.toNat)
  else if 'a' ≤ c && c ≤ 'f' then some (c.toNat - 'a'.toNat + 10)
  else if 'A' ≤ c && c ≤ 'F' then some (c.toNat - 'A'.toNat + 10)
  else none

/-- The octets that a text stands for; a percent sign without two digits stands for itself. -/
def percentDecode : List Char → List Nat
  | '%' :: a :: b :: rest =>
    match hexDigit? a, hexDigit? b with
    | some high, some low => (high * 16 + low) :: percentDecode rest
    | _, _ => '%'.toNat :: percentDecode (a :: b :: rest)
  | c :: rest => Text.octets c ++ percentDecode rest
  | [] => []

end AuditStage.Url
