import AuditStage.Text.Combining
import AuditStage.Text.Unprintable

/-! Text quoted for a reader: what cannot be seen on its own is written as an escape. -/

namespace AuditStage.Text

/-- The digits of a number in base sixteen, lower case, at least one. -/
def hexDigits (n : Nat) : List Char :=
  Nat.toDigits 16 n

/-- One character as it stands in a quotation. -/
def quoteChar (c : Char) : List Char :=
  if c = '\x00' then ['\\', '0']
  else if c = '\t' then ['\\', 't']
  else if c = '\r' then ['\\', 'r']
  else if c = '\n' then ['\\', 'n']
  else if c = '"' then ['\\', '"']
  else if c = '\\' then ['\\', '\\']
  else if c.toNat < 0x7F && 0x20 ≤ c.toNat then [c]
  -- A mark that extends its neighbour would be drawn over it, so it is written by number.
  else if isCombining c || isUnprintable c then
    ['\\', 'u', '\x7b'] ++ hexDigits c.toNat ++ ['\x7d']
  else [c]

/-- A text between double quotes, with escapes for all that has no form of its own. -/
def quoted (text : String) : String :=
  String.ofList (['"'] ++ text.toList.flatMap quoteChar ++ ['"'])

end AuditStage.Text
