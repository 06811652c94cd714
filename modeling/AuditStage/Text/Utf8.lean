/-! Text as octets: how many it takes, which they are, and text read from octets of any kind. -/

namespace AuditStage.Text

/-- The octets of one character in UTF-8. -/
def octets (c : Char) : List Nat :=
  let n := c.toNat
  if n < 0x80 then [n]
  else if n < 0x800 then [0xC0 + n / 0x40, 0x80 + n % 0x40]
  else if n < 0x10000 then [0xE0 + n / 0x1000, 0x80 + n / 0x40 % 0x40, 0x80 + n % 0x40]
  else [0xF0 + n / 0x40000, 0x80 + n / 0x1000 % 0x40, 0x80 + n / 0x40 % 0x40, 0x80 + n % 0x40]

/-- The octets of a text in UTF-8. -/
def encodeUtf8 (cs : List Char) : List Nat :=
  cs.flatMap octets

/-- How many octets a text takes in UTF-8. -/
def octetCount (cs : List Char) : Nat :=
  (encodeUtf8 cs).length

/-- How many continuation octets a lead octet asks for, and which values its first one may have. -/
def leadOctet? (lead : Nat) : Option (Nat × Nat × Nat) :=
  -- The bounds on the first continuation octet rule out surrogates and over-long forms.
  if 0xC2 ≤ lead && lead ≤ 0xDF then some (1, 0x80, 0xBF)
  else if lead = 0xE0 then some (2, 0xA0, 0xBF)
  else if lead = 0xED then some (2, 0x80, 0x9F)
  else if 0xE1 ≤ lead && lead ≤ 0xEF then some (2, 0x80, 0xBF)
  else if lead = 0xF0 then some (3, 0x90, 0xBF)
  else if 0xF1 ≤ lead && lead ≤ 0xF3 then some (3, 0x80, 0xBF)
  else if lead = 0xF4 then some (3, 0x80, 0x8F)
  else none

/-- The continuation octets at the front, as many as are wanted and well-formed. -/
def continuation : Nat → Nat → Nat → List Nat → List Nat
  | 0, _, _, _ => []
  | wanted + 1, low, high, octet :: rest =>
    if low ≤ octet && octet ≤ high then octet :: continuation wanted 0x80 0xBF rest else []
  | _, _, _, [] => []

/-- Text read from octets, with one replacement character for each ill-formed run. -/
def decodeUtf8Lossy (octets : List Nat) : List Char :=
  match octets with
  | [] => []
  | lead :: rest =>
    if lead < 0x80 then Char.ofNat lead :: decodeUtf8Lossy rest
    else
      match leadOctet? lead with
      | none => '\uFFFD' :: decodeUtf8Lossy rest
      | some (wanted, low, high) =>
        let tail := continuation wanted low high rest
        let decoded :=
          if tail.length = wanted then
            let first :=
              if wanted = 1 then lead - 0xC0 else if wanted = 2 then lead - 0xE0 else lead - 0xF0
            Char.ofNat (tail.foldl (fun n octet => n * 0x40 + (octet - 0x80)) first)
          else '\uFFFD'
        decoded :: decodeUtf8Lossy (rest.drop tail.length)
  termination_by octets.length

/-- Whether octets are the octets of a text. -/
def isUtf8 (octets : List Nat) : Bool :=
  encodeUtf8 (decodeUtf8Lossy octets) == octets

end AuditStage.Text
