import AuditStage.Text.Direction
import AuditStage.Text.Joining
import AuditStage.Text.Normal
import AuditStage.Text.Unprintable
import AuditStage.Url.DomainTable
import AuditStage.Url.Punycode

/-! Domains beyond ASCII: their plain form, their labels, and how ASCII writes them. -/

namespace AuditStage.Url.Domain

/-- Whether a character is an ASCII one. -/
def isAscii (c : Char) : Bool :=
  c.toNat < 0x80

/-- Whether a character joins or parts its neighbours without being seen. -/
def isJoiner (c : Char) : Bool :=
  c.toNat = 0x200C || c.toNat = 0x200D

/-- Whether a domain may not hold a character; of ASCII, others decide. -/
def isRefused (c : Char) : Bool :=
  !isAscii c && !isJoiner c && (Text.isUnprintable c || Text.inRanges refusedRanges c)

/-- What stands in a domain in the place of a character without parts, if anything may. -/
def plainChar? (c : Char) : Option (List Char) :=
  match plainTable[c.toNat]? with
  | some image => some image
  | none =>
    if Text.inRanges ignoredRanges c then some []
    else if isRefused c then none
    else some [c]

/-- The plain form of a domain or of a part of it, if it has one. -/
def plain? (cs : List Char) : Option (List Char) := do
  -- Parts are replaced one by one, in the order in which they were written.
  let images ← (cs.flatMap Text.parts).mapM plainChar?
  some (Text.normal images.flatten)

/-- How many characters beyond ASCII a label may be written with. -/
def encodedLimit : Nat :=
  2000

/-- How many characters a label beyond ASCII may have. -/
def labelLimit : Nat :=
  1000

/-- The characters that announce a label that is written in ASCII for others. -/
def announcement : List Char :=
  "xn--".toList

/-- The label that a label in plain form stands for, if it stands for one. -/
def meant? (label : List Char) : Option (List Char) :=
  if !announcement.isPrefixOf label then some label
  else do
    let code := label.drop announcement.length
    let meant ← if encodedLimit < code.length then none else Punycode.decode code
    -- What can be written as it is, or is not in plain form, has no other writing.
    if meant.all isAscii || announcement.isPrefixOf meant || plain? meant ≠ some meant then none
    else some meant

/-- Whether the first character that is no mark joins on one of the given sides. -/
def joinsOn (sides : List Text.Joining) (cs : List Char) : Bool :=
  match cs.dropWhile Text.isTransparent with
  | [] => false
  | c :: _ => (Text.joining? c).any sides.contains

/-- Whether every joiner stands where it makes a difference; what is before comes in reverse. -/
def joinersFit (before : List Char) : List Char → Bool
  | [] => true
  | c :: rest =>
    let joined := before.head?.any fun mark => Text.combiningClass mark = Text.joiningMarkClass
    let parts := c.toNat = 0x200C && !before.isEmpty && joinsOn [.left, .dual] before &&
      joinsOn [.right, .dual] rest
    (!isJoiner c || joined || parts) && joinersFit (c :: before) rest

/-- Whether a label is well formed in itself. -/
def isWellFormed (label : List Char) : Bool :=
  label.all isAscii ||
    (!label.head?.any Text.isMark && joinersFit [] label && label.length ≤ labelLimit)

/-- Whether the directions in a label go together, in a domain that is not written one way only. -/
def directionsFit (label : List Char) : Bool :=
  match label.map Text.direction with
  | [] => true
  | first :: others =>
    let inner := ((others.reverse.dropWhile (· == .mark)).reverse)
    let last := inner.getLast?.getD first
    if first = .leftToRight then
      (last == .leftToRight || last == .europeanNumber) &&
        inner.all fun d => d != .rightToLeft && d != .arabicNumber
    else if first = .rightToLeft then
      [.rightToLeft, .europeanNumber, .arabicNumber].contains last &&
        inner.all (· != .leftToRight) &&
        !(inner.contains .europeanNumber && inner.contains .arabicNumber)
    else false

/-- Whether a label is written from right to left, at least in part. -/
def isRightToLeft (label : List Char) : Bool :=
  label.any fun c => !isAscii c &&
    (Text.direction c == .rightToLeft || Text.direction c == .arabicNumber)

/-- A label in ASCII. -/
def encodeLabel (label : List Char) : List Char :=
  if label.all isAscii then label else announcement ++ Punycode.encode label

/-- The domain that a text names, in ASCII. -/
def toAscii (cs : List Char) : Option (List Char) := do
  let domain ← plain? cs
  let labels ← (domain.splitOn '.').mapM meant?
  if !labels.all isWellFormed then none
  else if labels.any isRightToLeft && !labels.all directionsFit then none
  else some (['.'].intercalate (labels.map encodeLabel))

end AuditStage.Url.Domain
