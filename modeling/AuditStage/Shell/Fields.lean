import AuditStage.Shell.Pattern

/-! What words come to: characters that remember their quotes, divided into fields. -/

namespace AuditStage.Shell

/-- A part of what a word has come to. -/
inductive Glyph where
  /-- A character: whether it only means itself, and whether it may divide fields. -/
  | char (c : Char) (quoted divides : Bool)
  /-- A trace of quotes, which make even an empty text a field. -/
  | quote
  /-- The start of an expansion: whether only its arguments are divided from each other. -/
  | expansion (whole : Bool)
  /-- The end of an argument among several. -/
  | cut
deriving Repr, DecidableEq

/-- The glyphs of a text. -/
def glyphsOf (text : String) (quoted divides : Bool) : List Glyph :=
  text.toList.map fun c => .char c quoted divides

/-- The text of glyphs. -/
def textOf (glyphs : List Glyph) : String :=
  glyphs.foldl (fun text glyph =>
    match glyph with
    | .char c _ _ => text.push c
    | _ => text) ""

/-- The characters of glyphs, and whether they only mean themselves. -/
def patternChars (glyphs : List Glyph) : List PatternChar :=
  glyphs.filterMap fun glyph =>
    match glyph with
    | .char c quoted _ => some (c, quoted)
    | _ => none

/-- Whether a character is a blank among the characters that divide fields. -/
def isDividingBlank (c : Char) : Bool :=
  c == ' ' || c == '\t' || c == '\n'

/-- Fields on their way: the finished ones, last first, and the glyphs of the next, last first. -/
structure Division where
  fields : List (List Glyph)
  current : List Glyph
  /-- Whether the expansion that is read has whole arguments. -/
  whole : Bool
  /-- Whether the expansion before it had. -/
  wholeBefore : Bool
  /-- Whether a blank has just ended a field: more blanks and one other divider belong to it. -/
  spaced : Bool
  /-- How many more fields there may be, if that is bounded; the last one takes all that is left. -/
  room : Option Nat
  /-- How much of the last field is kept if nothing but dividers follows. -/
  kept : Option Nat

namespace Division

/-- Ends the field, unless it is the last that there may be. -/
def close (division : Division) (glyph : Option Glyph) : Division :=
  match division.room with
  | some (room + 1) =>
    if room = 0 then
      { division with
        room := some 0, kept := some division.current.length
        current := glyph.toList ++ division.current }
    else
      { division with
        room := some room, fields := division.current.reverse :: division.fields, current := [] }
  | _ => { division with fields := division.current.reverse :: division.fields, current := [] }

/-- Takes a character that divides fields, blank or not. -/
def divide (division : Division) (blank : Bool) (glyph : Option Glyph) : Division :=
  if division.spaced then { division with spaced := blank }
  else
    -- Behind whole arguments every divider ends a field.
    let spaced := blank && !division.wholeBefore
    if spaced && division.current.isEmpty then division
    else { division.close glyph with spaced }

/-- Takes a character of the last field that there may be. -/
def pushLast (division : Division) (glyph : Glyph) (divider blank : Bool) : Division :=
  let kept :=
    if blank then division.kept.or (some division.current.length)
    else if divider && division.spaced then division.kept
    else none
  { division with kept, spaced := division.spaced && blank, current := glyph :: division.current }

/-- Takes one glyph after the other. -/
def step (dividers : List Char) (division : Division) : Glyph → Division
  | .expansion whole =>
    { division with whole, wholeBefore := division.whole, spaced := false }
  | .cut => if division.whole then division.close none else division.divide true none
  | .char c quoted divides =>
    let glyph := Glyph.char c quoted divides
    let divider := divides && dividers.contains c
    let blank := divider && isDividingBlank c
    if divides && division.room = some 0 then division.pushLast glyph divider blank
    else if divider then division.divide blank (some glyph)
    else { division with current := glyph :: division.current, spaced := false }
  | .quote => { division with current := .quote :: division.current, spaced := false }

end Division

/-- The fields that glyphs are divided into by the given characters, no more than there is room for
if that is bounded. -/
def divided (dividers : List Char) (room : Option Nat) (glyphs : List Glyph) : List (List Glyph) :=
  let start : Division := ⟨[], [], false, false, false, room, none⟩
  let division := glyphs.foldl (Division.step dividers) start
  let last := division.current.reverse
  let last := last.take (division.kept.getD last.length)
  -- The last of several whole arguments is a field even if it is empty.
  let fields := if division.whole || !last.isEmpty then last :: division.fields else division.fields
  fields.reverse

/-- A line shared out among a number of names: the last one takes all that is left.  What is read is
divided piece by piece, and a character behind a backslash lies between two pieces. -/
def shares (dividers : List Char) (count : Nat) (pieces : List (List Char × Option Char)) :
    List String :=
  let glyphs := pieces.flatMap fun (cs, kept) =>
    .expansion false :: cs.map (.char · false true) ++ kept.toList.map (.char · true false)
  let fields := (divided dividers (some count) glyphs).map textOf
  fields ++ List.replicate (count - fields.length) ""

end AuditStage.Shell
