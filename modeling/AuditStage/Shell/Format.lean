import AuditStage.Shell.Number
import AuditStage.Text.Basic

/-! What a shell prints: escapes and formats. -/

namespace AuditStage.Shell

/-- The character of an octet. -/
def ofOctet (n : Nat) : Char :=
  Char.ofNat (n % 256)

/-- The octet that up to three octal digits spell, and the text behind them. -/
def readOctal (cs : List Char) : Char × List Char :=
  let digits := (cs.take 3).takeWhile (isDigitIn 8)
  (ofOctet (ofDigits 8 digits), cs.drop digits.length)

/-- The characters that stand for control characters behind a backslash. -/
def controls : List (Char × Char) :=
  [('\\', '\\'), ('a', '\x07'), ('b', '\x08'), ('e', '\x1b'), ('f', '\x0c'), ('n', '\n'),
   ('r', '\r'), ('t', '\t'), ('v', '\x0b')]

/-- What stands behind a backslash; a backslash that escapes nothing stands for itself. -/
def readEscape (cs : List Char) : Char × List Char :=
  match cs with
  | [] => ('\\', [])
  | c :: rest =>
    if isDigitIn 8 c then readOctal cs
    else
      match controls.lookup c with
      | some control => (control, rest)
      | none => ('\\', cs)

/-- A text with escapes, and whether it asks for an end of the output; the fuel bounds its
length. -/
def unescapeFrom : Nat → String → List Char → String × Bool
  | 0, text, _ => (text, false)
  | fuel + 1, text, cs =>
    match cs with
    | [] => (text, false)
    | '\\' :: 'c' :: _ => (text, true)
    -- A zero in front is not one of the three digits here.
    | '\\' :: '0' :: rest =>
      let (c, rest) := readOctal rest
      unescapeFrom fuel (text.push c) rest
    | '\\' :: rest =>
      let (c, rest) := readEscape rest
      unescapeFrom fuel (text.push c) rest
    | c :: rest => unescapeFrom fuel (text.push c) rest

/-- A text with escapes, and whether it asks for an end of the output. -/
def unescape (text : String) : String × Bool :=
  unescapeFrom (text.length + 1) "" text.toList

/-- What the command that prints its words prints. -/
def echoed (words : List String) : String :=
  let (lineEnd, words) :=
    match words with
    | "-n" :: rest => ("", rest)
    | words => ("\n", words)
  match unescape (" ".intercalate words) with
  | (text, true) => text
  | (text, false) => text ++ lineEnd

/-- How a value is laid out. -/
structure FieldLayout where
  left : Bool
  zero : Bool
  plus : Bool
  space : Bool
  alternate : Bool
  width : Nat
  precision : Option Nat
deriving Repr, DecidableEq

namespace FieldLayout

/-- A text filled up with blanks to the width asked for. -/
def pad (layout : FieldLayout) (text : String) : String :=
  let blanks := Text.repeated (layout.width - text.length) " "
  if layout.left then text ++ blanks else blanks ++ text

/-- A text behind a sign or mark, laid out; zeros may fill up the width between the two. -/
def signed (layout : FieldLayout) (zero : Bool) (lead text : String) : String :=
  let fills := zero && layout.zero && !layout.left
  let fill := if fills then layout.width - lead.length - text.length else 0
  layout.pad (lead ++ Text.repeated fill "0" ++ text)

/-- Digits behind a sign or mark, laid out. -/
def number (layout : FieldLayout) (lead digits : String) : String :=
  let digits := if layout.precision = some 0 && digits = "0" then "" else digits
  let digits := Text.repeated (layout.precision.getD 1 - digits.length) "0" ++ digits
  -- Zeros fill the width only where nothing else tells how many digits there are.
  layout.signed layout.precision.isNone lead digits

/-- The sign of a number. -/
def sign (layout : FieldLayout) (negative : Bool) : String :=
  if negative then "-" else if layout.plus then "+" else if layout.space then " " else ""

end FieldLayout

/-- Reads the flags of a layout. -/
def readFlags (layout : FieldLayout) : List Char → FieldLayout × List Char
  | '-' :: rest => readFlags { layout with left := true } rest
  | '0' :: rest => readFlags { layout with zero := true } rest
  | '+' :: rest => readFlags { layout with plus := true } rest
  | ' ' :: rest => readFlags { layout with space := true } rest
  | '#' :: rest => readFlags { layout with alternate := true } rest
  | cs => (layout, cs)

/-- What printing has come to. -/
structure Printing where
  text : String
  arguments : List String
  complaints : List String
  /-- Whether nothing more is to be printed. -/
  stopped : Bool
  /-- Whether the format itself is at fault. -/
  broken : Bool
  /-- Whether the format asked for an argument that was there. -/
  consumed : Bool
deriving Repr

namespace Printing

/-- Adds text. -/
def push (printing : Printing) (text : String) : Printing :=
  { printing with text := printing.text ++ text }

/-- The next argument, if there is one, and what is left. -/
def next (printing : Printing) : Option String × Printing :=
  match printing.arguments with
  | [] => (none, printing)
  | argument :: arguments => (some argument, { printing with arguments, consumed := true })

/-- Adds a complaint. -/
def complain (printing : Printing) (text : String) : Printing :=
  { printing with complaints := printing.complaints ++ [text] }

/-- Stops because of the format. -/
def fail (printing : Printing) (text : String) : Printing :=
  { printing.complain text with stopped := true, broken := true }

/-- Complains about an argument of which text is left that spells no number. -/
def checkRest (printing : Printing) (argument : String) (rest : List Char) : Printing :=
  if rest = [] then printing
  else if rest.length = argument.length then
    printing.complain (argument ++ ": expected numeric value")
  else printing.complain (argument ++ ": not completely converted")

/-- Complains about an argument that spells a number beyond the range of its kind. -/
def complainOfRange (printing : Printing) (argument : String) : Printing :=
  printing.complain (argument ++ ": Numerical result out of range")

/-- The number of the character behind a quotation mark. -/
def quotedNumber? (argument : String) : Option Nat :=
  match argument.toList with
  | '\x27' :: rest | '"' :: rest => some ((rest.head?.map Char.toNat).getD 0)
  | _ => none

/-- The integer of the next argument, with a sign or as a word without one. -/
def integer (withSign : Bool) (printing : Printing) : Int × Printing :=
  match printing.next with
  | (none, printing) => (0, printing)
  | (some argument, printing) =>
    match quotedNumber? argument with
    | some n => (n, printing)
    | none =>
      let (n, rest) := (readInteger readBasedNatural argument.toList).getD (0, argument.toList)
      let printing := printing.checkRest argument rest
      let nearest :=
        if withSign then nearestWord n
        else if -Int.pow 2 64 < n && n < Int.pow 2 64 then n % Int.pow 2 64
        else Int.pow 2 64 - 1
      let isFar := if withSign then !fitsWord n else n.natAbs ≥ Nat.pow 2 64
      if isFar && rest = [] then
        (nearest, printing.complainOfRange argument)
      else (nearest, printing)

end Printing

/-- The digits of a number in a base, as text. -/
def digitsIn (base n : Nat) : String :=
  String.ofList (Nat.toDigits base n)

/-- Prints one argument as a conversion asks for. -/
def convert (layout : FieldLayout) (conversion : Char) (printing : Printing) : Printing :=
  let cut := fun (text : String) =>
    String.ofList (text.toList.take (layout.precision.getD text.length))
  let unsigned := fun (lead : Nat → String) (digits : Nat → String) =>
    let (value, printing) := printing.integer false
    printing.push (layout.number (lead value.toNat) (digits value.toNat))
  match conversion with
  | 's' =>
    let (argument, printing) := printing.next
    printing.push (layout.pad (cut (argument.getD "")))
  | 'c' =>
    let (argument, printing) := printing.next
    printing.push (layout.pad (String.singleton ((argument.getD "").toList.headD '\x00')))
  | 'b' =>
    let (argument, printing) := printing.next
    let (text, stopped) := unescape (argument.getD "")
    { printing.push (layout.pad (cut text)) with stopped }
  | 'd' | 'i' =>
    let (value, printing) := printing.integer true
    printing.push (layout.number (layout.sign (value < 0)) (toString value.natAbs))
  | 'o' =>
    unsigned (fun _ => "") fun n =>
      let digits := digitsIn 8 n
      if layout.alternate && n != 0 && layout.precision.getD 0 ≤ digits.length then "0" ++ digits
      else digits
  | 'x' => unsigned (fun n => if layout.alternate && n != 0 then "0x" else "") (digitsIn 16)
  | 'X' =>
    unsigned (fun n => if layout.alternate && n != 0 then "0X" else "") fun n =>
      (digitsIn 16 n).toUpper
  | _ => unsigned (fun _ => "") toString

/-- The characters that may name a conversion. -/
def conversions : List Char :=
  "sbcdiouxX".toList

/-- A width or precision that stands in the format or is the next argument. -/
def readSize (cs : List Char) (printing : Printing) : Int × List Char × Printing :=
  match cs with
  | '*' :: rest =>
    let (size, printing) := printing.integer true
    (size, rest, printing)
  | cs => (ofDigits 10 (cs.takeWhile Char.isDigit), cs.dropWhile Char.isDigit, printing)

/-- The front of a text that another text is the end of. -/
def frontOf (cs rest : List Char) : String :=
  String.ofList (cs.take (cs.length - rest.length))

/-- Prints a format once; the fuel bounds its length. -/
def printOnce : Nat → List Char → Printing → Printing
  | 0, _, printing => printing
  | fuel + 1, cs, printing =>
    match cs with
    | [] => printing
    | '\\' :: rest =>
      let (c, rest) := readEscape rest
      printOnce fuel rest (printing.push (String.singleton c))
    | '%' :: '%' :: rest => printOnce fuel rest (printing.push "%")
    | '%' :: rest =>
      let (layout, rest) := readFlags ⟨false, false, false, false, false, 0, none⟩ rest
      let (width, rest, printing) := readSize rest printing
      let layout := { layout with width := width.natAbs, left := layout.left || width < 0 }
      let (precision, rest, printing) :=
        match rest with
        | '.' :: rest =>
          let (precision, rest, printing) := readSize rest printing
          (if precision < 0 then none else some precision.toNat, rest, printing)
        | rest => (none, rest, printing)
      match rest with
      | conversion :: rest =>
        if conversions.contains conversion then
          let printing := convert { layout with precision } conversion printing
          if printing.stopped then printing else printOnce fuel rest printing
        else printing.fail (frontOf cs rest ++ ": invalid directive")
      | [] => printing.fail "missing format character"
    | c :: rest => printOnce fuel rest (printing.push (String.singleton c))

/-- Prints a format as often as there are arguments for it; the fuel bounds the rounds. -/
def printAll : Nat → List Char → Printing → Printing
  | 0, _, printing => printing
  | fuel + 1, format, printing =>
    let printing := printOnce (format.length + 1) format printing
    if printing.stopped || printing.arguments = [] || !printing.consumed then printing
    else printAll fuel format printing

/-- What comes of printing a format with the given arguments. -/
def formatted (format : String) (arguments : List String) : Printing :=
  printAll (arguments.length + 1) format.toList ⟨"", arguments, [], false, false, false⟩

end AuditStage.Shell
