/-! Characters beyond ASCII written with letters and digits. -/

namespace AuditStage.Url.Punycode

/-- The greatest number that reading or writing may come upon. -/
def limit : Nat :=
  Nat.pow 2 32 - 1

/-- The digit of a value below thirty-six. -/
def digit (value : Nat) : Char :=
  Char.ofNat (if value < 26 then 'a'.toNat + value else '0'.toNat + (value - 26))

/-- The value of a digit, whatever its case. -/
def digitValue? (c : Char) : Option Nat :=
  if 'a' ≤ c && c ≤ 'z' then some (c.toNat - 'a'.toNat)
  else if 'A' ≤ c && c ≤ 'Z' then some (c.toNat - 'A'.toNat)
  else if '0' ≤ c && c ≤ '9' then some (c.toNat - '0'.toNat + 26)
  else none

/-- The value below which a digit ends a number, by its place and the bias of the number. -/
def threshold (place bias : Nat) : Nat :=
  max 1 (min 26 (place - bias))

/-- How often a difference is divided until it is small, and what is left of it. -/
def shrink (difference : Nat) (place : Nat) : Nat × Nat :=
  if 455 < difference then shrink (difference / 35) (place + 36) else (difference, place)
  termination_by difference

/-- The bias for the number that follows a difference. -/
def adapt (difference count : Nat) (first : Bool) : Nat :=
  let start := if first then difference / 700 else difference / 2
  let (rest, place) := shrink (start + start / count) 0
  place + 36 * rest / (rest + 38)

/-- The digits of a number, the lowest first. -/
def digits (bias place number : Nat) : List Char :=
  let t := threshold place bias
  if number < t then [digit number]
  else digit (t + (number - t) % (36 - t)) :: digits bias (place + 36) ((number - t) / (36 - t))
  termination_by number
  decreasing_by
    have : 0 < threshold place bias := by unfold threshold; omega
    have : (number - threshold place bias) / (36 - threshold place bias) ≤
      number - threshold place bias := Nat.div_le_self _ _
    omega

/-- What has been written, and what the next number is counted from. -/
structure Writing where
  out : List Char
  difference : Nat
  bias : Nat
  /-- How many characters have been dealt with. -/
  done : Nat

/-- Passes one character on the way to the places of the character that is due. -/
def Writing.pass (basic due : Nat) (writing : Writing) (c : Char) : Writing :=
  if c.toNat < due then { writing with difference := writing.difference + 1 }
  else if c.toNat = due then
    { out := writing.out ++ digits writing.bias 36 writing.difference
      difference := 0
      bias := adapt writing.difference (writing.done + 1) (writing.done == basic)
      done := writing.done + 1 }
  else writing

/-- Writes all places of the characters that are due, in ascending order. -/
def writeDue (cs : List Char) (basic : Nat) : List Nat → Nat → Writing → Writing
  | [], _, writing => writing
  | due :: others, last, writing =>
    let skipped := (due - last) * (writing.done + 1)
    let start := { writing with difference := writing.difference + skipped }
    let writing := cs.foldl (Writing.pass basic due) start
    writeDue cs basic others (due + 1) { writing with difference := writing.difference + 1 }

/-- A text with ASCII characters in front and the places of all others behind the last dash. -/
def encode (cs : List Char) : List Char :=
  let basic := cs.filter fun c => c.toNat < 0x80
  let others := ((cs.filter fun c => 0x80 ≤ c.toNat).map Char.toNat).eraseDups.mergeSort
  let count := basic.length
  basic ++ (if basic.isEmpty then [] else ['-']) ++
    (writeDue cs count others 0x80 ⟨[], 0, 72, count⟩).out

/-- Reads one number and adds it to a sum; what is left of the text comes with it. -/
def readNumber (bias : Nat) : List Char → Nat → Nat → Nat → Option (Nat × List Char)
  | [], _, _, _ => none
  | c :: rest, place, weight, sum => do
    let value ← digitValue? c
    let sum := sum + value * weight
    let t := threshold place bias
    if limit < sum then none
    else if value < t then some (sum, rest)
    else if limit < weight * (36 - t) then none
    else readNumber bias rest (place + 36) (weight * (36 - t)) sum

/-- Puts the characters in whose places are written, one number after the other. -/
def readPlaces : Nat → List Char → Nat → Nat → Nat → List Char → Option (List Char)
  | 0, _, _, _, _, _ => none
  | _ + 1, [], _, _, _, out => some out
  | fuel + 1, cs, bias, code, place, out => do
    let (sum, rest) ← readNumber bias cs 36 1 place
    let count := out.length + 1
    let code := code + sum / count
    if !code.isValidChar then none
    else
      let bias := adapt (sum - place) count (place == 0)
      readPlaces fuel rest bias code (sum % count + 1)
        (out.insertIdx (sum % count) (Char.ofNat code))

/-- The text that was written with letters and digits only. -/
def decode (cs : List Char) : Option (List Char) :=
  let behind := (cs.reverse.takeWhile (· != '-')).reverse
  let basic := cs.take (cs.length - behind.length - 1)
  -- A dash with nothing before it parts nothing.
  let behind := if basic.isEmpty then cs else behind
  if basic.any fun c => 0x80 ≤ c.toNat then none
  else readPlaces (behind.length + 1) behind 72 0x80 0 basic

end AuditStage.Url.Punycode
