import AuditStage.Text.Utf8
import Mathlib.Data.List.Basic

/-! Text as octets in UTF-8: what is read from the octets of a text is that text. -/

namespace AuditStage.Text

variable {wanted low high lead n : Nat}

/-- A lead octet and the octets that it asks for are read as one character. -/
theorem decodeUtf8Lossy_lead (tail : List Nat) (several : 0x80 ≤ lead)
    (asks : leadOctet? lead = some (tail.length, low, high)) (rest : List Nat)
    (follows : continuation tail.length low high (tail ++ rest) = tail) :
    decodeUtf8Lossy (lead :: (tail ++ rest)) =
      Char.ofNat (tail.foldl (fun n octet => n * 0x40 + (octet - 0x80))
        (if tail.length = 1 then lead - 0xC0
          else if tail.length = 2 then lead - 0xE0 else lead - 0xF0)) :: decodeUtf8Lossy rest := by
  have more : ¬lead < 0x80 := Nat.not_lt.2 several
  -- As many octets are there as are wanted, so none of them is given up.
  rw [decodeUtf8Lossy, if_neg more, asks]
  simp only [follows, if_true, List.drop_left]

/-- One continuation octet less is wanted after each that is within its bounds. -/
theorem continuation_cons {octet : Nat} (within : low ≤ octet ∧ octet ≤ high) (rest : List Nat) :
    continuation (wanted + 1) low high (octet :: rest) =
      octet :: continuation wanted 0x80 0xBF rest := by
  simp only [continuation, Bool.and_eq_true, decide_eq_true_eq, if_pos within]

/-- No more octets are read than are wanted. -/
theorem continuation_zero (rest : List Nat) : continuation 0 low high rest = [] := by
  rw [continuation]

/-- The lead octet of a number of eleven bits asks for one octet more. -/
theorem leadOctet?_two (bounds : 0x80 ≤ n ∧ n < 0x800) :
    leadOctet? (0xC0 + n / 0x40) = some (1, 0x80, 0xBF) := by
  -- At least 128 rules out the two lead octets that would spell a shorter number.
  have lead : 0xC2 ≤ 0xC0 + n / 0x40 ∧ 0xC0 + n / 0x40 ≤ 0xDF := by omega
  simp only [leadOctet?, Bool.and_eq_true, decide_eq_true_eq, if_pos lead]

/-- A number of eleven bits is read from its two octets. -/
theorem decodeUtf8Lossy_two (bounds : 0x80 ≤ n ∧ n < 0x800) (rest : List Nat) :
    decodeUtf8Lossy ([0xC0 + n / 0x40, 0x80 + n % 0x40] ++ rest) =
      Char.ofNat n :: decodeUtf8Lossy rest := by
  have follows : continuation 1 0x80 0xBF ([0x80 + n % 0x40] ++ rest) = [0x80 + n % 0x40] := by
    rw [List.singleton_append, continuation_cons (by omega), continuation_zero]
  -- What the two octets were made from is put together again.
  have back : (0xC0 + n / 0x40 - 0xC0) * 0x40 + (0x80 + n % 0x40 - 0x80) = n := by omega
  have read := decodeUtf8Lossy_lead [0x80 + n % 0x40] (by omega) (leadOctet?_two bounds) rest follows
  simp only [List.length_singleton, if_true, List.foldl_cons, List.foldl_nil, back] at read
  exact read

/-- The lead octet of a number of sixteen bits asks for two octets more, and allows the first of them
unless the number stands for half of a character. -/
theorem leadOctet?_three (bounds : 0x800 ≤ n ∧ n < 0x10000) (whole : n < 0xD800 ∨ 0xDFFF < n) :
    ∃ low high, leadOctet? (0xE0 + n / 0x1000) = some (2, low, high) ∧
      low ≤ 0x80 + n / 0x40 % 0x40 ∧ 0x80 + n / 0x40 % 0x40 ≤ high := by
  have two : ¬(0xC2 ≤ 0xE0 + n / 0x1000 ∧ 0xE0 + n / 0x1000 ≤ 0xDF) := by omega
  simp only [leadOctet?, Bool.and_eq_true, decide_eq_true_eq, if_neg two]
  -- The first lead octet rules out short numbers, and one of the others halves of characters.
  by_cases least : 0xE0 + n / 0x1000 = 0xE0
  · exact ⟨0xA0, 0xBF, by rw [if_pos least], by omega, by omega⟩
  by_cases halves : 0xE0 + n / 0x1000 = 0xED
  · exact ⟨0x80, 0x9F, by rw [if_neg least, if_pos halves], by omega, by omega⟩
  · have other : 0xE1 ≤ 0xE0 + n / 0x1000 ∧ 0xE0 + n / 0x1000 ≤ 0xEF := by omega
    exact ⟨0x80, 0xBF, by rw [if_neg least, if_neg halves, if_pos other], by omega, by omega⟩

/-- A number of sixteen bits is read from its three octets. -/
theorem decodeUtf8Lossy_three (bounds : 0x800 ≤ n ∧ n < 0x10000) (whole : n < 0xD800 ∨ 0xDFFF < n)
    (rest : List Nat) :
    decodeUtf8Lossy ([0xE0 + n / 0x1000, 0x80 + n / 0x40 % 0x40, 0x80 + n % 0x40] ++ rest) =
      Char.ofNat n :: decodeUtf8Lossy rest := by
  obtain ⟨low, high, asks, least, most⟩ := leadOctet?_three bounds whole
  have follows : continuation 2 low high ([0x80 + n / 0x40 % 0x40, 0x80 + n % 0x40] ++ rest) =
      [0x80 + n / 0x40 % 0x40, 0x80 + n % 0x40] := by
    rw [List.cons_append, continuation_cons ⟨least, most⟩, List.singleton_append,
      continuation_cons (by omega), continuation_zero]
  -- The bits of the character are put together again.
  have back : ((0xE0 + n / 0x1000 - 0xE0) * 0x40 + (0x80 + n / 0x40 % 0x40 - 0x80)) * 0x40 +
      (0x80 + n % 0x40 - 0x80) = n := by omega
  have read := decodeUtf8Lossy_lead [0x80 + n / 0x40 % 0x40, 0x80 + n % 0x40] (by omega) asks rest
    follows
  have other : (2 : Nat) ≠ 1 := by decide
  simp only [List.length_cons, List.length_nil, Nat.zero_add, Nat.reduceAdd, if_neg other, if_true,
    List.foldl_cons, List.foldl_nil, back] at read
  exact read

/-- The lead octet of a number of more than sixteen bits asks for three octets more, and allows the
first of them unless the number is too large. -/
theorem leadOctet?_four (bounds : 0x10000 ≤ n ∧ n < 0x110000) :
    ∃ low high, leadOctet? (0xF0 + n / 0x40000) = some (3, low, high) ∧
      low ≤ 0x80 + n / 0x1000 % 0x40 ∧ 0x80 + n / 0x1000 % 0x40 ≤ high := by
  have two : ¬(0xC2 ≤ 0xF0 + n / 0x40000 ∧ 0xF0 + n / 0x40000 ≤ 0xDF) := by omega
  have three : ¬(0xE1 ≤ 0xF0 + n / 0x40000 ∧ 0xF0 + n / 0x40000 ≤ 0xEF) := by omega
  have least : 0xF0 + n / 0x40000 ≠ 0xE0 := by omega
  have halves : 0xF0 + n / 0x40000 ≠ 0xED := by omega
  simp only [leadOctet?, Bool.and_eq_true, decide_eq_true_eq, if_neg two, if_neg three, if_neg least,
    if_neg halves]
  -- The first lead octet rules out shorter numbers, and the last one those that are too large.
  by_cases first : 0xF0 + n / 0x40000 = 0xF0
  · exact ⟨0x90, 0xBF, by rw [if_pos first], by omega, by omega⟩
  by_cases middle : 0xF1 ≤ 0xF0 + n / 0x40000 ∧ 0xF0 + n / 0x40000 ≤ 0xF3
  · exact ⟨0x80, 0xBF, by rw [if_neg first, if_pos middle], by omega, by omega⟩
  · have last : 0xF0 + n / 0x40000 = 0xF4 := by omega
    exact ⟨0x80, 0x8F, by rw [if_neg first, if_neg middle, if_pos last], by omega, by omega⟩

/-- A number of more than sixteen bits is read from its four octets. -/
theorem decodeUtf8Lossy_four (bounds : 0x10000 ≤ n ∧ n < 0x110000) (rest : List Nat) :
    decodeUtf8Lossy ([0xF0 + n / 0x40000, 0x80 + n / 0x1000 % 0x40, 0x80 + n / 0x40 % 0x40,
      0x80 + n % 0x40] ++ rest) = Char.ofNat n :: decodeUtf8Lossy rest := by
  obtain ⟨low, high, asks, least, most⟩ := leadOctet?_four bounds
  have follows : continuation 3 low high
      ([0x80 + n / 0x1000 % 0x40, 0x80 + n / 0x40 % 0x40, 0x80 + n % 0x40] ++ rest) =
      [0x80 + n / 0x1000 % 0x40, 0x80 + n / 0x40 % 0x40, 0x80 + n % 0x40] := by
    rw [List.cons_append, continuation_cons ⟨least, most⟩, List.cons_append,
      continuation_cons (by omega), List.singleton_append, continuation_cons (by omega),
      continuation_zero]
  -- The bits of the character are put together again.
  have back : (((0xF0 + n / 0x40000 - 0xF0) * 0x40 + (0x80 + n / 0x1000 % 0x40 - 0x80)) * 0x40 +
      (0x80 + n / 0x40 % 0x40 - 0x80)) * 0x40 + (0x80 + n % 0x40 - 0x80) = n := by omega
  have read := decodeUtf8Lossy_lead
    [0x80 + n / 0x1000 % 0x40, 0x80 + n / 0x40 % 0x40, 0x80 + n % 0x40] (by omega) asks rest follows
  have notOne : (3 : Nat) ≠ 1 := by decide
  have notTwo : (3 : Nat) ≠ 2 := by decide
  simp only [List.length_cons, List.length_nil, Nat.zero_add, Nat.reduceAdd, if_neg notOne,
    if_neg notTwo, List.foldl_cons, List.foldl_nil, back] at read
  exact read

/-- The octets of a character are read as that character, whatever octets follow. -/
theorem decodeUtf8Lossy_octets (c : Char) (rest : List Nat) :
    decodeUtf8Lossy (octets c ++ rest) = c :: decodeUtf8Lossy rest := by
  -- The number of a character stands for no half of another one, and is not too large.
  have valid : c.toNat < 0xD800 ∨ 0xDFFF < c.toNat ∧ c.toNat < 0x110000 := c.valid
  have number := Char.ofNat_toNat c
  simp only [octets]
  -- As many octets are written as the number of the character needs.
  by_cases one : c.toNat < 0x80
  · rw [if_pos one, List.singleton_append, decodeUtf8Lossy, if_pos one, number]
  by_cases two : c.toNat < 0x800
  · rw [if_neg one, if_pos two, decodeUtf8Lossy_two (by omega), number]
  by_cases three : c.toNat < 0x10000
  · rw [if_neg one, if_neg two, if_pos three, decodeUtf8Lossy_three (by omega) (by omega), number]
  · rw [if_neg one, if_neg two, if_neg three, decodeUtf8Lossy_four (by omega), number]

/-- The octets of a text are read as that text. -/
theorem decodeUtf8Lossy_encodeUtf8 (cs : List Char) : decodeUtf8Lossy (encodeUtf8 cs) = cs := by
  -- One character is read after the other.
  induction cs with
  | nil => rw [encodeUtf8, List.flatMap_nil, decodeUtf8Lossy]
  | cons c cs ih =>
    rw [encodeUtf8, List.flatMap_cons, decodeUtf8Lossy_octets]
    exact congrArg _ ih

end AuditStage.Text
