import AuditStage.Proofs.Text.Split
import AuditStage.Proofs.Text.Utf8
import AuditStage.Url.Form

/-! Pairs in a query: whatever characters they hold, they are read back as they were written, behind
the pairs that were there before. -/

namespace AuditStage.Url

variable {c : Char} {octet : Nat} {escaped : Char → Bool}

/-- An octet is a number below two hundred and fifty-six. -/
theorem lt_of_mem_octets (member : octet ∈ Text.octets c) : octet < 0x100 := by
  have valid : c.toNat < 0xD800 ∨ 0xDFFF < c.toNat ∧ c.toNat < 0x110000 := c.valid
  -- Each octet is one of a few sums with a bounded part of the number.
  simp only [Text.octets] at member
  split at member
  · simp only [List.mem_singleton] at member
    omega
  split at member
  · simp only [List.mem_cons, List.not_mem_nil, or_false] at member
    omega
  split at member
  · simp only [List.mem_cons, List.not_mem_nil, or_false] at member
    omega
  · simp only [List.mem_cons, List.not_mem_nil, or_false] at member
    omega

/-- A digit is a letter or a numeral, and is read as the number that it was written for. -/
theorem upperHex_digit : ∀ n < 16, (upperHex n).isAlphanum = true ∧ hexDigit? (upperHex n) = some n := by
  decide

/-- An escaped octet is written with a percent sign, letters and numerals. -/
theorem of_mem_percentOctet (bound : octet < 0x100) (member : c ∈ percentOctet octet) :
    c = '%' ∨ c.isAlphanum = true := by
  rcases List.mem_cons.1 member with rfl | digit
  · exact .inl rfl
  · -- Behind the percent sign stand two digits.
    rcases List.mem_cons.1 digit with rfl | last
    · exact .inr (upperHex_digit _ (by omega)).1
    · rw [List.mem_singleton.1 last]
      exact .inr (upperHex_digit _ (by omega)).1

/-- An escaped octet is read as that octet. -/
theorem percentDecode_octet (bound : octet < 0x100) (rest : List Char) :
    percentDecode (percentOctet octet ++ rest) = octet :: percentDecode rest := by
  have high := (upperHex_digit (octet / 16) (by omega)).2
  have low := (upperHex_digit (octet % 16) (by omega)).2
  -- The two digits stand for the two halves of the octet.
  have whole : octet / 16 * 16 + octet % 16 = octet := by omega
  simp only [percentOctet, List.cons_append, List.nil_append, percentDecode, high, low, whole]

/-- Escaped octets are read as those octets. -/
theorem percentDecode_octets {octets : List Nat} (bounds : ∀ octet ∈ octets, octet < 0x100)
    (rest : List Char) :
    percentDecode (octets.flatMap percentOctet ++ rest) = octets ++ percentDecode rest := by
  induction octets with
  | nil => rfl
  | cons octet octets ih =>
    -- Each octet is read back from its own three characters.
    have others := ih fun other member => bounds other (List.mem_cons_of_mem _ member)
    rw [List.flatMap_cons, List.append_assoc, percentDecode_octet (bounds octet (by simp)), others]
    rfl

/-- A character other than the percent sign stands for its own octets. -/
theorem percentDecode_cons (other : c ≠ '%') (rest : List Char) :
    percentDecode (c :: rest) = Text.octets c ++ percentDecode rest := by
  rw [percentDecode]
  -- No escape starts with it.
  intro _ _ _ same
  exact absurd same other

/-- A plus sign is read as the space that it stands for. -/
def spaced (cs : List Char) : List Char :=
  cs.map fun c => if c = '+' then ' ' else c

/-- Nothing changes in a text without plus signs. -/
theorem spaced_of_notMem {cs : List Char} (absent : '+' ∉ cs) : spaced cs = cs := by
  refine (List.map_congr_left fun c member => ?_).trans (List.map_id cs)
  have other : c ≠ '+' := fun same => absent (same ▸ member)
  simp [other]

/-- One character as a form writes it. -/
def formChar (c : Char) : List Char :=
  if c = ' ' then ['+'] else percentChar (fun c => !isFormPlain c) c

/-- One character as a form writes it is read as its octets. -/
theorem percentDecode_formChar (c : Char) (rest : List Char) :
    percentDecode (spaced (formChar c) ++ rest) = Text.octets c ++ percentDecode rest := by
  -- A space is written as a plus sign and read back from it.
  by_cases space : c = ' '
  · subst space
    exact percentDecode_cons (by decide) rest
  rw [formChar, if_neg space, percentChar]
  by_cases plain : isFormPlain c = true
  · -- A character that stands for itself is neither a plus sign nor a percent sign.
    have plus : '+' ∉ [c] := by
      rintro member
      rw [← List.mem_singleton.1 member] at plain
      exact absurd plain (by decide)
    have percent : c ≠ '%' := by
      rintro rfl
      exact absurd plain (by decide)
    rw [if_neg (by simp [plain]), spaced_of_notMem plus, List.singleton_append,
      percentDecode_cons percent]
  · have plus : '+' ∉ (Text.octets c).flatMap percentOctet := by
      intro member
      obtain ⟨octet, inside, holds⟩ := List.mem_flatMap.1 member
      rcases of_mem_percentOctet (lt_of_mem_octets inside) holds with same | letter
      · cases same
      · cases letter
    rw [if_pos (by simp [plain]), spaced_of_notMem plus,
      percentDecode_octets fun octet inside => lt_of_mem_octets inside]

/-- The writing of a text is read as the octets of its characters, one after the other. -/
theorem percentDecode_flatMap_formChar (cs : List Char) :
    percentDecode (spaced (cs.flatMap formChar)) = Text.encodeUtf8 cs := by
  induction cs with
  | nil => rfl
  | cons c cs ih =>
    -- The characters are written one after the other, and are read back so.
    have split : spaced ((c :: cs).flatMap formChar) =
        spaced (formChar c) ++ spaced (cs.flatMap formChar) := List.map_append
    rw [split, percentDecode_formChar, ih]
    rfl

/-- A text is read back from its form's writing, whatever characters it holds. -/
theorem decodeForm_encodeForm (text : String) : decodeForm (encodeForm text) = text := by
  have read : decodeForm (encodeForm text) = String.ofList
      (Text.decodeUtf8Lossy (percentDecode (spaced (text.toList.flatMap formChar)))) := rfl
  rw [read, percentDecode_flatMap_formChar, Text.decodeUtf8Lossy_encodeUtf8, String.ofList_toList]

/-- A form writes a text with plain characters, percent signs and plus signs. -/
theorem of_mem_encodeForm {text : String} (member : c ∈ encodeForm text) :
    isFormPlain c = true ∨ c = '%' ∨ c = '+' := by
  obtain ⟨d, -, written⟩ := List.mem_flatMap.1 member
  split at written
  · exact .inr (.inr (List.mem_singleton.1 written))
  · unfold percentChar at written
    split at written
    · -- What is not plain is escaped octet by octet.
      obtain ⟨octet, inside, holds⟩ := List.mem_flatMap.1 written
      rcases of_mem_percentOctet (lt_of_mem_octets inside) holds with same | letter
      · exact .inr (.inl same)
      · exact .inl (by simp [isFormPlain, letter])
    · rename_i plain
      rw [List.mem_singleton.1 written]
      exact .inl (by simpa using plain)

/-- No mark between pairs, or between a name and its text, stands in a form's writing. -/
theorem notMem_encodeForm (text : String) : '&' ∉ encodeForm text ∧ '=' ∉ encodeForm text := by
  -- Neither of the two is among the characters that a form writes.
  constructor
  · intro member
    exact absurd (of_mem_encodeForm member) (by decide)
  · intro member
    exact absurd (of_mem_encodeForm member) (by decide)

/-- A pair is read back from what is written for it. -/
theorem decodePair_encodePair (pair : String × String) : decodePair (encodePair pair) = pair := by
  have bare := (notMem_encodeForm pair.1).2
  simp only [decodePair, encodePair, Text.splitFirst_append bare, decodeForm_encodeForm]

/-- The pairs of two queries with an ampersand between them are those of the one and the other. -/
theorem decodePairs_append (before after : List Char) :
    decodePairs (before ++ '&' :: after) = decodePairs before ++ decodePairs after := by
  simp only [decodePairs, List.splitOn_append_cons_self, List.filter_append, List.map_append]

/-- What is written for a pair stands for that pair alone. -/
theorem decodePairs_encodePair (pair : String × String) : decodePairs (encodePair pair) = [pair] := by
  -- What is written for a pair is not parted anywhere.
  have bare : '&' ∉ encodePair pair := by
    simp [encodePair, (notMem_encodeForm pair.1).1, (notMem_encodeForm pair.2).1]
  have filled : encodePair pair ≠ [] := by simp [encodePair]
  simp only [decodePairs, List.splitOn_eq_singleton bare]
  simp [filled, decodePair_encodePair]

/-- Pairs that are added to a query stand behind those that it stood for before. -/
theorem decodePairs_appendPairs (query : List Char) (pairs : List (String × String)) :
    decodePairs (appendPairs query pairs) = decodePairs query ++ pairs := by
  -- The pairs are added one by one, each behind the query so far.
  induction pairs generalizing query with
  | nil => simp [appendPairs]
  | cons pair pairs ih =>
    have step : decodePairs (query ++ (if query.isEmpty then [] else ['&']) ++ encodePair pair) =
        decodePairs query ++ [pair] := by
      cases query with
      | nil => exact decodePairs_encodePair pair
      | cons c rest =>
        -- An ampersand is put in front of a pair unless it is the first.
        rw [List.isEmpty_cons, if_neg Bool.false_ne_true, List.append_assoc, List.singleton_append,
          decodePairs_append, decodePairs_encodePair]
    have further := ih (query ++ (if query.isEmpty then [] else ['&']) ++ encodePair pair)
    rw [appendPairs] at further
    rw [appendPairs, List.foldl_cons, further, step, List.append_assoc, List.singleton_append]

/-- The marks of a query that stand in a text are read back as parts of the text. -/
example : decodePairs (appendPairs "k=v".toList [("a&b", "c=d +é%")]) =
    [("k", "v"), ("a&b", "c=d +é%")] := by
  decide +kernel

end AuditStage.Url
