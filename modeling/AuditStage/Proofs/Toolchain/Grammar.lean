import AuditStage.Proofs.Toolchain.Triple

/-! The grammars of the two scanners for versions. Main statement: an expression pins a version exactly if
the version is all that it has behind a sign, blanks and a letter, and a report names a version exactly if
it starts with it behind a letter; both scanners leave what either of them gives as it is. -/

namespace AuditStage.Version

open Text (isBlank isDecimalDigit trim trimStart)

variable {cs : List Char} {sign letter version expression raw : String}

/-- The signs that may stand before a version, as one may also be left out. -/
def signs : List String :=
  ["", "^", "="]

/-- The letter that may stand before a version, as it may also be left out. -/
def letters : List String :=
  ["", "v"]

/-- What is dropped as a sign is one. -/
theorem exists_sign (cs : List Char) : ∃ sign ∈ signs, cs = sign.toList ++ dropSign cs := by
  unfold dropSign
  -- There is one case for each sign that is dropped, and one for none.
  split
  · exact ⟨"^", by simp [signs], rfl⟩
  · exact ⟨"=", by simp [signs], rfl⟩
  · exact ⟨"", by simp [signs], rfl⟩

/-- What is dropped as a letter is one. -/
theorem exists_letter (cs : List Char) : ∃ letter ∈ letters, cs = letter.toList ++ dropLetter cs := by
  unfold dropLetter
  split
  · exact ⟨"v", by simp [letters], rfl⟩
  · exact ⟨"", by simp [letters], rfl⟩

/-- A sign is dropped from a text that has no other one behind it. -/
theorem dropSign_append (member : sign ∈ signs) (plain : ∀ c ∈ cs, c ≠ '^' ∧ c ≠ '=') :
    dropSign (sign.toList ++ cs) = cs := by
  simp only [signs, List.mem_cons, List.not_mem_nil, or_false] at member
  rcases member with rfl | rfl | rfl
  · -- Without a sign the text starts with another character.
    cases cs with
    | nil => rfl
    | cons c rest =>
      obtain ⟨caret, equals⟩ := plain c List.mem_cons_self
      simp [dropSign, caret, equals]
  · rfl
  · rfl

/-- A letter is dropped from the front of a text that goes on with a digit. -/
theorem dropLetter_append (member : letter ∈ letters) {c : Char} (starts : cs.head? = some c)
    (digit : isDecimalDigit c = true) : dropLetter (letter.toList ++ cs) = cs := by
  simp only [letters, List.mem_cons, List.not_mem_nil, or_false] at member
  rcases member with rfl | rfl
  · -- Nothing is dropped from the digits, for none of them is the letter.
    obtain ⟨rest, rfl⟩ := List.head?_eq_some_iff.1 starts
    have other : c ≠ 'v' := ne_of_apply_ne isDecimalDigit (by rw [digit]; decide)
    simp [dropLetter, other]
  · rfl

/-- A version starts with a digit. -/
theorem IsTriple.head? (triple : IsTriple isDecimalDigit cs) :
    ∃ c, cs.head? = some c ∧ isDecimalDigit c = true := by
  obtain ⟨major, minor, patch, rfl, runs⟩ := triple
  obtain ⟨some, digits⟩ := runs major (by simp)
  obtain ⟨c, more, rfl⟩ := List.exists_cons_of_ne_nil some
  exact ⟨c, rfl, digits c (by simp)⟩

/-- There is neither a blank nor a sign in a version, nor is the letter before it one. -/
theorem plain_of_mem (written : letter ∈ letters) (triple : IsTriple isDecimalDigit version.toList) :
    ∀ c ∈ letter.toList ++ version.toList, isBlank c = false ∧ c ≠ '^' ∧ c ≠ '=' := by
  intro c member
  simp only [letters, List.mem_cons, List.not_mem_nil, or_false] at written
  rcases List.mem_append.1 member with inside | inside
  · -- The letter itself is neither a blank nor a sign.
    rcases written with rfl | rfl
    · cases inside
    · obtain rfl : c = 'v' := by simpa using inside
      decide
  · rcases triple.digit_or_dot inside with digit | rfl
    · -- A digit is of another class than blanks and signs are.
      exact ⟨Text.not_isBlank digit, ne_of_apply_ne isDecimalDigit (by rw [digit]; decide),
        ne_of_apply_ne isDecimalDigit (by rw [digit]; decide)⟩
    · decide

/-- A version has no blanks to be trimmed off. -/
theorem IsTriple.trimmed (triple : IsTriple isDecimalDigit version.toList) :
    Text.trimmed version = version := by
  have bare : "" ∈ letters := by simp [letters]
  have visible : ∀ c ∈ version.toList, isBlank c = false := fun c member =>
    (plain_of_mem bare triple c member).1
  -- Nothing is trimmed off, for neither end is a blank.
  have kept : trim version.toList = version.toList := Text.trim_eq_self_iff.2
    ⟨fun c first => visible c (List.mem_of_mem_head? first),
      fun c last => visible c (List.mem_of_getLast? last)⟩
  rw [Text.trimmed, kept, String.ofList_toList]

/-- A trimmed text is told by its characters. -/
theorem trimmed_eq_iff {text other : String} :
    Text.trimmed text = other ↔ trim text.toList = other.toList := by
  rw [Text.trimmed, ← String.toList_inj, String.toList_ofList]

/-- An expression pins a version exactly if the version is all that is left of it. -/
theorem pinned?_iff_left : pinned? expression = some version ↔
    dropLetter (trimStart (dropSign (trim expression.toList))) = version.toList ∧
      IsTriple isDecimalDigit version.toList := by
  constructor
  · intro pinned
    unfold pinned? at pinned
    split at pinned
    · rename_i triple read
      cases pinned
      -- The version is all that has been read, as nothing may be left behind it.
      obtain ⟨split, form, -⟩ := readTriple_eq_some_iff.1 read
      rw [List.append_nil] at split
      rw [String.toList_ofList]
      exact ⟨split, form⟩
    · cases pinned
  · rintro ⟨left, triple⟩
    -- Read from its start, a version is a version and nothing else.
    have whole : readTriple version.toList = some (version.toList, []) :=
      readTriple_eq_some_iff.2 ⟨(List.append_nil _).symm, triple, nofun⟩
    rw [pinned?, left, whole]
    exact congrArg some String.ofList_toList

/-- A version is what is left of a text exactly if a sign, blanks and a letter stand before it, or none. -/
theorem left_eq_iff (triple : IsTriple isDecimalDigit version.toList) :
    dropLetter (trimStart (dropSign cs)) = version.toList ↔
      ∃ sign ∈ signs, ∃ blanks, Text.isAllBlank blanks = true ∧ ∃ letter ∈ letters,
        cs = sign.toList ++ (blanks.toList ++ (letter.toList ++ version.toList)) := by
  simp only [Text.isAllBlank, List.all_eq_true]
  constructor
  · intro left
    -- What has been dropped stands in front of what is left.
    obtain ⟨sign, chosen, front⟩ := exists_sign cs
    obtain ⟨letter, written, next⟩ := exists_letter (trimStart (dropSign cs))
    let blanks := String.ofList ((dropSign cs).takeWhile isBlank)
    have blank : ∀ c ∈ blanks.toList, isBlank c = true := by
      intro c member
      rw [String.toList_ofList] at member
      exact List.mem_takeWhile_imp member
    have between : dropSign cs = blanks.toList ++ trimStart (dropSign cs) := by
      rw [String.toList_ofList]
      exact List.takeWhile_append_dropWhile.symm
    exact ⟨sign, chosen, blanks, blank, letter, written, by rw [← left, ← next, ← between, ← front]⟩
  · rintro ⟨sign, chosen, blanks, blank, letter, written, rfl⟩
    have plain := plain_of_mem written triple
    -- No second sign stands behind the first: neither blanks nor a version hold one.
    have unsigned : ∀ c ∈ blanks.toList ++ (letter.toList ++ version.toList), c ≠ '^' ∧ c ≠ '=' := by
      intro c member
      rcases List.mem_append.1 member with space | other
      · have space := blank c space
        exact ⟨ne_of_apply_ne isBlank (by rw [space]; decide),
          ne_of_apply_ne isBlank (by rw [space]; decide)⟩
      · exact (plain c other).2
    -- The blanks end where the letter or the version starts.
    have starts : trimStart (letter.toList ++ version.toList) = letter.toList ++ version.toList :=
      List.dropWhile_eq_self_iff.2 fun filled => by simp [(plain _ (List.getElem_mem filled)).1]
    obtain ⟨c, first, digit⟩ := triple.head?
    rw [dropSign_append chosen unsigned, Text.trimStart_append blank, starts,
      dropLetter_append written first digit]

/-- An expression pins a version exactly if, once it is trimmed, it is a sign or none, blanks or none, a
letter or none, and then the version. -/
theorem pinned?_eq_some_iff : pinned? expression = some version ↔
    ∃ sign ∈ signs, ∃ blanks, Text.isAllBlank blanks = true ∧ ∃ letter ∈ letters,
      Text.trimmed expression = sign ++ blanks ++ letter ++ version ∧
        IsTriple isDecimalDigit version.toList := by
  rw [pinned?_iff_left, and_comm]
  -- What is left of the expression tells the version, and trimming tells what was there.
  constructor
  · rintro ⟨triple, left⟩
    obtain ⟨sign, chosen, blanks, blank, letter, written, split⟩ := (left_eq_iff triple).1 left
    refine ⟨sign, chosen, blanks, blank, letter, written, trimmed_eq_iff.2 ?_, triple⟩
    simpa using split
  · rintro ⟨sign, chosen, blanks, blank, letter, written, split, triple⟩
    refine ⟨triple, (left_eq_iff triple).2 ⟨sign, chosen, blanks, blank, letter, written, ?_⟩⟩
    simpa using trimmed_eq_iff.1 split

/-- A report names a version exactly if, once it is trimmed, it is a letter or none, then the version, and
then a text that starts with no digit. -/
theorem reported?_eq_some_iff : reported? raw = some version ↔
    ∃ letter ∈ letters, ∃ rest, Text.trimmed raw = letter ++ version ++ rest ∧
      IsTriple isDecimalDigit version.toList ∧ EndsDigits rest.toList := by
  simp only [trimmed_eq_iff, String.toList_append, List.append_assoc]
  constructor
  · intro read
    obtain ⟨⟨triple, rest⟩, parts, rfl⟩ := Option.map_eq_some_iff.1 read
    obtain ⟨split, form, ends⟩ := readTriple_eq_some_iff.1 parts
    -- The letter that has been dropped stands in front of the version.
    obtain ⟨letter, written, front⟩ := exists_letter (trim raw.toList)
    rw [split] at front
    simp only [String.toList_ofList]
    exact ⟨letter, written, String.ofList rest, by simpa using front, form, by simpa using ends⟩
  · rintro ⟨letter, written, rest, split, triple, ends⟩
    obtain ⟨c, first, digit⟩ := triple.head?
    -- The version starts with a digit, by which it is told from the letter.
    have starts : (version.toList ++ rest.toList).head? = some c := by simp [first]
    have read : readTriple (version.toList ++ rest.toList) = some (version.toList, rest.toList) :=
      readTriple_eq_some_iff.2 ⟨rfl, triple, ends⟩
    rw [reported?, split, dropLetter_append written starts digit, read]
    exact congrArg some String.ofList_toList

/-- Both scanners leave a version as it is. -/
theorem IsTriple.scanned (triple : IsTriple isDecimalDigit version.toList) :
    pinned? version = some version ∧ reported? version = some version := by
  have bare : "" ∈ signs ∧ "" ∈ letters := by simp [signs, letters]
  constructor
  · exact pinned?_eq_some_iff.2 ⟨"", bare.1, "", rfl, "", bare.2, by simp [triple.trimmed], triple⟩
  · exact reported?_eq_some_iff.2 ⟨"", bare.2, "", by simp [triple.trimmed], triple, nofun⟩

/-- An expression pins a version exactly if it consists, once trimmed, of an optional sign, any blanks, an
optional letter and the version. A report names a version exactly if it starts, once trimmed, with an
optional letter and the version, behind which no digit follows. Whatever either scanner gives, both of them
give it back from itself. -/
theorem scanners_exact :
    (∀ expression version, pinned? expression = some version ↔
      ∃ sign ∈ signs, ∃ blanks, Text.isAllBlank blanks = true ∧ ∃ letter ∈ letters,
        Text.trimmed expression = sign ++ blanks ++ letter ++ version ∧
          IsTriple isDecimalDigit version.toList) ∧
    (∀ raw version, reported? raw = some version ↔
      ∃ letter ∈ letters, ∃ rest, Text.trimmed raw = letter ++ version ++ rest ∧
        IsTriple isDecimalDigit version.toList ∧ EndsDigits rest.toList) ∧
    ∀ text version, pinned? text = some version ∨ reported? text = some version →
      pinned? version = some version ∧ reported? version = some version := by
  refine ⟨fun _ _ => pinned?_eq_some_iff, fun _ _ => reported?_eq_some_iff, ?_⟩
  -- Whichever scanner has given it, the text that it gives is a version.
  rintro text version (pinned | named)
  · obtain ⟨-, triple⟩ := pinned?_iff_left.1 pinned
    exact triple.scanned
  · obtain ⟨-, -, -, -, triple, -⟩ := reported?_eq_some_iff.1 named
    exact triple.scanned

/-- A version behind a sign, a wide blank and a letter, in digits of two scripts, is given back from
itself. -/
theorem foreignVersion_scanned :
    pinned? " ^\u3000v0.\u0668.20 " = some "0.\u0668.20" ∧
      pinned? "0.\u0668.20" = some "0.\u0668.20" ∧ reported? "0.\u0668.20" = some "0.\u0668.20" := by
  have pinned : pinned? " ^\u3000v0.\u0668.20 " = some "0.\u0668.20" := by decide +kernel
  exact ⟨pinned, scanners_exact.2.2 _ _ (.inl pinned)⟩

end AuditStage.Version
