import AuditStage.Text.Basic
import Mathlib.Data.List.Basic
import Mathlib.Data.List.DropRight
import Mathlib.Data.List.TakeWhile

/-! Trimming: blanks around a text make no difference, and a text without them stays as it is. -/

namespace AuditStage.Text

variable {mark : Char} {cs : List Char}

/-- Blanks at the end are dropped as a list is cut from its right. -/
theorem trimEnd_eq (cs : List Char) : trimEnd cs = cs.rdropWhile isBlank :=
  rfl

/-- Marks at the end are dropped as a list is cut from its right. -/
theorem dropTrailing_eq (mark : Char) (cs : List Char) :
    dropTrailing mark cs = cs.rdropWhile (· == mark) :=
  rfl

/-- Blanks in front of a text are dropped with those at its front. -/
theorem trimStart_append {blanks : List Char} (blank : ∀ c ∈ blanks, isBlank c = true)
    (cs : List Char) : trimStart (blanks ++ cs) = trimStart cs := by
  induction blanks with
  | nil => rfl
  | cons c blanks ih =>
    -- The first blank is dropped, and then the others.
    have rest := ih fun other member => blank other (List.mem_cons_of_mem _ member)
    simpa [trimStart, blank c (by simp)] using rest

/-- Blanks behind a text are dropped with those at its end. -/
theorem trimEnd_append {blanks : List Char} (blank : ∀ c ∈ blanks, isBlank c = true)
    (cs : List Char) : trimEnd (cs ++ blanks) = trimEnd cs := by
  have reversed : ∀ c ∈ blanks.reverse, isBlank c = true := by simpa using blank
  have dropped := trimStart_append reversed cs.reverse
  -- Read from its end, the text is one with blanks in front.
  simp only [trimStart] at dropped
  rw [trimEnd, trimEnd, List.reverse_append, dropped]

/-- A text that starts and ends with something other than a blank is what is left of it between
blanks. -/
theorem trim_between {before after : List Char} (front : ∀ c ∈ before, isBlank c = true)
    (back : ∀ c ∈ after, isBlank c = true) {first last : Char} (starts : cs.head? = some first)
    (ends : cs.getLast? = some last) (visible : isBlank first = false)
    (seen : isBlank last = false) : trim (before ++ cs ++ after) = cs := by
  obtain ⟨rest, rfl⟩ := List.head?_eq_some_iff.1 starts
  have start : trimStart (first :: rest ++ after) = first :: rest ++ after := by
    simp [trimStart, visible]
  rw [trim, List.append_assoc, trimStart_append front, start, trimEnd_append back]
  obtain ⟨init, split⟩ := List.getLast?_eq_some_iff.1 ends
  -- What is dropped from the end are blanks, and the last character is none.
  simp [trimEnd, split, seen]

/-- What is trimmed off a text are blanks at its ends. -/
theorem exists_trim (cs : List Char) : ∃ before after, (∀ c ∈ before, isBlank c = true) ∧
    (∀ c ∈ after, isBlank c = true) ∧ cs = before ++ trim cs ++ after := by
  -- The blanks in front are dropped first, and those at the end from what is left.
  have front := List.takeWhile_append_dropWhile (p := isBlank) (l := cs)
  refine ⟨cs.takeWhile isBlank, (trimStart cs).rtakeWhile isBlank,
    fun c member => List.mem_takeWhile_imp member, fun c member => List.mem_rtakeWhile_imp member, ?_⟩
  rw [List.append_assoc, trim, trimEnd_eq, List.rdropWhile_append_rtakeWhile]
  exact front.symm

/-- A trimmed text starts with no blank. -/
theorem head?_trim {c : Char} (first : (trim cs).head? = some c) : isBlank c = false := by
  -- Whatever the end loses, what is left starts as the text does without its leading blanks.
  obtain ⟨rest, split⟩ : trim cs <+: trimStart cs := List.rdropWhile_prefix isBlank _
  have start : (trimStart cs).head? = some c := by
    obtain ⟨more, spelled⟩ := List.head?_eq_some_iff.1 first
    simp [← split, spelled]
  have dropped := List.head?_dropWhile_not isBlank cs
  simp only [trimStart] at start
  simpa [start] using dropped

/-- A trimmed text ends with no blank. -/
theorem getLast?_trim {c : Char} (last : (trim cs).getLast? = some c) : isBlank c = false := by
  obtain ⟨some, rfl⟩ := List.mem_getLast?_eq_getLast last
  exact Bool.eq_false_iff.2 (List.rdropWhile_last_not isBlank (trimStart cs) some)

/-- A text stays as it is when it is trimmed exactly if neither of its ends is a blank. -/
theorem trim_eq_self_iff : trim cs = cs ↔ (∀ c, cs.head? = some c → isBlank c = false) ∧
    ∀ c, cs.getLast? = some c → isBlank c = false := by
  constructor
  · intro same
    exact ⟨fun c first => head?_trim (same.symm ▸ first), fun c last => getLast?_trim (same.symm ▸ last)⟩
  · rintro ⟨front, back⟩
    by_cases empty : cs = []
    · rw [empty]
      rfl
    -- There are two ends to look at, if perhaps at one character.
    have first := List.head?_eq_some_head empty
    have last := List.getLast?_eq_some_getLast empty
    simpa using @trim_between cs [] [] (by simp) (by simp) _ _ first last (front _ first)
      (back _ last)

/-- What has been trimmed stays as it is when it is trimmed once more. -/
theorem trim_trim (cs : List Char) : trim (trim cs) = trim cs :=
  trim_eq_self_iff.2 ⟨fun _ => head?_trim, fun _ => getLast?_trim⟩

/-- A trimmed text is no longer than the text, and as long only if it is the same. -/
theorem length_trim_le (cs : List Char) : (trim cs).length ≤ cs.length ∧
    ((trim cs).length = cs.length → trim cs = cs) := by
  obtain ⟨before, after, -, -, split⟩ := exists_trim cs
  have lengths := congrArg List.length split
  simp only [List.length_append] at lengths
  refine ⟨by omega, fun same => ?_⟩
  -- Nothing is left for the blanks at the ends.
  have front : before = [] := List.length_eq_zero_iff.1 (by omega)
  have back : after = [] := List.length_eq_zero_iff.1 (by omega)
  simpa [front, back] using split.symm

/-- Only blanks are dropped from the front. -/
theorem mem_trimStart {c : Char} (visible : isBlank c = false) : c ∈ trimStart cs ↔ c ∈ cs := by
  -- What is taken off the front are blanks.
  have kept : c ∉ cs.takeWhile isBlank := by
    intro dropped
    rw [List.mem_takeWhile_imp dropped] at visible
    cases visible
  have split : c ∈ cs ↔ c ∈ cs.takeWhile isBlank ++ cs.dropWhile isBlank := by
    rw [List.takeWhile_append_dropWhile]
  rw [split, List.mem_append, or_iff_right kept, trimStart]

/-- Only blanks are trimmed off. -/
theorem mem_trim {c : Char} (visible : isBlank c = false) : c ∈ trim cs ↔ c ∈ cs := by
  -- What is dropped from the end is dropped from the front of the text read backwards.
  have back : c ∈ trimEnd (trimStart cs) ↔ c ∈ trimStart (trimStart cs).reverse := List.mem_reverse
  rw [trim, back, mem_trimStart visible, List.mem_reverse, mem_trimStart visible]

/-- What is left of a text that starts with a blank is shorter than the text. -/
theorem length_trim_lt {c : Char} (first : cs.head? = some c) (blank : isBlank c = true) :
    (trim cs).length < cs.length := by
  obtain ⟨shorter, same⟩ := length_trim_le cs
  -- A text that is left as it is starts with no blank.
  refine Nat.lt_of_le_of_ne shorter fun equal => ?_
  have visible := head?_trim ((same equal).symm ▸ first)
  rw [blank] at visible
  cases visible

/-- Nothing is left of a text of blanks. -/
theorem trimmed_of_isAllBlank {text : String} (blank : isAllBlank text = true) :
    trimmed text = "" := by
  have each : ∀ c ∈ text.toList, isBlank c = true := by simpa [isAllBlank] using blank
  -- All of it is dropped from the front.
  have dropped := trimStart_append each []
  rw [List.append_nil] at dropped
  rw [trimmed, trim, dropped]
  rfl

/-- A text that does not end with the mark loses nothing. -/
theorem dropTrailing_of_getLast? (ends : cs.getLast? ≠ some mark) :
    dropTrailing mark cs = cs := by
  rw [dropTrailing_eq, List.rdropWhile_eq_self_iff]
  intro some same
  exact ends (by rw [List.getLast?_eq_some_getLast some, beq_iff_eq.1 same])

/-- A text without the mark loses nothing. -/
theorem dropTrailing_of_notMem (absent : mark ∉ cs) : dropTrailing mark cs = cs :=
  dropTrailing_of_getLast? fun last => absent (List.mem_of_getLast? last)

/-- Any number of marks at the end is dropped. -/
theorem dropTrailing_replicate (mark : Char) (cs : List Char) (count : Nat) :
    dropTrailing mark (cs ++ List.replicate count mark) = dropTrailing mark cs := by
  -- The marks are taken off one by one, from the end.
  induction count with
  | zero => simp
  | succ count ih =>
    rw [List.replicate_succ', ← List.append_assoc, dropTrailing_eq, List.rdropWhile_concat,
      if_pos (beq_self_eq_true mark)]
    exact ih

end AuditStage.Text
