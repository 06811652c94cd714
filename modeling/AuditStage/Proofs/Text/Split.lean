import AuditStage.Text.Basic
import Mathlib.Algebra.Order.Ring.Nat
import Mathlib.Data.List.Basic
import Mathlib.Tactic.ByContra

/-! Splitting text at a mark: what the parts hold, how the parts of a longer text arise, and how parts
are joined to a text that is split into them. -/

namespace AuditStage.Text

variable {mark : Char}

/-- A part holds characters of the text other than the mark. -/
theorem mem_of_mem_splitOn {cs part : List Char} (member : part ∈ cs.splitOn mark) :
    ∀ c ∈ part, c ∈ cs ∧ c ≠ mark := by
  induction cs generalizing part with
  | nil => simp_all
  | cons c rest ih =>
    rw [List.splitOn_cons_eq_if_modifyHead] at member
    split at member
    · rcases List.mem_cons.1 member with rfl | later
      · simp
      · exact fun d inside => ⟨List.mem_cons_of_mem _ (ih later d inside).1, (ih later d inside).2⟩
    · rename_i other
      simp only [beq_iff_eq] at other
      -- A character that is no mark joins the first part of the rest.
      obtain ⟨first, parts, split⟩ := List.exists_cons_of_ne_nil (List.splitOn_ne_nil mark rest)
      simp only [split, List.modifyHead_cons, List.mem_cons] at member ih
      intro d inside
      rcases member with rfl | later
      · rcases List.mem_cons.1 inside with rfl | inside
        · exact ⟨by simp, other⟩
        · exact ⟨List.mem_cons_of_mem _ (ih (.inl rfl) d inside).1, (ih (.inl rfl) d inside).2⟩
      · exact ⟨List.mem_cons_of_mem _ (ih (.inr later) d inside).1, (ih (.inr later) d inside).2⟩

/-- The first part is what stands before the first mark. -/
theorem head?_splitOn (mark : Char) (cs : List Char) :
    (cs.splitOn mark).head? = some (cs.takeWhile (· != mark)) := by
  induction cs with
  | nil => rfl
  | cons c rest ih =>
    rw [List.splitOn_cons_eq_if_modifyHead]
    -- A mark at the front leaves an empty part before it.
    by_cases here : c = mark
    · simp [here]
    · obtain ⟨part, parts, split⟩ := List.exists_cons_of_ne_nil (List.splitOn_ne_nil mark rest)
      simp_all

/-- Nothing is split where the mark does not stand. -/
theorem splitFirst_of_notMem {cs : List Char} (absent : mark ∉ cs) : splitFirst mark cs = none := by
  induction cs with
  | nil => rfl
  | cons c rest ih =>
    simp only [List.mem_cons, not_or] at absent
    simp [splitFirst, Ne.symm absent.1, ih absent.2]

/-- A text is split at the first mark, before which there is none. -/
theorem splitFirst_append {before : List Char} (absent : mark ∉ before) (after : List Char) :
    splitFirst mark (before ++ mark :: after) = some (before, after) := by
  induction before with
  | nil => simp [splitFirst]
  | cons c rest ih =>
    -- The character at the front is no mark, so the search goes on behind it.
    simp only [List.mem_cons, not_or] at absent
    simp [splitFirst, Ne.symm absent.1, ih absent.2]

/-- Only a text without the mark is not split. -/
theorem splitFirst_eq_none_iff {cs : List Char} : splitFirst mark cs = none ↔ mark ∉ cs := by
  refine ⟨fun whole present => ?_, splitFirst_of_notMem⟩
  -- If the mark stands there, it stands somewhere first.
  obtain ⟨before, after, rfl, absent⟩ := List.eq_append_cons_of_mem present
  rw [splitFirst_append absent] at whole
  cases whole

/-- How a text is split at the first mark. -/
theorem splitFirst_eq_some_iff {cs before after : List Char} :
    splitFirst mark cs = some (before, after) ↔ cs = before ++ mark :: after ∧ mark ∉ before := by
  constructor
  · intro split
    -- Only a text that holds the mark is split, and it is split where the mark stands first.
    have present : mark ∈ cs := by
      by_contra absent
      rw [splitFirst_eq_none_iff.2 absent] at split
      cases split
    obtain ⟨front, back, rfl, absent⟩ := List.eq_append_cons_of_mem present
    rw [splitFirst_append absent] at split
    cases split
    exact ⟨rfl, absent⟩
  · rintro ⟨rfl, absent⟩
    exact splitFirst_append absent after

/-- Texts are as long as what they are joined to, with one character more for each of them but one. -/
theorem sum_length_intercalate {parts : List (List Char)} (mark : Char) (some : parts ≠ []) :
    (parts.map fun part => part.length + 1).sum = ([mark].intercalate parts).length + 1 := by
  induction parts with
  | nil => exact absurd rfl some
  | cons part parts ih =>
    cases parts with
    | nil => simp
    | cons next parts =>
      -- A mark is put behind each text that another one follows.
      have others := ih (by simp)
      rw [List.map_cons, List.sum_cons, others, List.intercalate_cons_cons, List.length_append,
        List.length_append, List.length_singleton]
      omega

/-- The parts of a text are as long as the text, with one character more for each of them but one. -/
theorem sum_length_splitOn (mark : Char) (cs : List Char) :
    ((cs.splitOn mark).map fun part => part.length + 1).sum = cs.length + 1 := by
  rw [sum_length_intercalate mark (List.splitOn_ne_nil mark cs), List.intercalate_splitOn mark]

/-- Texts joined by a mark: the mark stands behind each text before a given one, and in front of each
text behind it. -/
theorem intercalate_append_cons (earlier later : List (List Char)) (part : List Char) :
    [mark].intercalate (earlier ++ part :: later) =
      earlier.flatMap (· ++ [mark]) ++ part ++ later.flatMap (mark :: ·) := by
  -- The texts in front come off one by one, and then those behind.
  have behind (part : List Char) :
      [mark].intercalate (part :: later) = part ++ later.flatMap (mark :: ·) := by
    induction later generalizing part with
    | nil => simp
    | cons next later ih => simp [List.intercalate_cons_cons, ih next]
  induction earlier with
  | nil => simp [behind]
  | cons first earlier ih =>
    obtain ⟨next, more, split⟩ := List.exists_cons_of_ne_nil
      (show earlier ++ part :: later ≠ [] by simp)
    rw [split] at ih
    simp [split, List.intercalate_cons_cons, ih]

/-- The parts of a text are what stands between its marks, and what stands before a part is as long as
the parts before it with one mark each. -/
theorem exists_parts_iff {cs part : List Char} {count : Nat} :
    (∃ earlier later, cs.splitOn mark = earlier ++ part :: later ∧
      (earlier.map fun other => other.length + 1).sum = count) ↔
    ∃ before after, cs = before ++ part ++ after ∧ before.length = count ∧ mark ∉ part ∧
      (before = [] ∨ ∃ front, before = front ++ [mark]) ∧
      (after = [] ∨ ∃ rest, after = mark :: rest) := by
  constructor
  · rintro ⟨earlier, later, parts, rfl⟩
    have whole : [mark].intercalate (cs.splitOn mark) = cs := List.intercalate_splitOn mark
    rw [parts, intercalate_append_cons] at whole
    have member : part ∈ cs.splitOn mark := by simp [parts]
    -- No part holds a mark, or it would have been split there.
    have bare : mark ∉ part := fun inside => (mem_of_mem_splitOn member mark inside).2 rfl
    refine ⟨_, _, whole.symm, by simp [List.length_flatMap], bare, ?_, ?_⟩
    · rcases List.eq_nil_or_concat' earlier with rfl | ⟨earlier, last, rfl⟩
      · exact .inl rfl
      · exact .inr ⟨earlier.flatMap (· ++ [mark]) ++ last, by simp⟩
    · cases later with
      | nil => exact .inl rfl
      | cons next later => exact .inr ⟨next ++ later.flatMap (mark :: ·), rfl⟩
  · rintro ⟨before, after, rfl, rfl, bare, front, back⟩
    -- The mark behind the part ends it, and the mark in front of it starts it.
    obtain ⟨later, parts⟩ : ∃ later, (part ++ after).splitOn mark = part :: later := by
      rcases back with rfl | ⟨rest, rfl⟩
      · exact ⟨[], by rw [List.append_nil, List.splitOn_eq_singleton bare]⟩
      · exact ⟨rest.splitOn mark, by rw [List.splitOn_append_cons_self, List.splitOn_eq_singleton bare]; rfl⟩
    rcases front with rfl | ⟨front, rfl⟩
    · exact ⟨[], later, parts, rfl⟩
    · refine ⟨front.splitOn mark, later, ?_, ?_⟩
      · rw [List.append_assoc, List.append_assoc, List.singleton_append, List.splitOn_append_cons_self, parts]
      · rw [sum_length_splitOn]
        simp

/-- A text up to its first mark. -/
theorem exists_firstPart (mark : Char) (cs : List Char) : ∃ part after, cs = part ++ after ∧
    mark ∉ part ∧ (after = [] ∨ ∃ rest, after = mark :: rest) := by
  -- Either the mark stands there, or all of the text is the part.
  by_cases present : mark ∈ cs
  · obtain ⟨part, rest, rfl, absent⟩ := List.eq_append_cons_of_mem present
    exact ⟨part, mark :: rest, rfl, absent, .inr ⟨rest, rfl⟩⟩
  · exact ⟨cs, [], (List.append_nil cs).symm, present, .inl rfl⟩

/-- A text behind its last mark. -/
theorem exists_lastPart (mark : Char) (cs : List Char) : ∃ before part, cs = before ++ part ∧
    mark ∉ part ∧ (before = [] ∨ ∃ front, before = front ++ [mark]) := by
  obtain ⟨part, after, split, absent, back⟩ := exists_firstPart mark cs.reverse
  -- Read from its end, the text starts with its last part.
  refine ⟨after.reverse, part.reverse, ?_, by simpa using absent, ?_⟩
  · rw [← List.reverse_append, ← split, List.reverse_reverse]
  · rcases back with rfl | ⟨rest, rfl⟩
    · exact .inl rfl
    · exact .inr ⟨rest.reverse, List.reverse_cons⟩

/-- Read from the end, the last part of a text comes before its last mark. -/
theorem takeWhile_reverse_lastPart {before part : List Char} (absent : mark ∉ part)
    (front : before = [] ∨ ∃ front, before = front ++ [mark]) :
    (before ++ part).reverse.takeWhile (· != mark) = part.reverse := by
  have bare : ∀ c ∈ part.reverse, (c != mark) = true := by
    intro c inside
    have other : c ≠ mark := fun same => absent (same ▸ List.mem_reverse.1 inside)
    simpa using other
  -- Behind the part, read from the end, stands a mark or nothing.
  rw [List.reverse_append, List.takeWhile_append_of_pos bare]
  rcases front with rfl | ⟨front, rfl⟩ <;> simp

end AuditStage.Text
