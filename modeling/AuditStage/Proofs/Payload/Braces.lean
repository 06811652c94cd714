import AuditStage.Payload
import AuditStage.Proofs.Text.Trim
import Mathlib.Data.List.Induction

/-! The braces around published text: which of them are taken for an extra pair, and what is left
without it. -/

namespace AuditStage.Payload

open Text (isBlank)

/-- A text stands between braces if it consists of them and something within. -/
theorem isBraced_iff {text : List Char} :
    isBraced text = true ↔ ∃ inner, text = '\x7b' :: (inner ++ ['\x7d']) := by
  simp only [isBraced, Bool.and_eq_true, beq_iff_eq]
  constructor
  · rintro ⟨opened, closed⟩
    obtain ⟨rest, rfl⟩ := List.head?_eq_some_iff.1 opened
    -- The closing brace is not the opening one, so it stands further on.
    cases rest using List.reverseRecOn with
    | nil => simp at closed
    | append_singleton inner last =>
      rw [← List.cons_append, List.getLast?_concat] at closed
      cases closed
      exact ⟨inner, rfl⟩
  · rintro ⟨inner, rfl⟩
    rw [← List.cons_append, List.getLast?_concat]
    exact ⟨rfl, rfl⟩

/-- Braces around a text are one of two pairs exactly if the text stands between braces itself. -/
theorem isDoubled_wrapped (inner : List Char) :
    isDoubled ('\x7b' :: (inner ++ ['\x7d'])) = isBraced inner := by
  cases inner with
  | nil => rfl
  | cons first rest =>
    cases rest using List.reverseRecOn with
    | nil =>
      -- One character is not both braces.
      have other : ¬(first = '\x7b' ∧ first = '\x7d') := by rintro ⟨rfl, same⟩; cases same
      simpa [isDoubled, isBraced] using other
    | append_singleton middle last =>
      have ends : (first :: (middle ++ [last])).getLast? = some last := by
        rw [← List.cons_append, List.getLast?_concat]
      rw [isBraced, ends]
      simp [isDoubled, List.isSuffixOf, List.isPrefixOf, Bool.beq_comm]

/-- A text between braces loses a pair of them exactly if another one stands within. -/
theorem unwrap_wrapped (inner : List Char) :
    unwrap ('\x7b' :: (inner ++ ['\x7d'])) =
      if isBraced inner then inner else '\x7b' :: (inner ++ ['\x7d']) := by
  -- What is left without the first and the last character is what stood between them.
  rw [unwrap, isDoubled_wrapped]
  exact if_congr Iff.rfl (by simp) rfl

/-- A text between braces still opens with one when it has lost a pair of them. -/
theorem head?_unwrap {text : List Char} (braced : isBraced text = true) :
    (unwrap text).head? = some '\x7b' := by
  -- An inner pair is what remains of two.
  obtain ⟨inner, rfl⟩ := isBraced_iff.1 braced
  rw [unwrap_wrapped]
  split
  · rename_i doubled
    obtain ⟨innermost, rfl⟩ := isBraced_iff.1 doubled
    rfl
  · rfl

/-- Blanks around a text between braces are all that trimming drops. -/
theorem trim_braced {before after text : List Char} (front : ∀ c ∈ before, isBlank c = true)
    (back : ∀ c ∈ after, isBlank c = true) (braced : isBraced text = true) :
    Text.trim (before ++ text ++ after) = text := by
  simp only [isBraced, Bool.and_eq_true, beq_iff_eq] at braced
  exact Text.trim_between front back braced.1 braced.2 rfl rfl

/-- Another pair of braces around a text that has not got two makes no difference to what is read
from it, nor do blanks around them. -/
theorem parse_wrapped {before after text : List Char} (front : ∀ c ∈ before, isBlank c = true)
    (back : ∀ c ∈ after, isBlank c = true) (braced : isBraced text = true) (contractName : String) :
    parse (String.ofList (before ++ '\x7b' :: (text ++ ['\x7d']) ++ after)) contractName =
      ofJson text := by
  have wrapped : isBraced ('\x7b' :: (text ++ ['\x7d'])) = true := isBraced_iff.2 ⟨text, rfl⟩
  have trimmed := trim_braced front back wrapped
  rw [parse, isStructured, String.toList_ofList, trimmed, if_pos wrapped, unwrap_wrapped,
    if_pos braced]

/-- Blanks around a text between braces make no difference to what is read from it. -/
theorem parse_braced {before after text : List Char} (front : ∀ c ∈ before, isBlank c = true)
    (back : ∀ c ∈ after, isBlank c = true) (braced : isBraced text = true) (contractName : String) :
    parse (String.ofList (before ++ text ++ after)) contractName = ofJson (unwrap text) := by
  have trimmed := trim_braced front back braced
  rw [parse, isStructured, String.toList_ofList, trimmed, if_pos braced]

end AuditStage.Payload
