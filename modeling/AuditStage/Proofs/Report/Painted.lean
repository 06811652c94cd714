import AuditStage.Report.Style

/-! Texts drawn in colour: what is drawn can be told from how it is drawn, whatever codes it holds itself. -/

namespace AuditStage.Style

variable {style : Style} {text other : List Char}

/-- Behind a code that ends a style, the style begins anew. -/
theorem reopen_closing (style : Style) (rest : List Char) :
    style.reopen (closing ++ rest) = closing ++ (style.opening ++ style.reopen rest) := by
  show style.reopen ('\x1b' :: '[' :: '0' :: 'm' :: rest) = _
  rw [reopen, List.append_assoc]

/-- A character with which no such code begins is kept. -/
theorem reopen_cons {c : Char} (apart : ¬closing <+: c :: text) :
    style.reopen (c :: text) = c :: style.reopen text := by
  rw [reopen]
  -- The other equation is for a text that begins with the code.
  rintro rest rfl rfl
  exact apart ⟨rest, rfl⟩

/-- Only a blank text is blank in a style. -/
theorem reopen_eq_nil : style.reopen text = [] ↔ text = [] := by
  constructor
  · intro blank
    -- A code is kept, and so is any other character.
    by_cases ends : closing <+: text
    · obtain ⟨rest, rfl⟩ := ends
      rw [reopen_closing] at blank
      cases blank
    · cases text with
      | nil => rfl
      | cons c text =>
        rw [reopen_cons ends] at blank
        cases blank
  · rintro rfl
    rfl

/-- A mark that holds no code stands in front of a text if it does once the style has begun anew. -/
theorem prefix_of_reopen {mark : List Char} (bare : '\x1b' ∉ mark)
    (start : mark <+: style.reopen text) : mark <+: text := by
  induction mark generalizing text with
  | nil => exact List.nil_prefix
  | cons m mark ih =>
    simp only [List.mem_cons, not_or] at bare
    by_cases ends : closing <+: text
    · -- In front of the text there is a code, and so there is in a style.
      obtain ⟨rest, rfl⟩ := ends
      rw [reopen_closing] at start
      exact absurd (List.cons_prefix_cons.1 start).1.symm bare.1
    · -- What stands in front of the text is kept, so it is what the mark starts with.
      cases text with
      | nil => exact absurd (List.prefix_nil.1 start) (List.cons_ne_nil m mark)
      | cons c text =>
        rw [reopen_cons ends, List.cons_prefix_cons] at start
        exact List.cons_prefix_cons.2 ⟨start.1, ih bare.2 start.2⟩

/-- A text begins with the code that ends a style exactly if it does once the style has begun anew. -/
theorem closing_prefix_reopen : closing <+: style.reopen text ↔ closing <+: text := by
  constructor
  · intro start
    by_cases ends : closing <+: text
    · exact ends
    · cases text with
      | nil => exact start
      | cons c text =>
        -- The first character is kept, and no other code stands in the rest of the code.
        rw [reopen_cons ends] at start
        obtain ⟨first, further⟩ := List.cons_prefix_cons.1 start
        have bare : '\x1b' ∉ ['[', '0', 'm'] := by decide
        exact List.cons_prefix_cons.2 ⟨first, prefix_of_reopen bare further⟩
  · rintro ⟨rest, rfl⟩
    rw [reopen_closing]
    exact List.prefix_append _ _

/-- Texts that are one text once the style has begun anew are one text. -/
theorem reopen_injective (style : Style) : Function.Injective style.reopen := by
  intro text other same
  -- The induction is on how the first of the two is read, and the other begins as that does.
  induction text using reopen.induct generalizing other with
  | case1 rest ih =>
    -- The code at the front of the one is at the front of the other too.
    have ends : closing <+: style.reopen other := same ▸ closing_prefix_reopen.2 ⟨rest, rfl⟩
    obtain ⟨rest', rfl⟩ := closing_prefix_reopen.1 ends
    have further : style.reopen (closing ++ rest) = style.reopen (closing ++ rest') := same
    rw [reopen_closing, reopen_closing] at further
    rw [ih (List.append_cancel_left (List.append_cancel_left further))]
    rfl
  | case2 c rest kept ih =>
    -- Neither begins with a code, so both keep their first character.
    have apart : ¬closing <+: c :: rest := by
      rintro ⟨more, split⟩
      obtain ⟨first, further⟩ := List.cons.inj split
      exact kept more first.symm further.symm
    have apart' : ¬closing <+: other := by
      intro ends
      exact apart (closing_prefix_reopen.1 (same ▸ closing_prefix_reopen.2 ends))
    cases other with
    | nil => exact reopen_eq_nil.1 same
    | cons c' rest' =>
      rw [reopen_cons apart, reopen_cons apart'] at same
      obtain ⟨rfl, further⟩ := List.cons.inj same
      rw [ih further]
  | case3 => exact (reopen_eq_nil.1 same.symm).symm

/-- Texts that are drawn alike in one style are one text. -/
theorem paint_injective (style : Style) (colored : Bool) :
    Function.Injective (style.paint colored) := by
  intro text other same
  unfold paint at same
  cases colored with
  | false => exact same
  | true =>
    -- The codes around the text are those of the style.
    have drawn := String.ofList_injective same
    rw [List.append_assoc, List.append_assoc] at drawn
    have inside := List.append_cancel_right (List.append_cancel_left drawn)
    exact String.toList_injective (reopen_injective style inside)

end AuditStage.Style
