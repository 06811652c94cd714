import AuditStage.Proofs.Text.Split
import AuditStage.Proofs.Text.Trim
import AuditStage.Toolchain.Version

/-! Which lines are read as directives, and what is taken from them. Main statement: a line gives an
expression exactly if it starts, behind blanks, with the whole of a directive. -/

namespace AuditStage.Version

open Text (isBlank splitFirst)

variable {cs rest line : List Char}

/-- A directive as it is written: the blanks between its two words, and all that stands between the
second word and the semicolon. -/
structure Directive where
  gap : List Char
  body : List Char
deriving Repr, DecidableEq

namespace Directive

/-- A directive from its first word to its semicolon. -/
def text (directive : Directive) : List Char :=
  "pragma".toList ++ directive.gap ++ "solidity".toList ++ directive.body ++ [';']

/-- The expression of a directive, without the blanks around it. -/
def expression (directive : Directive) : List Char :=
  Text.trim directive.body

/-- Blanks part the first word from the second one, and the second one from what follows. -/
structure Parted (directive : Directive) : Prop where
  some : directive.gap ≠ []
  blank : ∀ c ∈ directive.gap, isBlank c = true
  opened : directive.body.head?.any isBlank = true

/-- Behind a directive a text goes on behind its semicolon. -/
theorem text_append (directive : Directive) (after : List Char) :
    directive.text ++ after = "pragma".toList ++ (directive.gap ++ ("solidity".toList ++
      (directive.body ++ ';' :: after))) := by
  unfold text
  -- The letters of the two words play no part.
  generalize "pragma".toList = first
  generalize "solidity".toList = second
  simp

end Directive

/-- A line is read as a directive: behind blanks it starts with the whole of it, up to the first
semicolon behind its second word. -/
def ReadAs (line : List Char) (directive : Directive) : Prop :=
  ∃ lead after, (∀ c ∈ lead, isBlank c = true) ∧ line = lead ++ directive.text ++ after ∧
    directive.Parted ∧ ';' ∉ directive.body ∧ 2 ≤ directive.body.length

/-- A text is what it is behind a word exactly if the word stands at its front. -/
theorem dropWord_eq_some_iff {word : List Char} : dropWord word cs = some rest ↔ cs = word ++ rest := by
  unfold dropWord
  split
  · rename_i front
    -- The word is at the front, so what is dropped is the word.
    obtain ⟨more, rfl⟩ := List.isPrefixOf_iff_prefix.1 front
    simp
  · rename_i other
    refine ⟨nofun, fun split => absurd ?_ other⟩
    exact List.isPrefixOf_iff_prefix.2 (split ▸ List.prefix_append word rest)

/-- A word is dropped from in front of any text. -/
theorem dropWord_append (word cs : List Char) : dropWord word (word ++ cs) = some cs :=
  dropWord_eq_some_iff.2 rfl

/-- A text is what it is behind blanks exactly if there are some, and none follows them. -/
theorem dropBlanks_eq_some_iff : dropBlanks cs = some rest ↔
    ∃ gap, gap ≠ [] ∧ (∀ c ∈ gap, isBlank c = true) ∧ cs = gap ++ rest ∧
      ∀ c, rest.head? = some c → isBlank c = false := by
  unfold dropBlanks
  constructor
  · intro dropped
    obtain ⟨front, kept⟩ := Option.ite_none_right_eq_some.1 dropped
    obtain rfl : Text.trimStart cs = rest := Option.some.inj kept
    refine ⟨cs.takeWhile isBlank, ?_, fun c member => ?_, ?_, fun c first => ?_⟩
    · -- The first character is a blank, and so it is taken.
      cases cs with
      | nil => simp at front
      | cons c cs => simp_all
    · exact List.mem_takeWhile_imp member
    · exact List.takeWhile_append_dropWhile.symm
    · have stop := List.head?_dropWhile_not isBlank cs
      simp only [Text.trimStart] at first
      simpa [first] using stop
  · rintro ⟨gap, some, blank, rfl, stop⟩
    obtain ⟨first, more, rfl⟩ := List.exists_cons_of_ne_nil some
    have front : isBlank first = true := blank first (by simp)
    -- Nothing of the rest is dropped, since it starts with no blank.
    have kept : Text.trimStart rest = rest := by
      cases rest with
      | nil => rfl
      | cons c rest => simp [Text.trimStart, stop c rfl]
    rw [Text.trimStart_append blank, kept]
    simp [front]

/-- Blanks in front of the first word of a directive are dropped, and nothing else. -/
theorem trimStart_pragma {lead : List Char} (blank : ∀ c ∈ lead, isBlank c = true)
    (cs : List Char) : Text.trimStart (lead ++ ("pragma".toList ++ cs)) = "pragma".toList ++ cs := by
  have visible : isBlank 'p' = false := by decide
  -- The word itself starts with no blank.
  rw [Text.trimStart_append blank]
  simp [Text.trimStart, visible]

/-- The blanks in front of the second word of a directive are dropped, and nothing else. -/
theorem dropBlanks_solidity {gap : List Char} (some : gap ≠ [])
    (blank : ∀ c ∈ gap, isBlank c = true) (cs : List Char) :
    dropBlanks (gap ++ ("solidity".toList ++ cs)) = Option.some ("solidity".toList ++ cs) := by
  have visible : isBlank 's' = false := by decide
  refine dropBlanks_eq_some_iff.2 ⟨gap, some, blank, rfl, fun c first => ?_⟩
  have same : 's' = c := by simpa using first
  exact same ▸ visible

/-- A line gives an expression exactly if it is read as a directive with this expression. -/
theorem lineExpression?_eq_some_iff {expression : List Char} :
    lineExpression? line = some expression ↔
      ∃ directive, ReadAs line directive ∧ directive.expression = expression := by
  constructor
  · intro read
    -- Every step of the reading takes one part of the directive off the front.
    simp only [lineExpression?, Option.bind_eq_bind, Option.bind_eq_some_iff, Prod.exists,
      dropWord_eq_some_iff, dropBlanks_eq_some_iff, Text.splitFirst_eq_some_iff,
      Option.ite_none_right_eq_some, Bool.and_eq_true, decide_eq_true_eq, Option.some.injEq] at read
    obtain ⟨_, start, _, ⟨gap, some, blank, rfl, -⟩, _, rfl, body, after, ⟨rfl, absent⟩,
      ⟨opened, long⟩, same⟩ := read
    -- The blanks at the front are what was taken before the first word.
    have front := List.takeWhile_append_dropWhile (p := isBlank) (l := line)
    rw [Text.trimStart] at start
    rw [start] at front
    refine ⟨⟨gap, body⟩, ⟨line.takeWhile isBlank, after, fun c member => ?_, ?_,
      ⟨some, blank, opened⟩, absent, long⟩, same⟩
    · exact List.mem_takeWhile_imp member
    · rw [List.append_assoc, Directive.text_append]
      exact front.symm
  · rintro ⟨directive, ⟨lead, after, blanks, split, parted, absent, long⟩, same⟩
    rw [List.append_assoc, Directive.text_append] at split
    -- The other way round, each step takes off the part that has been put there.
    rw [lineExpression?, split, trimStart_pragma blanks]
    simp only [dropWord_append, dropBlanks_solidity parted.some parted.blank,
      Text.splitFirst_append absent, Option.bind_eq_bind, Option.bind_some, parted.opened,
      decide_eq_true long, Bool.and_self, if_true]
    exact congrArg Option.some same

/-- Whatever stands at the end of a line, it makes no difference unless it is a semicolon. -/
theorem readAs_concat {c : Char} {directive : Directive} (other : c ≠ ';') :
    ReadAs (line ++ [c]) directive ↔ ReadAs line directive := by
  constructor
  · rintro ⟨lead, after, blanks, split, proper⟩
    -- The directive ends with its semicolon, so the last character stands behind it.
    rcases List.eq_nil_or_concat' after with rfl | ⟨after, last, rfl⟩
    · obtain ⟨front, spelled⟩ : ∃ front, directive.text = front ++ [';'] := ⟨_, rfl⟩
      have ends : (lead ++ directive.text ++ []).getLast? = some ';' := by simp [spelled]
      rw [← split, List.getLast?_concat] at ends
      exact absurd (Option.some.inj ends) other
    · rw [← List.append_assoc] at split
      exact ⟨lead, after, blanks, (List.append_inj' split rfl).1, proper⟩
  · rintro ⟨lead, after, blanks, rfl, proper⟩
    exact ⟨lead, after ++ [c], blanks, by simp, proper⟩

/-- A line is read in the same way with the carriage return at its end. -/
theorem lineExpression?_dropReturn (line : List Char) :
    lineExpression? (Text.dropReturn line) = lineExpression? line := by
  unfold Text.dropReturn
  split
  · rename_i ends
    -- A carriage return is no semicolon, so both lines are read as the same directives.
    obtain ⟨front, rfl⟩ := List.getLast?_eq_some_iff.1 ends
    apply Option.ext
    intro expression
    rw [List.dropLast_concat, lineExpression?_eq_some_iff, lineExpression?_eq_some_iff]
    simp only [readAs_concat (show '\r' ≠ ';' by decide)]
  · rfl

/-- Of the parts between line feeds, no more is read than of the lines, and no less. -/
theorem filterMap_lines (cs : List Char) :
    (Text.lines cs).filterMap lineExpression? = (cs.splitOn '\n').filterMap lineExpression? := by
  have empty : lineExpression? [] = none := rfl
  rcases List.eq_nil_or_concat' (cs.splitOn '\n') with none | ⟨ended, last, parts⟩
  · exact absurd none (List.splitOn_ne_nil _ cs)
  · -- The lines before the last one lose a carriage return, and the last one is left out if empty.
    have returns : (ended.map Text.dropReturn).filterMap lineExpression? =
        ended.filterMap lineExpression? := by
      rw [List.filterMap_map]
      exact List.filterMap_congr fun line _ => lineExpression?_dropReturn line
    cases last with
    | nil => simp [Text.lines, parts, returns, empty]
    | cons c last => simp [Text.lines, parts, returns]

/-- The expressions of a source text are those of what stands between its line feeds. -/
theorem expressions_lines (source : String) : expressions source =
    ((source.toList.splitOn '\n').filterMap lineExpression?).map String.ofList := by
  rw [← filterMap_lines, List.map_filterMap]
  rfl

end AuditStage.Version
