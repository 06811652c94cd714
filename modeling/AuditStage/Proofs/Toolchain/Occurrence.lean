import AuditStage.Proofs.Toolchain.Consensus
import AuditStage.Proofs.Toolchain.Directive
import Mathlib.Data.List.Sort

/-! Where directives stand in a source text, outside comments and literals, and which of them are read.
Main statement: a directive is read exactly if nothing but blanks stands before it on its line, it ends
on this line, and it holds no semicolon but its last one. -/

namespace AuditStage.Version

open Text (isBlank)

/-- What the next character of a source text is a part of. -/
inductive Mode where
  /-- Neither a comment nor a literal, and no letter stands before it. -/
  | code
  | word
  /-- Behind a slash, which may open a comment. -/
  | slash
  | lineComment
  | blockComment
  /-- In a block comment behind a star, which may close it. -/
  | star
  | literal (quote : Char)
  /-- In a literal behind a backslash. -/
  | escaped (quote : Char)
deriving Repr, DecidableEq

namespace Mode

/-- Outside comments and literals. -/
def isCode : Mode → Bool
  | code | word | slash => true
  | lineComment | blockComment | star | literal _ | escaped _ => false

/-- Outside comments and literals, and not in the middle of a word. -/
def startsWord : Mode → Bool
  | code | slash => true
  | word | lineComment | blockComment | star | literal _ | escaped _ => false

/-- What follows a character that is part of neither a comment nor a literal. -/
def ofCode (c : Char) : Mode :=
  if c = '/' then slash
  else if c = '"' || c = '\'' then literal c
  else if c.isAlphanum || c = '_' || c = '$' then word
  else code

/-- What follows a character. -/
def next : Mode → Char → Mode
  | code, c | word, c => ofCode c
  | slash, c => if c = '/' then lineComment else if c = '*' then blockComment else ofCode c
  | lineComment, c => if c = '\n' then code else lineComment
  | blockComment, c => if c = '*' then star else blockComment
  | star, c => if c = '/' then code else if c = '*' then star else blockComment
  -- A literal that is not closed ends with its line.
  | literal quote, c =>
    if c = '\\' then escaped quote else if c = quote || c = '\n' then code else literal quote
  | escaped quote, _ => literal quote

/-- What follows a text. -/
def after (mode : Mode) (cs : List Char) : Mode :=
  cs.foldl next mode

end Mode

/-- The parts of a text before and after the first semicolon outside comments and literals. -/
def splitStatement (mode : Mode) : List Char → Option (List Char × List Char)
  | [] => none
  | c :: cs =>
    if c = ';' && mode.isCode then some ([], cs)
    else (splitStatement (mode.next c) cs).map fun parts => (c :: parts.1, parts.2)

/-- The directive that a text starts with, if it starts with one: its expression is all that stands
between its second word and the semicolon, and is not empty. -/
def directive? (cs : List Char) : Option Directive := do
  let rest ← dropWord "pragma".toList cs
  let gap := rest.takeWhile isBlank
  let rest ← dropWord "solidity".toList (rest.dropWhile isBlank)
  let (body, _) ← splitStatement .word rest
  let directive : Directive := ⟨gap, body⟩
  if gap ≠ [] ∧ body.head?.any isBlank ∧ directive.expression ≠ [] then some directive else none

/-- A directive at its place: the number of characters before it. -/
structure Occurrence where
  place : Nat
  directive : Directive
deriving Repr, DecidableEq

/-- The directives that start behind a number of characters which are to be passed over. -/
def directivesFrom (mode : Mode) (skip place : Nat) : List Char → List Occurrence
  | [] => []
  | c :: cs =>
    match skip, if mode.startsWord then directive? (c :: cs) else none with
    -- What belongs to a directive starts no other one.
    | 0, some directive =>
      ⟨place, directive⟩ :: directivesFrom (mode.next c) (directive.text.length - 1) (place + 1) cs
    | skip, _ => directivesFrom (mode.next c) (skip - 1) (place + 1) cs

/-- All directives outside the comments and literals of a source text, in order, wherever they stand on
a line and however many lines they take. -/
def directives (source : String) : List Occurrence :=
  directivesFrom .code 0 0 source.toList

/-- An expression that is taken from a text, at the place where its directive starts. -/
structure Reading where
  place : Nat
  expression : List Char
deriving Repr, DecidableEq

/-- What a directive has to contribute. -/
def Occurrence.reading (occurrence : Occurrence) : Reading :=
  ⟨occurrence.place, occurrence.directive.expression⟩

/-- The expressions that lines contribute, at their places behind a number of characters. -/
def readingsFrom (place : Nat) : List (List Char) → List Reading
  | [] => []
  | line :: lines =>
    let later := readingsFrom (place + line.length + 1) lines
    match lineExpression? line with
    | some expression => ⟨place + (line.takeWhile isBlank).length, expression⟩ :: later
    | none => later

/-- The expressions that are taken from a source text, at their places. -/
def readings (source : String) : List Reading :=
  readingsFrom 0 (source.toList.splitOn '\n')

/-- A directive is written in a plain way: before it there are only blanks on its line, it ends on this
line, and no semicolon stands in a comment or literal inside it. -/
structure Occurrence.Plain (source : String) (occurrence : Occurrence) : Prop where
  leads : ∀ c ∈ (source.toList.take occurrence.place).reverse.takeWhile (· != '\n'), isBlank c = true
  whole : '\n' ∉ occurrence.directive.text
  single : ';' ∉ occurrence.directive.body

instance (source : String) (occurrence : Occurrence) : Decidable (occurrence.Plain source) :=
  decidable_of_iff
    (((source.toList.take occurrence.place).reverse.takeWhile (· != '\n')).all isBlank = true ∧
      '\n' ∉ occurrence.directive.text ∧ ';' ∉ occurrence.directive.body)
    ⟨fun ⟨leads, whole, single⟩ => ⟨List.all_eq_true.1 leads, whole, single⟩,
      fun plain => ⟨List.all_eq_true.2 plain.leads, plain.whole, plain.single⟩⟩

/-- Directives are found behind code and over several lines, but not in comments, literals or words. -/
example : (directives ("x; pragma solidity\n0.8.20 ; // pragma solidity 1.0.0;\n" ++
      "/* pragma solidity 2.0.0; **/ s = 'pragma solidity 3;'; xpragma solidity 4; pragma solidity 5;")).map
    (fun occurrence => (occurrence.place, String.ofList occurrence.directive.expression)) =
    [(3, "0.8.20"), (130, "5")] := by
  decide +kernel

variable {cs : List Char} {mode : Mode} {directive : Directive} {occurrence : Occurrence}

/-- A semicolon parts the text that it is found in. -/
theorem splitStatement_parts {body after : List Char}
    (split : splitStatement mode cs = some (body, after)) : cs = body ++ ';' :: after := by
  -- The mode changes with every character, so it stays open.
  induction cs generalizing mode body with
  | nil => simp [splitStatement] at split
  | cons c cs ih =>
    simp only [splitStatement] at split
    split at split
    · rename_i here
      simp only [Bool.and_eq_true, decide_eq_true_eq] at here
      cases split
      rw [here.1, List.nil_append]
    · -- Any other character goes to the front part.
      obtain ⟨⟨front, back⟩, later, same⟩ := Option.map_eq_some_iff.1 split
      cases same
      rw [ih later, List.cons_append]

/-- A text that a directive is found at starts with all of it. -/
theorem directive?_starts (found : directive? cs = some directive) :
    directive.Parted ∧ directive.expression ≠ [] ∧ ∃ after, cs = directive.text ++ after := by
  simp only [directive?, Option.bind_eq_bind, Option.bind_eq_some_iff, Prod.exists,
    dropWord_eq_some_iff, Option.ite_none_right_eq_some, Option.some.injEq] at found
  obtain ⟨rest, rfl, rest', split, body, after, parts, ⟨some, opened, filled⟩, rfl⟩ := found
  -- The parts are put together again in the order in which they were taken off.
  refine ⟨⟨some, fun c member => ?_, opened⟩, filled, after, ?_⟩
  · exact List.mem_takeWhile_imp member
  · -- The blanks between the words are what is taken and then dropped.
    have gap := List.takeWhile_append_dropWhile (p := isBlank) (l := rest)
    rw [split, splitStatement_parts parts] at gap
    rw [Directive.text_append, gap]

/-- Behind the characters that are passed over, every directive that is found stands at its place. -/
theorem mem_directivesFrom {skip place : Nat} (member : occurrence ∈ directivesFrom mode skip place cs) :
    occurrence.directive.Parted ∧ occurrence.directive.expression ≠ [] ∧
      ∃ before after, cs = before ++ occurrence.directive.text ++ after ∧
        occurrence.place = place + before.length := by
  -- The induction is on the text, whose first character may start a directive.
  induction cs generalizing mode skip place with
  | nil => simp [directivesFrom] at member
  | cons c cs ih =>
    -- A directive that starts later is found one place behind where it is found in the rest.
    have further {mode : Mode} {skip : Nat}
        (later : occurrence ∈ directivesFrom mode skip (place + 1) cs) :
        occurrence.directive.Parted ∧ occurrence.directive.expression ≠ [] ∧
          ∃ before after, c :: cs = before ++ occurrence.directive.text ++ after ∧
            occurrence.place = place + before.length := by
      obtain ⟨parted, filled, before, after, split, at_⟩ := ih later
      refine ⟨parted, filled, c :: before, after, by rw [split]; rfl, ?_⟩
      rw [at_, List.length_cons]
      omega
    simp only [directivesFrom] at member
    split at member
    · rename_i directive found
      rcases List.mem_cons.1 member with rfl | later
      · obtain ⟨parted, filled, after, split⟩ :=
          directive?_starts (Option.ite_none_right_eq_some.1 found).2
        exact ⟨parted, filled, [], after, split, rfl⟩
      · exact further later
    · exact further member

/-- Directives are found in the order of their places. -/
theorem pairwise_directivesFrom (cs : List Char) (mode : Mode) (skip place : Nat) :
    (directivesFrom mode skip place cs).Pairwise fun one other => one.place < other.place := by
  induction cs generalizing mode skip place with
  | nil => exact .nil
  | cons c cs ih =>
    simp only [directivesFrom]
    split
    · refine List.pairwise_cons.2 ⟨fun other later => ?_, ih _ _ _⟩
      -- What is found behind a character stands at least one place behind it.
      obtain ⟨-, -, before, after, -, at_⟩ := mem_directivesFrom later
      rw [at_]
      simp only
      omega
    · exact ih _ _ _

/-- The expressions are those of the lines, whatever their places are. -/
theorem map_readingsFrom (place : Nat) (lines : List (List Char)) :
    (readingsFrom place lines).map Reading.expression = lines.filterMap lineExpression? := by
  induction lines generalizing place with
  | nil => rfl
  | cons line lines ih =>
    cases read : lineExpression? line <;> simp [readingsFrom, read, ih]

/-- A line contributes its expression at the place where the blanks at its front end. -/
theorem mem_readingsFrom {reading : Reading} {place : Nat} {lines : List (List Char)} :
    reading ∈ readingsFrom place lines ↔ ∃ earlier line later, lines = earlier ++ line :: later ∧
      lineExpression? line = some reading.expression ∧
      reading.place = place + (earlier.map fun other => other.length + 1).sum +
        (line.takeWhile isBlank).length := by
  induction lines generalizing place with
  | nil => simp [readingsFrom]
  | cons line lines ih =>
    -- The expressions are that of the first line, if it has one, and those of the others.
    have step : reading ∈ readingsFrom place (line :: lines) ↔
        (lineExpression? line = some reading.expression ∧
          reading.place = place + (line.takeWhile isBlank).length) ∨
        reading ∈ readingsFrom (place + line.length + 1) lines := by
      cases read : lineExpression? line with
      | none => simp [readingsFrom, read]
      | some expression =>
        obtain ⟨at_, taken⟩ := reading
        simp only [readingsFrom, read, List.mem_cons, Reading.mk.injEq, Option.some.injEq]
        exact or_congr_left ⟨fun same => ⟨same.2.symm, same.1⟩, fun same => ⟨same.2, same.1.symm⟩⟩
    rw [step, ih]
    constructor
    · -- The line is the first one, or one of those behind it.
      rintro (⟨read, at_⟩ | ⟨earlier, other, later, rfl, read, at_⟩)
      · exact ⟨[], line, lines, rfl, read, at_⟩
      · refine ⟨line :: earlier, other, later, rfl, read, ?_⟩
        rw [at_, List.map_cons, List.sum_cons]
        omega
    · rintro ⟨earlier, other, later, split, read, at_⟩
      cases earlier with
      | nil =>
        cases split
        exact .inl ⟨read, at_⟩
      | cons first earlier =>
        cases split
        refine .inr ⟨earlier, other, later, rfl, read, ?_⟩
        rw [at_, List.map_cons, List.sum_cons]
        omega

/-- Expressions are taken from a text in the order of their places. -/
theorem pairwise_readingsFrom (lines : List (List Char)) (place : Nat) :
    (readingsFrom place lines).Pairwise fun one other => one.place < other.place := by
  induction lines generalizing place with
  | nil => exact .nil
  | cons line lines ih =>
    simp only [readingsFrom]
    split
    · refine List.pairwise_cons.2 ⟨fun other later => ?_, ih _⟩
      obtain ⟨earlier, _, _, -, -, at_⟩ := mem_readingsFrom.1 later
      -- The blanks at the front of a line are no longer than the line.
      have short := (List.takeWhile_prefix isBlank (l := line)).length_le
      rw [at_]
      simp only
      omega
    · exact ih _

/-- Blanks and no more stand before a directive that a line is read as. -/
theorem takeWhile_lead {lead : List Char} (blank : ∀ c ∈ lead, isBlank c = true)
    (directive : Directive) (after : List Char) :
    (lead ++ (directive.text ++ after)).takeWhile isBlank = lead := by
  have visible : isBlank 'p' = false := by decide
  obtain ⟨rest, spelled⟩ : ∃ rest, directive.text ++ after = 'p' :: rest := by
    rw [Directive.text_append]
    exact ⟨_, rfl⟩
  -- All of the blanks are taken, and the letter behind them is not.
  rw [List.takeWhile_append_of_pos blank, spelled]
  simp [visible]

/-- A directive has only one semicolon if there is none in its body. -/
theorem splitFirst_text (parted : directive.Parted) (single : ';' ∉ directive.body)
    (after : List Char) : ∃ front, directive.text = front ++ [';'] ∧
      Text.splitFirst ';' (directive.text ++ after) = some (front, after) := by
  have visible : isBlank ';' = false := by decide
  have gap : ';' ∉ directive.gap := fun inside => by simp [parted.blank _ inside] at visible
  -- Neither the words nor the blanks between them hold a semicolon.
  have first : ';' ∉ "pragma".toList := by decide
  have second : ';' ∉ "solidity".toList := by decide
  obtain ⟨front, spelled, absent⟩ : ∃ front, directive.text = front ++ [';'] ∧ ';' ∉ front := by
    refine ⟨"pragma".toList ++ directive.gap ++ "solidity".toList ++ directive.body, rfl, ?_⟩
    simp only [List.mem_append, not_or]
    exact ⟨⟨⟨first, gap⟩, second⟩, single⟩
  -- So the first semicolon is the one at the end of the directive.
  refine ⟨front, spelled, ?_⟩
  rw [spelled, List.append_assoc]
  exact Text.splitFirst_append absent after

/-- A directive whose expression is taken at its place is written in a plain way. -/
theorem plain_of_reading {source : String} {before after : List Char} (parted : directive.Parted)
    (split : source.toList = before ++ directive.text ++ after)
    (member : (⟨before.length, directive.expression⟩ : Reading) ∈ readings source) :
    Occurrence.Plain source ⟨before.length, directive⟩ := by
  obtain ⟨earlier, line, later, parts, read, at_⟩ := mem_readingsFrom.1 member
  obtain ⟨front, back, whole, count, bare, opened, -⟩ :=
    Text.exists_parts_iff.1 ⟨earlier, later, parts, rfl⟩
  obtain ⟨other, ⟨lead, rest, blank, rfl, otherParted, single, -⟩, same⟩ :=
    lineExpression?_eq_some_iff.1 read
  -- The directive that the line is read as stands at the same place, so it starts the same text.
  rw [List.append_assoc, takeWhile_lead blank, ← count] at at_
  have texts : before ++ (directive.text ++ after) =
      (front ++ lead) ++ (other.text ++ (rest ++ back)) := by
    rw [← List.append_assoc, ← split, whole]
    simp only [List.append_assoc]
  obtain ⟨rfl, starts⟩ := List.append_inj texts (by simpa using at_)
  have visible : isBlank ';' = false := by decide
  -- The expressions are the same, so a second semicolon would stand in both of them.
  have same : Text.trim other.body = Text.trim directive.body := same
  have alone : ';' ∉ directive.body := by
    rw [← Text.mem_trim visible, ← same, Text.mem_trim visible]
    exact single
  -- With one semicolon in each, both directives end at the same one.
  obtain ⟨one, spelled, first⟩ := splitFirst_text parted alone after
  obtain ⟨two, otherSpelled, second⟩ := splitFirst_text otherParted single (rest ++ back)
  rw [starts, second] at first
  obtain ⟨rfl, -⟩ := Prod.mk.inj (Option.some.inj first)
  have outside : '\n' ∉ lead ∧ '\n' ∉ other.text := by
    simp only [List.mem_append, not_or] at bare
    exact bare.1
  -- What stands before it on its line is what the line was found to start with.
  refine ⟨fun c inside => ?_, by rw [spelled, ← otherSpelled]; exact outside.2, alone⟩
  rw [split, List.append_assoc, List.take_left,
    Text.takeWhile_reverse_lastPart outside.1 opened] at inside
  exact blank c (List.mem_reverse.1 inside)

/-- The expression of a directive that is written in a plain way is taken at its place. -/
theorem reading_of_plain {source : String} {before after : List Char} (parted : directive.Parted)
    (filled : directive.expression ≠ []) (split : source.toList = before ++ directive.text ++ after)
    (plain : Occurrence.Plain source ⟨before.length, directive⟩) :
    (⟨before.length, directive.expression⟩ : Reading) ∈ readings source := by
  obtain ⟨leads, whole, single⟩ := plain
  obtain ⟨front, lead, rfl, bare, opened⟩ := Text.exists_lastPart '\n' before
  obtain ⟨rest, back, rfl, clear, closed⟩ := Text.exists_firstPart '\n' after
  -- What stands around the directive on its line makes a line with it.
  have blank : ∀ c ∈ lead, isBlank c = true := by
    intro c inside
    apply leads c
    rw [split, List.append_assoc, List.take_left, Text.takeWhile_reverse_lastPart bare opened]
    exact List.mem_reverse.2 inside
  obtain ⟨c, first, opens⟩ := (Option.any_eq_true _ _).1 parted.opened
  -- The expression is not empty, so the body holds at least a blank and a character.
  have long : 2 ≤ directive.body.length := by
    have shorter := Text.length_trim_lt first opens
    have some := List.length_pos_of_ne_nil filled
    rw [Directive.expression] at some
    omega
  have line : '\n' ∉ lead ++ directive.text ++ rest := by
    simp only [List.mem_append, not_or]
    exact ⟨⟨bare, whole⟩, clear⟩
  have spelled : source.toList = front ++ (lead ++ directive.text ++ rest) ++ back := by
    rw [split]
    simp only [List.append_assoc]
  obtain ⟨earlier, later, parts, count⟩ :=
    Text.exists_parts_iff.2 ⟨front, back, spelled, rfl, line, opened, closed⟩
  refine mem_readingsFrom.2 ⟨earlier, _, later, parts,
    lineExpression?_eq_some_iff.2 ⟨directive, ⟨lead, rest, blank, rfl, parted, single, long⟩, rfl⟩, ?_⟩
  rw [List.append_assoc, takeWhile_lead blank, count, List.length_append, Nat.zero_add]

/-- The expression of a directive is taken at its place exactly if the directive is written in a plain
way. -/
theorem reading_mem_iff {source : String} (member : occurrence ∈ directives source) :
    occurrence.reading ∈ readings source ↔ occurrence.Plain source := by
  -- A directive that was found stands at its place.
  obtain ⟨parted, filled, before, after, split, at_⟩ := mem_directivesFrom member
  rw [Nat.zero_add] at at_
  obtain ⟨place, directive⟩ := occurrence
  obtain rfl : place = before.length := at_
  exact ⟨plain_of_reading parted split, reading_of_plain parted filled split⟩

/-- Every directive contributes one expression of its own, and they do so in order, exactly if all of
them are written in a plain way. -/
theorem sublist_readings_iff (source : String) :
    ((directives source).map Occurrence.reading).Sublist (readings source) ↔
      ∀ occurrence ∈ directives source, occurrence.Plain source := by
  constructor
  · intro contributes occurrence member
    exact (reading_mem_iff member).1 (contributes.subset (List.mem_map_of_mem member))
  · intro plain
    have inside : (directives source).map Occurrence.reading ⊆ readings source := by
      intro reading member
      obtain ⟨occurrence, found, rfl⟩ := List.mem_map.1 member
      exact (reading_mem_iff found).2 (plain occurrence found)
    -- Both lists are in the order of the places, so one that is contained is a part in order.
    have rising : ((directives source).map Occurrence.reading).Pairwise fun one other =>
        one.place < other.place := by
      rw [List.pairwise_map]
      exact pairwise_directivesFrom _ _ _ _
    have distinct : ((directives source).map Occurrence.reading).Nodup :=
      rising.imp fun less same => by rw [same] at less; exact Nat.lt_irrefl _ less
    have : Std.Antisymm fun one other : Reading => one.place < other.place :=
      ⟨fun _ _ less more => absurd less (Nat.lt_asymm more)⟩
    exact List.sublist_of_subperm_of_pairwise (List.subperm_of_subset distinct inside) rising
      (pairwise_readingsFrom _ _)

/-- The expressions of a source text are those that are taken from it place by place. -/
theorem expressions_eq (source : String) : expressions source =
    (readings source).map fun reading => String.ofList reading.expression := by
  rw [expressions_lines, ← map_readingsFrom 0, List.map_map]
  rfl

/-- Every directive contributes exactly one expression, its own, at its place and in order, exactly if
all directives are written in a plain way, and each of them contributes exactly if it is. Whatever
version sources pin, every directive that is written in a plain way pins it. -/
theorem directives_contribute_iff (source : String) :
    expressions source = (readings source).map (fun reading => String.ofList reading.expression) ∧
    (readings source).Pairwise (fun one other => one.place < other.place) ∧
    (∀ occurrence ∈ directives source,
      occurrence.reading ∈ readings source ↔ occurrence.Plain source) ∧
    (((directives source).map Occurrence.reading).Sublist (readings source) ↔
      ∀ occurrence ∈ directives source, occurrence.Plain source) ∧
    ∀ (sources : SourceMap) (path version : String), (path, source) ∈ sources.files →
      fromSources? sources = some version →
      ∀ occurrence ∈ directives source, occurrence.Plain source →
        pinned? (String.ofList occurrence.directive.expression) = some version := by
  refine ⟨expressions_eq source, pairwise_readingsFrom _ _, fun occurrence => reading_mem_iff,
    sublist_readings_iff source, ?_⟩
  intro sources path version held pins occurrence member plain
  obtain ⟨-, each⟩ := fromSources?_eq_some_iff.1 pins
  -- A directive that is written in a plain way has its expression among those that are looked at.
  have taken : String.ofList occurrence.directive.expression ∈ expressions source := by
    rw [expressions_eq]
    exact List.mem_map_of_mem (f := fun reading => String.ofList reading.expression)
      ((reading_mem_iff member).2 plain)
  exact each (path, source) held _ taken

/-- A source text with a directive of its own on each of two lines. -/
def parallelSource : String :=
  "// SPDX\n  pragma\tsolidity ^0.8.20 ; // first\r\npragma solidity =0.8.20;"

/-- Each of the two directives is written in a plain way, contributes its expression and pins the
version. -/
theorem parallelSource_contributes :
    (directives parallelSource).map (fun occurrence =>
      String.ofList occurrence.directive.expression) = ["^0.8.20", "=0.8.20"] ∧
    ((directives parallelSource).map Occurrence.reading).Sublist (readings parallelSource) ∧
    ∀ occurrence ∈ directives parallelSource,
      pinned? (String.ofList occurrence.directive.expression) = some "0.8.20" := by
  have plain : ∀ occurrence ∈ directives parallelSource, occurrence.Plain parallelSource := by
    decide +kernel
  -- Both expressions pin one version.
  have pins : fromSources? (.ofList [("A.sol", parallelSource)]) = some "0.8.20" := by decide +kernel
  have file : ("A.sol", parallelSource) ∈ (SourceMap.ofList [("A.sol", parallelSource)]).files := by
    decide +kernel
  obtain ⟨-, -, -, contributes, pinned⟩ := directives_contribute_iff parallelSource
  exact ⟨by decide +kernel, contributes.2 plain, fun occurrence member =>
    pinned _ _ _ file pins occurrence member (plain occurrence member)⟩

/-- A source text with two directives on one line, which pin two versions. -/
def sharedLine : String :=
  "pragma solidity 0.8.20; pragma solidity 0.7.6;"

/-- Only the first of two directives on a line contributes, and the version is that of the first, though
the second one pins another. -/
theorem not_contributes_sharedLine :
    (directives sharedLine).map (fun occurrence =>
      String.ofList occurrence.directive.expression) = ["0.8.20", "0.7.6"] ∧
    expressions sharedLine = ["0.8.20"] ∧
    ¬ ((directives sharedLine).map Occurrence.reading).Sublist (readings sharedLine) ∧
    ¬ ∀ (sources : SourceMap) (version : String), fromSources? sources = some version →
      ∀ file ∈ sources.files, ∀ occurrence ∈ directives file.2,
        pinned? (String.ofList occurrence.directive.expression) = some version := by
  refine ⟨by decide +kernel, by decide +kernel, by decide +kernel, fun agree => ?_⟩
  have pins : fromSources? (.ofList [("A.sol", sharedLine)]) = some "0.8.20" := by decide +kernel
  -- The second directive is there, and pins the other version.
  have second : (⟨24, ⟨[' '], " 0.7.6".toList⟩⟩ : Occurrence) ∈ directives sharedLine := by
    decide +kernel
  have other := agree _ _ pins ("A.sol", sharedLine) (by decide +kernel) _ second
  revert other
  decide +kernel

end AuditStage.Version
