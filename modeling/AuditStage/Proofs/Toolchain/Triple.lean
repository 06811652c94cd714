import AuditStage.Proofs.Toolchain.Consensus
import AuditStage.Proofs.Toolchain.Directive

/-! The form of the versions that are handed to the version manager. Main statement: a version that is
resolved is three runs of decimal digits joined by dots, of whatever scripts the digits are, and so is
each version in a command that selecting it issues. -/

namespace AuditStage.Text

/-- A character of one class is in no other class whose ranges lie apart from those of the first. -/
theorem not_inRanges {one two : List (Nat × Nat)}
    (apart : ∀ first ∈ one, ∀ second ∈ two, first.2 < second.1 ∨ second.2 < first.1) {c : Char}
    (inside : inRanges one c = true) : inRanges two c = false := by
  simp only [inRanges, List.any_eq_true, List.any_eq_false, Bool.and_eq_true,
    decide_eq_true_eq] at inside ⊢
  obtain ⟨first, member, lower, upper⟩ := inside
  rintro second other ⟨above, below⟩
  -- The character would lie in a range of either class, and these lie apart.
  have gap := apart first member second other
  omega

/-- No decimal digit is a blank. -/
theorem not_isBlank {c : Char} (digit : isDecimalDigit c = true) : isBlank c = false :=
  not_inRanges (by decide +kernel) digit

end AuditStage.Text

namespace AuditStage.Version

open Text (isBlank isDecimalDigit)

/-- Three runs of digits joined by dots, none of them empty. -/
def IsTriple (digit : Char → Bool) (cs : List Char) : Prop :=
  ∃ major minor patch, cs = major ++ '.' :: minor ++ '.' :: patch ∧
    ∀ run ∈ [major, minor, patch], run ≠ [] ∧ ∀ c ∈ run, digit c = true

/-- A text without a decimal digit other than 0 to 9. -/
def PlainDigits (cs : List Char) : Prop :=
  ∀ c ∈ cs, isDecimalDigit c = true → c.isDigit = true

variable {cs rest version : List Char} {digit other : Char → Bool}

namespace IsTriple

/-- Nothing stands in a version but digits and dots. -/
theorem digit_or_dot (triple : IsTriple digit cs) {c : Char} (member : c ∈ cs) :
    digit c = true ∨ c = '.' := by
  obtain ⟨major, minor, patch, rfl, runs⟩ := triple
  simp only [List.mem_append, List.mem_cons] at member
  -- It stands in one of the three runs, or is one of the two dots.
  rcases member with (first | rfl | second) | rfl | third
  · exact .inl ((runs major (by simp)).2 c first)
  · exact .inr rfl
  · exact .inl ((runs minor (by simp)).2 c second)
  · exact .inr rfl
  · exact .inl ((runs patch (by simp)).2 c third)

/-- A version is one of other digits too if all of its digits are. -/
theorem mono (triple : IsTriple digit cs) (fits : ∀ c ∈ cs, digit c = true → other c = true) :
    IsTriple other cs := by
  obtain ⟨major, minor, patch, rfl, runs⟩ := triple
  refine ⟨major, minor, patch, rfl, fun run member => ?_⟩
  obtain ⟨some, digits⟩ := runs run member
  refine ⟨some, fun c inside => fits c ?_ (digits c inside)⟩
  -- Every run stands somewhere in the version.
  simp only [List.mem_cons, List.not_mem_nil, or_false] at member
  rcases member with rfl | rfl | rfl <;> simp [inside]

/-- A version of any digits is one of the digits 0 to 9 exactly if it holds no other digit. -/
theorem isDigit_iff (triple : IsTriple isDecimalDigit cs) :
    IsTriple Char.isDigit cs ↔ PlainDigits cs := by
  constructor
  · intro plain c member decimal
    rcases plain.digit_or_dot member with digit | rfl
    · exact digit
    · -- A dot is a digit of no script.
      exact absurd decimal (by decide)
  · exact triple.mono

end IsTriple

/-- A text ends the run of digits before it: it starts with no decimal digit. -/
def EndsDigits (rest : List Char) : Prop :=
  ∀ c, rest.head? = some c → isDecimalDigit c = false

/-- A text that starts with another character than a digit ends the digits before it. -/
theorem endsDigits_cons {c : Char} (plain : isDecimalDigit c = false) : EndsDigits (c :: rest) := by
  intro first starts
  rw [← Option.some.inj starts]
  exact plain

/-- The digits that are read are all those at the front of the text, and there are some. -/
theorem readDigits_eq_some_iff {digits : List Char} : readDigits cs = some (digits, rest) ↔
    cs = digits ++ rest ∧ (digits ≠ [] ∧ ∀ c ∈ digits, isDecimalDigit c = true) ∧ EndsDigits rest := by
  constructor
  · intro read
    have split := List.takeWhile_append_dropWhile (p := isDecimalDigit) (l := cs)
    have ends := List.head?_dropWhile_not isDecimalDigit cs
    unfold readDigits at read
    -- Without a digit at the front nothing is read.
    split at read
    · cases read
    · rename_i some
      cases read
      refine ⟨split.symm, ⟨some, fun c member => List.mem_takeWhile_imp member⟩, fun c first => ?_⟩
      rw [first] at ends
      exact ends
  · rintro ⟨rfl, ⟨some, digits⟩, ends⟩
    obtain ⟨c, more, rfl⟩ := List.exists_cons_of_ne_nil some
    -- The digits are taken up to the text behind them, and no further.
    have stop : rest.takeWhile isDecimalDigit = [] ∧ rest.dropWhile isDecimalDigit = rest := by
      cases rest with
      | nil => exact ⟨rfl, rfl⟩
      | cons next rest => simp [ends next rfl]
    simp only [readDigits, List.takeWhile_append_of_pos digits, List.dropWhile_append_of_pos digits,
      stop, List.append_nil]

/-- The digits that are read behind a dot are all those that follow it. -/
theorem readDotDigits_eq_some_iff {digits : List Char} :
    readDotDigits cs = some (digits, rest) ↔ cs = '.' :: digits ++ rest ∧
      (digits ≠ [] ∧ ∀ c ∈ digits, isDecimalDigit c = true) ∧ EndsDigits rest := by
  constructor
  · intro read
    unfold readDotDigits at read
    -- Nothing is read but behind a dot.
    split at read
    · obtain ⟨rfl, run, ends⟩ := readDigits_eq_some_iff.1 read
      exact ⟨rfl, run, ends⟩
    · cases read
  · rintro ⟨rfl, run, ends⟩
    exact readDigits_eq_some_iff.2 ⟨rfl, run, ends⟩

/-- The version that is read is at the front of the text: it is three runs of digits, and no digit follows
it. -/
theorem readTriple_eq_some_iff : readTriple cs = some (version, rest) ↔
    cs = version ++ rest ∧ IsTriple isDecimalDigit version ∧ EndsDigits rest := by
  simp only [readTriple, Option.bind_eq_bind, Option.bind_eq_some_iff, Prod.exists,
    Option.some.injEq, Prod.mk.injEq]
  constructor
  · rintro ⟨major, _, first, minor, _, second, patch, _, third, rfl, rfl⟩
    -- Each run is at the front of what the one before it has left.
    obtain ⟨rfl, majors, -⟩ := readDigits_eq_some_iff.1 first
    obtain ⟨rfl, minors, -⟩ := readDotDigits_eq_some_iff.1 second
    obtain ⟨rfl, patches, ends⟩ := readDotDigits_eq_some_iff.1 third
    refine ⟨by simp, ⟨major, minor, patch, rfl, ?_⟩, ends⟩
    simpa only [List.forall_mem_cons, List.not_mem_nil, false_imp_iff, implies_true, and_true]
      using ⟨majors, minors, patches⟩
  · rintro ⟨rfl, ⟨major, minor, patch, rfl, runs⟩, ends⟩
    -- The dots end the first two runs.
    have dot (after : List Char) : EndsDigits ('.' :: after) := endsDigits_cons (by decide)
    have first := readDigits_eq_some_iff.2 ⟨rfl, runs major (by simp),
      dot (minor ++ '.' :: (patch ++ rest))⟩
    have second := readDotDigits_eq_some_iff.2 ⟨rfl, runs minor (by simp), dot (patch ++ rest)⟩
    have third := readDotDigits_eq_some_iff.2 ⟨rfl, runs patch (by simp), ends⟩
    exact ⟨major, _, by simpa using first, minor, _, second, patch, _, third, rfl, rfl⟩

/-- Neither the letter nor the sign that may stand before a version is a digit of it. -/
theorem mem_dropped {c : Char} (digit : isDecimalDigit c = true) :
    (c ∈ dropLetter cs ↔ c ∈ cs) ∧ (c ∈ dropSign cs ↔ c ∈ cs) := by
  -- What is dropped is no digit of any script, so it is another character.
  have other {d : Char} (sign : isDecimalDigit d = false) : c ≠ d := by
    rintro rfl
    rw [digit] at sign
    cases sign
  constructor
  · unfold dropLetter
    split
    · simp [other (show isDecimalDigit 'v' = false by decide)]
    · rfl
  · unfold dropSign
    split
    · simp [other (show isDecimalDigit '^' = false by decide)]
    · simp [other (show isDecimalDigit '=' = false by decide)]
    · rfl

/-- What an expression pins is three runs of digits, and all the digits that the expression has. -/
theorem pinned?_digits {expression version : String}
    (pinned : pinned? expression = some version) : IsTriple isDecimalDigit version.toList ∧
      ∀ c, isDecimalDigit c = true → (c ∈ version.toList ↔ c ∈ expression.toList) := by
  unfold pinned? at pinned
  split at pinned
  · rename_i triple read
    cases pinned
    obtain ⟨split, form, -⟩ := readTriple_eq_some_iff.1 read
    -- A version is pinned only where nothing is left behind it.
    rw [List.append_nil] at split
    rw [String.toList_ofList]
    refine ⟨form, fun c digit => ?_⟩
    have visible := Text.not_isBlank digit
    -- Nothing but the version is left, and no digit has been dropped on the way.
    rw [← split, (mem_dropped digit).1, Text.mem_trimStart visible, (mem_dropped digit).2,
      Text.mem_trim visible]
  · cases pinned

/-- The version in a report is three runs of digits, all of them from the report. -/
theorem reported?_digits {raw version : String} (read : reported? raw = some version) :
    IsTriple isDecimalDigit version.toList ∧
      ∀ c, isDecimalDigit c = true → c ∈ version.toList → c ∈ raw.toList := by
  obtain ⟨⟨triple, rest⟩, parts, rfl⟩ := Option.map_eq_some_iff.1 read
  obtain ⟨split, form, -⟩ := readTriple_eq_some_iff.1 parts
  rw [String.toList_ofList]
  refine ⟨form, fun c digit member => ?_⟩
  -- Blanks and the letter are dropped before it is read, and they are no digits.
  rw [← Text.mem_trim (Text.not_isBlank digit), ← (mem_dropped digit).1, split]
  exact List.mem_append_left rest member

/-- The digits of an expression are digits of the source text. -/
theorem expression_digits {source expression : String} (member : expression ∈ expressions source)
    {c : Char} (digit : isDecimalDigit c = true) (inside : c ∈ expression.toList) :
    c ∈ source.toList := by
  simp only [expressions_lines, List.mem_map, List.mem_filterMap] at member
  obtain ⟨_, ⟨line, part, read⟩, rfl⟩ := member
  -- The expression stands in a directive, the directive in a line, and the line in the text.
  obtain ⟨directive, ⟨lead, after, -, rfl, -⟩, rfl⟩ := lineExpression?_eq_some_iff.1 read
  rw [String.toList_ofList, Directive.expression, Text.mem_trim (Text.not_isBlank digit)] at inside
  -- The digit is one of the line, as the line holds the directive.
  have whole : c ∈ lead ++ directive.text ++ after := by
    rw [List.append_assoc, Directive.text_append]
    simp only [List.mem_append, inside, or_true, true_or]
  exact (Text.mem_of_mem_splitOn part c whole).1

/-- Whether there are other digits than 0 to 9 depends on the digits only. -/
theorem plainDigits_congr {one two : List Char}
    (same : ∀ c, isDecimalDigit c = true → (c ∈ one ↔ c ∈ two)) : PlainDigits one ↔ PlainDigits two :=
  ⟨fun plain c member digit => plain c ((same c digit).2 member) digit,
    fun plain c member digit => plain c ((same c digit).1 member) digit⟩

/-- Among the characters of ASCII there are no decimal digits but 0 to 9. -/
theorem plainDigits_of_ascii (ascii : cs.all (fun c => c.toNat < 0x80) = true) : PlainDigits cs := by
  have ranges : ∀ range ∈ Text.decimalDigitRanges, range = (0x30, 0x39) ∨ 0x80 ≤ range.1 := by decide
  intro c member digit
  have low : c.toNat < 0x80 := of_decide_eq_true (List.all_eq_true.1 ascii c member)
  obtain ⟨range, found, inside⟩ := List.any_eq_true.1 digit
  simp only [Bool.and_eq_true, decide_eq_true_eq] at inside
  -- The first range is that of 0 to 9, and the others start beyond ASCII.
  rcases ranges range found with rfl | high
  · exact Char.isDigit_iff_toNat.2 inside
  · omega

/-- Whatever version is found for sources is three runs of digits. -/
theorem resolve?_triple {sources : SourceMap} {reported version : String}
    (resolved : resolve? sources reported = some version) :
    IsTriple isDecimalDigit version.toList := by
  rcases resolve?_eq_some_iff.1 resolved with agreed | ⟨-, read⟩
  · -- Some directive pins the version.
    obtain ⟨⟨file, member, some⟩, pins⟩ := fromSources?_eq_some_iff.1 agreed
    obtain ⟨expression, inside⟩ := List.exists_mem_of_ne_nil _ some
    exact (pinned?_digits (pins file member expression inside)).1
  · exact (reported?_digits read).1

/-- A version that sources pin has the digits that any of their directives has. -/
theorem fromSources?_plain_iff {sources : SourceMap} {version : String}
    (agreed : fromSources? sources = some version) : PlainDigits version.toList ↔
      ∀ file ∈ sources.files, ∀ expression ∈ expressions file.2, PlainDigits expression.toList := by
  obtain ⟨⟨file, member, some⟩, pins⟩ := fromSources?_eq_some_iff.1 agreed
  obtain ⟨expression, inside⟩ := List.exists_mem_of_ne_nil _ some
  constructor
  · -- What is pinned by any directive has the digits of that directive.
    intro plain other place text found
    exact (plainDigits_congr (pinned?_digits (pins other place text found)).2).1 plain
  · -- One directive is enough to tell, since all of them pin the same version.
    intro plain
    have same := (pinned?_digits (pins file member expression inside)).2
    exact (plainDigits_congr same).2 (plain file member expression inside)

end AuditStage.Version

namespace AuditStage.Toolchain

open Text (isDecimalDigit)
open Version (IsTriple PlainDigits expressions fromSources? resolve?)

variable {manager : String}

/-- Of the manager's commands, those that name a version name the one that is asked for. -/
theorem Managed.names {version : String} {launches : List Launch} {done : Bool}
    (managed : Managed manager version launches done) : ∀ launch ∈ launches,
      launch.command = managerCommand manager ["versions"] ∨
        ∃ action ∈ ["install", "use"], launch.command = managerCommand manager [action, version] := by
  obtain ⟨listing, rest, rfl, issued, -⟩ := managed.follows_plan
  intro launch member
  -- Every command that is issued is one of the planned ones.
  have planned := issued.subset (List.mem_map_of_mem (f := (·.command)) member)
  simp only [plan, List.mem_cons, List.mem_append, List.mem_ite_nil_left, List.not_mem_nil,
    or_false] at planned
  rcases planned with listed | ⟨-, installed⟩ | used
  · exact .inl listed
  · exact .inr ⟨"install", by simp, installed⟩
  · exact .inr ⟨"use", by simp, used⟩

/-- Selecting a version names no version to the manager but the one that is found for the sources. -/
theorem select_names (manager : String) (sources : SourceMap) (reported : String) (world : World) :
    ∃ launches, Ran launches world (Effect.after (select manager sources reported) world) ∧
      ∀ launch ∈ launches, launch.command = managerCommand manager ["versions"] ∨
        ∃ version, resolve? sources reported = some version ∧
          ∃ action ∈ ["install", "use"],
            launch.command = managerCommand manager [action, version] := by
  cases resolved : resolve? sources reported with
  | none =>
    -- Without a version no command is issued.
    have failed : select manager sources reported world =
        .error (.versionUnresolvable reported) world :=
      select_unresolvable_iff.2 ⟨resolved, rfl, rfl⟩
    refine ⟨[], ?_, nofun⟩
    rw [Effect.after_error failed]
    exact Ran.none world
  | some version =>
    obtain ⟨launches, after, done, ran, managed, -, ended⟩ := select_ran manager resolved world
    -- Whether the switch succeeds or fails, what was launched is on record.
    have last : Effect.after (select manager sources reported) world = after := by
      cases done with
      | true => exact Effect.after_ok ended
      | false =>
        obtain ⟨failure, ended⟩ := ended
        exact Effect.after_error ended
    refine ⟨launches, last ▸ ran, fun launch member => ?_⟩
    rcases managed.names launch member with listed | named
    · exact .inl listed
    · exact .inr ⟨version, rfl, named⟩

/-- A version that is found for sources is three runs of decimal digits joined by dots. Its digits are 0
to 9 exactly if it holds no other decimal digit, which for a version that the sources pin is to be seen
from any of their directives, and which is so wherever neither the sources nor the report hold one. The
commands that selecting it issues name this version and no other. -/
theorem select_triple (sources : SourceMap) (reported : String) :
    (∀ version, resolve? sources reported = some version →
      IsTriple isDecimalDigit version.toList ∧
        (IsTriple Char.isDigit version.toList ↔ PlainDigits version.toList)) ∧
    (∀ version, fromSources? sources = some version →
      (IsTriple Char.isDigit version.toList ↔ ∀ file ∈ sources.files,
        ∀ expression ∈ expressions file.2, PlainDigits expression.toList)) ∧
    ((∀ file ∈ sources.files, PlainDigits file.2.toList) → PlainDigits reported.toList →
      ∀ version, resolve? sources reported = some version →
        IsTriple Char.isDigit version.toList) ∧
    ∀ manager world, ∃ launches,
      Ran launches world (Effect.after (select manager sources reported) world) ∧
        ∀ launch ∈ launches, launch.command = managerCommand manager ["versions"] ∨
          ∃ version, resolve? sources reported = some version ∧
            ∃ action ∈ ["install", "use"],
              launch.command = managerCommand manager [action, version] := by
  refine ⟨?_, ?_, ?_, fun manager world => select_names manager sources reported world⟩
  · intro version resolved
    have triple := Version.resolve?_triple resolved
    exact ⟨triple, triple.isDigit_iff⟩
  · intro version agreed
    have resolved : resolve? sources reported = some version :=
      Version.resolve?_eq_some_iff.2 (.inl agreed)
    have triple := Version.resolve?_triple resolved
    rw [triple.isDigit_iff, Version.fromSources?_plain_iff agreed]
  · intro plain heard version resolved
    rw [(Version.resolve?_triple resolved).isDigit_iff]
    rcases Version.resolve?_eq_some_iff.1 resolved with agreed | ⟨-, read⟩
    · -- Every digit of a directive is one of its file.
      refine (Version.fromSources?_plain_iff agreed).2 fun file member expression inside c here digit => ?_
      exact plain file member c (Version.expression_digits inside digit here) digit
    · -- Without a directive, the digits are those of the report.
      intro c here digit
      exact heard c ((Version.reported?_digits read).2 c digit here) digit

/-- Sources in which no other digits than 0 to 9 stand resolve to a version of such digits. -/
theorem agreeingSources_triple :
    resolve? agreeingSources "v0.8.26" = some "0.8.20" ∧
      IsTriple Char.isDigit "0.8.20".toList := by
  have resolved : resolve? agreeingSources "v0.8.26" = some "0.8.20" := by decide +kernel
  have ascii : ∀ file ∈ agreeingSources.files,
      file.2.toList.all (fun c => c.toNat < 0x80) = true := by decide +kernel
  -- The sources and the report are of ASCII, so no digit of another script stands in them.
  have plain : ∀ file ∈ agreeingSources.files, PlainDigits file.2.toList := fun file member =>
    Version.plainDigits_of_ascii (ascii file member)
  have heard : PlainDigits "v0.8.26".toList := Version.plainDigits_of_ascii (by decide +kernel)
  exact ⟨resolved, (select_triple agreeingSources "v0.8.26").2.2.1 plain heard _ resolved⟩

/-- Sources that pin a version in digits of another script. -/
def foreignSources : SourceMap :=
  .ofList [("A.sol", "pragma solidity \u0660.\u0668.\u0662\u0660;")]

/-- A version that is resolved need not be made of the digits 0 to 9. -/
theorem not_isTriple_foreignSources :
    ¬ ∀ sources reported version, resolve? sources reported = some version →
      IsTriple Char.isDigit version.toList := by
  intro always
  have triple := always foreignSources "v0.8.26" "\u0660.\u0668.\u0662\u0660" (by decide +kernel)
  -- The first digit is that of another script.
  rcases triple.digit_or_dot (c := '\u0660') (by decide) with digit | dot
  · exact absurd digit (by decide)
  · exact absurd dot (by decide)

end AuditStage.Toolchain
