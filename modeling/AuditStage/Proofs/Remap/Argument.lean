import AuditStage.Proofs.Remap.Rule
import AuditStage.Proofs.Remap.Targets

/-! Reading the rules of a table back from its argument. -/

namespace AuditStage

namespace RemapTable

variable {table : RemapTable} {entry : Remapping} {project : Project} {package raw : String}

/-- The parts of an argument between its separators. -/
def pieces (argument : String) : List String :=
  (argument.toList.splitOn ' ').map String.ofList

/-- The rules that the parts of an argument describe. -/
def decode (argument : String) : List Remapping :=
  (pieces argument).filterMap Remapping.parse

/-- Rules that are read from texts are no longer than these, and where they are as long as all of the
texts together, each text is that of its rule. -/
theorem parse_lengths (texts : List String) :
    ((texts.filterMap Remapping.parse).map fun rule => rule.text.length + 1).sum ≤
        (texts.map fun text => text.length + 1).sum ∧
      ((texts.map fun text => text.length + 1).sum ≤
          ((texts.filterMap Remapping.parse).map fun rule => rule.text.length + 1).sum →
        texts.map Remapping.parse = (texts.filterMap Remapping.parse).map some ∧
          texts = (texts.filterMap Remapping.parse).map Remapping.text) := by
  induction texts with
  | nil => simp
  | cons text texts ih =>
    obtain ⟨shorter, whole⟩ := ih
    cases parsed : Remapping.parse text with
    | none =>
      -- A text that describes no rule has a length of its own.
      simp only [List.filterMap_cons_none parsed, List.map_cons, List.sum_cons]
      constructor
      · omega
      · intro longer
        omega
    | some rule =>
      obtain ⟨-, trimmed⟩ := Remapping.parse_eq_some_iff.1 parsed
      obtain ⟨fewer, kept⟩ := Text.length_trim_le text.toList
      rw [← trimmed, String.length_toList, String.length_toList] at fewer kept
      simp only [List.filterMap_cons_some parsed, List.map_cons, List.sum_cons]
      constructor
      · omega
      · intro longer
        obtain ⟨describe, spelled⟩ := whole (by omega)
        have same : rule.text = text := String.toList_inj.1 (kept (by omega))
        rw [describe, parsed, same]
        exact ⟨rfl, congrArg _ spelled⟩

/-- The argument of a table is the texts of its rules, a blank between each and the next. -/
theorem toList_argument (table : RemapTable) :
    table.argument.toList = [' '].intercalate (table.entries.map fun entry => entry.text.toList) := by
  have blank : separator.toList = [' '] := rfl
  rw [argument, String.toList_intercalate, blank, List.map_map]
  rfl

/-- The parts of an argument are the texts of the rules, if no separator stands in one of them. -/
theorem pieces_argument (filled : table.entries ≠ [])
    (whole : ∀ entry ∈ table.entries, ' ' ∉ entry.text.toList) :
    pieces table.argument = table.entries.map Remapping.text := by
  have bare : ∀ part ∈ table.entries.map fun entry => entry.text.toList, ' ' ∉ part := by
    intro part member
    obtain ⟨entry, inside, rfl⟩ := List.mem_map.1 member
    exact whole entry inside
  -- No rule holds a space, so the argument is parted where the rules were joined.
  rw [pieces, toList_argument, List.splitOn_intercalate ' ' bare (by simpa using filled), List.map_map]
  exact List.map_congr_left fun entry _ => String.ofList_toList

/-- The parts of an argument are as long as the texts of the rules. -/
theorem sum_length_pieces (filled : table.entries ≠ []) :
    ((pieces table.argument).map fun text => text.length + 1).sum =
      (table.entries.map fun entry => entry.text.length + 1).sum := by
  have split := Text.sum_length_splitOn ' ' table.argument.toList
  have some : (table.entries.map fun entry => entry.text.toList) ≠ [] := by simpa using filled
  have joined := Text.sum_length_intercalate ' ' some
  rw [← toList_argument, ← split] at joined
  simpa [pieces, Function.comp_def, String.length_toList] using joined.symm

/-- Where the rules of a table are read back, each part of the argument is the text of one of them. -/
theorem pieces_of_decode (filled : table.entries ≠ [])
    (decoded : decode table.argument = table.entries) :
    (pieces table.argument).map Remapping.parse = table.entries.map some ∧
      pieces table.argument = table.entries.map Remapping.text := by
  -- The parts are no longer than the texts of the rules, so there is room for nothing else in them.
  have lengths := (parse_lengths (pieces table.argument)).2
  rw [decode] at decoded
  rw [decoded, sum_length_pieces filled] at lengths
  exact lengths (Nat.le_refl _)

/-- The rules of a table are read back from its argument exactly if no separator stands in the text of
one of them, and each text describes its rule. -/
theorem decode_argument_iff (table : RemapTable) : decode table.argument = table.entries ↔
    (∀ entry ∈ table.entries, ' ' ∉ entry.text.toList) ∧
      ∀ entry ∈ table.entries, Remapping.parse entry.text = some entry := by
  by_cases filled : table.entries = []
  · -- Without rules the argument is empty, and its only part describes none.
    have empty : table.argument = "" := by simp [argument, filled]
    rw [empty, filled]
    simp
    rfl
  constructor
  · intro decoded
    obtain ⟨describe, spelled⟩ := pieces_of_decode filled decoded
    refine ⟨fun entry member blank => ?_, ?_⟩
    · have part : entry.text ∈ pieces table.argument := spelled ▸ List.mem_map_of_mem member
      obtain ⟨cs, split, same⟩ := List.mem_map.1 part
      rw [← same, String.toList_ofList] at blank
      exact (Text.mem_of_mem_splitOn split ' ' blank).2 rfl
    · rw [spelled, List.map_map] at describe
      exact List.map_inj_left.1 describe
  · rintro ⟨whole, described⟩
    rw [decode, pieces_argument filled whole, List.filterMap_map]
    have same := List.filterMap_congr (f := Remapping.parse ∘ Remapping.text) (g := some) described
    rw [same, List.filterMap_some]

/-- A table holds no rules but those that it started with and those that were added. -/
theorem mem_foldl_add {rules : List Remapping} (member : entry ∈ (rules.foldl add table).entries) :
    entry ∈ table.entries ∨ entry ∈ rules := by
  induction rules generalizing table with
  | nil => exact .inl member
  | cons rule rules ih =>
    rcases ih member with old | new
    · -- A rule that is added stands at the end, if it is added at all.
      unfold add at old
      split at old
      · exact .inl old
      · rcases List.mem_append.1 old with old | own
        · exact .inl old
        · exact .inr (List.mem_cons.2 (.inl (List.mem_singleton.1 own)))
    · exact .inr (List.mem_cons_of_mem _ new)

/-- The rules of a project are those of its packages and those that are declared. -/
theorem mem_resolve {declared : List String} (member : entry ∈ (resolve project declared).entries) :
    (∃ package ∈ project.libraries, entry = packageRule project package) ∨
      ∃ raw ∈ declared, declaredRule? project raw = some entry := by
  rcases mem_foldl_add member with none | added
  · cases none
  · -- The rules of the packages come first, and the declared ones after them.
    rcases List.mem_append.1 added with own | other
    · obtain ⟨package, inside, rfl⟩ := List.mem_map.1 own
      exact .inl ⟨package, inside, rfl⟩
    · exact .inr (List.mem_filterMap.1 other)

/-- The front of what a target is read from ends with a slash, and the rest of it is the end of the
target. -/
theorem exists_rebase (root : String) {target : String} (relative : Path.isAbsolute target = false) :
    ∃ front rest, (rebase root target).toList = front ++ '/' :: rest ∧ rest <:+ target.toList := by
  refine ⟨Text.dropTrailing '/' root.toList, dropHere target.toList, by simp [rebase, relative], ?_⟩
  -- Only steps at the front of the target are dropped.
  induction target.toList using dropHere.induct with
  | case1 cs ih =>
    rw [dropHere]
    exact ih.trans ((List.suffix_cons _ _).trans (List.suffix_cons _ _))
  | case2 cs other =>
    have kept : dropHere cs = cs := dropHere.eq_2 cs other
    simp only [kept, List.suffix_refl]

/-- A trimmed text of a label and a target stays trimmed when the target is moved behind a slash. -/
theorem trim_moved {label target front rest : List Char}
    (trimmed : Text.trim (label ++ '=' :: target) = label ++ '=' :: target) (ends : rest <:+ target) :
    Text.trim (label ++ '=' :: (front ++ '/' :: rest)) = label ++ '=' :: (front ++ '/' :: rest) := by
  obtain ⟨dropped, rfl⟩ := ends
  obtain ⟨starts, stops⟩ := Text.trim_eq_self_iff.1 trimmed
  rw [Text.trim_eq_self_iff]
  constructor
  · -- The text starts with its label, or with the equals sign where that is empty.
    intro c first
    refine starts c ?_
    cases label <;> simpa using first
  · intro c last
    rcases List.eq_nil_or_concat' rest with rfl | ⟨before, final, rfl⟩
    · -- Nothing is left of the target, so the text ends with the slash.
      obtain rfl : '/' = c := by simpa [List.getLast?_cons] using last
      decide
    · -- What is left of the target ends as the target did.
      refine stops c ?_
      simpa [List.getLast?_cons] using last

/-- The text of a declared rule whose target has been moved describes that rule. -/
theorem parse_declaredRule (moved : declaredRule? project raw = some entry) :
    Remapping.parse entry.text = some entry := by
  obtain ⟨rule, parsed, rfl⟩ := Option.map_eq_some_iff.1 moved
  obtain ⟨readable, spelled⟩ := Remapping.parse_eq_some_iff.1 parsed
  have trimmed : Text.trim rule.text.toList = rule.text.toList := by rw [spelled, Text.trim_trim]
  -- Whether the parts can be told apart does not depend on the target.
  refine Remapping.parse_text_iff.2 ⟨⟨readable.named, readable.unequal, readable.uncoloned⟩, ?_⟩
  -- An absolute target stays where it is, and any other is moved behind a slash.
  cases absolute : Path.isAbsolute rule.target with
  | true =>
    have kept : rebase project.stagingRoot rule.target = rule.target := by simp [rebase, absolute]
    rw [kept]
    exact trimmed
  | false =>
    obtain ⟨front, rest, rebased, ends⟩ := exists_rebase project.stagingRoot absolute
    rw [Remapping.toList_text] at trimmed
    have text : (Remapping.text { rule with target := rebase project.stagingRoot rule.target }).toList =
        rule.label.toList ++ '=' :: (front ++ '/' :: rest) := by
      rw [Remapping.toList_text, rebased]
      rfl
    rw [text]
    exact trim_moved trimmed ends

/-- The text of a package's rule describes the rule exactly if no mark of the written form stands in the
name of the package, and no blank at its end. -/
theorem parse_packageRule_iff (plain : Path.isPlain package = true)
    (marked : package.toList.head? = some Key.packageMark) :
    Remapping.parse (packageRule project package).text = some (packageRule project package) ↔
      '=' ∉ package.toList ∧ ':' ∉ package.toList ∧
        ∀ c, package.toList.getLast? = some c → Text.isBlank c = false := by
  obtain ⟨named, -, -, -⟩ := Path.isPlain_iff.1 plain
  obtain ⟨after, spelled⟩ := List.head?_eq_some_iff.1 marked
  have label : (packageRule project package).label = package := Remapping.label_of_no_context
  -- The rule ends as the name of the package does, which is joined to the dependency root.
  have joined : ∃ front, (Path.join project.dependencyRoot package).toList = front ++ package.toList := by
    simp only [Path.join, (Path.steps_plain plain).1, Bool.false_eq_true, if_false]
    split
    · exact ⟨_, String.toList_append⟩
    · exact ⟨_, String.toList_append⟩
  obtain ⟨front, joined⟩ := joined
  have text : (packageRule project package).text.toList =
      (package.toList ++ '=' :: front) ++ package.toList := by
    rw [Remapping.toList_text, label]
    simp [packageRule, joined]
  have visible : package.toList ≠ [] := by simp [spelled]
  -- So the text of the rule starts and ends with the name of the package.
  have last : (packageRule project package).text.toList.getLast? = package.toList.getLast? := by
    rw [text, List.getLast?_append_of_ne_nil _ visible]
  have first : (packageRule project package).text.toList.head? = some Key.packageMark := by
    simp [text, spelled]
  rw [Remapping.parse_text_iff, Text.trim_eq_self_iff, first, last]
  constructor
  · rintro ⟨⟨-, unequal, uncoloned⟩, -, ends⟩
    exact ⟨label ▸ unequal, uncoloned, ends⟩
  · rintro ⟨unequal, uncoloned, ends⟩
    refine ⟨⟨named, label.symm ▸ unequal, uncoloned⟩, ?_, ends⟩
    rintro c same
    cases same
    decide

end RemapTable

namespace Staging

open RemapTable (decode parse_declaredRule parse_packageRule_iff pieces resolve)

variable {layout : Layout} {sources : SourceMap} {project : Project} {world final : World}

/-- The rules of a project are read back from the argument, in order, exactly if no blank stands in one of
them, and no equals sign, colon or blank end in the name of a package; then every part of the argument
describes a rule. -/
theorem build_decode_iff (ended : build layout sources world = .ok project final)
    (declared : List String) :
    (decode (resolve project declared).argument = (resolve project declared).entries ↔
      (∀ entry ∈ (resolve project declared).entries, ' ' ∉ entry.text.toList) ∧
        ∀ package ∈ project.libraries, '=' ∉ package.toList ∧ ':' ∉ package.toList ∧
          ∀ c, package.toList.getLast? = some c → Text.isBlank c = false) ∧
    ((resolve project declared).entries ≠ [] →
      decode (resolve project declared).argument = (resolve project declared).entries →
        (pieces (resolve project declared).argument).map Remapping.parse =
          (resolve project declared).entries.map some) := by
  refine ⟨?_, fun filled decoded => (RemapTable.pieces_of_decode filled decoded).1⟩
  have plain : ∀ package ∈ project.libraries, Path.isPlain package = true :=
    fun package inside => (marked_of_mem_libraries ended inside).1
  -- What has to be known is which rules are described by their own texts.
  rw [RemapTable.decode_argument_iff]
  refine and_congr_right fun _ => ?_
  constructor
  · -- Every package has its rule in the table.
    intro described package inside
    have own := RemapTable.get?_resolve_of_library plain inside declared
    have listed := described _ (List.mem_of_find?_eq_some own)
    exact (parse_packageRule_iff (plain package inside) (marked_of_mem_libraries ended inside).2).1 listed
  · -- A rule of the table is that of a package, or it was read from a text before.
    intro unmarked entry member
    rcases RemapTable.mem_resolve member with ⟨package, inside, rfl⟩ | ⟨raw, -, moved⟩
    · have marked := (marked_of_mem_libraries ended inside).2
      exact (parse_packageRule_iff (plain package inside) marked).2 (unmarked package inside)
    · exact parse_declaredRule moved

/-- The rules of a package and of a directory are read back, in order. -/
theorem mixedSources_decode :
    ∃ project final, build (.nested "/work/out") mixedSources emptyWorld = .ok project final ∧
      decode (resolve project ["c:y/=lib/"]).argument = (resolve project ["c:y/=lib/"]).entries := by
  obtain ⟨final, ended⟩ := mixedSources_build
  refine ⟨mixedProject, final, ended, (build_decode_iff ended ["c:y/=lib/"]).1.2 ⟨by decide, ?_⟩⟩
  -- The name of the only package has no mark in it.
  intro package inside
  obtain rfl : package = "@x" := List.mem_singleton.1 inside
  refine ⟨by decide, by decide, ?_⟩
  rintro c last
  obtain rfl : 'x' = c := by simpa using last
  decide

/-- The rule of a package with an equals sign in its name is read back as one for another name. -/
theorem not_decode_equalsPackage :
    ¬ ∀ (layout : Layout) (sources : SourceMap) (world final : World) (project : Project),
      build layout sources world = .ok project final → ∀ declared : List String,
        decode (resolve project declared).argument = (resolve project declared).entries := by
  intro decoded
  let sources : SourceMap := .ofList [("@a=b/A.sol", "contract A {}")]
  -- The equals sign of the name is taken for the one before the target.
  have outcome : (match build (.nested "/work/out") sources emptyWorld with
    | .ok project _ => decide (decode (resolve project []).argument ≠ (resolve project []).entries)
    | .error _ _ => false) = true := by decide +kernel
  split at outcome
  · rename_i project final ended
    exact of_decide_eq_true outcome (decoded (.nested "/work/out") sources emptyWorld final project ended [])
  · cases outcome

end Staging

end AuditStage
