import AuditStage.Proofs.Toolchain.Occurrence

/-! What a comment between two lines of a source text does to the expressions that are taken from the
text. Main statement: they stay the same exactly if no line of the comment is read as a directive. -/

namespace AuditStage.Version

/-- A comment as it is written: two slashes and the rest of a line, or a slash and a star and everything
up to the first star and slash behind them. -/
inductive IsComment : List Char → Prop where
  | line {text : List Char} (bare : '\n' ∉ text) : IsComment ('/' :: '/' :: text)
  | block {text : List Char} (inside : ¬ ['*', '/'] <:+: text) :
      IsComment ('/' :: '*' :: (text ++ ['*', '/']))

/-- A text ends where a line ends, or holds nothing. -/
def EndsLine (cs : List Char) : Prop :=
  cs = [] ∨ ∃ front, cs = front ++ ['\n']

/-- Two parts of a source text with a comment on lines of its own between them. -/
def withComment (above comment below : String) : String :=
  above ++ comment ++ "\n" ++ below

variable {cs text : List Char} {mode : Mode}

namespace Mode

/-- A text behind another one goes on where that one ends. -/
theorem after_append (mode : Mode) (front back : List Char) :
    mode.after (front ++ back) = (mode.after front).after back :=
  List.foldl_append

/-- Outside comments and literals, the line that ends leaves no trace. -/
theorem next_lineFeed (outside : (mode.next '\n').isCode = true) : mode.next '\n' = code := by
  -- A slash that was read last opens nothing once the line has ended.
  cases mode <;> simp_all [next, ofCode, isCode]

/-- A line comment goes on to the end of its line. -/
theorem after_lineComment (bare : '\n' ∉ text) : lineComment.after text = lineComment := by
  -- Nothing but the end of the line leads out of it.
  induction text with
  | nil => rfl
  | cons c text ih =>
    simp only [List.mem_cons, not_or] at bare
    have stays : lineComment.next c = lineComment := by simp [next, Ne.symm bare.1]
    rw [after, List.foldl_cons, stays]
    exact ih bare.2

/-- A block comment goes on up to a star that a slash follows. -/
theorem after_blockComment (inside : ¬ ['*', '/'] <:+: text) : blockComment.after text =
    if text.getLast? = some '*' then star else blockComment := by
  -- The induction is on the end of the text, which may be a star.
  induction text using List.reverseRecOn with
  | nil => rfl
  | append_singleton text c ih =>
    have shorter : ¬ ['*', '/'] <:+: text := fun found =>
      inside (found.trans (List.prefix_append text [c]).isInfix)
    rw [after_append, ih shorter, List.getLast?_concat]
    split
    · -- Behind a star no slash can follow, or the comment would have been closed.
      rename_i starred
      obtain ⟨front, rfl⟩ := List.getLast?_eq_some_iff.1 starred
      have open_ : c ≠ '/' := by
        rintro rfl
        exact inside ⟨front, [], by simp⟩
      by_cases again : c = '*' <;> simp [after, next, open_, again]
    · by_cases first : c = '*' <;> simp [after, next, first]

end Mode

/-- Outside comments and literals, a comment and the end of its line lead outside again. -/
theorem IsComment.after (comment : IsComment cs) :
    Mode.code.after (cs ++ ['\n']) = .code := by
  -- One kind is closed by the end of its line and the other by its own last two characters.
  cases comment with
  | line bare =>
    rename_i text
    have opened : Mode.code.after ('/' :: '/' :: text) = Mode.lineComment.after text := rfl
    rw [Mode.after_append, opened, Mode.after_lineComment bare]
    rfl
  | block inside =>
    rename_i text
    have opened : Mode.code.after ('/' :: '*' :: (text ++ ['*', '/'])) =
        (Mode.blockComment.after text).after ['*', '/'] := Mode.after_append _ _ _
    rw [Mode.after_append, opened, Mode.after_blockComment inside]
    -- A star in front of the last one makes no difference.
    split <;> rfl

/-- A line that starts with a slash is not read as a directive. -/
theorem not_readAs_slash (directive : Directive) (cs : List Char) :
    ¬ ReadAs ('/' :: cs) directive := by
  rintro ⟨lead, after, blank, split, -⟩
  have visible : Text.isBlank '/' = false := by decide
  -- The slash is neither a blank nor the start of the directive.
  cases lead with
  | nil =>
    rw [List.nil_append, Directive.text_append] at split
    obtain ⟨rest, spelled⟩ : ∃ rest, "pragma".toList = 'p' :: rest := ⟨_, rfl⟩
    rw [spelled, List.cons_append] at split
    exact absurd (List.cons.inj split).1 (by decide)
  | cons c lead =>
    obtain rfl : '/' = c := (List.cons.inj split).1
    simp [visible] at blank

/-- Behind the end of a line a text contributes its own expressions, after those before it. -/
theorem EndsLine.readings (above : EndsLine cs) : ∃ first, ∀ below,
    ((cs ++ below).splitOn '\n').filterMap lineExpression? =
      first ++ (below.splitOn '\n').filterMap lineExpression? := by
  rcases above with rfl | ⟨front, rfl⟩
  · exact ⟨[], fun below => rfl⟩
  · -- A line that has ended is not joined with what stands below it.
    refine ⟨(front.splitOn '\n').filterMap lineExpression?, fun below => ?_⟩
    rw [List.append_assoc, List.singleton_append, List.splitOn_append_cons_self, List.filterMap_append]

/-- Files that differ in nothing but the content at one path contribute the same expressions if the two
contents do. -/
theorem expressions_placeFile {path one other : String}
    (same : expressions one = expressions other) (files : List (String × String)) :
    (placeFile path one files).flatMap (fun file => expressions file.2) =
      (placeFile path other files).flatMap fun file => expressions file.2 := by
  -- The contents are placed at the same spot in the list.
  induction files with
  | nil => simp [placeFile, same]
  | cons file files ih =>
    -- The file is either at the front or one of those behind.
    by_cases here : file.1 = path
    · simp [placeFile, here, same]
    · simp [placeFile, here, ih]

/-- The version for sources depends on the expressions of a file, and on nothing else in it. -/
theorem resolve?_insert_congr {one other : String} (same : expressions one = expressions other)
    (sources : SourceMap) (path reported : String) :
    resolve? (sources.insert path one) reported = resolve? (sources.insert path other) reported := by
  -- The reported version is the same, so it depends on what the sources pin.
  have pinned : fromSources? (sources.insert path one) = fromSources? (sources.insert path other) :=
    congrArg agreed? (expressions_placeFile same sources.files)
  rw [resolve?, resolve?, pinned]

/-- A comment between two lines changes no expression exactly if none of its lines is read as a
directive. -/
theorem expressions_withComment_iff {above : String} (ends : EndsLine above.toList)
    (comment below : String) : expressions (withComment above comment below) = expressions (above ++ below) ↔
      ∀ line ∈ comment.toList.splitOn '\n', ∀ directive, ¬ ReadAs line directive := by
  obtain ⟨first, read⟩ := ends.readings
  have whole : (withComment above comment below).toList =
      above.toList ++ (comment.toList ++ '\n' :: below.toList) := by
    simp [withComment]
  -- The comment's own expressions come between those above it and those below it.
  rw [expressions_lines, expressions_lines, whole, String.toList_append, read, read,
    List.splitOn_append_cons_self, List.filterMap_append,
    (List.map_injective_iff.2 fun _ _ => String.ofList_inj.1).eq_iff, List.append_cancel_left_eq,
    List.append_left_eq_self, List.filterMap_eq_nil_iff]
  refine forall₂_congr fun line member => ?_
  rw [Option.eq_none_iff_forall_ne_some]
  -- A line contributes an expression exactly if it is read as some directive.
  constructor
  · intro unread directive readAs
    exact unread _ (lineExpression?_eq_some_iff.2 ⟨directive, readAs, rfl⟩)
  · intro unread expression taken
    obtain ⟨directive, readAs, -⟩ := lineExpression?_eq_some_iff.1 taken
    exact unread directive readAs

/-- A comment that is put between two lines changes no expression exactly if none of its lines is read as
a directive, so a comment on one line changes nothing; and where it changes no expression it changes no
version, in whatever file it stands. What stands below a comment that is put outside comments and
literals is outside of them too. -/
theorem expressions_insert_iff {above comment : String} (ends : EndsLine above.toList)
    (written : IsComment comment.toList) (below : String) :
    (expressions (withComment above comment below) = expressions (above ++ below) ↔
      ∀ line ∈ comment.toList.splitOn '\n', ∀ directive, ¬ ReadAs line directive) ∧
    ('\n' ∉ comment.toList →
      expressions (withComment above comment below) = expressions (above ++ below)) ∧
    (expressions (withComment above comment below) = expressions (above ++ below) →
      ∀ (sources : SourceMap) (path reported : String),
        resolve? (sources.insert path (withComment above comment below)) reported =
          resolve? (sources.insert path (above ++ below)) reported) ∧
    ((Mode.code.after above.toList).isCode = true →
      Mode.code.after (withComment above comment "").toList = .code) := by
  have unchanged := expressions_withComment_iff ends comment below
  refine ⟨unchanged, fun bare => ?_, resolve?_insert_congr, fun outside => ?_⟩
  · -- The only line of the comment starts with its first slash.
    rw [unchanged, List.splitOn_eq_singleton bare]
    intro line member
    obtain rfl := List.mem_singleton.1 member
    cases spelled : comment.toList with
    | nil => rw [spelled] at written; cases written
    | cons c rest =>
      rw [spelled] at written
      cases written <;> exact fun directive => not_readAs_slash directive _
  · -- What stands above ends a line outside comments, so the scan starts afresh behind it.
    have start : Mode.code.after above.toList = .code := by
      rcases ends with none | ⟨front, split⟩
      · rw [none]
        rfl
      · rw [split, Mode.after_append] at outside ⊢
        exact Mode.next_lineFeed outside
    have whole : (withComment above comment "").toList =
        above.toList ++ (comment.toList ++ ['\n']) := by
      simp [withComment]
    rw [whole, Mode.after_append, start]
    exact written.after

/-- A comment over several lines that mentions a directive, but in none of them first. -/
def harmlessComment : String :=
  "/* up to now:\n * pragma solidity 0.4.0;\n */"

/-- It changes neither the expressions nor the version. -/
theorem harmlessComment_insert :
    expressions (withComment "// A\n" harmlessComment "pragma solidity 0.8.20;") = ["0.8.20"] ∧
    resolve? (SourceMap.empty.insert "A.sol"
      (withComment "// A\n" harmlessComment "pragma solidity 0.8.20;")) "v0.8.26" =
      resolve? (SourceMap.empty.insert "A.sol" ("// A\n" ++ "pragma solidity 0.8.20;")) "v0.8.26" := by
  have ends : EndsLine "// A\n".toList := .inr ⟨"// A".toList, rfl⟩
  -- Nothing inside the comment closes it.
  have written : IsComment harmlessComment.toList :=
    @IsComment.block " up to now:\n * pragma solidity 0.4.0;\n ".toList (by decide +kernel)
  obtain ⟨-, -, versions, -⟩ := expressions_insert_iff ends written "pragma solidity 0.8.20;"
  exact ⟨by decide +kernel, versions (by decide +kernel) _ _ _⟩

/-- A comment over several lines, one of which is a directive. -/
def formerDirective : String :=
  "/*\npragma solidity 0.4.0;\n*/"

/-- Put between two lines of a source text, outside comments and literals, this comment contributes an
expression, and the version is no longer the one that the directive of the text pins. -/
theorem not_ignored_formerDirective :
    EndsLine "// A\n".toList ∧ (Mode.code.after "// A\n".toList).isCode = true ∧
    IsComment formerDirective.toList ∧
    expressions (withComment "// A\n" formerDirective "pragma solidity 0.8.20;") =
      ["0.4.0", "0.8.20"] ∧
    expressions ("// A\n" ++ "pragma solidity 0.8.20;") = ["0.8.20"] ∧
    resolve? (SourceMap.empty.insert "A.sol"
      (withComment "// A\n" formerDirective "pragma solidity 0.8.20;")) "v0.8.26" = some "0.8.26" ∧
    resolve? (SourceMap.empty.insert "A.sol" ("// A\n" ++ "pragma solidity 0.8.20;")) "v0.8.26" =
      some "0.8.20" := by
  exact ⟨.inr ⟨"// A".toList, rfl⟩, rfl,
    @IsComment.block "\npragma solidity 0.4.0;\n".toList (by decide +kernel), by decide +kernel,
    by decide +kernel, by decide +kernel, by decide +kernel⟩

end AuditStage.Version
