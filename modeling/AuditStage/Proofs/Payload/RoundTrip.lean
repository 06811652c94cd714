import AuditStage.Proofs.Json.Printed
import AuditStage.Proofs.Payload.Accepted
import Mathlib.Data.List.Nodup

/-! Files that are written as a JSON text and parsed again: they come back in their order, with their
contents and with the remappings that were written beside them. -/

namespace AuditStage

namespace Payload

open Json (Value Writes WritesMembers nestingLimit)
open Text (isBlank)

/-- A text that writes an object stands between braces, and only between one pair of them. -/
theorem isBraced_of_writes {depth : Nat} {members : List (String × Value)} {text : List Char}
    (writes : Writes depth (.object members) text) :
    isBraced text = true ∧ isDoubled text = false := by
  cases writes with
  | object inside =>
    have outer := inside.head?_ne
    obtain ⟨inner, rfl⟩ := inside.ends
    refine ⟨isBraced_iff.2 ⟨inner, rfl⟩, ?_⟩
    rw [isDoubled_wrapped]
    cases inner with
    | nil => rfl
    | cons c inner =>
      -- The character behind the brace is none.
      have other : c ≠ '\x7b' := by simpa using outer
      simp [isBraced, other]

/-- The entry of a file with some content. -/
def entryOf (content : String) : Value :=
  .object [("content", .string content)]

/-- Files as an object that maps each path to its entry. -/
def multiFile (files : List (String × String)) : List (String × Value) :=
  files.map fun file => (file.1, entryOf file.2)

/-- Files and remappings as the input of a compiler. -/
def standardInput (files : List (String × String)) (remappings : List String) :
    List (String × Value) :=
  [("sources", .object (multiFile files)),
    ("settings", .object [("remappings", .array (remappings.map .string))])]

/-- Files may be written within two pairs of brackets. -/
theorem writable_multiFile {depth : Nat} (files : List (String × String)) :
    Json.Writable (depth + 2) (.object (multiFile files)) := by
  refine .object fun member entry => ?_
  obtain ⟨file, -, rfl⟩ := List.mem_map.1 entry
  simp [entryOf]

/-- What is printed for files writes them. -/
theorem writes_multiFile (files : List (String × String)) :
    Writes nestingLimit (.object (multiFile files)) (Value.object (multiFile files)).compact :=
  Json.writes_compact (writable_multiFile files)

/-- What is printed for the input of a compiler writes it. -/
theorem writes_standardInput (files : List (String × String)) (remappings : List String) :
    Writes nestingLimit (.object (standardInput files remappings))
      (Value.object (standardInput files remappings)).compact := by
  -- The files stand one pair of brackets deeper than by themselves.
  have inner : Json.Writable (nestingLimit - 1) (.object (multiFile files)) := writable_multiFile files
  exact Json.writes_compact (by simpa [nestingLimit, standardInput] using inner)

/-- The names of the entries are the paths of the files. -/
theorem map_fst_multiFile (files : List (String × String)) :
    (multiFile files).map Prod.fst = pathsOf files := by
  simp [multiFile, pathsOf, Function.comp_def]

/-- The entries of some files are collected as these files. -/
theorem collects_multiFile {files : List (String × String)} (some : files ≠ [])
    (distinct : (pathsOf files).Nodup) (remappings : List String) :
    Collects (multiFile files) ⟨files, remappings, distinct⟩ := by
  -- With distinct paths no entry takes the place of another one.
  have names := map_fst_multiFile files
  have kept : Json.collapse (multiFile files) = multiFile files :=
    Json.collapse_of_nodup (names ▸ distinct)
  have nonempty : multiFile files ≠ [] := by simpa [multiFile] using some
  rw [← filesOf_collapse_iff nonempty, kept]
  refine filesOf_of_pathsOf names.symm fun member entry file inside named => ?_
  -- The entry was made of a file, which is the one of that path.
  obtain ⟨source, origin, rfl⟩ := List.mem_map.1 entry
  obtain rfl : source = file := List.inj_on_of_nodup_map distinct origin inside named.symm
  exact .object rfl

/-- A text that writes an object holds that object. -/
theorem parse_of_writes {members : List (String × Value)} {text : List Char}
    (writes : Writes nestingLimit (.object members) text) :
    Json.parse text = .ok (.object members) := by
  simpa using Json.parse_of_writes Json.isGap_nil Json.isGap_nil writes

/-- Between one pair of braces or two, and with any blanks around them, a text that writes an object is
read as that object is. -/
theorem parse_both {members : List (String × Value)} {text : List Char}
    (writes : Writes nestingLimit (.object members) text) {sources : SourceMap}
    (read : ofJson text = .ok sources) (contractName : String) {before after : List Char}
    (front : ∀ c ∈ before, isBlank c = true) (back : ∀ c ∈ after, isBlank c = true) :
    parse (String.ofList (before ++ text ++ after)) contractName = .ok sources ∧
      parse (String.ofList (before ++ '\x7b' :: (text ++ ['\x7d']) ++ after)) contractName =
        .ok sources := by
  obtain ⟨braced, single⟩ := isBraced_of_writes writes
  -- With one pair nothing is dropped, and with two the outer one is.
  rw [parse_braced front back braced, parse_wrapped front back braced, unwrap, single]
  exact ⟨read, read⟩

/-- Files with distinct paths come back from any text that writes them as the input of a compiler with
remappings, and so do the remappings. Written by themselves they come back without remappings, unless
one of them has the name of the member that holds the sources. Neither blanks around the text nor one
more pair of braces make a difference. -/
theorem parse_roundTrip {files : List (String × String)} (some : files ≠ [])
    (distinct : (pathsOf files).Nodup) (remappings : List String) (contractName : String)
    {before after : List Char} (front : ∀ c ∈ before, isBlank c = true)
    (back : ∀ c ∈ after, isBlank c = true) :
    (Writes nestingLimit (.object (standardInput files remappings))
        (Value.object (standardInput files remappings)).compact ∧
      Writes nestingLimit (.object (multiFile files)) (Value.object (multiFile files)).compact) ∧
    (∀ text, Writes nestingLimit (.object (standardInput files remappings)) text →
      parse (String.ofList (before ++ text ++ after)) contractName =
        .ok ⟨files, remappings, distinct⟩ ∧
      parse (String.ofList (before ++ '\x7b' :: (text ++ ['\x7d']) ++ after)) contractName =
        .ok ⟨files, remappings, distinct⟩) ∧
    ("sources" ∉ pathsOf files →
      ∀ text, Writes nestingLimit (.object (multiFile files)) text →
        parse (String.ofList (before ++ text ++ after)) contractName = .ok ⟨files, [], distinct⟩ ∧
        parse (String.ofList (before ++ '\x7b' :: (text ++ ['\x7d']) ++ after)) contractName =
          .ok ⟨files, [], distinct⟩) := by
  refine ⟨⟨writes_standardInput _ _, writes_multiFile _⟩, fun text writes => ?standard,
    fun unreserved text writes => ?multi⟩
  case standard =>
    have read : ofJson text = .ok ⟨files, remappings, distinct⟩ :=
      ofJson_ok_iff.2 ⟨_, _, parse_of_writes writes, .set rfl rfl (.object rfl),
        collects_multiFile some distinct _⟩
    exact parse_both writes read contractName front back
  case multi =>
    -- No entry is taken for the member that holds the sources.
    have absent : Json.last? (multiFile files) "sources" = none := by
      rw [← map_fst_multiFile] at unreserved
      exact Json.last?_eq_none_iff.2 unreserved
    have read : ofJson text = .ok ⟨files, [], distinct⟩ :=
      ofJson_ok_iff.2 ⟨_, _, parse_of_writes writes, .bare absent, collects_multiFile some distinct _⟩
    exact parse_both writes read contractName front back

/-- Files whose paths and contents have quotes, backslashes and characters of all kinds. -/
def sampleFiles : List (String × String) :=
  [("b/\"B\".sol", "// \\ \u0001\n"), ("A é.sol", "\t😀")]

/-- The sample comes back from between two pairs of braces, and also when it is written by itself. -/
theorem sampleFiles_roundTrip :
    parse (String.ofList ([' '] ++ '\x7b' ::
      ((Value.object (standardInput sampleFiles ["@x/=y/"])).compact ++ ['\x7d']) ++ ['\n'])) "A" =
        .ok ⟨sampleFiles, ["@x/=y/"], by decide⟩ ∧
    parse (String.ofList ([' '] ++ (Value.object (multiFile sampleFiles)).compact ++ ['\n'])) "A" =
      .ok ⟨sampleFiles, [], by decide⟩ := by
  -- A blank stands on each side.
  have front : ∀ c ∈ [' '], isBlank c = true := List.forall_mem_singleton.2 rfl
  have back : ∀ c ∈ ['\n'], isBlank c = true := List.forall_mem_singleton.2 rfl
  have returned := parse_roundTrip (show sampleFiles ≠ [] by decide) (by decide) ["@x/=y/"] "A" front back
  exact ⟨(returned.2.1 _ returned.1.1).2, (returned.2.2 (by decide) _ returned.1.2).1⟩

end Payload

end AuditStage
