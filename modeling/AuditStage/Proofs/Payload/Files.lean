import AuditStage.Payload
import AuditStage.Proofs.SourceMap
import Mathlib.Data.List.Basic
import Mathlib.Data.List.Forall2

/-! Which members of a published JSON object stand for files, what each of them has to be, and which
sources come of them. -/

namespace AuditStage.Payload

open Json (Value collapse last? member?)

/-- A value stands for a file of some content: it is an object that has the content for a member,
whatever else it has, or a list of the content alone. -/
inductive HoldsFile : Value → String → Prop where
  | object {members : List (String × Value)} {content : String}
      (held : last? members "content" = some (.string content)) : HoldsFile (.object members) content
  | list {content : String} : HoldsFile (.array [.string content]) content

/-- A value declares some remappings: it is an object that has a list of them for a member, or none, or
it is a list of that one list, or of nothing. -/
inductive Declares : Value → List String → Prop where
  | object {members : List (String × Value)} {remappings : List String}
      (held : last? members "remappings" = some (.array (remappings.map .string))) :
      Declares (.object members) remappings
  | unset {members : List (String × Value)} (absent : last? members "remappings" = none) :
      Declares (.object members) []
  | list {remappings : List String} : Declares (.array [.array (remappings.map .string)]) remappings
  | empty : Declares (.array []) []

/-- Some entries stand for files and some remappings go with them, by the members of a published object:
either all of its members are entries, or its sources are, and its settings declare the remappings. -/
inductive Lists (root : List (String × Value)) : List (String × Value) → List String → Prop where
  | bare (absent : last? root "sources" = none) : Lists root root []
  | unset {entries : List (String × Value)} (held : last? root "sources" = some (.object entries))
      (absent : last? root "settings" = none) : Lists root entries []
  | set {entries : List (String × Value)} {settings : Value} {remappings : List String}
      (held : last? root "sources" = some (.object entries))
      (given : last? root "settings" = some settings) (declares : Declares settings remappings) :
      Lists root entries remappings

/-- Sources hold what entries stand for: their keys are the names of the entries, each once, where it
came first, and the content of a key is that of the value that its name got last. -/
structure Collects (entries : List (String × Value)) (sources : SourceMap) : Prop where
  some : entries ≠ []
  keys : sources.keys = (entries.map Prod.fst).eraseDups
  contents : ∀ key ∈ sources.keys, ∃ value content, last? entries key = Option.some value ∧
    HoldsFile value content ∧ sources.get? key = Option.some content

/-- A text is read only from a string. -/
theorem toText_ok_iff {value : Value} {text : String} :
    value.toText = .ok text ↔ value = .string text := by
  cases value <;> simp [Value.toText]

/-- A record with one field is read from an object by the last member of that name, or as the field is
by default, and from a list by its only item, or as the field is in an empty list. -/
theorem toSingle_ok_iff {α : Type} {struct field : String} {read : Value → Except Json.Cause α}
    {absent : Bool → Except Json.Cause α} {value : Value} {content : α} :
    value.toSingle struct field read absent = .ok content ↔
      (∃ members held, value = .object members ∧ last? members field = some held ∧
        read held = .ok content) ∨
      (∃ members, value = .object members ∧ last? members field = none ∧
        absent false = .ok content) ∨
      (∃ item, value = .array [item] ∧ read item = .ok content) ∨
      (value = .array [] ∧ absent true = .ok content) := by
  -- Only an object and a list are read as a record at all.
  cases value with
  | object members =>
    cases found : last? members field <;>
      simp [Value.toSingle, Json.member?_collapse, found]
  | array items =>
    cases items with
    | nil => simp [Value.toSingle]
    | cons item more =>
      -- Behind the first item there must be no other one.
      cases first : read item with
      | error cause => simp [Value.toSingle, first]
      | ok text => cases more <;> simp [Value.toSingle, first]
  | _ => simp [Value.toSingle]

/-- A value is read as a file exactly if it stands for one. -/
theorem fileContent_ok_iff {value : Value} {content : String} :
    fileContent value = .ok content ↔ HoldsFile value content := by
  rw [fileContent, toSingle_ok_iff]
  -- There is no content by default, so two of the four ways are none.
  constructor
  · rintro (⟨members, held, rfl, found, read⟩ | ⟨-, -, -, none⟩ | ⟨item, rfl, read⟩ | ⟨-, none⟩)
    · exact .object (toText_ok_iff.1 read ▸ found)
    · cases none
    · rw [toText_ok_iff.1 read]
      exact .list
    · cases none
  · rintro (found | _)
    · exact .inl ⟨_, _, rfl, found, rfl⟩
    · exact .inr (.inr (.inl ⟨_, rfl, rfl⟩))

/-- Texts are read from a list exactly if it is a list of these strings. -/
theorem textsOf_ok_iff {items : List Value} {texts : List String} :
    Json.textsOf items = .ok texts ↔ items = texts.map .string := by
  -- The texts are read from the front, and the first item that is none ends it.
  induction items generalizing texts with
  | nil => cases texts <;> simp [Json.textsOf]
  | cons item items ih =>
    cases first : item.toText with
    | error cause =>
      -- An item that is no string stands in no list of strings.
      have other : ∀ text, item ≠ .string text := fun text same => by simp [same, Value.toText] at first
      cases texts <;> simp [Json.textsOf, first, other]
    | ok text =>
      obtain rfl := toText_ok_iff.1 first
      cases rest : Json.textsOf items with
      | error cause =>
        have other : ∀ texts : List String, items ≠ texts.map .string := fun texts same => by
          simp [ih.2 same] at rest
        cases texts <;> simp [Json.textsOf, first, rest, Except.map, other]
      | ok more =>
        obtain rfl := ih.1 rest
        cases texts with
        | nil => simp [Json.textsOf, first, rest, Except.map]
        | cons text' texts =>
          have strings : Function.Injective Value.string := fun _ _ same => by cases same; rfl
          simp [Json.textsOf, first, rest, Except.map, (List.map_injective_iff.2 strings).eq_iff]

/-- A list of texts is read exactly from a list of these strings. -/
theorem toTexts_ok_iff {value : Value} {texts : List String} :
    value.toTexts = .ok texts ↔ value = .array (texts.map .string) := by
  cases value <;> simp [Value.toTexts, textsOf_ok_iff]

/-- Settings are read exactly if they declare the remappings. -/
theorem declaredRemappings_ok_iff {value : Value} {remappings : List String} :
    declaredRemappings value = .ok remappings ↔ Declares value remappings := by
  rw [declaredRemappings, toSingle_ok_iff]
  -- Each way to read the record is one to declare the remappings.
  constructor
  · rintro (⟨members, held, rfl, found, read⟩ | ⟨members, rfl, found, unset⟩ | ⟨item, rfl, read⟩ |
      ⟨rfl, unset⟩)
    · exact .object (toTexts_ok_iff.1 read ▸ found)
    · cases unset
      exact .unset found
    · rw [toTexts_ok_iff.1 read]
      exact .list
    · cases unset
      exact .empty
  · rintro (found | found | _ | _)
    · exact .inl ⟨_, _, rfl, found, toTexts_ok_iff.2 rfl⟩
    · exact .inr (.inl ⟨_, rfl, found, rfl⟩)
    · exact .inr (.inr (.inl ⟨_, rfl, toTexts_ok_iff.2 rfl⟩))
    · exact .inr (.inr (.inr ⟨rfl, rfl⟩))

/-- Files are read from members exactly if each member stands for its file. -/
theorem filesOf_ok_iff {members : List (String × Value)} {files : List (String × String)} :
    filesOf members = .ok files ↔
      List.Forall₂ (fun member file => file.1 = member.1 ∧ HoldsFile member.2 file.2) members files := by
  induction members generalizing files with
  | nil => cases files <;> simp [filesOf]
  | cons member members ih =>
    obtain ⟨path, value⟩ := member
    cases first : fileContent value with
    | error cause =>
      -- Where the first member stands for no file, no files are read at all.
      have none : ∀ content, ¬HoldsFile value content := fun content holds => by
        simp [fileContent_ok_iff.2 holds] at first
      cases files <;> simp [filesOf, first, none]
    | ok content =>
      have only : ∀ text, HoldsFile value text ↔ text = content := fun text => by
        rw [← fileContent_ok_iff, first, Except.ok.injEq, eq_comm]
      cases files with
      | nil => cases rest : filesOf members <;> simp [filesOf, first, rest, Except.map]
      | cons file files =>
        obtain ⟨key, text⟩ := file
        rw [List.forall₂_cons, ← ih, only]
        cases rest : filesOf members with
        | error cause => simp [filesOf, first, rest, Except.map]
        | ok more => simp [filesOf, first, rest, Except.map, eq_comm]

/-- Files have the names of the members that they are read from, in the same order. -/
theorem pathsOf_of_filesOf {members : List (String × Value)} {files : List (String × String)}
    (read : filesOf members = .ok files) : pathsOf files = members.map Prod.fst := by
  have pairs := filesOf_ok_iff.1 read
  clear read
  -- Members and files stand in pairs.
  induction pairs with
  | nil => rfl
  | cons same _ ih =>
    simp only [pathsOf, List.map_cons] at ih ⊢
    rw [ih, same.1]

/-- Each file is read from a member of its name. -/
theorem mem_of_filesOf {members : List (String × Value)} {files : List (String × String)}
    (read : filesOf members = .ok files) {path content : String} (file : (path, content) ∈ files) :
    ∃ value, (path, value) ∈ members ∧ HoldsFile value content := by
  have pairs := filesOf_ok_iff.1 read
  clear read
  induction pairs with
  | nil => cases file
  | @cons member _ _ _ same _ ih =>
    rcases List.mem_cons.1 file with rfl | later
    · -- The file at the front is that of the member at the front.
      exact ⟨member.2, List.mem_cons.2 (.inl (Prod.ext same.1 rfl)), same.2⟩
    · obtain ⟨value, inside, holds⟩ := ih later
      exact ⟨value, List.mem_cons_of_mem _ inside, holds⟩

/-- Files are read from members if they have their names, and each member stands for any file of its
name. -/
theorem filesOf_of_pathsOf {members : List (String × Value)} {files : List (String × String)}
    (same : pathsOf files = members.map Prod.fst)
    (each : ∀ member ∈ members, ∀ file ∈ files, file.1 = member.1 → HoldsFile member.2 file.2) :
    filesOf members = .ok files := by
  rw [filesOf_ok_iff]
  -- Members and files have the same names, so they end together.
  induction members generalizing files with
  | nil =>
    obtain rfl : files = [] := by simpa [pathsOf] using same
    exact .nil
  | cons member members ih =>
    cases files with
    | nil => simp [pathsOf] at same
    | cons file files =>
      simp only [pathsOf, List.map_cons, List.cons.injEq] at same
      refine .cons ⟨same.1, each member (by simp) file (by simp) same.1⟩ (ih same.2 ?_)
      exact fun other inside file' known =>
        each other (List.mem_cons_of_mem _ inside) file' (List.mem_cons_of_mem _ known)

/-- Where no files are read from members, one of them stands for no file, and it is named. -/
theorem badEntry_of_filesOf {members : List (String × Value)} {cause : Malformed}
    (refused : filesOf members = .error cause) :
    ∃ path value why, (path, value) ∈ members ∧ fileContent value = .error why ∧
      cause = .badEntry path why := by
  induction members with
  | nil => cases refused
  | cons member members ih =>
    obtain ⟨path, value⟩ := member
    cases first : fileContent value with
    | error why =>
      simp only [filesOf, first, Except.error.injEq] at refused
      exact ⟨path, value, why, by simp, first, refused.symm⟩
    | ok content =>
      -- The member at the front stands for a file, so the fault is further on.
      have later : filesOf members = .error cause := by
        cases rest : filesOf members with
        | error why => simpa [filesOf, first, rest, Except.map] using refused
        | ok files => simp [filesOf, first, rest, Except.map] at refused
      obtain ⟨path, value, why, inside, bad, named⟩ := ih later
      exact ⟨path, value, why, List.mem_cons_of_mem _ inside, bad, named⟩

/-- The files of some sources are read from the kept entries exactly if the sources collect them. -/
theorem filesOf_collapse_iff {entries : List (String × Value)} {sources : SourceMap}
    (some : entries ≠ []) :
    filesOf (collapse entries) = .ok sources.files ↔ Collects entries sources := by
  constructor
  · intro read
    refine ⟨some, ?_, fun key known => ?_⟩
    · rw [← Json.map_fst_collapse]
      exact pathsOf_of_filesOf read
    · -- The file of a key is read from the value that the name has kept.
      obtain ⟨⟨path, content⟩, file, rfl⟩ := List.mem_map.1 known
      obtain ⟨value, kept, holds⟩ := mem_of_filesOf read file
      exact ⟨value, content, Json.mem_collapse.1 kept, holds, SourceMap.get?_of_mem file⟩
  · intro collects
    have same : pathsOf sources.files = (collapse entries).map Prod.fst := by
      rw [Json.map_fst_collapse]
      exact collects.keys
    refine filesOf_of_pathsOf same fun member kept file inside named => ?_
    have known : member.1 ∈ sources.keys := named ▸ List.mem_map_of_mem inside
    -- Both the value of the name and the content of the key are the only ones.
    obtain ⟨value, content, held, holds, found⟩ := collects.contents _ known
    have value_eq : member.2 = value := Option.some.inj ((Json.mem_collapse.1 kept).symm.trans held)
    have content_eq : file.2 = content := by
      rw [← named, SourceMap.get?_of_mem inside] at found
      exact Option.some.inj found
    rw [value_eq, content_eq]
    exact holds

/-- Entries that all stand for files are collected by some sources. -/
theorem exists_collects {entries : List (String × Value)} (remappings : List String)
    (some : entries ≠ []) (each : ∀ name value, last? entries name = Option.some value →
      ∃ content, HoldsFile value content) :
    ∃ sources : SourceMap, sources.remappings = remappings ∧ Collects entries sources := by
  cases collected : filesOf (collapse entries) with
  | error cause =>
    -- The entry at fault stands for a file as all others do.
    obtain ⟨path, value, why, inside, contentless, -⟩ := badEntry_of_filesOf collected
    obtain ⟨content, holds⟩ := each path value (Json.mem_collapse.1 inside)
    rw [fileContent_ok_iff.2 holds] at contentless
    cases contentless
  | ok files =>
    have distinct : (pathsOf files).Nodup :=
      pathsOf_of_filesOf collected ▸ Json.nodup_collapse entries
    exact ⟨⟨files, remappings, distinct⟩, rfl, (filesOf_collapse_iff some).1 collected⟩

/-- Entries that sources collect all stand for files. -/
theorem Collects.holdsFile {entries : List (String × Value)} {sources : SourceMap}
    (collects : Collects entries sources) {name : String} {value : Value}
    (held : last? entries name = Option.some value) : ∃ content, HoldsFile value content := by
  -- The value of a name is kept, so the name is a key of the sources.
  have kept := Json.mem_collapse.2 held
  have known : name ∈ sources.keys := by
    rw [collects.keys, ← Json.map_fst_collapse]
    exact List.mem_map_of_mem kept
  obtain ⟨other, content, found, holds, -⟩ := collects.contents name known
  obtain rfl := Option.some.inj (held.symm.trans found)
  exact ⟨content, holds⟩

end AuditStage.Payload
