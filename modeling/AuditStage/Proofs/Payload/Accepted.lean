import AuditStage.Proofs.Json.Printed
import AuditStage.Proofs.Payload.Braces
import AuditStage.Proofs.Payload.Files

/-! Exactly which published JSON texts are accepted, which sources come of them, and why all others are
refused. -/

namespace AuditStage

/-- What a text holds that opens with a brace is an object. -/
theorem Json.object_of_parse {text : List Char} {value : Value}
    (opened : text.head? = some '\x7b') (read : parse text = .ok value) :
    ∃ members, value = .object members := by
  -- The first character decides what kind of value is read.
  obtain ⟨rest, rfl⟩ := List.head?_eq_some_iff.1 opened
  have front : skipGap ('\x7b' :: rest) = '\x7b' :: rest := by simp [skipGap, isGap]
  unfold parse readValue readValueFrom at read
  simp only [front, nestingLimit] at read
  -- The brace leads to the members, and the end of the text changes nothing about them.
  rw [if_neg (by decide), if_true] at read
  cases inside : readMembersFrom (2 * ('\x7b' :: rest).length + 1) 126 true rest with
  | error fault =>
    simp only [inside] at read
    cases read
  | ok found =>
    simp only [inside] at read
    cases ended : readEnd found.2 with
    | error fault => simp [ended, bind, Except.bind] at read
    | ok _ =>
      simp only [ended, bind, Except.bind, Except.ok.injEq] at read
      exact ⟨_, read.symm⟩

namespace Payload

open Json (Value collapse last? member?)

/-- Why a published JSON text is refused. -/
inductive Refused (text : List Char) : Malformed → Prop where
  /-- It is no JSON text. -/
  | notJson {fault : Json.Fault} (unread : Json.parse text = .error fault) :
      Refused text (.notJson fault.cause (fault.position text))
  /-- What it has for its sources is no object. -/
  | sources {root : List (String × Value)} {value : Value}
      (read : Json.parse text = .ok (.object root)) (held : last? root "sources" = some value)
      (other : ∀ entries, value ≠ .object entries) : Refused text .sourcesNotObject
  /-- What it has for its settings declares no remappings. -/
  | settings {root entries : List (String × Value)} {value : Value} {cause : Json.Cause}
      (read : Json.parse text = .ok (.object root))
      (held : last? root "sources" = some (.object entries))
      (given : last? root "settings" = some value)
      (undeclared : declaredRemappings value = .error cause) : Refused text (.badSettings cause)
  /-- What it has for an entry stands for no file. -/
  | entry {root entries : List (String × Value)} {remappings : List String} {path : String}
      {value : Value} {cause : Json.Cause} (read : Json.parse text = .ok (.object root))
      (lists : Lists root entries remappings) (held : last? entries path = some value)
      (contentless : fileContent value = .error cause) : Refused text (.badEntry path cause)
  /-- It has no entry. -/
  | noFiles {root : List (String × Value)} {remappings : List String}
      (read : Json.parse text = .ok (.object root)) (lists : Lists root [] remappings) :
      Refused text .noFiles

/-- The entries and the remappings that are read are those that the members list. -/
theorem entriesOf_ok_iff {root kept : List (String × Value)} {remappings : List String} :
    entriesOf (collapse root) = .ok (kept, remappings) ↔
      ∃ entries, Lists root entries remappings ∧ kept = collapse entries := by
  simp only [entriesOf, Json.member?_collapse]
  constructor
  · intro read
    split at read
    · rename_i absent
      cases read
      exact ⟨root, .bare absent, rfl⟩
    · rename_i entries held
      -- The settings are looked at only beside the sources.
      split at read
      · rename_i absent
        cases read
        exact ⟨entries, .unset held absent, rfl⟩
      · rename_i settings given
        split at read
        · cases read
        · rename_i declared
          cases read
          exact ⟨entries, .set held given (declaredRemappings_ok_iff.1 declared), rfl⟩
    · cases read
  · rintro ⟨entries, lists, rfl⟩
    cases lists with
    | bare absent => simp only [absent]
    | unset held absent => simp only [held, absent]
    | set held given declares => simp only [held, given, declaredRemappings_ok_iff.2 declares]

/-- The sources that the members of an object describe are those that its entries collect. -/
theorem ofMembers_ok_iff {root : List (String × Value)} {sources : SourceMap} :
    ofMembers root = .ok sources ↔
      ∃ entries, Lists root entries sources.remappings ∧ Collects entries sources := by
  -- Both ways go through the entries that are chosen and the files read from them.
  constructor
  · intro read
    unfold ofMembers at read
    split at read
    · cases read
    rename_i kept remappings selected
    obtain ⟨entries, lists, rfl⟩ := entriesOf_ok_iff.1 selected
    split at read
    · cases read
    · cases read
    rename_i files nonempty collected
    cases read
    -- The names of the files are distinct, so that all of them are taken as they are.
    have distinct : (pathsOf files).Nodup :=
      pathsOf_of_filesOf collected ▸ Json.nodup_collapse entries
    have some : entries ≠ [] := by
      rintro rfl
      exact nonempty (Except.ok.inj collected).symm
    refine ⟨entries, lists, (filesOf_collapse_iff some).1 ?_⟩
    exact collected.trans (congrArg Except.ok (SourceMap.files_ofList distinct).symm)
  · rintro ⟨entries, lists, collects⟩
    have selected := entriesOf_ok_iff.2 ⟨entries, lists, rfl⟩
    have collected := (filesOf_collapse_iff collects.some).2 collects
    -- There are entries, and so there are files.
    have nonempty : sources.files ≠ [] := fun none => collects.some <| Json.collapse_eq_nil_iff.1 <|
      List.map_eq_nil_iff.1 ((pathsOf_of_filesOf collected).symm.trans (congrArg pathsOf none))
    simp only [ofMembers, selected, collected, SourceMap.withRemappings_ofList]

/-- Members are refused for what they have for their sources, for their settings or for an entry, or
because there is no entry. -/
theorem refused_of_ofMembers {text : List Char} {root : List (String × Value)} {cause : Malformed}
    (read : Json.parse text = .ok (.object root)) (refused : ofMembers root = .error cause) :
    Refused text cause := by
  unfold ofMembers at refused
  split at refused
  · -- Nothing was chosen to be read as files.
    rename_i why unchosen
    cases refused
    simp only [entriesOf, Json.member?_collapse] at unchosen
    split at unchosen
    · cases unchosen
    · rename_i entries held
      split at unchosen
      · cases unchosen
      · rename_i settings given
        split at unchosen
        · rename_i undeclared
          cases unchosen
          exact .settings read held given undeclared
        · cases unchosen
    · rename_i value other held
      cases unchosen
      exact .sources read held other
  · rename_i kept remappings chosen
    obtain ⟨entries, lists, rfl⟩ := entriesOf_ok_iff.1 chosen
    split at refused
    · rename_i bad
      cases refused
      obtain ⟨path, value, why, inside, contentless, rfl⟩ := badEntry_of_filesOf bad
      exact .entry read lists (Json.mem_collapse.1 inside) contentless
    · -- No files are there only where there are no entries.
      rename_i collected
      cases refused
      have none : (collapse entries).map Prod.fst = [] := (pathsOf_of_filesOf collected).symm
      obtain rfl := Json.collapse_eq_nil_iff.1 (List.map_eq_nil_iff.1 none)
      exact .noFiles read lists
    · cases refused

/-- Sources are read from a text exactly if it is that of an object whose entries they collect. -/
theorem ofJson_ok_iff {text : List Char} {sources : SourceMap} :
    ofJson text = .ok sources ↔ ∃ root entries, Json.parse text = .ok (.object root) ∧
      Lists root entries sources.remappings ∧ Collects entries sources := by
  -- A text that holds something other than an object describes no sources.
  unfold ofJson
  split
  · rename_i unread
    simp [unread]
  · rename_i root read
    simp [read, ofMembers_ok_iff]
  · rename_i value other read
    constructor
    · intro described
      cases described
    · rintro ⟨root, entries, object, -⟩
      exact absurd (Except.ok.inj (read.symm.trans object)) (other root)

/-- A text that opens with a brace is refused for one of the known reasons. -/
theorem refused_of_ofJson {text : List Char} (opened : text.head? = some '\x7b') {cause : Malformed}
    (refused : ofJson text = .error cause) : Refused text cause := by
  -- The text is no JSON, or its members are refused, or it holds no object.
  unfold ofJson at refused
  split at refused
  · rename_i unread
    cases refused
    exact .notJson unread
  · rename_i read
    exact refused_of_ofMembers read refused
  · -- Whatever such a text holds is an object.
    rename_i value other read
    obtain ⟨members, rfl⟩ := Json.object_of_parse opened read
    exact absurd rfl (other members)

/-- A text between braces gives sources exactly if it holds an object whose entries, at least one, all
stand for files. The sources are what the entries stand for, in their order, with the remappings that
are declared; any other text is refused for what is wrong with it. One more pair of braces changes
nothing if there is only one. -/
theorem structured_accepted (payload contractName : String)
    (structured : isStructured payload = true) :
    ((∃ sources, parse payload contractName = .ok sources) ↔
      ∃ root entries remappings,
        Json.parse (unwrap (Text.trim payload.toList)) = .ok (.object root) ∧
        Lists root entries remappings ∧ entries ≠ [] ∧
        ∀ name value, last? entries name = some value → ∃ content, HoldsFile value content) ∧
    (∀ sources, parse payload contractName = .ok sources ↔
      ∃ root entries, Json.parse (unwrap (Text.trim payload.toList)) = .ok (.object root) ∧
        Lists root entries sources.remappings ∧ Collects entries sources) ∧
    (∀ cause, parse payload contractName = .error cause →
      Refused (unwrap (Text.trim payload.toList)) cause) ∧
    (isDoubled (Text.trim payload.toList) = false →
      parse (String.ofList ('\x7b' :: (Text.trim payload.toList ++ ['\x7d']))) contractName =
        parse payload contractName) := by
  -- What is read is the text without its extra pair of braces.
  have read : parse payload contractName = ofJson (unwrap (Text.trim payload.toList)) := by
    rw [parse, if_pos structured]
  have exactly (sources : SourceMap) : parse payload contractName = .ok sources ↔
      ∃ root entries, Json.parse (unwrap (Text.trim payload.toList)) = .ok (.object root) ∧
        Lists root entries sources.remappings ∧ Collects entries sources := by
    rw [read]
    exact ofJson_ok_iff
  refine ⟨⟨?accepted, ?accepts⟩, exactly, ?refused, ?wrapped⟩
  case accepted =>
    rintro ⟨sources, ok⟩
    obtain ⟨root, entries, object, lists, collects⟩ := (exactly sources).1 ok
    exact ⟨root, entries, _, object, lists, collects.some, fun name value => collects.holdsFile⟩
  case accepts =>
    rintro ⟨root, entries, remappings, object, lists, some, each⟩
    obtain ⟨sources, rfl, collects⟩ := exists_collects remappings some each
    exact ⟨sources, (exactly sources).2 ⟨root, entries, object, lists, collects⟩⟩
  case refused =>
    intro cause error
    exact refused_of_ofJson (head?_unwrap structured) (read ▸ error)
  case wrapped =>
    intro single
    have same := parse_wrapped (List.forall_mem_nil _) (List.forall_mem_nil _) structured contractName
    rw [List.nil_append, List.append_nil] at same
    rw [same, read, unwrap, single]
    rfl

/-- Two files, of which one is listed twice, with settings. -/
def samplePayload : String :=
  " \x7b\"sources\":\x7b\"A.sol\":\x7b\"content\":\"old\"\x7d,\"B.sol\":[\"b\"],\"A.sol\":" ++
    "\x7b\"more\":null,\"content\":\"new\"\x7d\x7d,\"settings\":\x7b\"remappings\":[\"@x/=y/\"]\x7d\x7d\n"

/-- The entries of the sample, as they are written. -/
def sampleEntries : List (String × Value) :=
  [("A.sol", .object [("content", .string "old")]), ("B.sol", .array [.string "b"]),
    ("A.sol", .object [("more", .null), ("content", .string "new")])]

/-- All members of the sample. -/
def sampleRoot : List (String × Value) :=
  [("sources", .object sampleEntries),
    ("settings", .object [("remappings", .array [.string "@x/=y/"])])]

/-- The sample gives both files, the first of them with the content that it got last. -/
theorem samplePayload_accepted : isStructured samplePayload = true ∧
    parse samplePayload "A" =
      .ok ⟨[("A.sol", "new"), ("B.sol", "b")], ["@x/=y/"], by decide⟩ ∧
    isDoubled (Text.trim samplePayload.toList) = false := by
  -- Only the blanks around the sample are dropped: it stands in one pair of braces.
  have trimmed : Text.trim samplePayload.toList = (Value.object sampleRoot).compact := by
    decide +kernel
  have structured : isStructured samplePayload = true := by decide +kernel
  have single : isDoubled (Text.trim samplePayload.toList) = false := by decide +kernel
  -- The text is what is printed for the members, so they are read from it.
  have writes : Json.Writes Json.nestingLimit (.object sampleRoot) (Value.object sampleRoot).compact := by
    exact Json.writes_compact (by simp [Json.nestingLimit, sampleRoot, sampleEntries])
  have read : Json.parse (unwrap (Text.trim samplePayload.toList)) = .ok (.object sampleRoot) := by
    rw [unwrap, single, trimmed]
    simpa using Json.parse_of_writes Json.isGap_nil Json.isGap_nil writes
  refine ⟨structured, ((structured_accepted samplePayload "A" structured).2.1 _).2
    ⟨sampleRoot, sampleEntries, read, ?_, ?_⟩, single⟩
  · exact .set rfl rfl (.object rfl)
  · refine (filesOf_collapse_iff (by decide)).1 rfl

end Payload

end AuditStage
