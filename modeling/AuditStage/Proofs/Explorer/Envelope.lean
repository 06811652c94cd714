import AuditStage.Explorer.Envelope
import AuditStage.Proofs.Json.Printed
import AuditStage.Proofs.Json.Record

/-! The JSON text of an explorer's answer: it is read back as that answer, and no list of entries is ever
taken for a note, nor a note for a list of entries. -/

namespace AuditStage

open Json (IsGap Value Writable Writes nestingLimit)

namespace SourceEntry

/-- An entry is described by a value that is read as that entry. -/
theorem ofValue?_toValue (entry : SourceEntry) : ofValue? entry.toValue = some entry := by
  -- Each of the three names stands once, and with a text.
  simp [toValue, ofValue?, field?]

/-- The value of an entry takes one pair of brackets. -/
theorem writable_toValue (depth : Nat) (entry : SourceEntry) :
    Writable (depth + 1) entry.toValue := by
  simp [toValue]

end SourceEntry

namespace Listing

/-- A listing is described by a value that is read as that listing. -/
theorem ofValue?_toValue (listing : Listing) : ofValue? listing.toValue = some listing := by
  cases listing with
  | note text => rfl
  | entries items =>
    -- The entries are read one after the other, each from its own value.
    have read : (items.map SourceEntry.toValue).mapM SourceEntry.ofValue? = some items := by
      induction items with
      | nil => rfl
      | cons entry items ih =>
        rw [List.map_cons, List.mapM_cons, SourceEntry.ofValue?_toValue, ih]
        rfl
    simp only [toValue, ofValue?, read, Option.map_some]

/-- The value of a listing takes two pairs of brackets at most. -/
theorem writable_toValue (depth : Nat) (listing : Listing) :
    Writable (depth + 2) listing.toValue := by
  cases listing with
  | note text => exact .string
  | entries items =>
    refine .array fun value member => ?_
    -- The array takes a bracket, and each entry has its own.
    obtain ⟨entry, -, rfl⟩ := List.mem_map.1 member
    exact entry.writable_toValue depth

/-- Entries are read from a list of values that are read as them, and from nothing else. -/
theorem ofValue?_entries_iff {value : Value} {items : List SourceEntry} :
    ofValue? value = some (.entries items) ↔
      ∃ values, value = .array values ∧ values.mapM SourceEntry.ofValue? = some items := by
  cases value <;> simp [ofValue?]

/-- A note is read from a string of its text, and from nothing else. -/
theorem ofValue?_note_iff {value : Value} {text : String} :
    ofValue? value = some (.note text) ↔ value = .string text := by
  cases value <;> simp [ofValue?]

end Listing

namespace Envelope

/-- The members that describe an answer. -/
def members (envelope : Envelope) : List (String × Value) :=
  [("status", .string envelope.status), ("message", .string envelope.message),
    ("result", envelope.result.toValue)]

/-- The value of an answer takes three pairs of brackets at most. -/
theorem writable_toValue (depth : Nat) (envelope : Envelope) :
    Writable (depth + 3) envelope.toValue := by
  refine .object fun member inside => ?_
  simp only [List.mem_cons, List.not_mem_nil, or_false] at inside
  -- Only the listing takes brackets of its own.
  rcases inside with rfl | rfl | rfl
  · exact .string
  · exact .string
  · exact envelope.result.writable_toValue depth

/-- A listing is read from any text that writes its value. -/
theorem readListing_written {listing : Listing} {depth : Nat} {gap written : List Char}
    (blank : IsGap gap) (writes : Writes depth listing.toValue written) (rest : List Char) :
    readListing (gap ++ (written ++ rest)) = .ok (listing, rest) := by
  -- The brackets that are left by the answer around it are more than enough.
  have fits : Writes (nestingLimit - 1) listing.toValue written :=
    writes.within (listing.writable_toValue 124)
  have read := Json.readValue_written blank fits rest
  simp only [readListing, read, bind, Except.bind, listing.ofValue?_toValue]

/-- The members of an answer fill in all of its fields. -/
theorem fills_members (envelope : Envelope) :
    schema.Fills {} envelope.members
      ⟨some envelope.status, some envelope.message, some envelope.result⟩ := by
  -- Each member has the name of the next field, which no member before it has filled in.
  refine .cons rfl rfl
    (Json.Field.takes_text (fun text => Draft.mk (some text) none none) _ fun cs => rfl) ?_
  refine .cons rfl rfl
    (Json.Field.takes_text (fun text => Draft.mk (some envelope.status) (some text) none) _
      fun cs => rfl) ?_
  refine .cons rfl rfl (fun blank writes rest => ?listing) .nil
  case listing =>
    have read := readListing_written blank writes rest
    simp only [read, bind, Except.bind]

/-- Any text that writes the value of an answer, with blanks around it, is read as that answer. -/
theorem parse_of_writes {envelope : Envelope} {depth : Nat} {before written after : List Char}
    (front : IsGap before) (back : IsGap after) (writes : Writes depth envelope.toValue written) :
    parse (before ++ (written ++ after)) = .ok envelope := by
  have drafted := Json.Schema.parse_of_writes envelope.fills_members rfl front back writes
  simp only [parse, drafted, bind, Except.bind, Option.getD_some]

/-- The text of an answer, on one line or indented, is read as that answer, whatever characters it holds;
it is an object of three members, and entries are never read but from a list of values, if need be an
empty one, nor a note but from a string. -/
theorem parse_printed (envelope : Envelope) :
    parse envelope.toValue.text.toList = .ok envelope ∧
      parse envelope.toValue.prettyText.toList = .ok envelope ∧
      Json.parse envelope.toValue.text.toList = .ok (.object
        [("status", .string envelope.status), ("message", .string envelope.message),
          ("result", envelope.result.toValue)]) ∧
      (∀ value items, Listing.ofValue? value = some (.entries items) ↔
        ∃ values, value = .array values ∧ values.mapM SourceEntry.ofValue? = some items) ∧
      ∀ value text, Listing.ofValue? value = some (.note text) ↔ value = .string text := by
  have writable : Writable nestingLimit envelope.toValue := envelope.writable_toValue 124
  have read {written : List Char} (writes : Writes nestingLimit envelope.toValue written) :
      parse written = .ok envelope := by
    have drafted := parse_of_writes Json.isGap_nil Json.isGap_nil writes
    rwa [List.nil_append, List.append_nil] at drafted
  -- Both printers write the value, each with blanks of its own.
  have compact := Json.writes_compact writable
  have pretty := Json.writes_pretty writable 0
  have valued := Json.parse_of_writes Json.isGap_nil Json.isGap_nil compact
  rw [List.nil_append, List.append_nil] at valued
  rw [Value.text, Value.prettyText, String.toList_ofList, String.toList_ofList]
  exact ⟨read compact, read pretty, valued, fun _ _ => Listing.ofValue?_entries_iff,
    fun _ _ => Listing.ofValue?_note_iff⟩

/-- A note that looks like a list without entries remains a note. -/
example : parse (Envelope.mk "0" "NOTOK" (.note "[]")).toValue.text.toList =
    .ok ⟨"0", "NOTOK", .note "[]"⟩ := by
  cbv

end Envelope

end AuditStage
