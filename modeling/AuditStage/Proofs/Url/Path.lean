import AuditStage.Proofs.Url.Form
import AuditStage.Url.Parse

/-! The path of a URL that has been read from a text: no question mark stands in it, so that the first
one behind it is where the query starts. -/

namespace AuditStage.Url

/-- No question mark stands in a text. -/
def Unasked (cs : List Char) : Prop :=
  '?' ∉ cs

/-- A text that is put together from two has a question mark only where one of them has. -/
theorem Unasked.append {front back : List Char} (first : Unasked front) (last : Unasked back) :
    Unasked (front ++ back) := by
  rintro member
  rcases List.mem_append.1 member with inside | inside
  · exact first inside
  · exact last inside

/-- Whatever is escaped in a text, no question mark comes into it. -/
theorem Unasked.percentEncode {cs : List Char} (bare : Unasked cs) (escaped : Char → Bool) :
    Unasked (Url.percentEncode escaped cs) := by
  intro member
  obtain ⟨c, inside, written⟩ := List.mem_flatMap.1 member
  unfold percentChar at written
  split at written
  · -- Percent signs, letters and numerals take the place of a character.
    obtain ⟨octet, known, holds⟩ := List.mem_flatMap.1 written
    exact absurd (of_mem_percentOctet (lt_of_mem_octets known) holds) (by decide)
  · -- A character that is not escaped was there before.
    have same : '?' = c := List.mem_singleton.1 written
    exact bare (same ▸ inside)

/-- No question mark stands in any of the segments. -/
def UnaskedAll (segments : List (List Char)) : Prop :=
  ∀ segment ∈ segments, Unasked segment

namespace UnaskedAll

variable {taken segments : List (List Char)}

/-- Segments are added to others. -/
theorem append (first : UnaskedAll taken) (last : UnaskedAll segments) :
    UnaskedAll (taken ++ segments) := by
  intro segment member
  rcases List.mem_append.1 member with inside | inside
  · exact first segment inside
  · exact last segment inside

/-- A single segment. -/
theorem single {segment : List Char} (bare : Unasked segment) : UnaskedAll [segment] := by
  intro other member
  exact List.mem_singleton.1 member ▸ bare

/-- The empty segment at the end of a path that ends with a dot. -/
theorem ending (last : Bool) : UnaskedAll (if last then [[]] else []) := by
  cases last <;> simp [UnaskedAll, Unasked]

/-- The last of the segments is left, unless it is a drive. -/
theorem leaveLast (bare : UnaskedAll taken) : UnaskedAll (Url.leaveLast taken) := by
  unfold Url.leaveLast
  split
  · exact bare
  · exact fun segment member => bare segment (List.dropLast_subset taken member)

/-- The path of segments without a question mark has none. -/
theorem pathText (bare : UnaskedAll segments) : Unasked (Url.pathText segments).toList := by
  rw [Url.pathText, String.toList_ofList]
  intro member
  obtain ⟨segment, inside, holds⟩ := List.mem_flatMap.1 member
  -- Between the segments there are only slashes.
  rcases List.mem_cons.1 holds with slash | holds
  · cases slash
  · exact bare segment inside holds

/-- Following dots takes no question mark into the segments. -/
theorem settleSegments (before : UnaskedAll taken) (bare : UnaskedAll segments) :
    UnaskedAll (Url.settleSegments taken segments) := by
  -- The segments are gone through one by one, and what has been taken so far is kept bare.
  induction segments generalizing taken with
  | nil => exact before
  | cons segment segments ih =>
    have others : UnaskedAll segments := fun other member => bare other (List.mem_cons_of_mem _ member)
    have here : Unasked segment := bare segment (by simp)
    have ended := ending segments.isEmpty
    rw [Url.settleSegments]
    -- A way up leaves a segment out, a dot adds none, and any other segment is escaped.
    split
    · exact ih (before.leaveLast.append ended) others
    split
    · exact ih (before.append ended) others
    · exact ih (before.append (single (here.percentEncode _))) others

/-- Following dots in the path of a file takes no question mark into the segments. -/
theorem settleFile (before : UnaskedAll taken) (bare : UnaskedAll segments) (drive : Bool) :
    UnaskedAll (Url.settleFile taken drive segments).1 := by
  induction segments generalizing taken drive with
  | nil => exact before
  | cons segment segments ih =>
    have others : UnaskedAll segments := fun other member => bare other (List.mem_cons_of_mem _ member)
    have here : Unasked segment := bare segment (by simp)
    have part (count : Nat) : Unasked (segment.take count) := fun member =>
      here (List.take_subset count segment member)
    have rest (count : Nat) : Unasked (segment.drop count) := fun member =>
      here (List.drop_subset count segment member)
    have ended := ending segments.isEmpty
    have encoded : UnaskedAll [Url.percentEncode escapedInPath segment] :=
      single (here.percentEncode _)
    rw [Url.settleFile]
    -- Dots are followed as in any path; then come the drives, of which parts of a segment are kept.
    split
    · exact ih (before.leaveLast.append ended) others _
    split
    · exact ih (before.append ended) others _
    split
    · exact ih (before.append encoded) others _
    split
    · have colon : Unasked [':'] := by simp [Unasked]
      exact ih (single ((part 1).append colon)) others _
    split
    · exact ih (append (single (part 2)) (single ((rest 2).percentEncode _))) others _
    · exact ih encoded others _

end UnaskedAll

variable {cs : List Char}

/-- The segments of a text without a question mark have none. -/
theorem unaskedAll_segmentsOf (bare : Unasked cs) (special : Bool) :
    UnaskedAll (segmentsOf special cs) := by
  intro segment member asked
  obtain ⟨inside, -⟩ := Text.mem_of_mem_splitOn member _ asked
  -- Only slashes have been put in the place of characters.
  obtain ⟨c, known, same⟩ := List.mem_map.1 inside
  split at same
  · cases same
  · exact bare (same ▸ known)

/-- A path that is read from a text without a question mark has none. -/
theorem unasked_parsePath (bare : Unasked cs) (special : Bool) :
    Unasked (parsePath special cs).toList :=
  (UnaskedAll.settleSegments (by simp [UnaskedAll]) (unaskedAll_segmentsOf bare special)).pathText

/-- The path of a file that is read from a text without a question mark has none. -/
theorem unasked_parseFilePath (bare : Unasked cs) : Unasked (parseFilePath cs).1.toList := by
  have settled : UnaskedAll (settleFile [] false (segmentsOf true cs)).1 :=
    UnaskedAll.settleFile (by simp [UnaskedAll]) (unaskedAll_segmentsOf bare true) false
  unfold parseFilePath
  split
  rename_i segments drive found
  rw [found] at settled
  -- If there are none but empty segments, the path is that of the root.
  split
  · have root : ("/" : String).toList = ['/'] := by decide
    simp [Unasked, root]
  · -- What is left of the segments are the last ones.
    have some : UnaskedAll (segments.dropWhile (· == [])) := fun segment member =>
      settled segment (List.dropWhile_subset _ member)
    exact some.pathText

/-- The text before the first question mark or number sign has none. -/
theorem unasked_splitAtAny (cs : List Char) :
    Unasked (splitAtAny (fun c => c == '?' || c == '#') cs).1 := by
  intro member
  -- The text is taken as long as neither of the two marks comes.
  have passed := List.all_eq_true.1 List.all_takeWhile _ member
  simp at passed

/-- A text without its first slash has no more question marks than it had. -/
theorem Unasked.dropSlash (bare : Unasked cs) (special : Bool) : Unasked (Url.dropSlash special cs) := by
  unfold Url.dropSlash
  split
  · exact fun member => bare (List.mem_of_mem_tail member)
  · exact bare

end AuditStage.Url
