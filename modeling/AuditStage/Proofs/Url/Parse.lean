import AuditStage.Proofs.Url.Path

/-! Every URL that a text names has a path without question marks, whatever its scheme. -/

namespace AuditStage.Url

/-- A reading gives nothing but values with a property, if it gives any. -/
def Gives {α : Type} (holds : α → Prop) (read : Option α) : Prop :=
  ∀ value, read = some value → holds value

namespace Gives

variable {α β : Type} {holds : α → Prop}

/-- A reading that gives a value with the property. -/
theorem some {value : α} (known : holds value) : Gives holds (some value) := by
  intro other found
  cases found
  exact known

/-- A reading with another one before it. -/
theorem bind {read : Option β} {next : β → Option α} (later : ∀ value, Gives holds (next value)) :
    Gives holds (read >>= next) := by
  intro value found
  obtain ⟨between, -, ended⟩ := Option.bind_eq_some_iff.1 found
  exact later between value ended

end Gives

/-- No question mark stands in the path of a URL. -/
def BarePath (url : Url) : Prop :=
  Unasked url.path.toList

/-- The path of a URL with a host is what stands before the first question mark. -/
theorem barePath_parseHosted (scheme : String) (cs : List Char) :
    Gives BarePath (parseHosted scheme cs) := by
  unfold parseHosted
  extract_lets special
  -- What is read before the port has no part in the path; it can only end the reading.
  split
  split
  split
  split
  extract_lets finish withHost check
  have finished (host : String) : Gives BarePath (finish host) := by
    refine Gives.bind fun behind => ?_
    obtain ⟨port, rest⟩ := behind
    -- What stands behind the port is parted before a path is read from it.
    have bare := unasked_splitAtAny rest
    refine Gives.some ?_
    show Unasked (String.toList (ite _ _ _))
    split
    · exact List.not_mem_nil
    · exact unasked_parsePath (bare.dropSlash special) special
  have hosted (passed : Unit) : Gives BarePath (withHost passed) := by
    unfold withHost
    split
    · exact Gives.bind finished
    · exact Gives.bind finished
  have checked (passed : Unit) : Gives BarePath (check passed) := by
    unfold check
    split
    · exact Gives.bind hosted
    · exact hosted ()
  split
  · split
    · exact Gives.bind checked
    · exact checked ()
  · exact hosted ()

/-- The path of a file is what stands before the first question mark. -/
theorem barePath_parseFile (cs : List Char) : Gives BarePath (parseFile cs) := by
  unfold parseFile
  extract_lets isEnd slashes
  -- The host, or a drive in its place, is parted from the path first.
  split
  split
  extract_lets finish
  have finished (host : String) : Gives BarePath (finish host) := by
    unfold finish
    extract_lets named
    rename_i rest _
    have bare := unasked_splitAtAny rest
    refine Gives.some ?_
    show Unasked (parseFilePath (ite _ _ _)).1.toList
    apply unasked_parseFilePath
    -- The root's slash is left out or not.
    split
    · exact bare
    · exact bare.dropSlash true
  split
  · exact Gives.bind finished
  · exact Gives.bind finished

/-- No question mark stands in the path of a URL that a text names, whatever its scheme. -/
theorem barePath_of_parse {text : String} {url : Url} (known : parse text = some url) :
    BarePath url := by
  suffices reads : Gives BarePath (parse text) from reads url known
  refine Gives.bind fun parts => ?_
  obtain ⟨scheme, rest⟩ := parts
  have bare := unasked_splitAtAny rest
  show Gives _ (ite _ _ _)
  split
  · exact barePath_parseFile rest
  split
  · exact barePath_parseHosted scheme _
  split
  · exact barePath_parseHosted scheme _
  -- Without a host, the path is kept as it is unless it starts at a root.
  refine Gives.some ?_
  show Unasked (String.toList (ite _ _ _))
  split
  · exact unasked_parsePath (fun member => bare (List.mem_of_mem_tail member)) false
  · rw [String.toList_ofList]
    exact bare.percentEncode isControl

end AuditStage.Url
