import AuditStage.Proofs.Text.Split
import AuditStage.Proofs.Text.Trim
import AuditStage.Remap

/-! The written form of a rule: which texts describe it, and whether its own text does. -/

namespace AuditStage.Remapping

variable {raw : String} {rule : Remapping}

/-- What stands before the equals sign in the text of a rule. -/
def label (rule : Remapping) : String :=
  (rule.context.map (· ++ ":")).getD "" ++ rule.name

/-- The parts of a rule can be told apart in its text: it has a name, the first equals sign is the one
before its target, and the first colon is the one behind its context. -/
structure Readable (rule : Remapping) : Prop where
  named : rule.name ≠ ""
  unequal : '=' ∉ rule.label.toList
  uncoloned : ':' ∉ (rule.context.getD rule.name).toList

/-- The text of a rule is its label, an equals sign and its target. -/
theorem toList_text (rule : Remapping) :
    rule.text.toList = rule.label.toList ++ '=' :: rule.target.toList := by
  have equals : ("=" : String).toList = ['='] := rfl
  simp [text, label, String.toList_append, equals]

/-- A label with a context is the context, a colon and the name. -/
theorem toList_label_of_context {context name target : String} :
    (Remapping.mk (some context) name target).label.toList =
      context.toList ++ ':' :: name.toList := by
  have colon : (":" : String).toList = [':'] := rfl
  simp [label, String.toList_append, colon]

/-- A label without a context is the name. -/
theorem label_of_no_context {name target : String} : (Remapping.mk none name target).label = name := by
  simp [label]

/-- A text describes a rule exactly if the parts of the rule can be told apart, and its own text is that
text without the blanks around it. -/
theorem parse_eq_some_iff :
    parse raw = some rule ↔ rule.Readable ∧ rule.text.toList = Text.trim raw.toList := by
  unfold parse
  constructor
  · intro parsed
    -- The first equals sign parts the label from the target.
    obtain ⟨⟨left, target⟩, split, parsed⟩ := Option.bind_eq_some_iff.1 parsed
    obtain ⟨spelled, unequal⟩ := Text.splitFirst_eq_some_iff.1 split
    -- Before the equals sign there is a name alone, or a context and a name.
    cases inner : Text.splitFirst ':' left with
    | none =>
      simp only [inner, Option.ite_none_left_eq_some, Option.some.injEq, Bool.not_eq_true,
        List.isEmpty_eq_false_iff] at parsed
      obtain ⟨named, rfl⟩ := parsed
      have uncoloned := Text.splitFirst_eq_none_iff.1 inner
      have label : (Remapping.mk none (String.ofList left) (String.ofList target)).label.toList = left := by
        rw [label_of_no_context, String.toList_ofList]
      refine ⟨⟨?_, ?_, ?_⟩, ?_⟩
      · simpa using named
      · rwa [label]
      · simpa using uncoloned
      · rw [toList_text, label, String.toList_ofList, spelled]
    | some parts =>
      obtain ⟨context, name⟩ := parts
      simp only [inner, Option.ite_none_left_eq_some, Option.some.injEq, Bool.not_eq_true,
        List.isEmpty_eq_false_iff] at parsed
      obtain ⟨named, rfl⟩ := parsed
      obtain ⟨rfl, uncoloned⟩ := Text.splitFirst_eq_some_iff.1 inner
      have label : (Remapping.mk (some (String.ofList context)) (String.ofList name)
          (String.ofList target)).label.toList = context ++ ':' :: name := by
        rw [toList_label_of_context, String.toList_ofList, String.toList_ofList]
      refine ⟨⟨?_, ?_, ?_⟩, ?_⟩
      · simpa using named
      · rwa [label]
      · simpa using uncoloned
      · rw [toList_text, label, String.toList_ofList, spelled]
  · rintro ⟨⟨named, unequal, uncoloned⟩, spelled⟩
    obtain ⟨context, name, target⟩ := rule
    -- The other way round, the first equals sign is the one that the text of the rule has put
    -- there.
    have visible : name.toList ≠ [] := fun empty => named (String.toList_eq_nil_iff.1 empty)
    rw [← spelled, toList_text, Text.splitFirst_append unequal]
    -- The label is taken apart as it was put together.
    cases context with
    | none =>
      have whole : Text.splitFirst ':' name.toList = none := Text.splitFirst_of_notMem uncoloned
      simp [label_of_no_context, whole, visible]
    | some context =>
      have parts : Text.splitFirst ':' (context.toList ++ ':' :: name.toList) =
          some (context.toList, name.toList) := Text.splitFirst_append uncoloned _
      simp [toList_label_of_context, parts, visible]

/-- The text of a rule describes the rule if its parts can be told apart and no blank stands at its
ends. -/
theorem parse_text_iff :
    parse rule.text = some rule ↔ rule.Readable ∧ Text.trim rule.text.toList = rule.text.toList := by
  rw [parse_eq_some_iff, eq_comm]

/-- The name in a label: what stands behind its first colon, or all of it if it has none. -/
def nameIn (label : List Char) : List Char :=
  if ':' ∈ label then (label.dropWhile (· ≠ ':')).drop 1 else label

/-- Behind a context and its colon there is the name. -/
theorem nameIn_append {context : List Char} (bare : ':' ∉ context) (name : List Char) :
    nameIn (context ++ ':' :: name) = name := by
  have before : ∀ c ∈ context, decide (c ≠ ':') = true := fun c member =>
    decide_eq_true fun colon => bare (colon ▸ member)
  -- No character of the context is a colon, so all of it is dropped.
  rw [nameIn, if_pos (by simp), List.dropWhile_append_of_pos before]
  simp

/-- A text with an equals sign describes a rule if there is a name in what stands before the first one,
and then the name of the rule is that name and its target all that stands behind the sign. -/
theorem parse_split {label target : List Char} (split : Text.trim raw.toList = label ++ '=' :: target)
    (unequal : '=' ∉ label) :
    (parse raw = none ↔ nameIn label = []) ∧
      ∀ rule, parse raw = some rule →
        rule.name.toList = nameIn label ∧ rule.target.toList = target := by
  -- There is no equals sign in the label, so the text is parted behind it.
  have divided : Text.splitFirst '=' (Text.trim raw.toList) = some (label, target) := by
    rw [split]
    exact Text.splitFirst_append unequal target
  unfold parse
  rw [divided, Option.bind_eq_bind, Option.bind_some]
  -- The label is a name alone, or a context and a name.
  by_cases colon : ':' ∈ label
  · obtain ⟨context, name, rfl, bare⟩ := List.eq_append_cons_of_mem colon
    rw [nameIn_append bare]
    simp only [Text.splitFirst_append bare]
    constructor
    · simp
    · intro rule described
      simp only [Option.ite_none_left_eq_some, Option.some.injEq] at described
      obtain ⟨-, rfl⟩ := described
      simp
  · rw [nameIn, if_neg colon]
    simp only [Text.splitFirst_of_notMem colon]
    constructor
    · simp
    · intro rule described
      simp only [Option.ite_none_left_eq_some, Option.some.injEq] at described
      obtain ⟨-, rfl⟩ := described
      simp

/-- A text describes no rule exactly if, without the blanks around it, there is no equals sign in it or no
name before the first one. The rule that it describes otherwise has that name and all that stands behind
the sign for a target; the text of the rule is the text without the blanks, and describes the rule. -/
theorem parse_respelled (raw : String) :
    (parse raw = none ↔ '=' ∉ Text.trim raw.toList ∨
      nameIn ((Text.trim raw.toList).takeWhile (· ≠ '=')) = []) ∧
    ∀ rule, parse raw = some rule →
      rule.name.toList = nameIn ((Text.trim raw.toList).takeWhile (· ≠ '=')) ∧
      rule.target.toList = ((Text.trim raw.toList).dropWhile (· ≠ '=')).drop 1 ∧
      rule.text = Text.trimmed raw ∧ parse rule.text = some rule := by
  by_cases equals : '=' ∈ Text.trim raw.toList
  · obtain ⟨label, target, split, unequal⟩ := List.eq_append_cons_of_mem equals
    obtain ⟨nameless, parts⟩ := parse_split split unequal
    have before : ∀ c ∈ label, decide (c ≠ '=') = true := fun c member =>
      decide_eq_true fun same => unequal (same ▸ member)
    -- The text up to its first equals sign is the label, and the target stands behind the sign.
    have front : (Text.trim raw.toList).takeWhile (· ≠ '=') = label := by
      rw [split, List.takeWhile_append_of_pos before]
      simp
    have back : ((Text.trim raw.toList).dropWhile (· ≠ '=')).drop 1 = target := by
      rw [split, List.dropWhile_append_of_pos before]
      simp
    rw [front, back]
    constructor
    · rw [nameless]
      exact (or_iff_right (not_not_intro equals)).symm
    · intro rule described
      obtain ⟨readable, spelled⟩ := parse_eq_some_iff.1 described
      obtain ⟨name, target⟩ := parts rule described
      refine ⟨name, target, ?_, ?_⟩
      · rw [← String.toList_inj, spelled, Text.trimmed, String.toList_ofList]
      · -- What has been trimmed has no blanks at its ends.
        rw [parse_text_iff, spelled]
        exact ⟨readable, Text.trim_trim raw.toList⟩
  · -- Without an equals sign there is no rule.
    have undivided : parse raw = none := by
      rw [parse, Text.splitFirst_of_notMem equals]
      rfl
    constructor
    · exact ⟨fun _ => .inl equals, fun _ => undivided⟩
    · intro rule described
      rw [undivided] at described
      cases described

/-- Colons behind the first one belong to the name, and equals signs behind the first one to the target;
blanks around the text make no difference. -/
theorem parse_respelled_context :
    parse "\u3000ctx:a:b=c=d:e " = some ⟨some "ctx", "a:b", "c=d:e"⟩ ∧
      parse (Remapping.mk (some "ctx") "a:b" "c=d:e").text = some ⟨some "ctx", "a:b", "c=d:e"⟩ := by
  -- The blank at the front is one beyond the common ones.
  have described : parse "\u3000ctx:a:b=c=d:e " = some ⟨some "ctx", "a:b", "c=d:e"⟩ := by
    decide +kernel
  obtain ⟨-, restores⟩ := parse_respelled "\u3000ctx:a:b=c=d:e "
  obtain ⟨-, -, -, again⟩ := restores _ described
  exact ⟨described, again⟩

end AuditStage.Remapping
