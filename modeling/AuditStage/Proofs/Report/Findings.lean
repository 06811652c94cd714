import AuditStage.Analyzer
import Mathlib.Data.List.Nodup
import Mathlib.Data.List.Perm.Subperm

/-! The findings of a result: they follow the keys of the sources and not the analyses, so that neither the
order of the analyses nor what was analyzed besides makes a difference. -/

namespace AuditStage

/-- Items whose keys are distinct are found by their keys in whatever order they come. -/
theorem find?_of_perm {α : Type} (keyOf : α → String) {items other : List α}
    (distinct : (items.map keyOf).Nodup) (same : other.Perm items) (key : String) :
    other.find? (keyOf · == key) = items.find? (keyOf · == key) := by
  have distinct' : (other.map keyOf).Nodup := (same.map keyOf).nodup_iff.2 distinct
  cases found : items.find? (keyOf · == key) with
  | none =>
    -- An item that is found in another order would be found in this one.
    simp only [List.find?_eq_none] at found ⊢
    exact fun item member => found item (same.mem_iff.1 member)
  | some item =>
    -- With distinct keys there is one item of the key, and it is among the others too.
    have member := List.mem_of_find?_eq_some found
    have named := List.find?_some found
    simp only [beq_iff_eq] at named
    rw [← named]
    exact find?_of_mem keyOf distinct' (same.mem_iff.2 member)

namespace AnalysisResult

/-- The first of the analyses of a key was completed, with an output. -/
def FirstSays (analyses : List FileAnalysis) (key output : String) : Prop :=
  ∃ before analysis after, analyses = before ++ analysis :: after ∧
    (∀ earlier ∈ before, earlier.key ≠ key) ∧ analysis.key = key ∧
    analysis.outcome = .completed output

/-- What was heard of keys: each whose first analysis was completed, with its output, in their order. -/
structure Heard (keys : List String) (analyses : List FileAnalysis)
    (heard : List (String × String)) : Prop where
  ordered : (heard.map Prod.fst).Sublist keys
  complete : ∀ key output, (key, output) ∈ heard ↔ key ∈ keys ∧ FirstSays analyses key output

variable {keys : List String} {analyses : List FileAnalysis} {heard : List (String × String)}

/-- An analysis has an output exactly if it was completed with it. -/
theorem output?_eq_some_iff {analysis : FileAnalysis} {output : String} :
    analysis.output? = some output ↔ analysis.outcome = .completed output := by
  unfold FileAnalysis.output?
  -- Only an analysis that was completed has an output.
  split
  · rename_i said completed
    simp [completed]
  · rename_i error failed
    simp [failed]

/-- The output that is looked for among the analyses is that of the first one of the key. -/
theorem find?_output_iff {key output : String} :
    (analyses.find? (·.key == key)).bind FileAnalysis.output? = some output ↔
      FirstSays analyses key output := by
  simp only [Option.bind_eq_some_iff, output?_eq_some_iff, List.find?_eq_some_iff_append, beq_iff_eq,
    FirstSays]
  -- The first analysis of the key is the one that is found, whether or not it was completed.
  constructor
  · rintro ⟨analysis, ⟨named, before, after, rfl, others⟩, said⟩
    exact ⟨before, analysis, after, rfl, by simpa using others, named, said⟩
  · rintro ⟨before, analysis, after, rfl, others, named, said⟩
    exact ⟨analysis, ⟨named, before, after, rfl, by simpa using others⟩, said⟩

/-- A result holds the output of every key that was heard of, each ended by a line feed. -/
theorem exists_heard (sources : SourceMap) (analyses : List FileAnalysis) :
    ∃ heard, Heard sources.keys analyses heard ∧
      (ofAnalyses sources analyses).slitherResults = String.join (heard.map (·.2 ++ "\n")) := by
  let outputOf (key : String) : Option String :=
    (analyses.find? (·.key == key)).bind FileAnalysis.output?
  let pairOf (key : String) : Option (String × String) := (outputOf key).map (key, ·)
  refine ⟨sources.keys.filterMap pairOf, ⟨?ordered, ?complete⟩, ?joined⟩
  case ordered =>
    -- Each key is kept in its place or left out.
    induction sources.keys with
    | nil => exact .slnil
    | cons key keys ih =>
      cases said : outputOf key with
      | none => simpa [pairOf, said] using ih.cons key
      | some output => simpa [pairOf, said] using ih.cons_cons key
  case complete =>
    intro key output
    simp only [List.mem_filterMap, pairOf, Option.map_eq_some_iff, Prod.mk.injEq]
    constructor
    · rintro ⟨_, member, _, said, rfl, rfl⟩
      exact ⟨member, find?_output_iff.1 said⟩
    · rintro ⟨member, spoken⟩
      exact ⟨key, member, output, find?_output_iff.2 spoken, rfl, rfl⟩
  case joined =>
    have outputs : sources.keys.filterMap outputOf =
        (sources.keys.filterMap pairOf).map Prod.snd := by
      rw [List.map_filterMap]
      refine List.filterMap_congr fun key _ => ?_
      cases said : outputOf key <;> simp [pairOf, said]
    show String.join ((sources.keys.filterMap outputOf).map (· ++ "\n")) = _
    rw [outputs, List.map_map]
    rfl

/-- However many keys have said the same, it was heard as often. -/
theorem Heard.kept (hears : Heard keys analyses heard) {alike : List String} {output : String}
    (distinct : alike.Nodup) (agree : ∀ key ∈ alike, key ∈ keys ∧ FirstSays analyses key output) :
    alike.length ≤ (heard.map Prod.snd).count output := by
  -- Each of the keys has a pair of its own.
  have pairs : (alike.map (·, output)).Nodup :=
    distinct.map fun _ _ same => (Prod.mk.inj same).1
  have inside : alike.map (·, output) ⊆ heard.filter (·.2 == output) := by
    intro pair member
    obtain ⟨key, listed, rfl⟩ := List.mem_map.1 member
    exact List.mem_filter.2 ⟨(hears.complete key output).2 (agree key listed), by simp⟩
  have most := (pairs.subperm inside).length_le
  rw [List.length_map, ← List.countP_eq_length_filter] at most
  rwa [List.count, List.countP_map]

/-- The same is found for a key among analyses with distinct keys as when they come in another order and
among others that are not of the key. -/
theorem find?_mixed {added mixed : List FileAnalysis} {key : String}
    (distinct : (analyses.map (·.key)).Nodup) (others : ∀ analysis ∈ added, analysis.key ≠ key)
    (same : mixed.Perm (analyses ++ added)) :
    mixed.find? (·.key == key) = analyses.find? (·.key == key) := by
  -- Only the analyses of the key count, and none of them has been added.
  have none : added.filter (·.key == key) = [] := by
    simpa [List.filter_eq_nil_iff] using others
  have alike := same.filter (·.key == key)
  rw [List.filter_append, none, List.append_nil] at alike
  -- What is left has one key, so no more than one analysis is.
  have single : ((analyses.filter (·.key == key)).map (·.key)).Nodup :=
    distinct.sublist (List.filter_sublist.map _)
  have found := find?_of_perm (·.key) single alike key
  simpa only [List.find?_filter, and_self, Bool.decide_eq_true] using found

/-- The findings of a result are the outputs of the keys whose first analysis was completed, in the order
of the keys and each as often as keys have it, and its source text is that of the sources; so analyses
with distinct keys give one result in any order, and along with any of keys that are no sources. -/
theorem ofAnalyses_heard (sources : SourceMap) (analyses : List FileAnalysis) :
    (∃ heard, Heard sources.keys analyses heard ∧
      (ofAnalyses sources analyses).slitherResults = String.join (heard.map (·.2 ++ "\n")) ∧
      ∀ (alike : List String) (output : String), alike.Nodup →
        (∀ key ∈ alike, key ∈ sources.keys ∧ FirstSays analyses key output) →
        alike.length ≤ (heard.map Prod.snd).count output) ∧
      (ofAnalyses sources analyses).combinedSourceCode =
        "\n".intercalate (sources.files.map Prod.snd) ∧
      ∀ added mixed : List FileAnalysis, (analyses.map (·.key)).Nodup →
        (∀ analysis ∈ added, analysis.key ∉ sources.keys) → mixed.Perm (analyses ++ added) →
        ofAnalyses sources mixed = ofAnalyses sources analyses := by
  refine ⟨?findings, rfl, ?mixed⟩
  case findings =>
    obtain ⟨heard, hears, joined⟩ := exists_heard sources analyses
    exact ⟨heard, hears, joined, fun _ _ => hears.kept⟩
  case mixed =>
    intro added mixed distinct others same
    unfold ofAnalyses
    -- Whatever key of the sources is looked for, the same is found.
    have found : ∀ key ∈ sources.keys,
        (mixed.find? (·.key == key)).bind FileAnalysis.output? =
          (analyses.find? (·.key == key)).bind FileAnalysis.output? := by
      intro key member
      rw [find?_mixed distinct (fun analysis extra named => others analysis extra (named ▸ member)) same]
    rw [List.filterMap_congr found]

/-- Analyses of two files that say the same, in the order of neither, and of a file that is no source. -/
def twinAnalyses : List FileAnalysis :=
  [⟨"B.sol", "/work/out/B.sol", .completed "same"⟩, ⟨"A.sol", "/work/out/A.sol", .completed "same"⟩,
    ⟨"C.sol", "/work/out/C.sol", .completed "other"⟩]

/-- What both files say is kept for both of them, and the analysis of the third makes no difference. -/
theorem twinAnalyses_heard :
    let sources := SourceMap.ofList [("A.sol", "contract A"), ("B.sol", "contract B")]
    ofAnalyses sources twinAnalyses.reverse = ofAnalyses sources (twinAnalyses.take 2) ∧
      (ofAnalyses sources twinAnalyses.reverse).slitherResults = "same\nsame\n" ∧
      ∃ heard, Heard sources.keys (twinAnalyses.take 2) heard ∧
        2 ≤ (heard.map Prod.snd).count "same" := by
  intro sources
  obtain ⟨⟨heard, hears, -, kept⟩, -, mixed⟩ := ofAnalyses_heard sources (twinAnalyses.take 2)
  refine ⟨mixed (twinAnalyses.drop 2) twinAnalyses.reverse (by decide) (by decide) (by decide),
    by decide, heard, hears, kept ["A.sol", "B.sol"] "same" (by decide) ?_⟩
  simp only [List.mem_cons, List.not_mem_nil, or_false]
  -- The analysis of one of the two keys stands behind that of the other.
  rintro key (rfl | rfl)
  · exact ⟨by decide, [⟨"B.sol", "/work/out/B.sol", .completed "same"⟩], _, [], rfl, by decide, rfl,
      rfl⟩
  · exact ⟨by decide, [], _, _, rfl, by decide, rfl, rfl⟩

end AnalysisResult

end AuditStage
