import CodeAtlas.Proofs.EventOutcome
import CodeAtlas.Proofs.ReplyParts

/-! Where the outline of an analysis comes from: all of it from the text model, or all of it from the
rules. Each of the two says of every entity that it stands in the file that was given. -/
namespace CodeAtlas

theorem Source.path_of_mem_scan {src : Source} {e : Entity} (he : e ∈ src.scan.entities) :
    e.path = .str src.path := by
  rcases List.mem_cons.mp he with rfl | he
  · rfl
  · obtain ⟨f, -, rfl⟩ := List.mem_map.mp he
    unfold Finding.entity
    split
    · rfl
    · rfl

namespace Outline

theorem path_of_mem_consult {assistant : Assistant} {path language content : Value} {e : Entity}
    (he : e ∈ (consult assistant path language content).outline.entities) : e.path = path := by
  rcases consult_outline_cases assistant path language content with hempty | ⟨reply, hreply⟩
  · rw [hempty] at he
    cases he
  · obtain ⟨answer, members, data, -, -, -, hentity⟩ := ofReply_entity hreply e he
    obtain ⟨fields, own, properties, -, hpath, -⟩ := entityOf_eq_ok hentity
    exact hpath

end Outline

namespace Analysis

/-- What the text model tells about a file in the language detected. -/
def told (assistant : Assistant) (path content : Text) : Outline :=
  (Outline.consult assistant (.str path) (.str (Language.detect path content).label)
    (.str content)).outline

/-- What the rules of the language detected find in a file. -/
def scanned (path content : Text) : Outline :=
  (Source.mk path (.str (Language.detect path content).label) content).scan

/-- There is one origin for entities and relationships alike, and it depends only on whether the text
model tells of any entity. -/
theorem ofText_outline_cases (assistant : Assistant) (path content : Text) :
    (told assistant path content).entities ≠ [] ∧
      (ofText assistant path content).outline = told assistant path content ∨
    (told assistant path content).entities = [] ∧
      (ofText assistant path content).outline = scanned path content := by
  unfold ofText
  dsimp only
  split
  next hnone => exact .inr ⟨List.isEmpty_iff.mp hnone, rfl⟩
  next hsome => exact .inl ⟨fun hnil => hsome (List.isEmpty_iff.mpr hnil), rfl⟩

theorem path_of_mem_ofText {assistant : Assistant} {path content : Text} {e : Entity}
    (he : e ∈ (ofText assistant path content).outline.entities) : e.path = .str path := by
  rcases ofText_outline_cases assistant path content with ⟨-, htold⟩ | ⟨-, hscanned⟩
  · rw [htold] at he
    exact Outline.path_of_mem_consult he
  · rw [hscanned] at he
    exact Source.path_of_mem_scan he

/-- An analysis of a text always has a result. Its outline is exactly what the text model tells, if
that has an entity, and otherwise exactly what the rules of the language detected find; it is never
without an entity, every entity is in the file that was given, and the sample is the start of the
content. -/
theorem analysis_has_one_origin (assistant : Assistant) (path content : Text) :
    ∃ analysis language source told,
      ofValues assistant (.str path) (.str content) = .ok analysis ∧
      languageOf (.str path) (.str content) = .ok language ∧
      Source.ofValues (.str content) (.str language.label) (.str path) = .ok source ∧
      (Outline.consult assistant (.str path) (.str language.label) (.str content)).outline = told ∧
      (told.entities ≠ [] ∧ analysis.outline = told ∨
        told.entities = [] ∧ analysis.outline = source.scan) ∧
      analysis.outline.entities ≠ [] ∧ (∀ e ∈ analysis.outline.entities, e.path = .str path) ∧
      analysis.sample <+: content ∧ analysis.sample.length = min 2000 content.length := by
  refine ⟨ofText assistant path content, Language.detect path content, _, _, rfl, rfl, rfl, rfl,
    ofText_outline_cases assistant path content, entities_ofText_ne_nil assistant path content,
    fun e he => path_of_mem_ofText he, List.take_prefix _ _, List.length_take⟩

end Analysis

end CodeAtlas
