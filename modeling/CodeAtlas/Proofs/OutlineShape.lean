import Mathlib.Data.List.Forall2
import CodeAtlas.Outline.Scan

/-! The shape of the outline that rules give of a file. First comes the file and then what was found
in it; first come the relationships of the file to each of the findings, in their order, and then
those among the findings. No relationship has an end that is not in the outline. -/
namespace CodeAtlas

namespace Kind

variable {k : Kind}

theorem isImport_of_isCallable (h : k.isCallable = true) : k.isImport = false := by
  revert h
  cases k <;> decide

theorem label_ne_sourceFile (k : Kind) : k.label ≠ "source_file" := by
  cases k <;> decide

theorem label_ne_import (h : k.isImport = false) : k.label ≠ "import" := by
  revert h
  cases k <;> decide

end Kind

namespace Source

variable {src : Source} {f g : Finding} {r : Relationship}

/-- The text is the name under which a definition of the file is known. -/
def IsDefined (src : Source) (name : Text) : Prop :=
  ∃ f ∈ src.findings, f.kind.isImport = false ∧ name = f.uniqueName src

/-- A relationship of the given kind from one definition of the file to another. -/
structure IsLink (src : Source) (kind : Text) (r : Relationship) : Prop where
  source : ∃ name, src.IsDefined name ∧ r.source = .str name
  target : ∃ name, src.IsDefined name ∧ r.target = .str name
  kind : r.kind = .str kind
  context : ∃ context, r.context = .str context

/-- The kinds of relationships among the definitions of a file. -/
def linkKinds : List Text := ["calls", "uses", "inherits"]

theorem isDefined_of_isCallable (hf : f ∈ src.findings) (h : f.kind.isCallable = true) :
    src.IsDefined (f.uniqueName src) :=
  ⟨f, hf, Kind.isImport_of_isCallable h, rfl⟩

theorem isDefined_of_kind {kind : Kind} (hf : f ∈ src.findings) (h : f.kind = kind)
    (hkind : kind.isImport = false) : src.IsDefined (f.uniqueName src) :=
  ⟨f, hf, by rw [h, hkind], rfl⟩

theorem calls_isLink {called : List (Finding × Nat)} {i : Nat} (hf : f ∈ src.findings)
    (hcallable : f.kind.isCallable = true)
    (hcalled : ∀ g ∈ called, g.1 ∈ src.findings ∧ g.1.kind.isCallable = true)
    (h : r ∈ src.calls called f i) : src.IsLink "calls" r := by
  obtain ⟨⟨g, j⟩, hg, rfl⟩ := List.mem_map.mp h
  obtain ⟨hmem, hg⟩ := hcalled _ (List.mem_filter.mp hg).1
  exact {
    source := ⟨_, isDefined_of_isCallable hf hcallable, rfl⟩
    target := ⟨_, isDefined_of_isCallable hmem hg, rfl⟩
    kind := rfl
    context := ⟨_, rfl⟩ }

theorem uses_isLink {vars : List Finding} (hf : f ∈ src.findings)
    (hcallable : f.kind.isCallable = true)
    (hvars : ∀ g ∈ vars, g ∈ src.findings ∧ g.kind = .variable)
    (h : r ∈ src.uses vars f) : src.IsLink "uses" r := by
  unfold uses at h
  split at h
  · cases h
  · obtain ⟨g, hg, rfl⟩ := List.mem_map.mp h
    obtain ⟨hmem, hkind⟩ := hvars g (List.mem_filter.mp hg).1
    exact {
      source := ⟨_, isDefined_of_isCallable hf hcallable, rfl⟩
      target := ⟨_, isDefined_of_kind hmem hkind rfl, rfl⟩
      kind := rfl
      context := ⟨_, rfl⟩ }

theorem parents_isLink (hf : f ∈ src.findings) (hclass : f.kind = .classDef)
    (h : r ∈ src.parents src.findings f) : src.IsLink "inherits" r := by
  unfold parents at h
  split at h
  · cases h
  split at h
  · cases h
  split at h
  · cases h
  next g hg =>
    obtain rfl := List.mem_singleton.mp h
    have hkind : g.kind = .classDef := by
      have := List.find?_some hg
      simp only [Bool.and_eq_true, beq_iff_eq] at this
      exact this.1
    exact {
      source := ⟨_, isDefined_of_kind hf hclass rfl, rfl⟩
      target := ⟨_, isDefined_of_kind (List.mem_of_find?_eq_some hg) hkind rfl, rfl⟩
      kind := rfl
      context := ⟨_, rfl⟩ }

theorem mem_of_mem_zipIdx {fs : List Finding} {i : Nat} (h : (f, i) ∈ fs.zipIdx) : f ∈ fs :=
  (List.mem_zipIdx' h).2 ▸ List.getElem_mem _

/-- Everything that relates findings to one another. -/
theorem exists_isLink_of_mem_links (h : r ∈ src.links src.findings) :
    ∃ kind ∈ linkKinds, src.IsLink kind r := by
  obtain ⟨⟨f, i⟩, hf, h⟩ := List.mem_flatMap.mp h
  have hmem := mem_of_mem_zipIdx hf
  dsimp only at h
  split at h
  next hcallable =>
    rcases List.mem_append.mp h with h | h
    · refine ⟨"calls", by decide, calls_isLink hmem hcallable (fun g hg => ?_) h⟩
      obtain ⟨hg, hcalled⟩ := List.mem_filter.mp hg
      exact ⟨mem_of_mem_zipIdx hg, (Bool.and_eq_true_iff.mp hcalled).1⟩
    · refine ⟨"uses", by decide, uses_isLink hmem hcallable (fun g hg => ?_) h⟩
      obtain ⟨hg, hkind⟩ := List.mem_filter.mp hg
      exact ⟨hg, eq_of_beq hkind⟩
  · split at h
    next hclass => exact ⟨"inherits", by decide, parents_isLink hmem (eq_of_beq hclass) h⟩
    · cases h

theorem entity_name (f : Finding) : (f.entity src).name = .str (f.uniqueName src) := by
  unfold Finding.entity
  split
  next himport =>
    rw [Finding.uniqueName, if_pos himport]
    rfl
  · rfl

theorem entity_kind (f : Finding) : (f.entity src).kind =
    .str (if f.kind.isImport then "import" else f.kind.label) := by
  unfold Finding.entity
  split <;> rfl

theorem entity_mem_scan (hf : f ∈ src.findings) : f.entity src ∈ src.scan.entities :=
  List.mem_cons_of_mem _ (List.mem_map_of_mem hf)

/-- Every definition of the file is in its outline. -/
theorem exists_entity_of_isDefined {name : Text} (h : src.IsDefined name) :
    ∃ e ∈ src.scan.entities, .str name = e.name := by
  obtain ⟨f, hf, -, rfl⟩ := h
  exact ⟨_, entity_mem_scan hf, (entity_name f).symm⟩

end Source

/-- The relationship of a file to an entity that was found in it. -/
structure Relationship.IsMembership (fileName : Text) (e : Entity) (r : Relationship) : Prop where
  source : r.source = .str fileName
  target : r.target = e.name
  kind : (e.kind = .str "import" ∧ r.kind = .str "imports") ∨
    (e.kind ≠ .str "import" ∧ r.kind = .str "defines")

namespace Source

variable {src : Source}

theorem membership_isMembership (f : Finding) :
    (f.membership src).IsMembership src.fileName (f.entity src) where
  source := rfl
  target := (entity_name f).symm
  kind := by
    rw [entity_kind, Finding.membership]
    cases himport : f.kind.isImport with
    | true => exact .inl ⟨rfl, rfl⟩
    | false =>
      refine .inr ⟨fun hkind => ?_, rfl⟩
      exact Kind.label_ne_import himport (Value.str.inj hkind)

theorem entity_kind_ne_sourceFile (f : Finding) : (f.entity src).kind ≠ .str "source_file" := by
  rw [entity_kind]
  intro h
  split at h
  · have hno : Text.ofString "import" ≠ "source_file" := by decide
    exact hno (Value.str.inj h)
  · exact f.kind.label_ne_sourceFile (Value.str.inj h)

/-- The outline of a file is the file and its members, with one relationship of the file to each
member, in the same order, before the relationships among the members. -/
theorem scan_is_shaped (src : Source) :
    ∃ file members memberships links,
      src.scan.entities = file :: members ∧
      src.scan.relationships = memberships ++ links ∧
      file.kind = .str "source_file" ∧ file.name = .str (Path.baseName src.path) ∧
      (∀ e ∈ members, e.kind ≠ .str "source_file") ∧
      List.Forall₂ (Relationship.IsMembership (Path.baseName src.path)) members memberships ∧
      (∀ r ∈ links, ∃ kind ∈ linkKinds, r.kind = .str kind) ∧
      ∀ r ∈ src.scan.relationships,
        (∃ e ∈ src.scan.entities, r.source = e.name) ∧
          ∃ e ∈ src.scan.entities, r.target = e.name := by
  refine ⟨src.fileEntity, src.findings.map (Finding.entity src),
    src.findings.map (Finding.membership src), src.links src.findings, rfl, rfl, rfl, rfl,
    ?_, ?_, ?_, ?_⟩
  · intro e he
    obtain ⟨f, -, rfl⟩ := List.mem_map.mp he
    exact entity_kind_ne_sourceFile f
  · rw [List.forall₂_map_left_iff, List.forall₂_map_right_iff, List.forall₂_same]
    intro f _
    exact membership_isMembership f
  · intro r hr
    obtain ⟨kind, hkind, hlink⟩ := exists_isLink_of_mem_links hr
    exact ⟨kind, hkind, hlink.kind⟩
  · intro r hr
    rcases List.mem_append.mp hr with hr | hr
    · obtain ⟨f, hf, rfl⟩ := List.mem_map.mp hr
      exact ⟨⟨src.fileEntity, List.mem_cons_self, rfl⟩, _, entity_mem_scan hf, (entity_name f).symm⟩
    · obtain ⟨kind, -, hlink⟩ := exists_isLink_of_mem_links hr
      obtain ⟨source, hsource, hs⟩ := hlink.source
      obtain ⟨target, htarget, ht⟩ := hlink.target
      rw [hs, ht]
      exact ⟨exists_entity_of_isDefined hsource, exists_entity_of_isDefined htarget⟩

end Source

end CodeAtlas
