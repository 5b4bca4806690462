import CodeAtlas.Proofs.EntityIdentity
import CodeAtlas.Proofs.EntityIds
import CodeAtlas.Proofs.IngestTrace
import CodeAtlas.Proofs.OutlineShape

/-! The outline that rules give of a file, brought into the graph. Every relationship that is asked
for stands between two entities that were asked for before, and unless there is an import no
relationship is lost. -/
namespace CodeAtlas

namespace Kind

/-- The label of an entity is read as an import just where it stands for one. -/
theorem lower_label_ne_import {k : Kind} (h : k.isImport = false) :
    Text.lower k.label ≠ "import" := by
  revert h
  cases k <;> decide +kernel

end Kind

namespace Source

variable {src : Source} {f g : Finding} {r : Relationship}

/-- The names of the nodes that stand for the file and for its definitions. -/
def IsNode (src : Source) (name : Text) : Prop :=
  name = src.fileName ∨ ∃ f ∈ src.findings, f.kind.isImport = false ∧ name = f.uniqueName src

/-- The kinds of relationships among the nodes of a file. -/
def innerKinds : List Text := ["defines", "calls", "uses", "inherits"]

/-- A relationship between two nodes of the file. -/
structure IsInner (src : Source) (r : Relationship) : Prop where
  source : ∃ name, src.IsNode name ∧ r.source = .str name
  target : ∃ name, src.IsNode name ∧ r.target = .str name
  kind : ∃ kind ∈ innerKinds, r.kind = .str kind

theorem isNode_uniqueName (hf : f ∈ src.findings) (h : f.kind.isImport = false) :
    src.IsNode (f.uniqueName src) :=
  .inr ⟨f, hf, h, rfl⟩

theorem membership_isInner (hf : f ∈ src.findings) (h : f.kind.isImport = false) :
    src.IsInner (f.membership src) where
  source := ⟨_, .inl rfl, rfl⟩
  target := ⟨_, isNode_uniqueName hf h, rfl⟩
  kind := ⟨"defines", by decide, by simp [Finding.membership, h]⟩

theorem links_isInner (h : r ∈ src.links src.findings) : src.IsInner r := by
  obtain ⟨kind, hkind, hlink⟩ := exists_isLink_of_mem_links h
  obtain ⟨source, hsource, hs⟩ := hlink.source
  obtain ⟨target, htarget, ht⟩ := hlink.target
  exact {
    source := ⟨source, .inr hsource, hs⟩
    target := ⟨target, .inr htarget, ht⟩
    kind := ⟨kind, List.mem_cons_of_mem _ hkind, hlink.kind⟩ }

/-- What is not a relationship between nodes of the file says what the file imports. -/
theorem isInner_or_imports (h : r ∈ src.scan.relationships) :
    src.IsInner r ∨ (r.kind = .str "imports" ∧ ∃ f ∈ src.findings, f.kind.isImport = true) := by
  rcases List.mem_append.mp h with h | h
  · obtain ⟨f, hf, rfl⟩ := List.mem_map.mp h
    cases himport : f.kind.isImport with
    | true => exact .inr ⟨by simp [Finding.membership, himport], f, hf, himport⟩
    | false => exact .inl (membership_isInner hf himport)
  · exact .inl (links_isInner h)

end Source

/-- The fields of the written form. -/
def Entity.fields (e : Entity) : Fields :=
  match e.toValue with
  | .dict fields => fields
  | _ => []

/-- The fields of the written form. -/
def Relationship.fields (r : Relationship) : Fields :=
  match r.toValue with
  | .dict fields => fields
  | _ => []

/-- An entity as rules give it: texts for its kind and its description, and properties that leave
its name and its path alone. -/
structure Entity.IsPlain (e : Entity) : Prop where
  kind : ∃ s, e.kind = .str s
  description : ∃ s, e.description = .str s
  properties : ∃ fields : Fields, e.properties = .dict fields ∧
    ∀ key ∈ (["name", "file_path"] : List Text), key ∉ fields.map Prod.fst

theorem Entity.IsPlain.ofKeys {e : Entity} {fields : Fields} (hkind : ∃ s, e.kind = .str s)
    (hdescription : ∃ s, e.description = .str s) (hfields : e.properties = .dict fields)
    (keys : List Text) (hkeys : fields.map Prod.fst = keys)
    (h : ∀ key ∈ (["name", "file_path"] : List Text), key ∉ keys) : e.IsPlain :=
  ⟨hkind, hdescription, fields, hfields, by rwa [hkeys]⟩

namespace Source

variable {src : Source}

theorem scan_isPlain {e : Entity} (he : e ∈ src.scan.entities) : e.IsPlain := by
  rcases List.mem_cons.mp he with rfl | he
  · exact .ofKeys ⟨_, rfl⟩ ⟨_, rfl⟩ rfl ["path", "language", "line_count"] rfl (by decide)
  · obtain ⟨f, -, rfl⟩ := List.mem_map.mp he
    unfold Finding.entity
    split
    · exact .ofKeys ⟨_, rfl⟩ ⟨_, rfl⟩ rfl
        ["line_number", "include_syntax", "is_standard_library", "source_file"] rfl (by decide)
    · exact .ofKeys ⟨_, rfl⟩ ⟨_, rfl⟩ rfl
        ["original_name", "line_number", "code_length", "context_sample", "source_file"] rfl
        (by decide)

/-- Entities that are read as imports stand for imports of the file. -/
theorem isImport_of_lower {e : Entity} {kind : Text} (he : e ∈ src.scan.entities)
    (hkind : e.kind = .str kind) (h : Text.lower kind = "import") :
    ∃ f ∈ src.findings, f.kind.isImport = true ∧ e = f.entity src := by
  rcases List.mem_cons.mp he with rfl | he
  · have hno : Text.lower "source_file" ≠ "import" := by decide +kernel
    cases hkind
    exact absurd h hno
  · obtain ⟨f, hf, rfl⟩ := List.mem_map.mp he
    refine ⟨f, hf, ?_, rfl⟩
    cases himport : f.kind.isImport with
    | true => rfl
    | false =>
      rw [Finding.entity, himport] at hkind
      cases hkind
      exact absurd h (Kind.lower_label_ne_import himport)

/-- Every node of the file is an entity that is not read as an import. -/
theorem exists_entity_of_isNode {name : Text} (h : src.IsNode name) :
    ∃ e ∈ src.scan.entities, e.name = .str name ∧ e.path = .str src.path ∧
      ∀ kind, e.kind = .str kind → Text.lower kind ≠ "import" := by
  rcases h with rfl | ⟨f, hf, himport, rfl⟩
  · refine ⟨src.fileEntity, List.mem_cons_self, rfl, rfl, ?_⟩
    rintro kind ⟨⟩
    decide +kernel
  · refine ⟨f.entity src, List.mem_cons_of_mem _ (List.mem_map_of_mem hf), ?_⟩
    rw [Finding.entity, himport]
    refine ⟨rfl, rfl, ?_⟩
    rintro kind ⟨⟩
    exact Kind.lower_label_ne_import himport

end Source

namespace Graph

section
variable {e : Entity}

/-- A plain entity as it is brought in. -/
def EntityItem.ofEntity (e : Entity) (h : e.IsPlain) : EntityItem where
  fields := e.fields
  description := e.description.text?.getD []
  properties := match e.properties with
    | .dict fields => fields
    | _ => []
  isDescription := by
    obtain ⟨s, hs⟩ := h.description
    have hget : e.fields.getD "description" (.str "") = e.description := rfl
    rw [hget, hs]
    rfl
  isProperties := by
    obtain ⟨fields, hfields, -⟩ := h.properties
    rw [hfields]
    exact toValue_properties rfl hfields

theorem EntityItem.isTyped_ofEntity (h : e.IsPlain) : (ofEntity e h).isTyped = true := by
  obtain ⟨s, hs⟩ := h.kind
  have hkind : (ofEntity e h).kind = e.kind := rfl
  rw [isTyped, hkind, hs]
  rfl

/-- The query of a plain entity names it as the entity does itself. -/
theorem EntityItem.query?_ofEntity (assistant : Assistant) (f : FileNode) (h : e.IsPlain)
    (hno : ∀ kind, e.kind = .str kind → Text.lower kind ≠ "import") :
    ∃ q, (ofEntity e h).query? assistant f = some q ∧ IsEntityQuery q ∧
      q.params.get? "name" = some e.name ∧ q.params.get? "file_path" = some e.path := by
  obtain ⟨kind, hkind⟩ := h.kind
  obtain ⟨properties, hproperties, hfree⟩ := h.properties
  have htext : (ofEntity e h).kind.text? = some kind := by
    have hsame : (ofEntity e h).kind = e.kind := rfl
    rw [hsame, hkind]
    rfl
  have himport : (ofEntity e h).isImport = false := by
    simpa [isImport, htext] using hno kind hkind
  have hown : (ofEntity e h).properties = properties := by
    simp [ofEntity, hproperties]
  have hget {key : Text} {v : Value} (hkey : key ∈ (["name", "file_path"] : List Text))
      (hv : (key, v) ∈ identityOf f e.fields (embeddingFor assistant)) :
      (assignmentsOf f e.fields properties (embeddingFor assistant)).params.get? key = some v := by
    rw [get?_assignmentsOf hv, Assignments.effective?_of_not_mem (hfree key hkey)]
    rfl
  refine ⟨entityQuery f kind (assignmentsOf f e.fields properties (embeddingFor assistant)),
    ?_, rfl, hget (by decide) ?_, hget (by decide) ?_⟩
  · rw [query?, himport, htext, hown]
    rfl
  · exact List.mem_cons_self
  · exact List.mem_cons_of_mem _ List.mem_cons_self

theorem EntityItem.isImport_ofEntity {h : e.IsPlain} (himport : (ofEntity e h).isImport = true) :
    ∃ kind, e.kind = .str kind ∧ Text.lower kind = "import" := by
  obtain ⟨kind, hkind⟩ := h.kind
  have hsame : (ofEntity e h).kind = .str kind := hkind
  refine ⟨kind, hkind, ?_⟩
  simpa [isImport, hsame, Value.text?] using himport

end

/-- The text starts as the query of a relationship does. -/
def isRelationshipQuery (q : Query) : Bool :=
  Text.startsWith "\n        MATCH (source \x7b" q.text

/-- The query that brings in a relationship. -/
def queryOf (f : FileNode) (r : Relationship) : Query :=
  relationshipQuery f (relationType (r.kind.text?.getD "")) r.fields

section
variable {src : Source} {r : Relationship} {f : FileNode}

/-- A relationship between nodes of the file is brought in. -/
theorem relationshipQuery?_of_isInner (hname : src.fileName ≠ []) (h : src.IsInner r) :
    relationshipQuery? f r.fields = some (queryOf f r) := by
  obtain ⟨source, hsource, hs⟩ := h.source
  obtain ⟨target, htarget, ht⟩ := h.target
  obtain ⟨kind, hmem, hkind⟩ := h.kind
  have hpresent {name : Text} (hnode : src.IsNode name) : (Value.str name).isPresent = true := by
    apply Value.isPresent_str
    rcases hnode with rfl | ⟨g, -, himport, rfl⟩
    · exact hname
    · exact List.ne_nil_of_mem (hyphen_mem_uniqueName src himport)
  have hkinds : ∀ kind ∈ Source.innerKinds,
      Text.lower kind ≠ "imports" ∧ relationType kind ≠ [] := by decide +kernel
  have hsourceField : r.fields.getD "source" .null = r.source := rfl
  have htargetField : r.fields.getD "target" .null = r.target := rfl
  have hkindField : relationshipKind r.fields = r.kind := rfl
  simp [relationshipQuery?, queryOf, isKept, hsourceField, htargetField, hkindField, hs, ht, hkind,
    Value.text?, hpresent hsource, hpresent htarget, hkinds kind hmem]

theorem isTypedRelationship_of_mem (h : r ∈ src.scan.relationships) :
    isTypedRelationship r.fields = true := by
  have hkindField : relationshipKind r.fields = r.kind := rfl
  have hkind : ∃ kind, r.kind = .str kind := by
    rcases src.isInner_or_imports h with h | ⟨h, -⟩
    · obtain ⟨kind, -, h⟩ := h.kind
      exact ⟨kind, h⟩
    · exact ⟨_, h⟩
  obtain ⟨kind, hkind⟩ := hkind
  rw [isTypedRelationship, hkindField, hkind]
  rfl

end

/-- An import ends the work whatever the lookup gives. -/
theorem ingestImport_breaks_off {db : Database} (hdb : db.IsFaultless) (f : FileNode)
    (e : EntityItem) : ∃ qs fault, (ingestImport f e.fields).Does db qs (.error fault) ∧
      ∀ q ∈ qs, isRelationshipQuery q = false := by
  obtain ⟨rows, hrows⟩ := hdb 0
  unfold ingestImport
  rw [e.isProperties]
  suffices hrest : ∃ qs fault, Work.Does _ (db.after [e.lookup]) qs (.error fault) ∧
      ∀ q ∈ qs, isRelationshipQuery q = false by
    obtain ⟨qs, fault, hdoes, hqs⟩ := hrest
    refine ⟨e.lookup :: qs, fault, ?_, List.forall_mem_cons.mpr ⟨rfl, hqs⟩⟩
    exact (Work.Does.lift (.ok e.properties)).bind_silent ((Work.Does.askOne hrows).bind hdoes)
  rcases Value.positiveCount rows.head? with fault | _ | count
  · exact ⟨[], fault, (Work.Does.lift (.error fault)).bind_error, by simp⟩
  · obtain ⟨rows', hrows'⟩ := hdb.after [e.lookup] 0
    refine ⟨[e.placeholder f], .missingKey (.str "name"), ?_, List.forall_mem_singleton.mpr rfl⟩
    refine (Work.Does.lift (.ok none)).bind_silent ((print_does _ _).bind_silent ?_)
    exact (Work.Does.ask_ok hrows').bind (link_does f _ _ _)
  · suffices hsilent : ∃ fault, Work.Does _ (db.after [e.lookup]) [] (.error fault) by
      obtain ⟨fault, hdoes⟩ := hsilent
      exact ⟨[], fault, (Work.Does.lift (.ok (some count))).bind_silent hdoes, by simp⟩
    dsimp only
    rcases (Value.dict (rows.head?.getD [])).field "path" with fault | path
    · exact ⟨fault, (Work.Does.lift (.error fault)).bind_error⟩
    rcases (Value.dict (rows.head?.getD [])).field "name" with fault | name
    · exact ⟨fault, (Work.Does.lift (.ok path)).bind_silent
        (Work.Does.lift (.error fault)).bind_error⟩
    · refine ⟨.missingKey (.str "name"), (Work.Does.lift (.ok path)).bind_silent
        ((Work.Does.lift (.ok name)).bind_silent ?_)⟩
      exact (print_does _ _).bind_silent (link_does f _ _ _)

/-- A file with a name that was outlined by rules, and what its document says beside the outline. -/
structure ScannedFile where
  source : Source
  isNamed : source.fileName ≠ []
  sample : Text
  failure : Option Fault
  repository : Value
  origin : Value

namespace ScannedFile

variable {s : ScannedFile} {assistant : Assistant} {db : Database}

/-- The document that is brought into the graph. -/
def document (s : ScannedFile) : Value :=
  (Analysis.mk s.source.scan s.sample s.failure).document s.repository s.source.path s.origin

def toFileDocument (s : ScannedFile) : FileDocument where
  fields := match s.document with
    | .dict fields => fields
    | _ => []
  name := s.source.path
  entities := s.source.scan.entities.pmap EntityItem.ofEntity fun _ => Source.scan_isPlain
  relationships := s.source.scan.relationships.map Relationship.fields
  isName := rfl
  hasName := by
    intro hpath
    exact s.isNamed (by simp [Source.fileName, hpath, Path.baseName])
  isEntities := by
    rw [List.map_pmap]
    exact congrArg Value.list (List.pmap_eq_map ..).symm
  isRelationships := by
    rw [List.map_map]
    rfl

def file (s : ScannedFile) : FileNode := s.toFileDocument.file

/-- The queries for the entities of the file. -/
def entityQueries (s : ScannedFile) (assistant : Assistant) : List Query :=
  Graph.entityQueries assistant s.file s.toFileDocument.entities

/-- The queries asked while the file is brought into the graph. -/
def queries (s : ScannedFile) (assistant : Assistant) (db : Database) : List Query :=
  (ingest assistant s.document).queriesOf ⟨db, {}⟩

theorem isTyped_of_mem {e : EntityItem} (he : e ∈ s.toFileDocument.entities) :
    e.isTyped = true := by
  obtain ⟨entity, hentity, rfl⟩ := List.mem_pmap.mp he
  exact EntityItem.isTyped_ofEntity _

/-- There is an import among the entities just where there is one among the findings. -/
theorem exists_import_iff : (∃ e ∈ s.toFileDocument.entities, e.isImport = true) ↔
    ∃ f ∈ s.source.findings, f.kind.isImport = true := by
  constructor
  · rintro ⟨e, he, himport⟩
    obtain ⟨entity, hentity, rfl⟩ := List.mem_pmap.mp he
    obtain ⟨kind, hkind, hlower⟩ := EntityItem.isImport_ofEntity himport
    obtain ⟨f, hf, hf', -⟩ := Source.isImport_of_lower hentity hkind hlower
    exact ⟨f, hf, hf'⟩
  · rintro ⟨f, hf, himport⟩
    have hmem : f.entity s.source ∈ s.source.scan.entities :=
      List.mem_cons_of_mem _ (List.mem_map_of_mem hf)
    have hkind : (EntityItem.ofEntity _ (Source.scan_isPlain hmem)).kind = .str "import" := by
      change (f.entity s.source).kind = _
      rw [Finding.entity, himport]
      rfl
    refine ⟨_, List.mem_pmap.mpr ⟨_, hmem, rfl⟩, ?_⟩
    rw [EntityItem.isImport, hkind]
    decide +kernel

/-- Every node of the file is asked for among its entities. -/
theorem exists_entityQuery (s : ScannedFile) (assistant : Assistant) {name : Text}
    (h : s.source.IsNode name) : ∃ q ∈ s.entityQueries assistant, IsEntityQuery q ∧
      q.params.get? "name" = some (.str name) ∧
      q.params.get? "file_path" = some (.str s.source.path) := by
  obtain ⟨e, he, hename, hepath, hno⟩ := Source.exists_entity_of_isNode h
  obtain ⟨q, hq, his, hqname, hqpath⟩ :=
    EntityItem.query?_ofEntity assistant s.file (Source.scan_isPlain he) hno
  refine ⟨q, List.mem_filterMap.mpr ⟨_, List.mem_pmap.mpr ⟨e, he, rfl⟩, hq⟩, his, ?_, ?_⟩
  · rw [hqname, hename]
  · rw [hqpath, hepath]

theorem isRelationshipQuery_entity {q : Query} (hq : q ∈ s.entityQueries assistant) :
    isRelationshipQuery q = false := by
  obtain ⟨e, -, hq⟩ := List.mem_filterMap.mp hq
  unfold EntityItem.query? at hq
  split at hq
  · cases hq
  · obtain ⟨kind, -, rfl⟩ := Option.map_eq_some_iff.mp hq
    rfl

/-- With an import among the findings the work ends before the first relationship. -/
theorem queries_import (hdb : db.IsFaultless)
    (himport : ∃ f ∈ s.source.findings, f.kind.isImport = true) :
    ∀ q ∈ s.queries assistant db, isRelationshipQuery q = false := by
  obtain ⟨first, hfirst⟩ := Option.isSome_iff_exists.mp
    (List.find?_isSome.mpr (exists_import_iff.mpr himport))
  obtain ⟨qs, fault, hdoes, hqs⟩ := ingestImport_breaks_off
    (hdb.after (s.toFileDocument.fileQuery :: s.entityQueries assistant)) s.file first
  have htrace := FileDocument.ingest_import hdb (fun _ => isTyped_of_mem) hfirst hdoes
  have hqueries : s.queries assistant db = _ := htrace.queriesOf_eq {}
  rw [hqueries]
  simp only [List.forall_mem_cons, List.forall_mem_append]
  exact ⟨rfl, fun _ => isRelationshipQuery_entity, hqs⟩

/-- Without an import every relationship is asked for, after all the entities. -/
theorem queries_plain (hdb : db.IsFaultless)
    (hplain : ¬ ∃ f ∈ s.source.findings, f.kind.isImport = true) :
    s.queries assistant db = (s.toFileDocument.fileQuery :: s.entityQueries assistant) ++
      s.source.scan.relationships.map (queryOf s.file) := by
  have hnone : ∀ e ∈ s.toFileDocument.entities, e.isImport = false := by
    intro e he
    by_contra himport
    exact hplain (exists_import_iff.mp ⟨e, he, by simpa using himport⟩)
  have htyped : ∀ x ∈ s.toFileDocument.relationships, isTypedRelationship x = true := by
    intro x hx
    obtain ⟨r, hr, rfl⟩ := List.mem_map.mp hx
    exact isTypedRelationship_of_mem hr
  have hkept : s.toFileDocument.relationships.filterMap (relationshipQuery? s.file) =
      s.source.scan.relationships.map (queryOf s.file) := by
    change (s.source.scan.relationships.map _).filterMap _ = _
    rw [List.filterMap_map, ← List.filterMap_eq_map]
    apply List.filterMap_congr
    intro r hr
    rcases s.source.isInner_or_imports hr with hinner | ⟨-, himport⟩
    · exact relationshipQuery?_of_isInner s.isNamed hinner
    · exact absurd himport hplain
  have htrace : (ingest assistant s.document).Does db _ _ := FileDocument.ingest_plain hdb
    (fun _ => isTyped_of_mem) hnone (ingestRelationships_typed (hdb.after _) htyped)
  have hqueries : s.queries assistant db = _ := htrace.queriesOf_eq {}
  rw [hqueries, ← hkept]
  rfl

end ScannedFile

/-- Where the list is cut at a member that passes the test, everything before the first such member
has been left behind. -/
theorem prefix_of_split {α : Type} {p : α → Bool} {head tail before after : List α} {a : α}
    (hhead : ∀ x ∈ head, p x = false) (ha : p a = true)
    (h : head ++ tail = before ++ a :: after) : head <+: before ∧ a ∈ tail := by
  rcases List.append_eq_append_iff.mp h with ⟨rest, rfl, rfl⟩ | ⟨rest, rfl, hrest⟩
  · exact ⟨List.prefix_append _ _, by simp⟩
  · cases rest with
    | nil =>
      simp only [List.nil_append] at hrest
      simp [← hrest]
    | cons x rest =>
      obtain rfl : a = x := (List.cons.inj hrest).1
      have := hhead a (by simp)
      rw [ha] at this
      cases this

/-- The query brings in the entity with that name and that path. -/
def BringsIn (q : Query) (name path : Value) : Prop :=
  IsEntityQuery q ∧ q.params.get? "name" = some name ∧ q.params.get? "file_path" = some path

/-- Both ends of every relationship that is asked for were brought in before it. Without an import
the relationships of the outline are asked for one by one. -/
theorem outline_is_closed (s : ScannedFile) (assistant : Assistant) (db : Database)
    (hdb : db.IsFaultless) :
    (∀ before q after, s.queries assistant db = before ++ q :: after →
      isRelationshipQuery q = true →
      ∃ source target path, q.params.get? "source_name" = some source ∧
        q.params.get? "target_name" = some target ∧ q.params.get? "filename" = some path ∧
        (∃ e ∈ before, BringsIn e source path) ∧ ∃ e ∈ before, BringsIn e target path) ∧
    ((∀ e ∈ s.source.scan.entities, e.kind.text? ≠ some "import") →
      (s.queries assistant db).filter isRelationshipQuery =
        s.source.scan.relationships.map (queryOf s.file)) := by
  have hhead : ∀ q ∈ s.toFileDocument.fileQuery :: s.entityQueries assistant,
      isRelationshipQuery q = false := by
    simp only [List.forall_mem_cons]
    exact ⟨rfl, fun _ => ScannedFile.isRelationshipQuery_entity⟩
  constructor
  · intro before q after hsplit hq
    by_cases himport : ∃ f ∈ s.source.findings, f.kind.isImport = true
    · have hno := ScannedFile.queries_import hdb himport q (by rw [hsplit]; simp)
      rw [hq] at hno
      cases hno
    rw [ScannedFile.queries_plain hdb himport] at hsplit
    obtain ⟨hbefore, hmem⟩ := prefix_of_split hhead hq hsplit
    obtain ⟨r, hr, rfl⟩ := List.mem_map.mp hmem
    rcases s.source.isInner_or_imports hr with hinner | ⟨-, h⟩
    · obtain ⟨source, hsource, hs⟩ := hinner.source
      obtain ⟨target, htarget, ht⟩ := hinner.target
      obtain ⟨e, he, hbrings⟩ := s.exists_entityQuery assistant hsource
      obtain ⟨e', he', hbrings'⟩ := s.exists_entityQuery assistant htarget
      refine ⟨.str source, .str target, .str s.source.path, congrArg some hs, congrArg some ht, rfl,
        ⟨e, ?_, hbrings⟩, e', ?_, hbrings'⟩
      · exact hbefore.subset (List.mem_cons_of_mem _ he)
      · exact hbefore.subset (List.mem_cons_of_mem _ he')
    · exact absurd h himport
  · intro hplain
    have hnone : ¬ ∃ f ∈ s.source.findings, f.kind.isImport = true := by
      rintro ⟨f, hf, himport⟩
      apply hplain (f.entity s.source) (List.mem_cons_of_mem _ (List.mem_map_of_mem hf))
      rw [Finding.entity, himport]
      rfl
    rw [ScannedFile.queries_plain hdb hnone, List.filter_append,
      List.filter_eq_nil_iff.mpr (by simpa using hhead), List.nil_append, List.filter_eq_self]
    intro q hq
    obtain ⟨r, -, rfl⟩ := List.mem_map.mp hq
    rfl

/-- Two functions, one of which calls the other. -/
def callingFile : ScannedFile where
  source := ⟨"src/a.js", .str "javascript", "function f() \x7b g() \x7d function g() \x7b \x7d"⟩
  isNamed := by decide
  sample := ""
  failure := none
  repository := .null
  origin := .null

theorem outline_is_closed_calling :
    Database.barren.IsFaultless ∧
    (∀ e ∈ callingFile.source.scan.entities, e.kind.text? ≠ some (Text.ofString "import")) ∧
    ((callingFile.queries ⟨.ok .null, .ok []⟩ .barren).filter isRelationshipQuery).length = 16 ∧
    ∃ before q after, callingFile.queries ⟨.ok .null, .ok []⟩ .barren = before ++ q :: after ∧
      isRelationshipQuery q = true ∧ q.params.get? "source_name" = some (.str "f-a") ∧
      ∃ e ∈ before, BringsIn e (.str "f-a") (.str "src/a.js") := by
  have hplain : ∀ e ∈ callingFile.source.scan.entities,
      e.kind.text? ≠ some (Text.ofString "import") := by decide +kernel
  have hlength : callingFile.source.scan.relationships.length = 16 := by decide +kernel
  have hcall : ∃ r ∈ callingFile.source.scan.relationships,
      r.source.text? = some (Text.ofString "f-a") := by decide +kernel
  obtain ⟨hclosed, hall⟩ := outline_is_closed callingFile ⟨.ok .null, .ok []⟩ .barren
    Database.barren_isFaultless
  refine ⟨Database.barren_isFaultless, hplain, ?_, ?_⟩
  · rw [hall hplain, List.length_map, hlength]
  · obtain ⟨r, hr, hsource⟩ := hcall
    have hmem : queryOf callingFile.file r ∈
        (callingFile.queries ⟨.ok .null, .ok []⟩ .barren).filter isRelationshipQuery := by
      rw [hall hplain]
      exact List.mem_map_of_mem hr
    obtain ⟨hmem, hq⟩ := List.mem_filter.mp hmem
    obtain ⟨before, after, hsplit⟩ := List.append_of_mem hmem
    obtain ⟨source, target, path, hs, -, hp, ⟨e, he, hbrings⟩, -⟩ := hclosed _ _ _ hsplit hq
    have hname : r.source = .str "f-a" := Value.text?_eq_some.mp hsource
    obtain rfl : r.source = source := Option.some.inj hs
    obtain rfl : Value.str "src/a.js" = path := Option.some.inj hp
    rw [hname] at hbrings
    exact ⟨before, _, after, hsplit, hq, congrArg some hname, e, he, hbrings⟩

end Graph

end CodeAtlas
