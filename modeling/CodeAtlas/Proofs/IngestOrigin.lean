import CodeAtlas.Graph.Ingest
import CodeAtlas.Proofs.ValueParts
import CodeAtlas.Proofs.WorkRun

/-! Where the queries come from that are asked while a file is brought in. `Origin` lists every
occasion with all that is known on it, and `ingest_asks` says that there is no other. -/
namespace CodeAtlas.Graph

/-- What asking for the embedding of a text comes to. -/
def embeddingOf (assistant : Assistant) (text : Value) : Except Fault Value :=
  match assistant.embedding with
  | .ok v => .ok v
  | .error _ => (text.firstPart 50).map fun _ => .list []

theorem print_does (s : Text) (db : Database) : (print s).Does db [] (.ok ()) := Work.Does.note _

theorem embed_does (assistant : Assistant) (text : Value) (db : Database) :
    (embed assistant text).Does db [] (embeddingOf assistant text) := by
  unfold embed embeddingOf
  refine (Work.Does.note _).bind_silent ?_
  cases assistant.embedding with
  | ok v => exact .pure v
  | error fault =>
    cases text.firstPart 50 with
    | ok start =>
      dsimp only [Except.map]
      refine (Work.Does.lift (.ok start)).bind_silent ?_
      exact (print_does _ _).bind_silent (.pure _)
    | error fault' => exact (Work.Does.lift (.error fault')).bind_error

/-- A link to an import is never asked for: its text has a slot that no value fills. -/
theorem link_does (f : FileNode) (condition : Text) (params : Fields) (db : Database) :
    (link f condition params).Does db [] (.error (.missingKey (.str "name"))) :=
  (Work.Does.lift _).bind_error

/-- The members that a document has under a key. -/
def Listed (document : Fields) (key : Text) (v : Value) : Prop :=
  ∃ vs, (document.getD key (.list [])).members = .ok vs ∧ v ∈ vs

/-- The occasions on which a query is asked while the document of the file `f` is brought in. -/
inductive Origin (assistant : Assistant) (f : FileNode) (document : Fields) : Query → Prop where
  | file : Origin assistant f document (f.query (document.getD "context_sample" (.str "")))
  | entity {fields properties : Fields} {kind : Text} {embedding : Value}
      (listed : Listed document "entities" (.dict fields))
      (isKind : fields.getD "entity_type" (.str "Entity") = .str kind)
      (isNoImport : Text.lower kind ≠ "import")
      (embedded : embeddingOf assistant (fields.getD "description" (.str "")) = .ok embedding)
      (isProperties : fields.getD "properties" (.dict []) = .dict properties) :
      Origin assistant f document
        (entityQuery f kind (assignmentsOf f fields properties embedding))
  | lookup {fields : Fields} {kind : Text}
      (listed : Listed document "entities" (.dict fields))
      (isKind : fields.getD "entity_type" (.str "Entity") = .str kind)
      (isImport : Text.lower kind = "import") :
      Origin assistant f document (lookupQuery (fields.getD "name" .null))
  | placeholder {fields properties : Fields} {kind : Text}
      (listed : Listed document "entities" (.dict fields))
      (isKind : fields.getD "entity_type" (.str "Entity") = .str kind)
      (isImport : Text.lower kind = "import")
      (isProperties : fields.getD "properties" (.dict []) = .dict properties) :
      Origin assistant f document
        (placeholderQuery (properties.getD "is_standard_library" (.bool false)).isPresent
          (fields.getD "name" .null) (properties.getD "source_file" (.str f.baseName)))
  | relationship {fields : Fields} {kind : Text}
      (listed : Listed document "relationships" (.dict fields))
      (isKind : fields.getD "relationship_type" (.str "RELATED_TO") = .str kind)
      (isNoImport : Text.lower kind ≠ "imports")
      (hasSource : (fields.getD "source" .null).isPresent = true)
      (hasTarget : (fields.getD "target" .null).isPresent = true)
      (hasType : relationType kind ≠ []) :
      Origin assistant f document (relationshipQuery f (relationType kind) fields)

section
variable {assistant : Assistant} {f : FileNode} {document : Fields}

theorem ingestEntity_asks {entity : Value} (h : Listed document "entities" entity) :
    (ingestEntity assistant f entity).Asks (Origin assistant f document) := by
  unfold ingestEntity
  refine .bind_lift fun fields hfields => ?_
  obtain rfl := Value.asFields_eq_ok.mp hfields
  refine .bind_lift fun kind hkind => ?_
  have hkind := Value.asText_eq_ok.mp hkind
  split
  · exact .pure _
  next hno =>
    refine (Work.Asks.of_does (embed_does _ _) (by simp)).bind fun d embedding hembed => ?_
    rw [((embed_does _ _ _).asked _).1] at hembed
    refine .bind_lift fun properties hproperties => ?_
    have hproperties := Value.asFields_eq_ok.mp hproperties
    have ho : Origin assistant f document _ :=
      .entity h hkind (by simpa using hno) hembed hproperties
    exact (Work.Asks.ask ho).bind fun _ _ _ => .pure _

/-- What is put off is an import of the document. -/
theorem ingestEntity_some {entity : Value} {fields : Fields} {d : Desk IngestNotes}
    (h : ((ingestEntity assistant f entity).runOn d).1 = .ok (some fields)) :
    entity = .dict fields ∧ ∃ kind,
      fields.getD "entity_type" (.str "Entity") = .str kind ∧ Text.lower kind = "import" := by
  unfold ingestEntity at h
  obtain ⟨fields', d₁, hfields, h₁⟩ := Work.runOn_bind_inv h
  rw [Work.runOn_lift, Prod.mk.injEq] at hfields
  obtain ⟨kind, d₂, hkind, h₂⟩ := Work.runOn_bind_inv h₁
  rw [Work.runOn_lift, Prod.mk.injEq] at hkind
  split at h₂
  next his =>
    cases h₂
    exact ⟨Value.asFields_eq_ok.mp hfields.1, kind, Value.asText_eq_ok.mp hkind.1,
      by simpa using his⟩
  · obtain ⟨_, _, _, h₃⟩ := Work.runOn_bind_inv h₂
    obtain ⟨_, _, _, h₄⟩ := Work.runOn_bind_inv h₃
    obtain ⟨_, _, _, h₅⟩ := Work.runOn_bind_inv h₄
    cases h₅

theorem ingestImport_asks {fields : Fields} {kind : Text}
    (h : Listed document "entities" (.dict fields))
    (hkind : fields.getD "entity_type" (.str "Entity") = .str kind)
    (himport : Text.lower kind = "import") :
    (ingestImport f fields).Asks (Origin assistant f document) := by
  have hlink (condition : Text) (params : Fields) :
      (link f condition params).Asks (Origin assistant f document) :=
    .of_does (link_does f condition params) (by simp)
  unfold ingestImport
  refine .bind_lift fun properties hproperties => ?_
  have hproperties := Value.asFields_eq_ok.mp hproperties
  refine Work.Asks.bind ?_ fun _ row _ => .bind_lift fun count _ => ?_
  · exact (Work.Asks.ask (.lookup h hkind himport)).bind fun _ _ _ => .pure _
  cases count with
  | some count =>
    refine .bind_lift fun targetPath _ => .bind_lift fun targetName _ => ?_
    exact (Work.Asks.of_does (print_does _) (by simp)).bind fun _ _ _ => hlink _ _
  | none =>
    refine (Work.Asks.of_does (print_does _) (by simp)).bind fun _ _ _ => ?_
    exact (Work.Asks.ask (.placeholder h hkind himport hproperties)).bind fun _ _ _ => hlink _ _

theorem ingestRelationship_asks {relationship : Value}
    (h : Listed document "relationships" relationship) :
    (ingestRelationship f relationship).Asks (Origin assistant f document) := by
  unfold ingestRelationship
  refine .bind_lift fun fields hfields => ?_
  obtain rfl := Value.asFields_eq_ok.mp hfields
  refine .bind_lift fun kind hkind => ?_
  have hkind := Value.asText_eq_ok.mp hkind
  split
  · exact .pure ()
  next hno =>
    dsimp only
    split
    next hends =>
      simp only [Bool.and_eq_true, Bool.not_eq_true', List.isEmpty_eq_false_iff] at hends
      have ho : Origin assistant f document _ :=
        .relationship h hkind (by simpa using hno) hends.1.1 hends.1.2 hends.2
      exact (Work.Asks.ask ho).bind fun _ _ _ => .pure _
    · exact .pure ()

theorem ingestEntities_asks {entities : List Value}
    (h : (document.getD "entities" (.list [])).members = .ok entities) :
    (entities.filterMapM (ingestEntity assistant f)).Asks (Origin assistant f document) :=
  .filterMapM _ fun _ hentity => ingestEntity_asks ⟨entities, h, hentity⟩

/-- The steps over what the loop over the entities puts off. -/
theorem ingestImports_asks {entities : List Value} {d : Desk IngestNotes} {imports : List Fields}
    (h : (document.getD "entities" (.list [])).members = .ok entities)
    (himports : ((entities.filterMapM (ingestEntity assistant f)).runOn d).1 = .ok imports) :
    (imports.forM (ingestImport f)).Asks (Origin assistant f document) := by
  apply Work.Asks.forM
  intro fields hfields
  obtain ⟨entity, hentity, _, hsome⟩ := Work.mem_of_filterMapM himports fields hfields
  obtain ⟨rfl, kind, hkind, himport⟩ := ingestEntity_some hsome
  exact ingestImport_asks ⟨entities, h, hentity⟩ hkind himport

theorem ingestRelationships_asks {relationships : List Value}
    (h : (document.getD "relationships" (.list [])).members = .ok relationships) :
    (relationships.forM (ingestRelationship f)).Asks (Origin assistant f document) :=
  .forM _ fun _ hmem => ingestRelationship_asks ⟨relationships, h, hmem⟩

theorem ingestFile_asks (assistant : Assistant) (f : FileNode) (document : Fields) :
    (ingestFile assistant f document).Asks (Origin assistant f document) := by
  unfold ingestFile
  refine (Work.Asks.ask .file).bind fun _ _ _ => .bind_lift fun entities hentities => ?_
  refine (ingestEntities_asks hentities).bind fun d imports himports => ?_
  refine (ingestImports_asks hentities himports).bind fun _ _ _ => ?_
  refine .bind_lift fun relationships hrelationships => ?_
  exact (ingestRelationships_asks hrelationships).bind fun _ _ _ =>
    .of_does (print_does _) (by simp)

end

/-- A document with a file name is the document of a file. -/
theorem ingest_dict {assistant : Assistant} {fields : Fields} {name : Text}
    (hname : fields.getD "filename" .null = .str name) (hsome : name ≠ []) :
    ingest assistant (.dict fields) =
      ingestFile assistant ⟨name, fields.getD "repo_id" .null⟩ fields := by
  apply (pure_bind fields _).trans
  rw [hname]
  cases name with
  | nil => exact absurd rfl hsome
  | cons c rest => rfl

/-- Every query has an origin in the document, which names a file. -/
theorem ingest_asks (assistant : Assistant) (document : Value) :
    (ingest assistant document).Asks fun q => ∃ (fields : Fields) (name : Text),
      document = .dict fields ∧ fields.getD "filename" .null = .str name ∧
      Origin assistant ⟨name, fields.getD "repo_id" .null⟩ fields q := by
  have hskip {P : Query → Prop} : ingest.skip.Asks P := .of_does (print_does _) (by simp)
  unfold ingest
  refine .bind_lift fun fields hfields => ?_
  have hfields := Value.asFields_eq_ok.mp hfields
  split
  · exact hskip
  next name _ hname =>
    exact (ingestFile_asks _ _ _).mono fun q hq => ⟨fields, name, hfields, hname, hq⟩
  · split
    · exact .throw _
    · exact hskip

end CodeAtlas.Graph
