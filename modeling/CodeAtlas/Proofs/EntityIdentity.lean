import CodeAtlas.Analysis
import CodeAtlas.Proofs.Assignments
import CodeAtlas.Proofs.IngestOrigin
import CodeAtlas.Proofs.ReplyParts

/-! The parameters by which the query of an entity names it. They share one dictionary with the
properties of the entity, and a property under the same key replaces them; the theorems here say
exactly when that happens, also for entities that the text model described. -/
namespace CodeAtlas.Graph

/-- What the query of an entity should say about it, whatever its properties are. -/
def identityOf (f : FileNode) (entity : Fields) (embedding : Value) : Fields := [
  ("name", entity.getD "name" .null),
  ("file_path", entity.getD "file_path" (.str f.name)),
  ("description", entity.getD "description" (.str "")),
  ("repo_id", f.repository),
  ("embedding", embedding)]

/-- The query has all the parameters of an identity. -/
def Identifies (q : Query) (identity : Fields) : Prop :=
  ∀ field ∈ identity, q.params.get? field.1 = some field.2

/-- No property stands under a key of the identity, except with the value that belongs there. -/
def IsHarmless (properties identity : Fields) : Prop :=
  ∀ field ∈ identity, ∀ v, Assignments.effective? properties field.1 = some v →
    storedProperty v = field.2

/-- The text starts as the query of an entity does. -/
def IsEntityQuery (q : Query) : Prop := Text.startsWith "\n        MATCH (f:" q.text = true

def IsFileQuery (q : Query) : Prop := Text.startsWith "MERGE (f:" q.text = true

section
variable {f : FileNode} {entity properties : Fields} {embedding : Value}

theorem get?_assignmentsOf {key : Text} {v : Value}
    (h : (key, v) ∈ identityOf f entity embedding) :
    (assignmentsOf f entity properties embedding).params.get? key =
      some (((Assignments.effective? properties key).map storedProperty).getD v) := by
  have hkey : ∀ field ∈ identityOf f entity embedding, field.1 ∉ Assignments.namedKeys ∧
      field.1 ≠ "context_sample" ∧ isIdentifier field.1 = true := by
    simp only [identityOf, List.forall_mem_cons]
    decide
  obtain ⟨hfree, hsample, hname⟩ := hkey _ h
  simp only [Assignments.namedKeys, List.mem_cons, List.not_mem_nil, or_false, not_or] at hfree
  unfold assignmentsOf
  rw [Assignments.get?_foldl_addProperty (by simpa [Assignments.namedKeys] using hfree) hname,
    Assignments.get?_addPresent hfree.2, Assignments.get?_addPresent hfree.1,
    Assignments.get?_addPresent hsample]
  have hfixed : Fields.get? [
      ("file_path", entity.getD "file_path" (.str f.name)), ("name", entity.getD "name" .null),
      ("description", entity.getD "description" (.str "")), ("embedding", embedding),
      ("repo_id", f.repository)] key = some v := by
    revert h
    simp only [identityOf, List.mem_cons, Prod.mk.injEq, List.not_mem_nil, or_false]
    rintro (⟨rfl, rfl⟩ | ⟨rfl, rfl⟩ | ⟨rfl, rfl⟩ | ⟨rfl, rfl⟩ | ⟨rfl, rfl⟩) <;> rfl
  rw [hfixed]
  cases Assignments.effective? properties key <;> rfl

theorem identifies_iff (kind : Text) :
    Identifies (entityQuery f kind (assignmentsOf f entity properties embedding))
        (identityOf f entity embedding) ↔
      IsHarmless properties (identityOf f entity embedding) := by
  constructor
  · intro h field hfield v hv
    have hparam := h field hfield
    have hget : (assignmentsOf f entity properties embedding).params.get? field.1 = _ :=
      get?_assignmentsOf hfield
    rw [hv] at hget
    exact Option.some.inj (hget.symm.trans hparam)
  · intro h field hfield
    have hget : (assignmentsOf f entity properties embedding).params.get? field.1 = _ :=
      get?_assignmentsOf hfield
    change (assignmentsOf f entity properties embedding).params.get? field.1 = _
    rw [hget]
    cases hv : Assignments.effective? properties field.1 with
    | none => rfl
    | some v => exact congrArg some (h field hfield v hv)

end

/-- The entity of a document that a query is asked for, with all that went into the query. -/
structure EntityQuery (assistant : Assistant) (f : FileNode) (document : Fields) (q : Query) where
  entity : Fields
  properties : Fields
  kind : Text
  embedding : Value
  listed : Listed document "entities" (.dict entity)
  isKind : entity.getD "entity_type" (.str "Entity") = .str kind
  isProperties : entity.getD "properties" (.dict []) = .dict properties
  embedded : embeddingOf assistant (entity.getD "description" (.str "")) = .ok embedding
  query_eq : q = entityQuery f kind (assignmentsOf f entity properties embedding)

namespace EntityQuery

variable {assistant : Assistant} {f : FileNode} {document : Fields} {q : Query}

def identity (e : EntityQuery assistant f document q) : Fields := identityOf f e.entity e.embedding

theorem identifies_iff_isHarmless (e : EntityQuery assistant f document q) :
    Identifies q e.identity ↔ IsHarmless e.properties e.identity := by
  obtain ⟨entity, properties, kind, embedding, _, _, _, _, rfl⟩ := e
  exact identifies_iff kind

theorem get?_file_path (e : EntityQuery assistant f document q) :
    q.params.get? "file_path" = some (((Assignments.effective? e.properties "file_path").map
      storedProperty).getD (e.entity.getD "file_path" (.str f.name))) := by
  obtain ⟨entity, properties, kind, embedding, _, _, _, _, rfl⟩ := e
  exact get?_assignmentsOf (by simp [identityOf])

end EntityQuery

section
variable {assistant : Assistant} {f : FileNode} {document : Fields} {q : Query}

/-- Among the queries for a file only those of its entities start as they do. -/
theorem Origin.entityQuery (h : Origin assistant f document q) (hq : IsEntityQuery q) :
    Nonempty (EntityQuery assistant f document q) := by
  cases h with
  | entity listed isKind _ embedded isProperties =>
    exact ⟨⟨_, _, _, _, listed, isKind, isProperties, embedded, rfl⟩⟩
  | file => exact absurd hq Bool.false_ne_true
  | lookup => exact absurd hq Bool.false_ne_true
  | placeholder => exact absurd hq Bool.false_ne_true
  | relationship => exact absurd hq Bool.false_ne_true

theorem Origin.fileQuery (h : Origin assistant f document q) (hq : IsFileQuery q) :
    q.params.get? "filename" = some (.str f.name) := by
  cases h with
  | file => rfl
  | entity => exact absurd hq Bool.false_ne_true
  | lookup => exact absurd hq Bool.false_ne_true
  | placeholder => exact absurd hq Bool.false_ne_true
  | relationship => exact absurd hq Bool.false_ne_true

end

/-- What the description of an entity gives under a key, at its top level or else among its
properties. Null counts as nothing. -/
def givenIn (data : Fields) (key : Text) : Option Value :=
  let own : Fields := match data.getD "properties" (.dict []) with
    | .dict own => own
    | _ => []
  ((data.get? key).filter fun v => !v.isNull).or ((own.get? key).filter fun v => !v.isNull)

/-- The properties of an entity of a reply hold, under a key that has no place of its own, what its
description gives under that key. -/
theorem effective?_eq_givenIn (key : Text) {path content : Value} {data : Fields} {e : Entity}
    (h : Outline.entityOf path content (.dict data) = .ok e)
    (hdata : (Value.dict data).IsDistinct) (hkey : key ∉ Outline.entityKeys)
    (hsample : key ≠ "context_sample") :
    ∃ properties, e.path = path ∧ e.properties = .dict properties ∧
      Assignments.effective? properties key = givenIn data key := by
  obtain ⟨fields, own, properties, heq, hpath, hown, hproperties, hshape⟩ :=
    Outline.entityOf_eq_ok h
  cases heq
  cases hdata with
  | dict hkeys hvalues =>
    have hownDistinct := Outline.own_isDistinct (.dict hkeys hvalues) hown
    have hall : (own.setAll (Outline.movedFields data)).get? key =
        ((Fields.get? data key).filter fun v => !v.isNull).or (own.get? key) := by
      rw [Outline.get?_gathered hkeys, Outline.merged?, if_neg hkey]
    have hboth : properties.IsDistinct ∧ properties.get? key =
        ((Fields.get? data key).filter fun v => !v.isNull).or (own.get? key) := by
      rcases hshape with rfl | ⟨sample, rfl⟩
      · exact ⟨hownDistinct.setAll _, hall⟩
      · refine ⟨(hownDistinct.setAll _).set, ?_⟩
        rw [Fields.get?_set, if_neg hsample, hall]
    refine ⟨properties, hpath, hproperties, ?_⟩
    rw [Assignments.effective?, (hboth.1.filter _).last?_eq, hboth.1.get?_filter, hboth.2]
    simp only [givenIn, hown]
    cases Fields.get? data key with
    | none => simp
    | some v => cases hnull : v.isNull <;> simp [Option.filter, hnull]

theorem toValue_name_path {made : Entity} {entity : Fields} (h : made.toValue = .dict entity) :
    entity.get? "name" = some made.name ∧ entity.get? "file_path" = some made.path := by
  cases h
  exact ⟨rfl, rfl⟩

/-- The written form of an entity keeps its properties, though it leaves out empty ones. -/
theorem toValue_properties {made : Entity} {entity properties : Fields}
    (h : made.toValue = .dict entity) (hproperties : made.properties = .dict properties) :
    entity.getD "properties" (.dict []) = .dict properties := by
  obtain ⟨name, kind, path, description, _⟩ := made
  cases hproperties
  cases h
  cases properties <;> rfl

theorem listed_document {a : Analysis} {repository origin v : Value} {name : Text} {fields : Fields}
    (h : a.document repository name origin = .dict fields) (hv : Listed fields "entities" v) :
    ∃ made ∈ a.outline.entities, made.toValue = v := by
  cases h
  obtain ⟨vs, hvs, hv⟩ := hv
  cases hvs
  simpa using hv

/-- The path that the query of an entity matches, when the text model described the entity: it is
the path of the file unless the description gives another one. -/
theorem reply_file_path {assistant : Assistant} {a : Analysis} {repository origin reply : Value}
    {name content : Text} {fields : Fields} {q : Query}
    (hreply : Outline.ofReply (.str name) (.str content) reply = .ok a.outline)
    (hdocument : a.document repository name origin = .dict fields)
    (e : EntityQuery assistant ⟨name, repository⟩ fields q) :
    ∃ (answer data : Fields) (made : Entity), Outline.Answers reply answer ∧
      Listed answer "entities" (.dict data) ∧
      Outline.entityOf (.str name) (.str content) (.dict data) = .ok made ∧
      made.toValue = .dict e.entity ∧
      q.params.get? "file_path" =
        some (((givenIn data "file_path").map storedProperty).getD (.str name)) := by
  obtain ⟨made, hmade, hvalue⟩ := listed_document hdocument e.listed
  obtain ⟨answer, members, data, hanswer, hmembers, hdata, hentity⟩ :=
    Outline.ofReply_entity hreply made hmade
  obtain ⟨fields, _, _, rfl, _⟩ := Outline.entityOf_eq_ok hentity
  -- without distinct keys a description could give two paths, and which one counts would differ
  have hdistinct : (Value.dict fields).IsDistinct :=
    (hanswer.isLegible.of_mem_members hmembers hdata).isDistinct
  obtain ⟨properties, hpath, hproperties, heffective⟩ :=
    effective?_eq_givenIn "file_path" hentity hdistinct (by decide) (by decide)
  have hsame : e.properties = properties :=
    Value.dict.inj (e.isProperties.symm.trans (toValue_properties hvalue hproperties))
  refine ⟨answer, fields, made, hanswer, ⟨members, hmembers, hdata⟩, hentity, hvalue, ?_⟩
  rw [e.get?_file_path, hsame, heffective, Fields.getD_eq, (toValue_name_path hvalue).2, hpath]
  rfl

/-- An entity is named by its own identity exactly when its properties leave the keys of the
identity alone; and when the text model described it, its query matches the node of its file exactly
when the description gives no other path. -/
theorem entity_identity_iff (assistant : Assistant) (d : Desk IngestNotes) :
    (∀ document, ∀ q ∈ (ingest assistant document).queriesOf d, IsEntityQuery q →
      ∃ (fields : Fields) (name : Text), document = .dict fields ∧
        fields.getD "filename" .null = .str name ∧
        Nonempty (EntityQuery assistant ⟨name, fields.getD "repo_id" .null⟩ fields q) ∧
        ∀ e : EntityQuery assistant ⟨name, fields.getD "repo_id" .null⟩ fields q,
          Identifies q e.identity ↔ IsHarmless e.properties e.identity) ∧
    (∀ (a : Analysis) (repository origin reply : Value) (name content : Text),
      Outline.ofReply (.str name) (.str content) reply = .ok a.outline →
      ∀ q ∈ (ingest assistant (a.document repository name origin)).queriesOf d, IsEntityQuery q →
      ∀ q₀ ∈ (ingest assistant (a.document repository name origin)).queriesOf d, IsFileQuery q₀ →
        ∃ (fields answer data : Fields) (made : Entity)
          (e : EntityQuery assistant ⟨name, repository⟩ fields q),
          a.document repository name origin = .dict fields ∧
          Outline.Answers reply answer ∧ Listed answer "entities" (.dict data) ∧
          Outline.entityOf (.str name) (.str content) (.dict data) = .ok made ∧
          made.toValue = .dict e.entity ∧
          (q.params.get? "file_path" = q₀.params.get? "filename" ↔
            ∀ v, givenIn data "file_path" = some v → storedProperty v = .str name)) := by
  constructor
  · intro document q hq hentity
    obtain ⟨fields, name, hdocument, hname, horigin⟩ :=
      (ingest_asks assistant document).forall_queriesOf d q hq
    exact ⟨fields, name, hdocument, hname, horigin.entityQuery hentity,
      fun e => e.identifies_iff_isHarmless⟩
  · intro a repository origin reply name content hreply q hq hentity q₀ hq₀ hfile
    obtain ⟨fields, name', hdocument, hname, horigin⟩ :=
      (ingest_asks assistant _).forall_queriesOf d q hq
    obtain ⟨fields', name'', hdocument', hname', horigin'⟩ :=
      (ingest_asks assistant _).forall_queriesOf d q₀ hq₀
    cases hdocument
    cases hname
    cases hdocument'
    cases hname'
    obtain ⟨e⟩ := horigin.entityQuery hentity
    obtain ⟨answer, data, made, hanswer, hlisted, hmade, hvalue, hpath⟩ :=
      reply_file_path hreply rfl e
    refine ⟨_, answer, data, made, e, rfl, hanswer, hlisted, hmade, hvalue, ?_⟩
    rw [hpath, horigin'.fileQuery hfile]
    cases givenIn data "file_path" <;> simp

/-- Its only entity is called `f`, has a property that calls it `g`, and brings its own path. -/
def forgedReply : Text :=
  "\x7b\"entities\": [\x7b\"name\": \"f\", \"entity_type\": \"function\", " ++
  "\"file_path\": \"b.py\", \"properties\": \x7b\"name\": \"g\"\x7d\x7d]\x7d"

def forgedOutline : Outline where
  entities := [{
    name := .str "f"
    kind := .str "function"
    path := .str "a.py"
    properties := .dict [("name", .str "g"), ("file_path", .str "b.py")] }]
  relationships := []

theorem ofReply_forgedReply :
    Outline.ofReply (.str "a.py") (.str "") (.str forgedReply) = .ok forgedOutline := by
  have hpart : Outline.documentPart? forgedReply = some forgedReply := by decide +kernel
  have hread : Json.read forgedReply = .ok (.dict [("entities", .list [.dict [
      ("name", .str "f"), ("entity_type", .str "function"), ("file_path", .str "b.py"),
      ("properties", .dict [("name", .str "g")])]])]) := by cbv
  refine Except.bind_eq_ok.mpr ⟨forgedReply, rfl, ?_⟩
  rw [hpart]
  exact Except.bind_eq_ok.mpr ⟨_, hread, rfl⟩

def forgedAnalysis : Analysis := ⟨forgedOutline, "", none⟩

def forgedDocument : Value := forgedAnalysis.document (.str "r") "a.py" (.str "a.py")

def forgedQueries : List Query :=
  (ingest ⟨.ok .null, .ok [.list [.int 1]]⟩ forgedDocument).queriesOf ⟨.barren, {}⟩

theorem forgedQueries_length : forgedQueries.length = 2 := by decide +kernel

def forgedFileQuery : Query := forgedQueries.get ⟨0, by simp [forgedQueries_length]⟩

def forgedEntityQuery : Query := forgedQueries.get ⟨1, by simp [forgedQueries_length]⟩

theorem forgedFileQuery_mem : forgedFileQuery ∈ forgedQueries ∧ IsFileQuery forgedFileQuery := by
  refine ⟨List.get_mem _ _, ?_⟩
  unfold IsFileQuery
  decide +kernel

theorem forgedEntityQuery_mem :
    forgedEntityQuery ∈ forgedQueries ∧ IsEntityQuery forgedEntityQuery := by
  refine ⟨List.get_mem _ _, ?_⟩
  unfold IsEntityQuery
  decide +kernel

theorem forgedEntityQuery_file_path :
    forgedEntityQuery.params.get? "file_path" ≠ forgedFileQuery.params.get? "filename" := by
  intro h
  have hpath : (forgedEntityQuery.params.get? "file_path").bind Value.text? =
      some (Text.ofString "b.py") := by decide +kernel
  have hname : (forgedFileQuery.params.get? "filename").bind Value.text? =
      some (Text.ofString "a.py") := by decide +kernel
  rw [h, hname] at hpath
  revert hpath
  decide

theorem entity_identity_iff_forged :
    Outline.ofReply (.str "a.py") (.str "") (.str forgedReply) = .ok forgedOutline ∧
    forgedEntityQuery ∈ forgedQueries ∧ IsEntityQuery forgedEntityQuery ∧
    forgedFileQuery ∈ forgedQueries ∧ IsFileQuery forgedFileQuery ∧
    (∃ fields, ∃ e : EntityQuery ⟨.ok .null, .ok [.list [.int 1]]⟩ ⟨"a.py", .str "r"⟩ fields
      forgedEntityQuery, Identifies forgedEntityQuery e.identity ↔
        IsHarmless e.properties e.identity) ∧
    ∃ answer data : Fields, Outline.Answers (.str forgedReply) answer ∧
      Listed answer "entities" (.dict data) ∧
      ¬ ∀ v, givenIn data "file_path" = some v → storedProperty v = .str "a.py" := by
  obtain ⟨hfile, hisFile⟩ := forgedFileQuery_mem
  obtain ⟨hentity, his⟩ := forgedEntityQuery_mem
  refine ⟨ofReply_forgedReply, hentity, his, hfile, hisFile, ?_, ?_⟩
  · obtain ⟨fields, name, hdocument, hname, ⟨e⟩, h⟩ :=
      (entity_identity_iff _ _).1 _ _ hentity his
    cases hdocument
    cases hname
    exact ⟨_, e, h e⟩
  · obtain ⟨fields, answer, data, made, e, _, hanswer, hlisted, _, _, h⟩ :=
      (entity_identity_iff _ _).2 forgedAnalysis _ _ _ _ _ ofReply_forgedReply _ hentity his _
        hfile hisFile
    exact ⟨answer, data, hanswer, hlisted, fun hall => forgedEntityQuery_file_path (h.mpr hall)⟩

/-- An accepted reply can forge both the name of its entity and the file that it is put in. -/
theorem entity_identity_forged :
    Outline.ofReply (.str "a.py") (.str "") (.str forgedReply) = .ok forgedOutline ∧
    forgedEntityQuery ∈ forgedQueries ∧ forgedFileQuery ∈ forgedQueries ∧
    (∃ fields, forgedDocument = .dict fields ∧
      ∃ e : EntityQuery ⟨.ok .null, .ok [.list [.int 1]]⟩ ⟨"a.py", .str "r"⟩ fields
        forgedEntityQuery, ¬ Identifies forgedEntityQuery e.identity) ∧
    forgedEntityQuery.params.get? "file_path" ≠ forgedFileQuery.params.get? "filename" := by
  obtain ⟨hmem, his⟩ := forgedEntityQuery_mem
  refine ⟨ofReply_forgedReply, hmem, forgedFileQuery_mem.1, ?_, forgedEntityQuery_file_path⟩
  obtain ⟨fields, name, hdocument, hname, horigin⟩ :=
    (ingest_asks _ forgedDocument).forall_queriesOf _ _ hmem
  obtain ⟨e⟩ := horigin.entityQuery his
  have hf : (e.entity.getD "name" .null).text? = some (Text.ofString "f") := by
    obtain ⟨made, hmade, hvalue⟩ := listed_document hdocument e.listed
    have hall : ∀ made ∈ forgedOutline.entities,
        made.name.text? = some (Text.ofString "f") := by decide +kernel
    rw [Fields.getD_eq, (toValue_name_path hvalue).1]
    exact hall made hmade
  have hg : (forgedEntityQuery.params.get? "name").bind Value.text? =
      some (Text.ofString "g") := by decide +kernel
  cases hdocument
  cases hname
  refine ⟨_, rfl, e, fun h => ?_⟩
  rw [h ("name", _) List.mem_cons_self, Option.bind_some, hf] at hg
  revert hg
  decide

end CodeAtlas.Graph
