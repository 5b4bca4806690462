import Mathlib.Data.List.Forall2
import CodeAtlas.Proofs.Assignments
import CodeAtlas.Proofs.IngestTrace
import CodeAtlas.Proofs.WorkAlike

/-! What the embedding model gives does not decide what is brought into the graph. Two runs over the
same document, with models that may answer or fail as they like, go side by side: they ask the same
queries with the same parameters, the embedding apart, and end alike. -/
namespace CodeAtlas

/-- The database without what it was asked. -/
def Database.unasked (db : Database) : Database := { db with asked := [] }

namespace Graph

/-- Parameters under the same keys, in the same order, that differ in the embedding alone. -/
def ParamsAgree : Fields → Fields → Prop :=
  List.Forall₂ fun p p' => p.1 = p'.1 ∧ (p.1 ≠ "embedding" → p.2 = p'.2)

namespace ParamsAgree

variable {ps ps' : Fields}

theorem refl (ps : Fields) : ParamsAgree ps ps :=
  List.forall₂_same.mpr fun _ _ => ⟨rfl, fun _ => rfl⟩

theorem set (h : ParamsAgree ps ps') (key : Text) (v : Value) :
    ParamsAgree (ps.set key v) (ps'.set key v) := by
  induction h with
  | nil => exact refl _
  | @cons p p' rest rest' hp hrest ih =>
    obtain ⟨k, old⟩ := p
    obtain ⟨k', old'⟩ := p'
    obtain ⟨rfl, hold⟩ := hp
    -- the keys agree, so the new value goes to the same place on both sides
    by_cases hk : k = key
    · simp only [Fields.set, beq_iff_eq, hk, if_true]
      exact .cons ⟨rfl, fun _ => rfl⟩ hrest
    · simp only [Fields.set, beq_iff_eq, hk, if_false]
      exact .cons ⟨rfl, hold⟩ ih

end ParamsAgree

/-- Queries of the same text, whose parameters differ in the embedding alone. -/
structure QueriesAgree (q q' : Query) : Prop where
  text_eq : q.text = q'.text
  params : ParamsAgree q.params q'.params

theorem QueriesAgree.refl (q : Query) : QueriesAgree q q := ⟨rfl, .refl _⟩

/-- Assignments to the same keys, whose parameters differ in the embedding alone. -/
structure AssignmentsAgree (s s' : Assignments) : Prop where
  keys_eq : s.keys = s'.keys
  params : ParamsAgree s.params s'.params

namespace AssignmentsAgree

variable {s s' : Assignments}

theorem add (h : AssignmentsAgree s s') (key : Text) (v : Value) :
    AssignmentsAgree (s.add key v) (s'.add key v) :=
  ⟨congrArg (· ++ [key]) h.keys_eq, h.params.set key v⟩

theorem entityQuery (h : AssignmentsAgree s s') (f : FileNode) (kind : Text) :
    QueriesAgree (entityQuery f kind s) (entityQuery f kind s') := by
  have htext : s.text = s'.text := by rw [Assignments.text, Assignments.text, h.keys_eq]
  constructor
  · simp only [Graph.entityQuery, htext]
  · exact h.params

end AssignmentsAgree

theorem assignmentsOf_agree (f : FileNode) (entity properties : Fields) (v v' : Value) :
    AssignmentsAgree (assignmentsOf f entity properties v)
      (assignmentsOf f entity properties v') := by
  apply assignmentsOf_induction properties v v'
  · have hrest : ParamsAgree [("repo_id", f.repository)] [("repo_id", f.repository)] := .refl _
    constructor
    · rfl
    · exact List.rel_append (ParamsAgree.refl [_, _, _]) (.cons ⟨rfl, fun h => absurd rfl h⟩ hrest)
  · intro s s' h key w
    exact h.add key w

/-- Desks that differ in the embeddings among the parameters, and in the lines printed. -/
structure DesksAgree (d d' : Desk IngestNotes) : Prop where
  database_eq : d.database.unasked = d'.database.unasked
  asked : List.Forall₂ QueriesAgree d.database.asked d'.database.asked
  embedded_eq : d.notes.embedded = d'.notes.embedded

theorem DesksAgree.refl (d : Desk IngestNotes) : DesksAgree d d :=
  ⟨rfl, List.forall₂_same.mpr fun q _ => .refl q, rfl⟩

/-- Work that does the same in both runs, with results that are related by `S`. -/
abbrev Agrees {α : Type} (S : α → α → Prop) (w w' : Ingest α) : Prop :=
  Work.Alike id DesksAgree (Work.Same S) w w'

theorem ask_agrees {q q' : Query} (h : QueriesAgree q q') :
    Agrees Eq (Work.ask q) (Work.ask q') := by
  intro d d' hd
  -- the next answer is the same, since the script of answers is and as many were used up
  have hanswer := congrArg (Database.answerAt · 0) hd.database_eq
  change d.database.answerAt 0 = d'.database.answerAt 0 at hanswer
  have hdatabase := congrArg (fun db => (Database.after db [q]).unasked) hd.database_eq
  rw [Work.runOn_ask, Work.runOn_ask, hanswer]
  constructor
  · exact .of_eq _
  · exact ⟨hdatabase, List.rel_append hd.asked (.cons h .nil), hd.embedded_eq⟩

theorem askOne_agrees (q : Query) : Agrees Eq (Work.askOne q) (Work.askOne q) := by
  apply (ask_agrees (.refl q)).bind_same
  rintro rows _ rfl
  exact .pure rfl

theorem print_agrees (s : Text) : Agrees Eq (print s) (print s) :=
  fun _ _ hd => ⟨.ok rfl, hd.database_eq, hd.asked, hd.embedded_eq⟩

/-- A text gets an embedding from every model, if only an empty one. -/
theorem runOn_embed (assistant : Assistant) (s : Text) (d : Desk IngestNotes) :
    ∃ printed, (embed assistant (.str s)).runOn d = (.ok (embeddingFor assistant),
      { d with notes := ⟨d.notes.embedded ++ [.str s], printed⟩ }) := by
  unfold embed embeddingFor
  cases assistant.embedding with
  | ok v => exact ⟨_, rfl⟩
  | error fault => exact ⟨_, rfl⟩

theorem embed_agrees (a a' : Assistant) (s : Text) :
    Agrees (fun _ _ => True) (embed a (.str s)) (embed a' (.str s)) := by
  intro d d' hd
  obtain ⟨printed, hrun⟩ := runOn_embed a s d
  obtain ⟨printed', hrun'⟩ := runOn_embed a' s d'
  rw [hrun, hrun']
  exact ⟨.ok trivial, hd.database_eq, hd.asked, congrArg (· ++ [Value.str s]) hd.embedded_eq⟩

theorem link_agrees (f : FileNode) (condition : Text) (params : Fields) :
    Agrees Eq (link f condition params) (link f condition params) := by
  apply Work.Alike.bind_lift
  intro text _
  apply (ask_agrees (.refl _)).bind_same
  intro _ _ _
  exact .pure rfl

/-- Every entity of the document has a text for its description, or none at all. -/
def HasTextDescriptions (document : Value) : Prop :=
  ∀ fields entity : Fields, document = .dict fields → Listed fields "entities" (.dict entity) →
    ∃ s, entity.getD "description" (.str "") = .str s

theorem FileDocument.hasTextDescriptions (doc : FileDocument) :
    HasTextDescriptions (.dict doc.fields) := by
  rintro fields entity hdocument ⟨vs, hvs, hentity⟩
  cases hdocument
  rw [doc.isEntities] at hvs
  cases hvs
  obtain ⟨e, -, he⟩ := List.mem_map.mp hentity
  cases he
  exact ⟨e.description, e.isDescription⟩

section
variable (a a' : Assistant) (f : FileNode)

theorem ingestEntity_agrees {entity : Value}
    (h : ∀ fields : Fields, entity = .dict fields →
      ∃ s, fields.getD "description" (.str "") = .str s) :
    Agrees Eq (ingestEntity a f entity) (ingestEntity a' f entity) := by
  apply Work.Alike.bind_lift
  intro fields hfields
  obtain ⟨s, hs⟩ := h fields (Value.asFields_eq_ok.mp hfields)
  apply Work.Alike.bind_lift
  intro kind _
  split
  · exact .pure rfl
  · rw [hs]
    apply (embed_agrees a a' s).bind_same
    -- nothing relates the two embeddings, and they go nowhere but into the parameters
    intro v v' _
    apply Work.Alike.bind_lift
    intro properties _
    apply (ask_agrees ((assignmentsOf_agree f fields properties v v').entityQuery f kind)).bind_same
    intro _ _ _
    exact .pure rfl

theorem ingestImport_agrees (fields : Fields) :
    Agrees Eq (ingestImport f fields) (ingestImport f fields) := by
  apply Work.Alike.bind_lift
  intro properties _
  apply (askOne_agrees _).bind_same
  rintro row _ rfl
  apply Work.Alike.bind_lift
  intro count _
  cases count with
  | some _ =>
    apply Work.Alike.bind_lift
    intro targetPath _
    apply Work.Alike.bind_lift
    intro targetName _
    exact (print_agrees _).bind_same fun _ _ _ => link_agrees f _ _
  | none =>
    apply (print_agrees _).bind_same
    intro _ _ _
    exact (ask_agrees (.refl _)).bind_same fun _ _ _ => link_agrees f _ _

theorem ingestRelationship_agrees (relationship : Value) :
    Agrees Eq (ingestRelationship f relationship) (ingestRelationship f relationship) := by
  apply Work.Alike.bind_lift
  intro fields _
  apply Work.Alike.bind_lift
  intro kind _
  dsimp only
  split
  · exact .pure rfl
  · split
    · exact (ask_agrees (.refl _)).bind_same fun _ _ _ => .pure rfl
    · exact .pure rfl

theorem ingestFile_agrees {document : Fields} (h : HasTextDescriptions (.dict document)) :
    Agrees Eq (ingestFile a f document) (ingestFile a' f document) := by
  apply (ask_agrees (.refl _)).bind_same
  intro _ _ _
  apply Work.Alike.bind_lift
  intro entities hentities
  have hloop : Agrees Eq (entities.filterMapM (ingestEntity a f))
      (entities.filterMapM (ingestEntity a' f)) := by
    apply Work.Alike.filterMapM
    intro entity hentity
    apply ingestEntity_agrees
    rintro fields rfl
    exact h document fields rfl ⟨entities, hentities, hentity⟩
  apply hloop.bind_same
  rintro imports _ rfl
  apply (Work.Alike.forM imports fun fields _ => ingestImport_agrees f fields).bind_same
  intro _ _ _
  apply Work.Alike.bind_lift
  intro relationships _
  apply (Work.Alike.forM relationships fun r _ => ingestRelationship_agrees f r).bind_same
  intro _ _ _
  exact print_agrees _

end

theorem ingest_agrees (a a' : Assistant) {document : Value} (h : HasTextDescriptions document) :
    Agrees Eq (ingest a document) (ingest a' document) := by
  apply Work.Alike.bind_lift
  intro fields hfields
  obtain rfl := Value.asFields_eq_ok.mp hfields
  split
  · exact print_agrees _
  · exact ingestFile_agrees a a' _ h
  · split
    · exact .throw _
    · exact print_agrees _

section
variable {assistant : Assistant} {f : FileNode}

/-- The step over an entity that has a query asks it, whatever the model and the database say. -/
theorem ingestEntity_does {e : EntityItem} {q : Query} (h : e.query? assistant f = some q)
    (db : Database) : (ingestEntity assistant f e.toValue).Does db [q]
      ((db.answerAt 0).map fun _ => none) := by
  unfold EntityItem.query? at h
  split at h
  · cases h
  next hplain =>
    obtain ⟨kind, hkind, rfl⟩ := Option.map_eq_some_iff.mp h
    have hkindOf : kindOf e.fields "entity_type" "Entity" = .ok kind :=
      Value.asText_eq_ok.mpr (Value.text?_eq_some.mp hkind)
    have hplain : ¬ (Text.lower kind == Text.ofString "import") = true := by
      simpa [EntityItem.isImport, hkind] using hplain
    have hembed : (embed assistant (e.fields.getD "description" (.str ""))).Does db []
        (.ok (embeddingFor assistant)) := by
      rw [e.isDescription, ← embeddingOf_str assistant e.description]
      exact embed_does assistant _ db
    unfold ingestEntity
    apply (Work.Does.lift (.ok e.fields)).bind_silent
    rw [hkindOf]
    apply (Work.Does.lift (.ok kind)).bind_silent
    rw [if_neg hplain]
    apply hembed.bind_silent
    rw [e.isProperties]
    apply (Work.Does.lift (.ok e.properties)).bind_silent
    have hask (q : Query) : (Work.ask q : Ingest _).Does db [q] (db.answerAt 0) := .ask q
    cases hrows : db.answerAt 0 with
    | ok rows => exact (hrows ▸ hask _).bind_pure fun _ => none
    | error fault => exact (hrows ▸ hask _).bind_error

/-- What is left to do once the entities have been gone through. -/
def afterEntities (f : FileNode) (document : Fields) (imports : List Fields) : Ingest Unit := do
  imports.forM (ingestImport f)
  let relationships ← Work.lift (document.getD "relationships" (.list [])).members
  relationships.forM (ingestRelationship f)
  print ("Ingested data for " ++ f.name ++
    " into Neo4j with enhanced entity and relationship handling.")

section
variable {document : Fields} {entities : List Value}
  (hentities : (document.getD "entities" (.list [])).members = .ok entities)

include hentities

theorem ingestFile_eq : ingestFile assistant f document =
    Work.ask (f.query (document.getD "context_sample" (.str ""))) >>= fun _ =>
      entities.filterMapM (ingestEntity assistant f) >>= afterEntities f document := by
  unfold ingestFile
  rw [hentities]
  rfl

theorem afterEntities_asks {d : Desk IngestNotes} {imports : List Fields}
    (h : ((entities.filterMapM (ingestEntity assistant f)).runOn d).1 = .ok imports) :
    (afterEntities f document imports).Asks (Origin assistant f document) := by
  apply (ingestImports_asks hentities h).bind
  intro _ _ _
  apply Work.Asks.bind_lift
  intro relationships hrelationships
  apply (ingestRelationships_asks hrelationships).bind
  intro _ _ _
  exact .of_does (print_does _) (by simp)

/-- Work on a file that ends well has asked for every entity that has a query. -/
theorem ingestFile_asks_entity {e : EntityItem} {q : Query} {d : Desk IngestNotes}
    (he : e.toValue ∈ entities) (hq : e.query? assistant f = some q)
    (hok : ((ingestFile assistant f document).runOn d).1 = .ok ()) :
    q ∈ (ingestFile assistant f document).queriesOf d := by
  rw [ingestFile_eq hentities] at hok ⊢
  obtain ⟨rows, d₁, hfile, hok⟩ := Work.runOn_bind_inv hok
  obtain ⟨imports, d₂, hloop, -⟩ := Work.runOn_bind_inv hok
  have hfirst : (Work.ask _ : Ingest _).Asks (Origin assistant f document) := .ask .file
  have hstep (x : Value) (hx : x ∈ entities) :
      (ingestEntity assistant f x).Asks (Origin assistant f document) :=
    ingestEntity_asks ⟨entities, hentities, hx⟩
  have hsteps := Work.Asks.filterMapM entities hstep
  have hmem : q ∈ (entities.filterMapM (ingestEntity assistant f)).queriesOf d₁ := by
    apply Work.Asks.mem_queriesOf_filterMapM hstep he
    · intro d' _ _
      rw [(ingestEntity_does hq d'.database).queriesOf_eq d'.notes]
      exact List.mem_singleton_self q
    · rw [hloop]
  apply hfirst.mem_queriesOf_right (hsteps.bind fun _ _ h => afterEntities_asks hentities h) hfile
  exact hsteps.mem_queriesOf_left (afterEntities_asks hentities (by rw [hloop])) hloop hmem

end

end

/-- Work that ends well has asked for every entity of the document that has a query. -/
theorem ingest_asks_entity {assistant : Assistant} {fields : Fields} {name : Text} {e : EntityItem}
    {q : Query} {d : Desk IngestNotes} (hname : fields.getD "filename" .null = .str name)
    (hsome : name ≠ []) (hlisted : Listed fields "entities" e.toValue)
    (hq : e.query? assistant ⟨name, fields.getD "repo_id" .null⟩ = some q)
    (hok : ((ingest assistant (.dict fields)).runOn d).1 = .ok ()) :
    q ∈ (ingest assistant (.dict fields)).queriesOf d := by
  obtain ⟨entities, hentities, he⟩ := hlisted
  rw [ingest_dict hname hsome] at hok ⊢
  exact ingestFile_asks_entity hentities he hq hok

/-- What the embedding model gives does not decide what is brought in: with any two models the work
ends alike, asks for the same embeddings, and asks the same queries but for the embeddings among
their parameters; and with each of them, work that ends well has asked for every entity. -/
theorem embeddings_do_not_decide (a a' : Assistant) (document : Value) (d : Desk IngestNotes)
    (h : HasTextDescriptions document) :
    ((ingest a document).runOn d).1 = ((ingest a' document).runOn d).1 ∧
    ((ingest a document).runOn d).2.notes.embedded =
      ((ingest a' document).runOn d).2.notes.embedded ∧
    List.Forall₂ QueriesAgree ((ingest a document).queriesOf d)
      ((ingest a' document).queriesOf d) ∧
    ∀ (fields : Fields) (name : Text), document = .dict fields →
      fields.getD "filename" .null = .str name → name ≠ [] →
      ((ingest a document).runOn d).1 = .ok () →
      ∀ e : EntityItem, Listed fields "entities" e.toValue →
        (∀ q ∈ e.query? a ⟨name, fields.getD "repo_id" .null⟩,
          q ∈ (ingest a document).queriesOf d) ∧
        ∀ q ∈ e.query? a' ⟨name, fields.getD "repo_id" .null⟩,
          q ∈ (ingest a' document).queriesOf d := by
  obtain ⟨hresult, hdesk⟩ := ingest_agrees a a' h d d (.refl d)
  have hresult := hresult.eq
  have hqueries := List.forall₂_drop d.database.asked.length hdesk.asked
  refine ⟨hresult, hdesk.embedded_eq, hqueries, ?_⟩
  rintro fields name rfl hname hsome hok e hlisted
  constructor
  · intro q hq
    exact ingest_asks_entity hname hsome hlisted hq hok
  · intro q hq
    exact ingest_asks_entity hname hsome hlisted hq (hresult ▸ hok)

/-- A model that gives an embedding, and one that does not answer. -/
def givingModel : Assistant := ⟨.ok .null, .ok [.list [.int 1]]⟩

def failingModel : Assistant := ⟨.ok .null, .error (.service .databaseError "boom")⟩

theorem embeddings_do_not_decide_sample :
    let document := Value.dict (sampleDocument [.str "class"] [.str "calls"]).fields
    let d : Desk IngestNotes := ⟨.barren, {}⟩
    HasTextDescriptions document ∧
    ((ingest givingModel document).runOn d).1 = ((ingest failingModel document).runOn d).1 ∧
    List.Forall₂ QueriesAgree ((ingest givingModel document).queriesOf d)
      ((ingest failingModel document).queriesOf d) ∧
    embeddingFor givingModel = .list [.int 1] ∧ embeddingFor failingModel = .list [] ∧
    ((ingest failingModel document).queriesOf d).length = 3 := by
  have hdocument := (sampleDocument [.str "class"] [.str "calls"]).hasTextDescriptions
  obtain ⟨hresult, -, hqueries, -⟩ :=
    embeddings_do_not_decide givingModel failingModel _ ⟨.barren, {}⟩ hdocument
  exact ⟨hdocument, hresult, hqueries, rfl, rfl, by decide +kernel⟩

end Graph

end CodeAtlas
