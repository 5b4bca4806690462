import CodeAtlas.Proofs.IngestOrigin

/-! The exact course of bringing in a document of the expected form on a database that answers:
which queries are asked, in which order, and how the work ends, for every mix of plain entities,
imports and members whose kind is no text. -/
namespace CodeAtlas.Graph

/-- The embedding of a text: what the model gives, or nothing. -/
def embeddingFor (assistant : Assistant) : Value :=
  match assistant.embedding with
  | .ok v => v
  | .error _ => .list []

theorem embeddingOf_str (assistant : Assistant) (s : Text) :
    embeddingOf assistant (.str s) = .ok (embeddingFor assistant) := by
  unfold embeddingOf embeddingFor
  cases assistant.embedding <;> rfl

/-- An entity with a text for its description and a dictionary for its properties. Its kind may be
anything. -/
structure EntityItem where
  fields : Fields
  description : Text
  properties : Fields
  isDescription : fields.getD "description" (.str "") = .str description
  isProperties : fields.getD "properties" (.dict []) = .dict properties

namespace EntityItem

def toValue (e : EntityItem) : Value := .dict e.fields

def kind (e : EntityItem) : Value := e.fields.getD "entity_type" (.str "Entity")

def isTyped (e : EntityItem) : Bool := e.kind.text?.isSome

def isImport (e : EntityItem) : Bool := e.kind.text?.map Text.lower == some (Text.ofString "import")

/-- The query for an entity; an import has none. -/
def query? (e : EntityItem) (assistant : Assistant) (f : FileNode) : Option Query :=
  if e.isImport then none
  else e.kind.text?.map fun kind =>
    entityQuery f kind (assignmentsOf f e.fields e.properties (embeddingFor assistant))

def lookup (e : EntityItem) : Query := lookupQuery (e.fields.getD "name" .null)

def placeholder (e : EntityItem) (f : FileNode) : Query :=
  placeholderQuery (e.properties.getD "is_standard_library" (.bool false)).isPresent
    (e.fields.getD "name" .null) (e.properties.getD "source_file" (.str f.baseName))

end EntityItem

/-- A row that a lookup can give. -/
structure IsLookupRow (row : Fields) : Prop where
  path : ∃ v, row.get? "path" = some v
  name : ∃ v, row.get? "name" = some v
  count : ∃ n, row.get? "count" = some (.int n)

/-- Whether the answer has a row that counts something. -/
def finds : List Fields → Bool
  | [] => false
  | row :: _ =>
    match row.get? "count" with
    | some (.int n) => 0 < n
    | _ => false

section
variable {assistant : Assistant} {f : FileNode} {db : Database}

/-- A kind that is no text ends the step over an entity at once. -/
theorem ingestEntity_untyped {e : EntityItem} (h : e.isTyped = false) :
    (ingestEntity assistant f e.toValue).Does db []
      (.error (.lacksOperation e.kind.typeName "lower")) := by
  have hkind : e.kind.text? = none := by simpa [EntityItem.isTyped] using h
  have hfault : kindOf e.fields "entity_type" "Entity" =
      .error (.lacksOperation e.kind.typeName "lower") := Value.asText_of_no_text hkind
  unfold ingestEntity
  refine (Work.Does.lift (.ok e.fields)).bind_silent ?_
  rw [hfault]
  exact (Work.Does.lift (.error _)).bind_error

/-- One step over the entities: an import is put off, any other entity is asked for. -/
theorem ingestEntity_typed {e : EntityItem} (hdb : db.IsFaultless) (h : e.isTyped = true) :
    (ingestEntity assistant f e.toValue).Does db (e.query? assistant f).toList
      (.ok (if e.isImport then some e.fields else none)) := by
  obtain ⟨kind, hkind⟩ := Option.isSome_iff_exists.mp h
  have hkindOf : kindOf e.fields "entity_type" "Entity" = .ok kind :=
    Value.asText_eq_ok.mpr (Value.text?_eq_some.mp hkind)
  have himport : e.isImport = (Text.lower kind == Text.ofString "import") := by
    simp [EntityItem.isImport, hkind]
  unfold ingestEntity
  refine (Work.Does.lift (.ok e.fields)).bind_silent ?_
  rw [hkindOf]
  refine (Work.Does.lift (.ok kind)).bind_silent ?_
  rw [EntityItem.query?, hkind, ← himport]
  cases e.isImport with
  | true => exact .pure _
  | false =>
    obtain ⟨rows, hrows⟩ := hdb 0
    have hembed : (embed assistant (e.fields.getD "description" (.str ""))).Does db []
        (.ok (embeddingFor assistant)) := by
      rw [e.isDescription, ← embeddingOf_str assistant e.description]
      exact embed_does assistant _ db
    refine hembed.bind_silent ?_
    rw [e.isProperties]
    refine (Work.Does.lift (.ok e.properties)).bind_silent ?_
    exact (Work.Does.ask_ok hrows).bind_pure fun _ => none

/-- The queries for a run of entities, in order. -/
def entityQueries (assistant : Assistant) (f : FileNode) (xs : List EntityItem) : List Query :=
  xs.filterMap fun e => e.query? assistant f

/-- The entities of a run that are put off. -/
def importsOf (xs : List EntityItem) : List Fields :=
  xs.filterMap fun e => if e.isImport then some e.fields else none

/-- The loop over entities that all have a text for a kind. -/
theorem ingestEntities_typed {xs : List EntityItem} (hdb : db.IsFaultless)
    (hxs : ∀ e ∈ xs, e.isTyped = true) :
    ((xs.map EntityItem.toValue).filterMapM (ingestEntity assistant f)).Does db
      (entityQueries assistant f xs) (.ok (importsOf xs)) :=
  .filterMapM fun e he rs => ingestEntity_typed (hdb.after rs) (hxs e he)

/-- The loop over entities breaks off at the first whose kind is no text. -/
theorem ingestEntities_untyped {xs : List EntityItem} {bad : EntityItem} (hdb : db.IsFaultless)
    (h : xs.find? (fun e => !e.isTyped) = some bad) :
    ((xs.map EntityItem.toValue).filterMapM (ingestEntity assistant f)).Does db
      (entityQueries assistant f (xs.takeWhile EntityItem.isTyped))
      (.error (.lacksOperation bad.kind.typeName "lower")) :=
  .filterMapM_error h (fun _ he rs => ingestEntity_typed (hdb.after rs) he)
    fun hbad _ => ingestEntity_untyped hbad

theorem importsOf_of_find? {xs : List EntityItem} {first : EntityItem}
    (h : xs.find? EntityItem.isImport = some first) :
    ∃ rest, importsOf xs = first.fields :: rest := by
  obtain ⟨hfirst, before, after, rfl, hbefore⟩ := List.find?_eq_some_iff_append.mp h
  exact ⟨importsOf after, by simpa [importsOf, hfirst] using hbefore⟩

theorem importsOf_eq_nil {xs : List EntityItem} (h : ∀ e ∈ xs, e.isImport = false) :
    importsOf xs = [] := by
  simpa [importsOf] using h

theorem positiveCount_eq {row : Fields} {n : Int} (h : row.get? "count" = some (.int n)) :
    Value.positiveCount (some row) = .ok (if 0 < n then some (.int n) else none) := by
  have hfield : (Value.dict row).field "count" = .ok (.int n) :=
    Value.field_eq_ok.mpr ⟨row, rfl, h⟩
  have hsome : row ≠ [] := by
    rintro rfl
    cases h
  have hpositive : Value.isPositive (.int n) = .ok (decide (0 < n)) := rfl
  rw [Value.positiveCount, hfield]
  · simp [hpositive, bind, Except.bind, pure, Except.pure]
  · exact hsome

/-- The count that a lookup row gives, if it is positive. -/
theorem positiveCount_head {rows : List Fields} (hrow : ∀ row ∈ rows.head?, IsLookupRow row) :
    if finds rows then
      ∃ row count, rows.head? = some row ∧ Value.positiveCount (some row) = .ok (some count)
    else Value.positiveCount rows.head? = .ok none := by
  cases rows with
  | nil => rfl
  | cons row rest =>
    obtain ⟨n, hn⟩ := (hrow row rfl).count
    have hfinds : finds (row :: rest) = decide (0 < n) := by simp [finds, hn]
    rw [hfinds]
    by_cases hpos : 0 < n
    · simp [positiveCount_eq hn, hpos]
    · simp [positiveCount_eq hn, hpos]

/-- Over an import the work always breaks off: after the lookup, and the placeholder if nothing was
found. -/
theorem ingestImport_does {e : EntityItem} {rows : List Fields} (hdb : db.IsFaultless)
    (hrows : db.answerAt 0 = .ok rows) (hrow : ∀ row ∈ rows.head?, IsLookupRow row) :
    (ingestImport f e.fields).Does db
      (e.lookup :: if finds rows then [] else [e.placeholder f])
      (.error (.missingKey (.str "name"))) := by
  unfold ingestImport
  rw [e.isProperties]
  refine (Work.Does.lift (.ok e.properties)).bind_silent ?_
  refine (Work.Does.askOne hrows).bind ?_
  have hcount := positiveCount_head hrow
  cases hfinds : finds rows with
  | true =>
    rw [hfinds, if_pos rfl] at hcount
    obtain ⟨row, count, hhead, hcount⟩ := hcount
    have hlookup := hrow row hhead
    obtain ⟨path, hpath⟩ := hlookup.path
    obtain ⟨name, hname⟩ := hlookup.name
    have hpathField : (Value.dict row).field "path" = .ok path :=
      Value.field_eq_ok.mpr ⟨row, rfl, hpath⟩
    have hnameField : (Value.dict row).field "name" = .ok name :=
      Value.field_eq_ok.mpr ⟨row, rfl, hname⟩
    rw [hhead, hcount]
    refine (Work.Does.lift (.ok (some count))).bind_silent ?_
    dsimp only [Option.getD]
    rw [hpathField, hnameField]
    refine (Work.Does.lift (.ok path)).bind_silent ?_
    refine (Work.Does.lift (.ok name)).bind_silent ?_
    exact (print_does _ _).bind_silent (link_does f _ _ _)
  | false =>
    rw [hfinds, if_neg Bool.false_ne_true] at hcount
    rw [hcount]
    refine (Work.Does.lift (.ok none)).bind_silent ?_
    refine (print_does _ _).bind_silent ?_
    obtain ⟨rows', hrows'⟩ := hdb.after [e.lookup] 0
    exact (Work.Does.ask_ok hrows').bind (link_does f _ _ _)

def relationshipKind (fields : Fields) : Value :=
  fields.getD "relationship_type" (.str "RELATED_TO")

/-- Whether a relationship of the kind is brought in. -/
def isKept (kind : Text) (fields : Fields) : Bool :=
  Text.lower kind != "imports" && (fields.getD "source" .null).isPresent &&
    (fields.getD "target" .null).isPresent && !(relationType kind).isEmpty

/-- The query for a relationship, if it is brought in. -/
def relationshipQuery? (f : FileNode) (fields : Fields) : Option Query :=
  (relationshipKind fields).text?.bind fun kind =>
    if isKept kind fields then some (relationshipQuery f (relationType kind) fields) else none

def isTypedRelationship (fields : Fields) : Bool := (relationshipKind fields).text?.isSome

theorem ingestRelationship_untyped {fields : Fields} (h : isTypedRelationship fields = false) :
    (ingestRelationship f (.dict fields)).Does db []
      (.error (.lacksOperation (relationshipKind fields).typeName "lower")) := by
  have hkind : (relationshipKind fields).text? = none := by
    simpa [isTypedRelationship] using h
  have hfault : kindOf fields "relationship_type" "RELATED_TO" = .error _ :=
    Value.asText_of_no_text hkind
  unfold ingestRelationship
  refine (Work.Does.lift (.ok fields)).bind_silent ?_
  rw [hfault]
  exact (Work.Does.lift (.error _)).bind_error

theorem ingestRelationship_typed {fields : Fields} (hdb : db.IsFaultless)
    (h : isTypedRelationship fields = true) :
    (ingestRelationship f (.dict fields)).Does db (relationshipQuery? f fields).toList
      (.ok ()) := by
  obtain ⟨kind, hkind⟩ := Option.isSome_iff_exists.mp h
  have hkindOf : kindOf fields "relationship_type" "RELATED_TO" = .ok kind :=
    Value.asText_eq_ok.mpr (Value.text?_eq_some.mp hkind)
  unfold ingestRelationship
  refine (Work.Does.lift (.ok fields)).bind_silent ?_
  rw [hkindOf]
  refine (Work.Does.lift (.ok kind)).bind_silent ?_
  rw [relationshipQuery?, hkind, Option.bind_some, isKept]
  split
  next himports =>
    rw [bne, himports]
    exact .pure ()
  next himports =>
    rw [bne, eq_false_of_ne_true himports, Bool.not_false, Bool.true_and]
    dsimp only
    split
    · obtain ⟨rows, hrows⟩ := hdb 0
      exact (Work.Does.ask_ok hrows).bind_pure fun _ => ()
    · exact .pure ()

theorem ingestRelationships_typed {xs : List Fields} (hdb : db.IsFaultless)
    (hxs : ∀ x ∈ xs, isTypedRelationship x = true) :
    ((xs.map Value.dict).forM (ingestRelationship f)).Does db
      (xs.filterMap (relationshipQuery? f)) (.ok ()) :=
  .forM fun x hx rs => ingestRelationship_typed (hdb.after rs) (hxs x hx)

theorem ingestRelationships_untyped {xs : List Fields} {bad : Fields} (hdb : db.IsFaultless)
    (h : xs.find? (fun x => !isTypedRelationship x) = some bad) :
    ((xs.map Value.dict).forM (ingestRelationship f)).Does db
      ((xs.takeWhile isTypedRelationship).filterMap (relationshipQuery? f))
      (.error (.lacksOperation (relationshipKind bad).typeName "lower")) :=
  .forM_error h (fun _ hx rs => ingestRelationship_typed (hdb.after rs) hx)
    fun hbad _ => ingestRelationship_untyped hbad

end

/-- A document with a file name, a list of entities and a list of relationships. -/
structure FileDocument where
  fields : Fields
  name : Text
  entities : List EntityItem
  relationships : List Fields
  isName : fields.getD "filename" .null = .str name
  hasName : name ≠ []
  isEntities : fields.getD "entities" (.list []) = .list (entities.map EntityItem.toValue)
  isRelationships : fields.getD "relationships" (.list []) = .list (relationships.map .dict)

namespace FileDocument

variable {assistant : Assistant} {db : Database} {doc : FileDocument}

def file (doc : FileDocument) : FileNode := ⟨doc.name, doc.fields.getD "repo_id" .null⟩

def fileQuery (doc : FileDocument) : Query :=
  doc.file.query (doc.fields.getD "context_sample" (.str ""))

theorem ingest_eq (doc : FileDocument) (assistant : Assistant) :
    ingest assistant (.dict doc.fields) = ingestFile assistant doc.file doc.fields :=
  ingest_dict doc.isName doc.hasName

/-- What is left to do once the file has its node. -/
def afterFile (doc : FileDocument) (assistant : Assistant) : Ingest Unit := do
  let imports ← (doc.entities.map EntityItem.toValue).filterMapM
    (ingestEntity assistant doc.file)
  imports.forM (ingestImport doc.file)
  (doc.relationships.map Value.dict).forM (ingestRelationship doc.file)
  print ("Ingested data for " ++ doc.name ++
    " into Neo4j with enhanced entity and relationship handling.")

theorem ingest_does {qs : List Query} {r : Except Fault Unit} (hdb : db.IsFaultless)
    (h : (doc.afterFile assistant).Does (db.after [doc.fileQuery]) qs r) :
    (ingest assistant (.dict doc.fields)).Does db (doc.fileQuery :: qs) r := by
  obtain ⟨rows, hrows⟩ := hdb 0
  rw [ingest_eq, ingestFile, doc.isEntities, doc.isRelationships]
  -- taking the two lists apart asks nothing and cannot fail, so `afterFile` is all that is left
  exact (Work.Does.ask_ok hrows).bind h

section
variable (hdb : db.IsFaultless) (htyped : ∀ e ∈ doc.entities, e.isTyped = true)

include hdb htyped

/-- The first import ends the work, wherever in its course. -/
theorem ingest_import {first : EntityItem} {qs : List Query} {fault : Fault}
    (hfirst : doc.entities.find? EntityItem.isImport = some first)
    (himport : (ingestImport doc.file first.fields).Does
      (db.after (doc.fileQuery :: entityQueries assistant doc.file doc.entities)) qs
      (.error fault)) :
    (ingest assistant (.dict doc.fields)).Does db
      (doc.fileQuery :: (entityQueries assistant doc.file doc.entities ++ qs))
      (.error fault) := by
  obtain ⟨rest, hrest⟩ := importsOf_of_find? hfirst
  refine ingest_does hdb ((ingestEntities_typed (hdb.after _) htyped).bind ?_)
  rw [hrest, List.forM_eq_forM, List.forM_cons, Database.after_after]
  exact himport.bind_error.bind_error

/-- Without imports the relationships are gone through as soon as the entities are. -/
theorem ingest_plain {qs : List Query} {r : Except Fault Unit}
    (hplain : ∀ e ∈ doc.entities, e.isImport = false)
    (hrelations : ((doc.relationships.map Value.dict).forM (ingestRelationship doc.file)).Does
      (db.after (doc.fileQuery :: entityQueries assistant doc.file doc.entities)) qs r) :
    (ingest assistant (.dict doc.fields)).Does db
      (doc.fileQuery :: (entityQueries assistant doc.file doc.entities ++ qs)) r := by
  have hentities : ((doc.entities.map EntityItem.toValue).filterMapM
      (ingestEntity assistant doc.file)).Does _ _ (.ok (importsOf doc.entities)) :=
    ingestEntities_typed (hdb.after [doc.fileQuery]) htyped
  rw [importsOf_eq_nil hplain] at hentities
  refine ingest_does hdb (hentities.bind ((Work.Does.pure ()).bind_silent ?_))
  rw [Database.after_after]
  cases r with
  | error fault => exact hrelations.bind_error
  | ok _ => exact hrelations.bind_last (print_does _ _)

end

/-- The course of the work on a document and how it ends. A kind of an entity that is no text ends
it first, an import next, and a kind of a relationship that is no text last. -/
theorem ingest_trace (doc : FileDocument) (assistant : Assistant) (hdb : db.IsFaultless) :
    (∀ bad, doc.entities.find? (fun e => !e.isTyped) = some bad →
      (ingest assistant (.dict doc.fields)).Does db
        (doc.fileQuery ::
          entityQueries assistant doc.file (doc.entities.takeWhile EntityItem.isTyped))
        (.error (.lacksOperation bad.kind.typeName "lower"))) ∧
    ((∀ e ∈ doc.entities, e.isTyped = true) →
      (∀ first rows, doc.entities.find? EntityItem.isImport = some first →
        db.answerAt ((entityQueries assistant doc.file doc.entities).length + 1) = .ok rows →
        (∀ row ∈ rows.head?, IsLookupRow row) →
        (ingest assistant (.dict doc.fields)).Does db
          (doc.fileQuery :: (entityQueries assistant doc.file doc.entities ++ first.lookup ::
            if finds rows then [] else [first.placeholder doc.file]))
          (.error (.missingKey (.str "name")))) ∧
      ((∀ e ∈ doc.entities, e.isImport = false) →
        (∀ bad, doc.relationships.find? (fun x => !isTypedRelationship x) = some bad →
          (ingest assistant (.dict doc.fields)).Does db
            (doc.fileQuery :: (entityQueries assistant doc.file doc.entities ++
              (doc.relationships.takeWhile isTypedRelationship).filterMap
                (relationshipQuery? doc.file)))
            (.error (.lacksOperation (relationshipKind bad).typeName "lower"))) ∧
        ((∀ x ∈ doc.relationships, isTypedRelationship x = true) →
          (ingest assistant (.dict doc.fields)).Does db
            (doc.fileQuery :: (entityQueries assistant doc.file doc.entities ++
              doc.relationships.filterMap (relationshipQuery? doc.file)))
            (.ok ())))) := by
  refine ⟨fun bad hbad => ?_, fun htyped => ⟨fun first rows hfirst hrows hrow => ?_,
    fun hplain => ⟨fun bad hbad => ?_, fun hrelations => ?_⟩⟩⟩
  · exact ingest_does hdb (ingestEntities_untyped (hdb.after _) hbad).bind_error
  · apply ingest_import hdb htyped hfirst
    have hanswer : (db.after (doc.fileQuery ::
        entityQueries assistant doc.file doc.entities)).answerAt 0 = .ok rows := by
      simpa using hrows
    exact ingestImport_does (hdb.after _) hanswer hrow
  · exact ingest_plain hdb htyped hplain (ingestRelationships_untyped (hdb.after _) hbad)
  · exact ingest_plain hdb htyped hplain (ingestRelationships_typed (hdb.after _) hrelations)

end FileDocument

def sampleEntity (kind : Value) : EntityItem where
  fields := [("name", .str "f"), ("entity_type", kind)]
  description := ""
  properties := []
  isDescription := rfl
  isProperties := rfl

def sampleRelationship (kind : Value) : Fields :=
  [("source", .str "f"), ("target", .str "g"), ("relationship_type", kind)]

/-- A document with one entity and one relationship for each of the kinds. -/
def sampleDocument (kinds relations : List Value) : FileDocument where
  fields := [
    ("filename", .str "a.py"),
    ("entities", .list ((kinds.map sampleEntity).map EntityItem.toValue)),
    ("relationships", .list ((relations.map sampleRelationship).map Value.dict))]
  name := "a.py"
  entities := kinds.map sampleEntity
  relationships := relations.map sampleRelationship
  isName := rfl
  hasName := by decide
  isEntities := rfl
  isRelationships := rfl

theorem ingest_trace_samples :
    Database.barren.IsFaultless ∧
    (let doc := sampleDocument [.str "class", .int 1] []
    (ingest ⟨.ok .null, .ok []⟩ (.dict doc.fields)).Does .barren
      (doc.fileQuery :: entityQueries ⟨.ok .null, .ok []⟩ doc.file [sampleEntity (.str "class")])
      (.error (.lacksOperation "int" "lower"))) ∧
    (let doc := sampleDocument [.str "Import", .str "class"] []
    (ingest ⟨.ok .null, .ok []⟩ (.dict doc.fields)).Does .barren
      (doc.fileQuery :: (entityQueries ⟨.ok .null, .ok []⟩ doc.file doc.entities ++
        [(sampleEntity (.str "Import")).lookup,
          (sampleEntity (.str "Import")).placeholder doc.file]))
      (.error (.missingKey (.str "name")))) ∧
    let doc := sampleDocument [.str "class"] [.str "calls", .null]
    (ingest ⟨.ok .null, .ok []⟩ (.dict doc.fields)).Does .barren
      (doc.fileQuery :: (entityQueries ⟨.ok .null, .ok []⟩ doc.file doc.entities ++
        [sampleRelationship (.str "calls")].filterMap (relationshipQuery? doc.file)))
      (.error (.lacksOperation "NoneType" "lower")) := by
  have hclass : (sampleEntity (.str "class")).isImport = false := by decide +kernel
  have himport : (sampleEntity (.str "Import")).isImport = true := by decide +kernel
  have hdb := Database.barren_isFaultless
  refine ⟨hdb, ?_, ?_, ?_⟩
  · exact (FileDocument.ingest_trace _ _ hdb).1 (sampleEntity (.int 1)) rfl
  · refine ((FileDocument.ingest_trace _ _ hdb).2 (by decide +kernel)).1
      (sampleEntity (.str "Import")) [] ?_ rfl (by simp)
    simp [sampleDocument, himport]
  · refine (((FileDocument.ingest_trace _ _ hdb).2 (by decide +kernel)).2 ?_).1
      (sampleRelationship .null) rfl
    simpa [sampleDocument] using hclass

end CodeAtlas.Graph
