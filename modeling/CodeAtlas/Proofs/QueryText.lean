import CodeAtlas.Proofs.Assignments
import CodeAtlas.Proofs.IngestOrigin
import Mathlib.Data.List.GetD

/-! The texts of the queries that are asked while a file is brought in. Each is one of five
templates; what varies in it is a file type, names and relationship types, which are types of their
own here so that no template can be given anything else. Values only ever travel as parameters. -/
namespace CodeAtlas.Graph

def IsCapital (c : CodePoint) : Prop := 'A' ≤ c ∧ c ≤ 'Z'

def IsLetter (c : CodePoint) : Prop := IsCapital c ∨ 'a' ≤ c ∧ c ≤ 'z'

/-- Letters, digits and the underscore of ASCII. -/
def IsWordPart (c : CodePoint) : Prop := IsLetter c ∨ ('0' ≤ c ∧ c ≤ '9') ∨ c = '_'

/-- A letter, then letters, digits and underscores, then at most one line break. -/
def IsName (s : Text) : Prop :=
  ∃ (c : CodePoint) (cs ending : Text), s = c :: cs ++ ending ∧ IsLetter c ∧
    (∀ x ∈ cs, IsWordPart x) ∧ (ending = [] ∨ ending = "\n")

def IsRelationName (s : Text) : Prop := s ≠ [] ∧ ∀ c ∈ s, IsCapital c ∨ c = '_'

theorem isUpper_iff {c : CodePoint} : c.isUpper = true ↔ IsCapital c := by
  simp only [CodePoint.isUpper, Bool.and_eq_true, decide_eq_true_eq]
  exact Iff.rfl

theorem isLetter_iff {c : CodePoint} : c.isLetter = true ↔ IsLetter c := by
  simp only [CodePoint.isLetter, CodePoint.isLower, Bool.or_eq_true, isUpper_iff,
    Bool.and_eq_true, decide_eq_true_eq]
  exact Or.comm

theorem isWordPart_iff {c : CodePoint} :
    (c.isLetter || c.isDigit || c == '_') = true ↔ IsWordPart c := by
  have hd : c.isDigit = true ↔ '0' ≤ c ∧ c ≤ '9' := by
    simp only [CodePoint.isDigit, Bool.and_eq_true, decide_eq_true_eq]
    exact Iff.rfl
  simp only [Bool.or_eq_true, isLetter_iff, hd, beq_iff_eq, IsWordPart, or_assoc]

theorem isPlainIdentifier_iff {s : Text} : isPlainIdentifier s = true ↔
    ∃ (c : CodePoint) (cs : Text), s = c :: cs ∧ IsLetter c ∧ ∀ x ∈ cs, IsWordPart x := by
  cases s with
  | nil => simp [isPlainIdentifier]
  | cons c cs =>
    simp only [isPlainIdentifier, Bool.and_eq_true, isLetter_iff, List.all_eq_true, isWordPart_iff]
    constructor
    · rintro ⟨hc, hcs⟩
      exact ⟨c, cs, rfl, hc, hcs⟩
    · rintro ⟨_, _, heq, hc, hcs⟩
      cases heq
      exact ⟨hc, hcs⟩

/-- The check that is made on labels and keys lets exactly the names through. -/
theorem isIdentifier_iff {s : Text} : isIdentifier s = true ↔ IsName s := by
  simp only [isIdentifier, Bool.or_eq_true, Bool.and_eq_true, isPlainIdentifier_iff,
    Text.endsWith, List.isSuffixOf_iff_suffix]
  constructor
  · rintro (⟨c, cs, rfl, hc, hcs⟩ | ⟨⟨front, rfl⟩, c, cs, hfront, hc, hcs⟩)
    · exact ⟨c, cs, [], by simp, hc, hcs, .inl rfl⟩
    · have hdrop : (front ++ Text.ofString "\n").dropLast = front := List.dropLast_concat
      exact ⟨c, cs, "\n", by rw [← hfront, hdrop], hc, hcs, .inr rfl⟩
  · rintro ⟨c, cs, ending, rfl, hc, hcs, rfl | rfl⟩
    · exact .inl ⟨c, cs, by simp, hc, hcs⟩
    · exact .inr ⟨⟨c :: cs, rfl⟩, c, cs, List.dropLast_concat, hc, hcs⟩

/-- A label of nodes or a key of a property. -/
structure NodeName where
  text : Text
  isName : IsName text

structure RelationName where
  text : Text
  isName : IsRelationName text

def fileText (type : FileType) : Text :=
  "MERGE (f:" ++ type.label ++ ":File \x7bpath: $filename\x7d) " ++
    "SET f.repo_id = $repo_id, f.name = $file_name, " ++
    "f.extension = $extension, f.context_sample = $context_sample"

def assignmentText (key : NodeName) : Text := ", e." ++ key.text ++ " = $" ++ key.text

/-- What is set on the node of an entity. -/
def entitySettings (keys : List NodeName) : Text :=
  "e.description = $description, e.embedding = $embedding, e.repo_id = $repo_id" ++
    keys.flatMap assignmentText

def entityText (type : FileType) (label : NodeName) (keys : List NodeName) : Text :=
  Query.block 8 [
    "MATCH (f:" ++ type.label ++ " \x7bpath: $file_path\x7d)",
    "MERGE (e:" ++ label.text ++ " \x7bname: $name, file_path: $file_path\x7d)",
    "ON CREATE SET " ++ entitySettings keys,
    "ON MATCH SET " ++ entitySettings keys,
    "MERGE (f)-[:CONTAINS]->(e)"]

def lookupText : Text :=
  Query.block 12 [
    "MATCH (f) ",
    "WHERE f.name = $import_name OR f.path ENDS WITH $import_name",
    "RETURN f.path as path, f.name as name, count(f) as count"]

def placeholderText (isStandard : Bool) : Text :=
  Query.block 16 [
    "MERGE (imp:" ++ (if isStandard then "StandardLibrary" else "ExternalModule") ++
      " \x7bname: $import_name\x7d)",
    "ON CREATE SET imp.description = $description, imp.is_placeholder = true"]

def relationshipText (type : RelationName) : Text :=
  Query.block 8 [
    "MATCH (source \x7bname: $source_name, file_path: $filename\x7d)",
    "MATCH (target \x7bname: $target_name, file_path: $filename\x7d)",
    "MERGE (source)-[r:" ++ type.text ++ "]->(target)",
    "SET r.context = $context"]

/-- A query text by what varies in it. -/
inductive Template where
  | file (type : FileType)
  | entity (type : FileType) (label : NodeName) (keys : List NodeName)
  | lookup
  | placeholder (isStandard : Bool)
  | relationship (type : RelationName)

namespace Template

def text : Template → Text
  | .file type => fileText type
  | .entity type label keys => entityText type label keys
  | .lookup => lookupText
  | .placeholder isStandard => placeholderText isStandard
  | .relationship type => relationshipText type

/-- What varies comes from the extension of the file, from the kind of an entity and the keys of its
properties, or from the kind of a relationship. -/
def DrawnFrom (document : Fields) : Template → Prop
  | .file type => IsFileType type
  | .entity type label keys => IsFileType type ∧
      ∃ (fields properties : Fields) (kind : Text), Listed document "entities" (.dict fields) ∧
        fields.getD "entity_type" (.str "Entity") = .str kind ∧ label.text = nodeLabel kind ∧
        fields.getD "properties" (.dict []) = .dict properties ∧
        ∀ key ∈ keys, key.text ∈ properties.map Prod.fst ∨
          key.text ∈ (["context_sample", "original_name", "source_file"] : List Text)
  | .lookup => True
  | .placeholder _ => True
  | .relationship type => ∃ (fields : Fields) (kind : Text),
      Listed document "relationships" (.dict fields) ∧
        fields.getD "relationship_type" (.str "RELATED_TO") = .str kind ∧
        type.text = relationType kind
where
  IsFileType (type : FileType) : Prop := ∃ name, document.getD "filename" .null = .str name ∧
    type = .ofExtension (Text.lower (Path.extension name))

end Template

theorem nodeLabel_isName (kind : Text) : IsName (nodeLabel kind) := by
  have hchecked (label : Text) : IsName (if isIdentifier label then label else "Entity") := by
    split
    next h => exact isIdentifier_iff.mp h
    · exact isIdentifier_iff.mp (by decide)
  exact hchecked _

theorem toUpper_capital {c : CodePoint} (h : c.isLetter = true) : IsCapital c.toUpper := by
  rw [← isUpper_iff]
  simp only [CodePoint.isLetter, CodePoint.isLower, CodePoint.isUpper, Bool.or_eq_true,
    Bool.and_eq_true, decide_eq_true_eq] at h
  simp only [CodePoint.toUpper, CodePoint.isUpper, CodePoint.isLower, Bool.and_eq_true,
    decide_eq_true_eq]
  split
  · dsimp only
    omega
  · omega

theorem upperLettersOf_capital (c : CodePoint) :
    ∀ x ∈ Text.upperLettersOf c, IsCapital x ∨ x = '_' := by
  have htable : ∀ row ∈ Text.upperLetters, ∀ x ∈ row.2, x.isUpper = true := by decide
  unfold Text.upperLettersOf
  intro x hx
  split at hx
  next hletter =>
    obtain rfl := List.mem_singleton.mp hx
    exact .inl (toUpper_capital hletter)
  · split at hx
    next hline =>
      obtain rfl := List.mem_singleton.mp hx
      exact .inr (by simpa using hline)
    · cases hfound : Text.upperLetters.lookup c.val with
      | none => simp [hfound] at hx
      | some letters =>
        obtain ⟨before, after, hsplit, _⟩ := List.lookup_eq_some_iff.mp hfound
        rw [hfound] at hx
        exact .inl (isUpper_iff.mp (htable (c.val, letters) (by simp [hsplit]) x hx))

theorem relationType_capital (kind : Text) : ∀ c ∈ relationType kind, IsCapital c ∨ c = '_' := by
  intro c hc
  obtain ⟨source, _, hc⟩ := List.mem_flatMap.mp hc
  exact upperLettersOf_capital source c hc

theorem entityQuery_text (f : FileNode) (kind : Text) (s : Assignments) (label : NodeName)
    (keys : List NodeName) (hlabel : label.text = nodeLabel kind)
    (hkeys : keys.map NodeName.text = s.keys) :
    (entityQuery f kind s).text = entityText f.type label keys := by
  have hassignments : keys.flatMap assignmentText = s.text := by
    rw [Assignments.text, ← hkeys, List.map_map, List.flatMap_def]
    rfl
  simp only [entityQuery, entityText, entitySettings, hassignments, hlabel]

/-- Every query is asked in the words of a template whose varying pieces come from the document. -/
theorem Origin.template {assistant : Assistant} {name : Text} {repository : Value}
    {document : Fields} {q : Query} (hname : document.getD "filename" .null = .str name)
    (h : Origin assistant ⟨name, repository⟩ document q) :
    ∃ t : Template, q.text = t.text ∧ t.DrawnFrom document := by
  have htype : Template.DrawnFrom.IsFileType document (FileNode.type ⟨name, repository⟩) :=
    ⟨name, hname, rfl⟩
  cases h with
  | file => exact ⟨.file _, rfl, htype⟩
  | @entity fields properties kind embedding listed isKind _ _ isProperties =>
    have hkeys := assignmentsOf_keys ⟨name, repository⟩ fields properties embedding
    have hnames : ∀ x ∈ (assignmentsOf ⟨name, repository⟩ fields properties embedding).keys,
        IsName x := fun x hx => isIdentifier_iff.mp (hkeys x hx).1
    refine ⟨.entity _ _ _, entityQuery_text _ _ _ ⟨nodeLabel kind, nodeLabel_isName kind⟩
      (List.pmap NodeName.mk _ hnames) rfl (by simp [List.map_pmap]), htype, fields, properties,
      kind, listed, isKind, rfl, isProperties, ?_⟩
    intro key hkey
    obtain ⟨x, hx, rfl⟩ := List.mem_pmap.mp hkey
    exact (hkeys x hx).2
  | lookup => exact ⟨.lookup, rfl, trivial⟩
  | placeholder => exact ⟨.placeholder _, rfl, trivial⟩
  | @relationship fields kind listed isKind _ _ _ hasType =>
    exact ⟨.relationship ⟨relationType kind, hasType, relationType_capital kind⟩, rfl,
      fields, kind, listed, isKind, rfl⟩

/-- Whatever a document holds, no query text holds more of it than a template lets in. -/
theorem query_text_is_template (assistant : Assistant) (document : Value) (d : Desk IngestNotes) :
    ∀ q ∈ (ingest assistant document).queriesOf d, ∃ (fields : Fields) (t : Template),
      document = .dict fields ∧ q.text = t.text ∧ t.DrawnFrom fields := by
  intro q hq
  obtain ⟨fields, name, hdocument, hname, horigin⟩ :=
    (ingest_asks assistant document).forall_queriesOf d q hq
  obtain ⟨t, htext, hdrawn⟩ := horigin.template hname
  exact ⟨fields, t, hdocument, htext, hdrawn⟩

/-- Its only entity has a name that tries to close the query and a kind with a final line break. -/
def hostileDocument : Fields := [
  ("filename", .str "a.py"),
  ("entities", .list [.dict [
    ("name", .str "x\x7d) DETACH DELETE f //"),
    ("entity_type", .str "sTruct\n"),
    ("properties", .dict [("a b", .int 1), ("size", .int 2)])]])]

def hostileQueries : List Query :=
  (ingest ⟨.ok .null, .ok []⟩ (.dict hostileDocument)).queriesOf ⟨.barren, {}⟩

theorem query_text_is_template_hostile :
    ∃ q ∈ hostileQueries,
      (q.params.getD "name" .null).text? = some (Text.ofString "x\x7d) DETACH DELETE f //") ∧
      ∃ (fields : Fields) (t : Template), Value.dict hostileDocument = .dict fields ∧
        q.text = t.text ∧ t.DrawnFrom fields := by
  have hlength : 1 < hostileQueries.length := by decide +kernel
  have hmem : hostileQueries.getD 1 default ∈ hostileQueries := by
    rw [List.getD_eq_getElem _ _ hlength]
    exact List.getElem_mem hlength
  exact ⟨_, hmem, by decide +kernel, query_text_is_template _ _ _ _ hmem⟩

end CodeAtlas.Graph
