import CodeAtlas.Graph.Schema
import CodeAtlas.Json.Writer
import CodeAtlas.Resources
import CodeAtlas.Text.Cut
import CodeAtlas.Value.Access
import CodeAtlas.Work

/-! Bringing the outline of a file into the graph: a node for the file, a node for each entity, the
imports, and the relationships. -/
namespace CodeAtlas.Graph

structure IngestNotes where
  /-- The texts for which an embedding was asked. -/
  embedded : List Value := []
  /-- The lines printed. -/
  printed : List Text := []

abbrev Ingest := Work IngestNotes

structure FileNode where
  name : Text
  repository : Value
deriving Inhabited

namespace FileNode

def extension (f : FileNode) : Text := Text.lower (Path.extension f.name)

def type (f : FileNode) : FileType := .ofExtension f.extension

def baseName (f : FileNode) : Text := Path.baseName f.name

def query (f : FileNode) (sample : Value) : Query where
  text := "MERGE (f:" ++ f.type.label ++ ":File \x7bpath: $filename\x7d) " ++
    "SET f.repo_id = $repo_id, f.name = $file_name, " ++
    "f.extension = $extension, f.context_sample = $context_sample"
  params := [
    ("filename", .str f.name),
    ("repo_id", f.repository),
    ("file_name", .str f.baseName),
    ("extension", .str f.extension),
    ("context_sample", sample)]

end FileNode

/-- A property as it is stored: lists and dictionaries as JSON. -/
def storedProperty : Value → Value
  | .list items => .str (Json.write (.list items))
  | .dict fields => .str (Json.write (.dict fields))
  | v => v

/-- The assignments to a node beyond the fixed ones: keys as they stand in the query text, one after
another, and the parameters they come to. -/
structure Assignments where
  keys : List Text
  params : Fields

namespace Assignments

def add (s : Assignments) (key : Text) (v : Value) : Assignments :=
  ⟨s.keys ++ [key], s.params.set key v⟩

def addPresent (s : Assignments) (key : Text) (v : Value) : Assignments :=
  if v.isPresent then s.add key v else s

/-- Keys of properties that are added by name. -/
def namedKeys : List Text := ["original_name", "source_file"]

/-- Adds one of an entity's own properties, if its key can stand in a query text. -/
def addProperty (s : Assignments) : Text × Value → Assignments
  | (key, v) =>
    if namedKeys.contains key || v.isNull || !isIdentifier key then s
    else s.add key (storedProperty v)

def text (s : Assignments) : Text :=
  Text.join (s.keys.map fun key => ", e." ++ key ++ " = $" ++ key)

end Assignments

def codeOf (entity properties : Fields) : Value :=
  let sample := properties.getD "context_sample" (.str "")
  if sample.isPresent then sample else entity.getD "code" sample

def assignmentsOf (f : FileNode) (entity properties : Fields) (embedding : Value) : Assignments :=
  let fixed : Assignments := ⟨[], [
    ("file_path", entity.getD "file_path" (.str f.name)),
    ("name", entity.getD "name" .null),
    ("description", entity.getD "description" (.str "")),
    ("embedding", embedding),
    ("repo_id", f.repository)]⟩
  let named := ((fixed.addPresent "context_sample" (codeOf entity properties)).addPresent
    "original_name" (properties.getD "original_name" .null)).addPresent
    "source_file" (properties.getD "source_file" .null)
  properties.foldl Assignments.addProperty named

def entityQuery (f : FileNode) (kind : Text) (assignments : Assignments) : Query where
  text :=
    let set := "e.description = $description, e.embedding = $embedding, e.repo_id = $repo_id" ++
      assignments.text
    Query.block 8 [
      "MATCH (f:" ++ f.type.label ++ " \x7bpath: $file_path\x7d)",
      "MERGE (e:" ++ nodeLabel kind ++ " \x7bname: $name, file_path: $file_path\x7d)",
      "ON CREATE SET " ++ set,
      "ON MATCH SET " ++ set,
      "MERGE (f)-[:CONTAINS]->(e)"]
  params := assignments.params

def lookupQuery (name : Value) : Query where
  text := Query.block 12 [
    "MATCH (f) ",
    "WHERE f.name = $import_name OR f.path ENDS WITH $import_name",
    "RETURN f.path as path, f.name as name, count(f) as count"]
  params := [("import_name", name)]

def placeholderQuery (isStandard : Bool) (name source : Value) : Query where
  text := Query.block 16 [
    "MERGE (imp:" ++ (if isStandard then "StandardLibrary" else "ExternalModule") ++
      " \x7bname: $import_name\x7d)",
    "ON CREATE SET imp.description = $description, imp.is_placeholder = true"]
  params := [
    ("import_name", name),
    ("description", .str ("External module " ++ name.display ++ " imported by " ++
      source.display ++ " but not available in the repository"))]

/-- A piece of a query template: text, or the name of a value to put in its place. -/
inductive Piece where
  | text (s : Text)
  | slot (key : Text)

def fill (values : List (Text × Text)) : List Piece → Except Fault Text
  | [] => .ok ""
  | .text s :: rest => return s ++ (← fill values rest)
  | .slot key :: rest =>
    match values.lookup key with
    | some s => return s ++ (← fill values rest)
    | none => .error (.missingKey (.str key))

/-- The query that links a file to what it imports. Everything in braces is a slot, so the key of
the source node, which stands in braces too, asks for a value called `name`. -/
def linkTemplate (condition : Text) : List Piece := [
  .text ("\n                MATCH (source:"), .slot "file_type", .text " ", .slot "name",
  .text (")" ++ Query.block 16 [
    "MATCH (target) ",
    "WHERE " ++ condition,
    "MERGE (source)-[r:IMPORTS]->(target)",
    "SET r.context = $context"])]

def link (f : FileNode) (condition : Text) (params : Fields) : Ingest Unit := do
  let text ← Work.lift (fill [("file_type", f.type.label)] (linkTemplate condition))
  let _ ← Work.ask { text, params }

/-- It is assumed that every text can be printed, also one with halves that stand alone: a stream
that takes only characters would end the job with a fault here. -/
def print (s : Text) : Ingest Unit :=
  Work.note fun notes => { notes with printed := notes.printed ++ Text.lines s }

/-- The embedding of a text. When it cannot be had, that is printed with the start of the text, and
the embedding is empty. -/
def embed (assistant : Assistant) (text : Value) : Ingest Value := do
  Work.note fun notes => { notes with embedded := notes.embedded ++ [text] }
  match assistant.embedding with
  | .ok v => return v
  | .error fault =>
    let start ← Work.lift (text.firstPart 50)
    print ("Error generating embedding for text: '" ++ start.display ++ "...': " ++ fault.message)
    return .list []

/-- The kind of an entity, which has to be a text. -/
def kindOf (fields : Fields) (key default : Text) : Except Fault Text :=
  (fields.getD key (.str default)).asText "lower"

/-- Brings in one entity. An import is put off: its fields are the result. -/
def ingestEntity (assistant : Assistant) (f : FileNode) (entity : Value) :
    Ingest (Option Fields) := do
  let fields ← Work.lift entity.asFields
  let kind ← Work.lift (kindOf fields "entity_type" "Entity")
  if Text.lower kind == "import" then return some fields
  let embedding ← embed assistant (fields.getD "description" (.str ""))
  let properties ← Work.lift (fields.getD "properties" (.dict [])).asFields
  let _ ← Work.ask (entityQuery f kind (assignmentsOf f fields properties embedding))
  return none

/-- Brings in one import: as a link to a file of the graph, or to a placeholder for it. -/
def ingestImport (f : FileNode) (fields : Fields) : Ingest Unit := do
  let name := fields.getD "name" .null
  let properties ← Work.lift (fields.getD "properties" (.dict [])).asFields
  let isStandard := (properties.getD "is_standard_library" (.bool false)).isPresent
  let source := properties.getD "source_file" (.str f.baseName)
  let row ← Work.askOne (lookupQuery name)
  match ← Work.lift (Value.positiveCount row) with
  | some _ =>
    let target := Value.dict (row.getD [])
    let targetPath ← Work.lift (target.field "path")
    let targetName ← Work.lift (target.field "name")
    print ("Creating import relationship: " ++ source.display ++ " imports " ++
      targetName.display)
    link f "target.path = $target_path" [
      ("source_file", source),
      ("target_path", targetPath),
      ("context", .str ("File " ++ source.display ++ " imports " ++ targetName.display)),
      ("repo_id", f.repository)]
  | none =>
    print ("Creating placeholder for import: " ++ name.display ++ " (type: " ++
      (if isStandard then "StandardLibrary" else "ExternalModule") ++ ")")
    let _ ← Work.ask (placeholderQuery isStandard name source)
    link f "target.name = $import_name AND target.is_placeholder = true" [
      ("source_file", source),
      ("import_name", name),
      ("context", .str ("File " ++ source.display ++ " imports external module " ++
        name.display)),
      ("repo_id", f.repository)]

def relationshipQuery (f : FileNode) (type : Text) (fields : Fields) : Query where
  text := Query.block 8 [
    "MATCH (source \x7bname: $source_name, file_path: $filename\x7d)",
    "MATCH (target \x7bname: $target_name, file_path: $filename\x7d)",
    "MERGE (source)-[r:" ++ type ++ "]->(target)",
    "SET r.context = $context"]
  params := [
    ("source_name", fields.getD "source" .null),
    ("target_name", fields.getD "target" .null),
    ("filename", .str f.name),
    ("context", fields.getD "context" (.str ""))]

/-- Brings in one relationship, unless it is an import or one of its ends or its type is missing. -/
def ingestRelationship (f : FileNode) (relationship : Value) : Ingest Unit := do
  let fields ← Work.lift relationship.asFields
  let kind ← Work.lift (kindOf fields "relationship_type" "RELATED_TO")
  if Text.lower kind == "imports" then return
  let type := relationType kind
  if (fields.getD "source" .null).isPresent && (fields.getD "target" .null).isPresent &&
      !type.isEmpty then
    let _ ← Work.ask (relationshipQuery f type fields)

def ingestFile (assistant : Assistant) (f : FileNode) (document : Fields) : Ingest Unit := do
  let _ ← Work.ask (f.query (document.getD "context_sample" (.str "")))
  let entities ← Work.lift (document.getD "entities" (.list [])).members
  let imports ← entities.filterMapM (ingestEntity assistant f)
  imports.forM (ingestImport f)
  let relationships ← Work.lift (document.getD "relationships" (.list [])).members
  relationships.forM (ingestRelationship f)
  print ("Ingested data for " ++ f.name ++
    " into Neo4j with enhanced entity and relationship handling.")

/-- Brings in a document. One without a file name is passed over. -/
def ingest (assistant : Assistant) (document : Value) : Ingest Unit := do
  let fields ← Work.lift document.asFields
  match fields.getD "filename" .null with
  | .str [] => skip
  | .str name => ingestFile assistant ⟨name, fields.getD "repo_id" .null⟩ fields
  | v => if v.isPresent then throw (.notPath v.typeName) else skip
where
  skip : Ingest Unit := print "Skipping ingestion: filename is missing from parsed data."

end CodeAtlas.Graph
