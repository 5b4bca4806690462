import CodeAtlas.Json.Writer
import CodeAtlas.Outline.Reply
import CodeAtlas.Outline.Scan
import CodeAtlas.Resources
import CodeAtlas.Text.Codec

/-! Analysis of a source file: the outline by the text model or, when that is empty, by rules. An
event about a stored source file leads to one written document with the result. -/
namespace CodeAtlas

structure Analysis where
  outline : Outline
  /-- The start of the content. -/
  sample : Text
  /-- Why the text model gave nothing, if it failed. -/
  failure : Option Fault

namespace Analysis

def ofText (assistant : Assistant) (path content : Text) : Analysis :=
  let label := Value.str (Language.detect path content).label
  let consultation := Outline.consult assistant (.str path) label (.str content)
  { outline :=
      if consultation.outline.entities.isEmpty then (Source.mk path label content).scan
      else consultation.outline
    sample := content.take 2000
    failure := consultation.failure }

def ofValues (assistant : Assistant) : Value → Value → Except Fault Analysis
  | .str path, .str content => .ok (ofText assistant path content)
  | .str _, v | v, _ => .error (.notText v.typeName)

def languageOf : Value → Value → Except Fault Language
  | .str path, .str content => .ok (Language.detect path content)
  | .str _, v | v, _ => .error (.notText v.typeName)

/-- The repository that a stored file belongs to by its name. -/
def repositoryOf (name : Text) : Text :=
  let parts := Text.split '/' name
  if Text.startsWith "cloned_repos/" name && 2 < parts.length then parts.getD 1 ""
  else "unknown_repo"

def document (a : Analysis) (repository : Value) (name : Text) (origin : Value) : Value :=
  .dict [
    ("repo_id", repository),
    ("filename", .str name),
    ("original_path", origin),
    ("entities", .list (a.outline.entities.map Entity.toValue)),
    ("relationships", .list (a.outline.relationships.map Relationship.toValue)),
    ("context_sample", .str a.sample)]

def destination (repository : Value) (name : Text) : Text :=
  "parsed_data/" ++ repository.display ++ "/" ++ Path.baseName name ++ ".json"

/-- The upload of the document for the stored file `name`, whose metadata may name the repository
and the path in it. -/
def upload (a : Analysis) (bucket name : Text) (metadata : Fields) : Upload :=
  let known := metadata.getD "repo_id" .null
  let repository := if known.isPresent then known else .str (repositoryOf name)
  let given := metadata.getD "file_path" .null
  let origin := if given.isPresent then given else .str name
  { bucket
    name := destination repository name
    metadata := .dict [
      ("repo_id", repository), ("original_file", .str name), ("file_path", origin)]
    text := some (Json.writeIndented (a.document repository name origin), "application/json") }

/-- The upload that an event leads to; none if the file is gone. The event names a bucket and a
file, and `target` is the bucket for results. -/
def uploadFor (assistant : Assistant) (file : StoredFile) (target : Option Text)
    (event : Value) : Except Fault (Option Upload) := do
  let _ ← event.field "bucket"
  let name ← event.field "name"
  if !file.isThere then return none
  let metadata ← file.metadataFields
  let content := Text.decodeSource (← file.bytes)
  match name with
  | .str name =>
    let analysis := ofText assistant name content
    let bucket := target.getD ""
    if bucket.isEmpty then
      throw (.settingUnset "PARSED_DATA_BUCKET environment variable not set.")
    return some (analysis.upload bucket name metadata)
  | v => throw (.notText v.typeName)

/-- The uploads made for an event, and the fault that it ends in, if any. -/
def handle (assistant : Assistant) (file : StoredFile) (refusals : Refusals)
    (target : Option Text) (event : Value) : List Upload × Option Fault :=
  match uploadFor assistant file target event with
  | .error fault => ([], some fault)
  | .ok none => ([], none)
  | .ok (some upload) =>
    match refusals.lookup upload.name with
    | some fault => ([], some fault)
    | none => ([upload], none)

end Analysis

end CodeAtlas
