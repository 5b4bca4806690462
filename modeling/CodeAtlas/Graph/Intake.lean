import CodeAtlas.Graph.Ingest
import CodeAtlas.Json.Reader
import CodeAtlas.Resources

/-! Events about stored documents: each document is read and brought into the graph over one
connection that is made when it is first needed and then kept. -/
namespace CodeAtlas.Graph.Intake

structure Outcome where
  fault : Option Fault
  isConnected : Bool
  database : Database

/-- Stored documents are read closer to the start of the program than others, which leaves room for
more lists and dictionaries within one another. -/
def depthLimit : Nat := Json.depthLimit + 2

/-- The document that an event is about, if it is a JSON file. Metadata that names a repository
overrules the one in the document. -/
def documentFor (file : StoredFile) (event : Value) : Except Fault (Option Value) := do
  let _ ← event.field "bucket"
  let name ← (← event.field "name").asText "endswith"
  if !Text.endsWith ".json" name then return none
  let known := (← file.metadataFields).getD "repo_id" .null
  let document ← Json.readWithin depthLimit (← file.utf8Text)
  if known.isPresent then return some (← document.setField "repo_id" known)
  let _ ← document.asFields
  return some document

/-- The connection, made when there is none yet. It counts as made as soon as the database was
addressed, even if it then turns out not to work. -/
def connect (address user password : Value) : Work Bool Unit := do
  if ← Work.notes then return
  if !(address.isPresent && user.isPresent && password.isPresent) then
    throw (.settingUnset "Neo4j credentials are not set in environment variables.")
  Work.connect ⟨address.display, user.display, password.display⟩
  Work.note fun _ => true
  Work.verify

def process (assistant : Assistant) (file : StoredFile) (address user password event : Value) :
    Work Bool Unit := do
  match ← Work.lift (documentFor file event) with
  | none => return
  | some document =>
    connect address user password
    Work.openSession
    let (result, _) ← Work.aside (ingest assistant document) {}
    Work.lift result

def handle (assistant : Assistant) (file : StoredFile) (address user password event : Value)
    (isConnected : Bool) (database : Database) : Outcome :=
  let (result, desk) :=
    (process assistant file address user password event).runOn ⟨database, isConnected⟩
  { fault := match result with
      | .ok _ => none
      | .error fault => some fault
    isConnected := desk.notes
    database := desk.database }

end CodeAtlas.Graph.Intake
