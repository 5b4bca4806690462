import CodeAtlas.Resources
import CodeAtlas.Tree
import CodeAtlas.Value.Access
import CodeAtlas.Work

/-! What the checkout service keeps between requests, and what it notes during one. -/
namespace CodeAtlas.Checkout

abbrev Board := List (Value × Value)

namespace Board

def get? (b : Board) (repo : Value) : Option Value :=
  (b.find? fun (key, _) => key.sameKey repo).map (·.2)

def set : Board → Value → Value → Board
  | [], repo, v => [(repo, v)]
  | (key, old) :: rest, repo, v =>
    if key.sameKey repo then (key, v) :: rest else (key, old) :: set rest repo v

end Board

/-- A folder on disk, by the number under which it was made. -/
abbrev FolderId := Nat

structure Site where
  board : Board := []
  /-- The folder into which each repository was cloned. -/
  clones : List (Text × FolderId) := []
  /-- The folders that exist, with what is in them. -/
  disk : List (FolderId × Tree) := []
  /-- Number of folders made so far. -/
  made : Nat := 0

namespace Site

def hasFolder (s : Site) (id : FolderId) : Bool := (s.disk.lookup id).isSome

/-- A new folder, which no other ever was. -/
def makeFolder (s : Site) (t : Tree) : FolderId × Site :=
  (s.made, { s with disk := s.disk ++ [(s.made, t)], made := s.made + 1 })

def removeFolder (s : Site) (id : FolderId) : Site :=
  { s with disk := s.disk.filter (·.1 != id) }

def fillFolder (s : Site) (id : FolderId) (t : Tree) : Site :=
  { s with disk := s.disk.map fun (key, old) => (key, if key == id then t else old) }

/-- The folder of a repository; repositories are named by texts. -/
def cloneOf? (s : Site) : Value → Option FolderId
  | .str repo => s.clones.lookup repo
  | _ => none

def setClone (s : Site) (repo : Text) (id : FolderId) : Site :=
  { s with clones := s.clones.filter (·.1 != repo) ++ [(repo, id)] }

def dropClone (s : Site) : Value → Site
  | .str repo => { s with clones := s.clones.filter (·.1 != repo) }
  | _ => s

end Site

structure Post where
  url : Text
  timeout : Nat

/-- A pause, with the board as it was then. -/
structure Nap where
  seconds : Nat
  board : Board

structure Log where
  uploads : List Upload := []
  posts : List Post := []
  naps : List Nap := []
  printed : List Text := []

structure Notes where
  site : Site
  log : Log := {}

abbrev Job := Work Notes

def usualFolders : List Text :=
  ["boot", "home", "lib", "media", "mnt", "opt", "proc", "root", "run", "sbin", "srv", "sys", "var"]

def usualOutside : List (Text × Tree) :=
  ("dev", .folder [("null", .file)]) ::
  ("etc", .folder [("group", .file), ("hostname", .file), ("hosts", .file), ("os-release", .file),
    ("passwd", .file)]) ::
  ("bin", .folder [("sh", .file)]) ::
  ("usr", .folder [("bin", .folder [("env", .file), ("sh", .file)])]) ::
  usualFolders.map (·, Tree.empty)

/-- Settings of the service, and how its surroundings react during a request. -/
structure Surroundings where
  settings : Settings
  bucket : Text
  refusals : Refusals := []
  /-- What the machine holds beside temporary files. -/
  outside : List (Text × Tree) := usualOutside
  /-- What the repository to be cloned holds. -/
  repository : Tree := .empty
  cloneFault : Option Fault := none
  folderFault : Option Fault := none
  workerFault : Option Fault := none

namespace Surroundings

/-- The credentials for the database, if none is missing or empty. -/
def credentials? (s : Surroundings) : Option Credentials :=
  let c : Credentials := ⟨s.settings.getD "NEO4J_URI" "", s.settings.getD "NEO4J_USERNAME" "",
    s.settings.getD "NEO4J_PASSWORD" ""⟩
  if c.address.isEmpty || c.user.isEmpty || c.password.isEmpty then none else some c

def chatUrl (s : Surroundings) : Text := s.settings.getD "RAG_API_URL" "http://localhost:5001"

end Surroundings

def site : Job Site := return (← Work.notes).site

def changeSite (f : Site → Site) : Job Unit :=
  Work.note fun notes => { notes with site := f notes.site }

def record (f : Log → Log) : Job Unit :=
  Work.note fun notes => { notes with log := f notes.log }

/-- It is assumed that every text can be printed, also one with halves that stand alone: a stream
that takes only characters would end the job with a fault here. -/
def print (s : Text) : Job Unit :=
  record fun log => { log with printed := log.printed ++ Text.lines s }

def sleep (seconds : Nat) : Job Unit := do
  let board := (← site).board
  record fun log => { log with naps := log.naps ++ [⟨seconds, board⟩] }

def putEntry (repo entry : Value) : Job Unit := do
  if !repo.isHashable then throw (.notHashable repo.typeName)
  changeSite fun s => { s with board := s.board.set repo entry }

def setProgress (repo : Value) (fields : Fields) : Job Unit := putEntry repo (.dict fields)

/-- The progress of a repository, which has to be on the board. -/
def progress (repo : Value) : Job Value := do
  if !repo.isHashable then throw (.notHashable repo.typeName)
  match (← site).board.get? repo with
  | some entry => return entry
  | none => throw (.missingKey repo)

def setField (repo : Value) (key : Text) (v : Value) : Job Unit := do
  let entry ← Work.lift ((← progress repo).setField key v)
  changeSite fun s => { s with board := s.board.set repo entry }

def setMessage (repo : Value) (message : Text) : Job Unit :=
  setField repo "message" (.str message)

def setStatus (repo : Value) (status message : Text) : Job Unit := do
  setField repo "status" (.str status)
  setMessage repo message

end CodeAtlas.Checkout
