import CodeAtlas.Checkout.Poll

/-! Handing the selected files of a clone over to storage, in batches of five. -/
namespace CodeAtlas.Checkout

def folderName (id : FolderId) : Text := "tmp" ++ Text.natText id

/-- The full path that a path selected in a clone stands for. One that starts with a slash is
already full. -/
def fullPath (id : FolderId) (path : Text) : Text :=
  if Text.startsWith "/" path then path else "/tmp/" ++ folderName id ++ "/" ++ path

/-- Everything on the machine: the folders of the clones, and what else there is. -/
def Site.machine (site : Site) (outside : List (Text × Tree)) : Tree :=
  let clones := site.disk.map fun (id, t) => (folderName id, t)
  .folder (("tmp", .folder clones) :: outside)

def locate (s : Surroundings) (site : Site) (id : FolderId) (path : Text) : Option Tree :=
  (site.machine s.outside).find? (fullPath id path)

/-- Where a file of a repository is stored. -/
def storedName (repo file : Value) : Text :=
  "cloned_repos/" ++ repo.display ++ "/" ++ file.display

def uploadOf (s : Surroundings) (repo : Value) (path : Text) : Upload where
  bucket := s.bucket
  name := storedName repo (.str path)
  metadata := .dict [
    ("repo_id", repo), ("file_path", .str path), ("file_name", .str (Path.baseName path))]
  text := none

/-- Uploads one file; false if there is no such file. -/
def uploadFile (s : Surroundings) (repo : Value) (id : FolderId) (file : Value) : Job Bool := do
  match file with
  | .str path =>
    match locate s (← site) id path with
    | none => return false
    | some t =>
      setField repo "current_file" file
      setMessage repo ("Processing " ++ path)
      if t.isFolder then throw .isDirectory
      let upload := uploadOf s repo path
      if let some fault := s.refusals.lookup upload.name then throw fault
      record fun log => { log with uploads := log.uploads ++ [upload] }
      return true
  | v => throw (.notPath v.typeName)

/-- The files uploaded and those that failed, in order. -/
structure Tally where
  uploaded : List Value := []
  failed : List Value := []

/-- Takes one file; any fault makes it a failed one. -/
def takeFile (s : Surroundings) (repo : Value) (id : FolderId) (t : Tally) (file : Value) :
    Job Tally := do
  if ← tryCatch (uploadFile s repo id file) fun _ => return false then
    let t := { t with uploaded := t.uploaded ++ [file] }
    setField repo "processed" (.int t.uploaded.length)
    return t
  return { t with failed := t.failed ++ [file] }

/-- Takes a batch and, if something was uploaded, waits for traces of it. -/
def takeBatch (s : Surroundings) (repo : Value) (id : FolderId) (total : Nat) (t : Tally)
    (batch : List Value) : Job Tally := do
  let after ← batch.foldlM (takeFile s repo id) t
  let uploaded := after.uploaded.drop t.uploaded.length
  if !uploaded.isEmpty then
    setMessage repo ("Waiting for batch processing to complete (" ++
      Text.natText after.uploaded.length ++ "/" ++ Text.natText total ++ ")")
    sleep 10
    setMessage repo "Checking if batch was processed in Neo4j"
    awaitBatch s repo (.list uploaded)
  return after

def inFives {α : Type} : List α → List (List α)
  | [] => []
  | a :: b :: c :: d :: e :: rest => [a, b, c, d, e] :: inFives rest
  | rest => [rest]

/-- The files of a selection that can be cut into batches. -/
def selection : Value → Except Fault (List Value)
  | .dict (_ :: _) => .error (.notSliceable "dict")
  | v => v.members

/-- Removes a clone's folder, and forgets the clone, if the folder is still there. -/
def cleanUp (repo : Value) (id : FolderId) : Job Unit :=
  changeSite fun s => if s.hasFolder id then (s.removeFolder id).dropClone repo else s

def handOver (s : Surroundings) (repo files : Value) (id : FolderId) : Job Unit :=
  tryCatch
    (do
      let total ← Work.lift files.size
      setProgress repo [
        ("total_files", .int total),
        ("processed", .int 0),
        ("current_file", .str ""),
        ("status", .str "processing"),
        ("message", .str "Starting file processing")]
      let batches := inFives (← Work.lift (selection files))
      let tally ← batches.foldlM (takeBatch s repo id total) {}
      if !tally.failed.isEmpty then setField repo "failed_files" (.list tally.failed)
      if tally.uploaded.isEmpty then
        setStatus repo "error" "No files were successfully uploaded"
      else
        setMessage repo "Waiting for Neo4j ingestion to complete"
        awaitEnd s repo
      cleanUp repo id)
    fun fault => setProgress repo [
      ("status", .str "error"),
      ("message", .str ("Error processing files: " ++ fault.message))]

end CodeAtlas.Checkout
