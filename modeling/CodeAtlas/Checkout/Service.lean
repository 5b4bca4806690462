import CodeAtlas.Checkout.Batch
import CodeAtlas.Digest.Sha256
import CodeAtlas.Http

/-! The service that clones repositories, lists their files, hands selected ones over and reports
how far that has come. -/
namespace CodeAtlas.Checkout

def answer (status : Nat) (fields : Fields) : Http.Response := ⟨status, some (.dict fields)⟩

def refusal (status : Nat) (message : Text) : Http.Response :=
  answer status [("success", .bool false), ("message", .str message)]

/-- The name under which a repository is known: the hash of its address. -/
def repositoryId (url : Text) : Except Fault Text := return Digest.sha256 (← utf8Bytes url)

/-- Asks the chat service to empty the graph; whether it does so makes no difference. -/
def requestClear (s : Surroundings) : Job Unit :=
  record fun log => { log with posts := log.posts ++ [⟨s.chatUrl ++ "/api/clear-database", 30⟩] }

def clone (s : Surroundings) (repo : Text) : Job (Except Fault FolderId) := do
  let (id, after) := (← site).makeFolder .empty
  changeSite fun _ => (after.setClone repo id).fillFolder id s.repository
  match s.cloneFault with
  | none => return .ok id
  | some fault =>
    changeSite fun site => (site.removeFolder id).dropClone (.str repo)
    return .error fault

def cloneRefusal (fault : Fault) : Http.Response :=
  match fault with
  | .service .git _ => refusal 500 ("Failed to clone repository: " ++ fault.message)
  | _ => refusal 500 ("An error occurred: " ++ fault.message)

def fetchFrom (s : Surroundings) (url : Text) : Job Http.Response := do
  requestClear s
  match repositoryId url, s.folderFault with
  | .error fault, _ | _, some fault => return cloneRefusal fault
  | .ok repo, none =>
    if let .error fault ← clone s repo then return cloneRefusal fault
    return answer 200 [
      ("success", .bool true),
      ("message", .str "Repository cloned successfully. Select files."),
      ("files", .list (s.repository.listing.map .str)),
      ("repo_id", .str repo)]

def fetch (s : Surroundings) (document : Value) : Job Http.Response := do
  let fields ← Work.lift document.asFields
  let given := fields.getD "github_url" .null
  if !given.isPresent then return refusal 400 "GitHub URL is required."
  let url ← Work.lift (given.asText "startswith")
  if !Text.startsWith "https://github.com/" url then
    return refusal 400 "Invalid GitHub URL format. Must start with https://github.com/"
  fetchFrom s url

/-- Starts the hand-over of a clone's files; its worker is done before the answer is sent. -/
def start (s : Surroundings) (repo files : Value) (id : FolderId) : Job Http.Response :=
  tryCatch
    (do
      let total ← Work.lift files.size
      setProgress repo [
        ("status", .str "starting"),
        ("message", .str "Starting file processing"),
        ("total_files", .int total),
        ("processed", .int 0)]
      if let some fault := s.workerFault then throw fault
      handOver s repo files id
      return answer 200 [
        ("success", .bool true),
        ("message", .str "File processing started"),
        ("repo_id", repo)])
    fun fault => do
      setProgress repo [
        ("status", .str "error"),
        ("message", .str ("Error starting processing: " ++ fault.message))]
      return refusal 500 ("An error occurred: " ++ fault.message)

def process (s : Surroundings) (document : Value) : Job Http.Response := do
  let fields ← Work.lift document.asFields
  let files := fields.getD "selected_files" .null
  let repo := fields.getD "repo_id" .null
  if !files.isPresent || !repo.isPresent then
    return refusal 400 "Selected files and repo ID are required."
  if !repo.isHashable then throw (.notHashable repo.typeName)
  let here ← site
  match (here.cloneOf? repo).filter here.hasFolder with
  | none => return refusal 404 "Repository not found or session expired. Please re-clone."
  | some id => start s repo files id

/-- What every report says. -/
def progressReport (entry : Fields) (isComplete : Bool) : Fields := [
  ("success", .bool true),
  ("status", entry.getD "status" (.str "unknown")),
  ("message", entry.getD "message" (.str "Processing status unavailable")),
  ("is_complete", .bool isComplete),
  ("files_processed", entry.getD "processed" (.int 0)),
  ("total_files", entry.getD "total_files" (.int 0))]

def finishedReport (entry : Fields) (isPartial : Bool) : Fields :=
  let extra : Fields := [
    ("partial_success", .bool true),
    ("warning", .str ("Some files could not be processed. " ++
      "You can still proceed to the chat interface."))]
  let failed : Fields := match entry.get? "failed_files" with
    | some failed => [("failed_files", failed)]
    | none => []
  progressReport entry true ++ if isPartial then extra ++ failed else []

/-- The report on a hand-over: finished, finished in part, or under way or failed. -/
def reportOn (entry : Fields) : Fields :=
  match entry.getD "status" .null with
  | .str status =>
    if status == "complete" then finishedReport entry false
    else if status == "partial" then finishedReport entry true
    else progressReport entry false
  | _ => progressReport entry false

def report (parameters : List (Text × Text)) : Job Http.Response := do
  let repo := (parameters.lookup (Text.ofString "repo_id")).getD ""
  if repo.isEmpty then return refusal 400 "Repository ID is required."
  match (← site).board.get? (.str repo) with
  | none => return refusal 404 "No processing status found for this repository."
  | some entry => return answer 200 (reportOn (← Work.lift entry.asFields))

def fetchPath : Text := "/api/fetch-repo-files"

def processPath : Text := "/api/process-files"

def reportPath : Text := "/api/processing-status"

def routes : List Http.Route :=
  [⟨fetchPath, "POST"⟩, ⟨processPath, "POST"⟩, ⟨reportPath, "GET"⟩]

def withDocument (r : Http.Request) (f : Value → Job Http.Response) : Job Http.Response :=
  match r.payload with
  | .document v => f v
  | .malformed => return ⟨400, none⟩
  | .notJson => return ⟨415, none⟩
  | .failed fault => throw fault

def serve (s : Surroundings) (path : Text) (r : Http.Request) : Job Http.Response :=
  if path == fetchPath then withDocument r (fetch s)
  else if path == processPath then withDocument r (process s)
  else report r.target.parameters

def handle (s : Surroundings) (r : Http.Request) : Job Http.Response := do
  match r.dispatch routes with
  | .notFound => return ⟨404, none⟩
  | .wrongMethod => return ⟨405, none⟩
  | .moved => return ⟨308, none⟩
  | .methods => return ⟨200, none⟩
  | .run path =>
    let response ← tryCatch (serve s path r) fun _ => return ⟨500, none⟩
    return response.sentTo r

end CodeAtlas.Checkout
