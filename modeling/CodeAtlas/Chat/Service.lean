import CodeAtlas.Chat.Index
import CodeAtlas.Chat.Prompt
import CodeAtlas.Graph.Context
import CodeAtlas.Http
import CodeAtlas.Resources

/-! The service that answers questions about the graph. It connects to the database when it first
needs it and keeps the connection. -/
namespace CodeAtlas.Chat

structure Notes where
  /-- Whether there is a connection; it outlives the request. -/
  isConnected : Bool
  /-- The texts for which an embedding was asked. -/
  embedded : List Value := []
  /-- The prompts put to the text model. -/
  prompts : List Text := []

abbrev Job := Work Notes

/-- A fault while connecting, as it is passed on. -/
def connectionFault : Fault → Fault
  | .service .databaseUnavailable _ => .noConnection "Failed to connect to Neo4j database."
  | _ => .noConnection "Failed to initialize Neo4j database driver."

/-- Makes the connection when there is none yet, tries it and renews the indexes. It counts as made
as soon as the database was addressed, even if it then turns out not to work. -/
def connect (c : Credentials) : Job Unit := do
  if (← Work.notes).isConnected then return
  tryCatch
    (do
      Work.connect c
      Work.note fun notes => { notes with isConnected := true }
      Work.verify
      Index.renew)
    fun fault => throw (connectionFault fault)

def noteEmbedded (text : Value) : Job Unit :=
  Work.note fun notes => { notes with embedded := notes.embedded ++ [text] }

/-- The embedding of a text; no model is asked about a text that holds nothing. -/
def embed (assistant : Assistant) (text : Value) : Job Value := do
  if !text.isPresent then return .list []
  noteEmbedded text
  Work.lift assistant.embedding

def answer (status : Nat) (fields : Fields) : Http.Response := ⟨status, some (.dict fields)⟩

def failure (status : Nat) (message kind : Text) : Http.Response :=
  answer status [("status", .int status), ("message", .str message), ("error_type", .str kind)]

def internalFailure : Http.Response :=
  failure 500 ("Internal Server Error: An unexpected error occurred. " ++
    "Please try again or contact support.") "InternalServerError"

def notFound : Http.Response :=
  failure 404 "Not Found: The requested resource does not exist." "NotFound"

def badRequest : Http.Response :=
  failure 400 ("Bad Request: The browser (or proxy) sent a request that this server could not " ++
    "understand.") "BadRequest"

/-- The answer to a request that ended in a fault. A cloud fault without a reason is answered like
any other fault. -/
def faultResponse : Fault → Http.Response
  | .service (.cloudCallError reason _) _ =>
    failure 500 ("Internal Server Error: Google Cloud API issue. Reason: " ++ reason.display ++
      ". Please check API permissions/quotas.") "GoogleAPIError"
  | fault =>
    if fault.isConnection then
      failure 500 ("Internal Server Error: Could not connect to the database. " ++
        "Please try again later.") "DatabaseConnectionError"
    else internalFailure

def respond (assistant : Assistant) (embedding question history : Value) :
    Job Http.Response := do
  Work.openSession
  let (_, lines) ← Work.aside (Graph.Search.all embedding question) []
  let context := Graph.Search.report lines
  let text := prompt (← Work.lift (historyText history)) question context
  Work.note fun notes => { notes with prompts := notes.prompts ++ [text] }
  let reply ← Work.lift assistant.reply
  return answer 200 [("response", reply), ("context_used", .str context)]

def chat (c : Credentials) (assistant : Assistant) (document : Value) : Job Http.Response := do
  let fields ← Work.lift document.asFields
  let question := fields.getD "query" .null
  if !question.isPresent then
    return answer 400 [("response", .str "Please provide a query.")]
  connect c
  let _ ← Work.lift (question.firstPart 50)
  let embedding ← embed assistant question
  if !embedding.isPresent then
    return answer 500 [
      ("response", .str "Could not generate embeddings for your query. Please try again."),
      ("context_used", .str "")]
  respond assistant embedding question (fields.getD "history" (.list []))

def healthAnswer (status : Nat) (word message : Text) : Http.Response :=
  answer status [("status", .str word), ("message", .str message)]

def health (c : Credentials) (assistant : Assistant) : Job Http.Response :=
  tryCatch
    (do
      connect c
      Work.verify
      noteEmbedded (.str "health check test")
      match assistant.embeddings with
      | .error fault =>
        return healthAnswer 503 "ERROR"
          ("Vertex AI embeddings service unavailable: " ++ fault.message)
      | .ok _ =>
        return healthAnswer 200 "OK" "Service is healthy and connected to dependencies.")
    fun fault => return (
      if fault.isConnection then
        healthAnswer 503 "ERROR" ("Neo4j database connection failed: " ++ fault.message)
      else healthAnswer 500 "ERROR" ("Unexpected health check error: " ++ fault.message))

def clearAnswer (status : Nat) (success : Bool) (message : Text) : Http.Response :=
  answer status [("success", .bool success), ("message", .str message)]

/-- Deletes everything in the graph. Only a fault of the connection is passed on. -/
def clear (c : Credentials) : Job Http.Response :=
  tryCatch
    (do
      connect c
      Work.openSession
      let _ ← Work.ask { text := "MATCH ()-[r]-() DELETE r" }
      let _ ← Work.ask { text := "MATCH (n) DELETE n" }
      return clearAnswer 200 true "Database cleared successfully")
    fun fault =>
      if fault.isConnection then throw fault
      else match fault with
        | .service .databaseError _ =>
          return clearAnswer 500 false ("Database error: " ++ fault.message)
        | _ => return clearAnswer 500 false ("Unexpected error: " ++ fault.message)

def chatPath : Text := "/api/chat"

def healthPath : Text := "/healthz"

def clearPath : Text := "/api/clear-database"

def routes : List Http.Route := [⟨chatPath, "POST"⟩, ⟨healthPath, "GET"⟩, ⟨clearPath, "POST"⟩]

def serve (c : Credentials) (assistant : Assistant) (path : Text) (r : Http.Request) :
    Job Http.Response :=
  if path == healthPath then health c assistant
  else if path == clearPath then clear c
  else match r.payload with
    | .document v => chat c assistant v
    | .malformed => return badRequest
    | .notJson => return internalFailure
    | .failed fault => throw fault

def handle (c : Credentials) (assistant : Assistant) (r : Http.Request) (isConnected : Bool)
    (database : Database) : Http.Response × Desk Notes :=
  let start : Desk Notes := ⟨database, { isConnected }⟩
  match r.dispatch routes with
  | .notFound => (notFound.sentTo r, start)
  | .wrongMethod => (internalFailure.sentTo r, start)
  | .moved => (⟨308, none⟩, start)
  | .methods => (⟨200, none⟩, start)
  | .run path =>
    let (result, desk) := (serve c assistant path r).runOn start
    match result with
    | .ok response => (response.sentTo r, desk)
    | .error fault => ((faultResponse fault).sentTo r, desk)

end CodeAtlas.Chat
