import CodeAtlas.Json.Writer
import CodeAtlas.Text.Case
import CodeAtlas.Text.Cut
import CodeAtlas.Value.Access
import CodeAtlas.Work

/-! What the graph knows about a question: nodes near it by embedding, what they are connected to,
nodes that match its words, and the files around them. Each row of an answer becomes a line. A fault
ends the search and keeps the lines gathered so far. -/
namespace CodeAtlas.Graph

abbrev Search := Work (List Text)

namespace Search

def functionQuery (embedding : Value) : Query where
  text := Query.block 8 [
    "CALL db.index.vector.queryNodes('function_index', 5, $query_embedding) YIELD node, score",
    "WHERE score > 0.6 AND node.file_path IS NOT NULL",
    "RETURN node.name AS name, labels(node)[0] as type, node.file_path AS filePath, ",
    "       node.description as description, node.context_sample as code, score",
    "ORDER BY score DESC"]
  params := [("query_embedding", embedding)]

def fileQuery (embedding : Value) : Query where
  text := Query.block 8 [
    "CALL db.index.vector.queryNodes('file_index', 5, $query_embedding) YIELD node, score",
    "WHERE score > 0.6",
    "RETURN node.name AS name, labels(node)[0] as type, node.path AS filePath, ",
    "       node.description as description, score, node.context_sample as code",
    "ORDER BY score DESC"]
  params := [("query_embedding", embedding)]

def traversalQuery (ids : List Text) : Query where
  text := Query.block 12 [
    "UNWIND $entityIds AS entityId",
    "WITH split(entityId, '-')[0] AS name, split(entityId, '-')[1] AS filePath",
    "MATCH (start)",
    "WHERE (start:Function AND start.name = name AND start.file_path = filePath)",
    "   OR (start:File AND start.path = filePath)",
    "CALL apoc.path.expandConfig(start, \x7b",
    "    relationshipFilter: " ++
      "\"CALLS|USES|DEFINES|CONTAINS|IMPORTS|DEPENDS_ON|READS_FROM|WRITES_TO\",",
    "    minLevel: 1,",
    "    maxLevel: 2,",
    "    uniqueness: \"NODE_GLOBAL\"",
    "\x7d) YIELD path",
    "WITH last(nodes(path)) AS node, start",
    "WHERE node <> start",
    "RETURN DISTINCT node.name AS name, labels(node)[0] as type, ",
    "       coalesce(node.file_path, node.path) AS filePath,",
    "       node.description as description, node.context_sample as code",
    "LIMIT 20"]
  params := [("entityIds", .list (ids.map .str))]

def pathQuery (first second : Value) : Query where
  text := Query.block 12 [
    "MATCH (a), (b)",
    "WHERE a.name = $entity1 AND b.name = $entity2",
    "CALL apoc.algo.allSimplePaths(a, b, null, 3) YIELD path",
    "WITH path, length(path) AS length",
    "ORDER BY length ASC",
    "LIMIT 3",
    "UNWIND nodes(path) AS node",
    "RETURN DISTINCT node.name AS name, labels(node)[0] as type, ",
    "       coalesce(node.file_path, node.path) AS filePath,",
    "       node.description as description, node.context_sample as code"]
  params := [("entity1", first), ("entity2", second)]

def keywordQuery (property : Text) (keywords : List Text) : Query where
  text := Query.block 12 [
    "MATCH (n)",
    "WHERE (ANY(keyword IN $keywords WHERE toLower(n." ++ property ++ ") CONTAINS keyword))",
    "RETURN n.name as name, labels(n)[0] as type, n.file_path as filePath, ",
    "       n.description as description, n.context_sample as code",
    "LIMIT 5"]
  params := [("keywords", .list (keywords.map .str))]

def filesQuery (paths : List Value) : Query where
  text := Query.block 16 [
    "MATCH (f)",
    "WHERE (f:File OR f:SourceFile OR f:PythonModule OR f:JavaScriptModule OR f:CobolProgram ",
    "       OR f:SasProgram OR f:JclJob OR f:FlinkJob OR f:DataFile OR f:CppFile ",
    "       OR f:FortranProgram OR f:PliProgram OR f:AssemblyFile OR f:RpgProgram)",
    "AND (f.path IN $filePaths OR f.file_path IN $filePaths)",
    "RETURN COALESCE(f.path, f.file_path) as path, f.repo_id as repoId, labels(f) as fileLabels"]
  params := [("filePaths", .list paths)]

def contentsQuery (path : Value) : Query where
  text := Query.block 20 [
    "MATCH (f)-[:CONTAINS]->(e)",
    "WHERE f.path = $path OR f.file_path = $path",
    "RETURN e.name as name, labels(e)[0] as type",
    "LIMIT 8"]
  params := [("path", path)]

def gather (line : Text) : Search Unit := Work.note (· ++ [line])

def typeText (row : Fields) : Except Fault Text := do
  return Text.lower (← (row.getD "type" (.str "Entity")).asText "lower")

def detailText (row : Fields) : Text :=
  let code := row.getD "code" (.str "")
  (row.getD "description" (.str "")).display ++
    if code.isPresent then "\nCode:\n```\n" ++ code.display ++ "\n```" else ""

def placedLine (lead : Text) (row : Fields) : Except Fault Text := do
  let type ← typeText row
  let name ← (Value.dict row).field "name"
  return lead ++ "In file '" ++ (row.getD "filePath" (.str "unknown path")).display ++
    "', there is a " ++ type ++ " called '" ++ name.display ++ "'. " ++ detailText row

def nameLine (row : Fields) : Except Fault Text := do
  let type ← typeText row
  let name ← (Value.dict row).field "name"
  let path ← (Value.dict row).field "filePath"
  return "Found a " ++ type ++ " named '" ++ name.display ++ "' in '" ++ path.display ++
    "' that matches your query. " ++ detailText row

def descriptionLine (row : Fields) : Except Fault Text := do
  let type ← typeText row
  let name ← (Value.dict row).field "name"
  let path ← (Value.dict row).field "filePath"
  return "The " ++ type ++ " '" ++ name.display ++ "' in '" ++ path.display ++
    "' appears relevant to your question. " ++ detailText row

def gatherRows (line : Fields → Except Fault Text) (rows : List Fields) : Search Unit :=
  rows.forM fun row => do gather (← Work.lift (line row))

/-- The name by which a node is passed on to the traversal. -/
def entityId (row : Fields) : Except Fault Text := do
  let name ← (Value.dict row).field "name"
  let path ← (Value.dict row).field "filePath"
  return name.display ++ "-" ++ path.display

def stopWords : List Text :=
  ["the", "and", "for", "with", "what", "how", "why", "where", "when", "who", "which"]

/-- The words of a question with more than two characters, in lower case. -/
def keywordsOf (question : Text) : List Text :=
  (((Text.words question).filter fun w => 2 < w.length).map Text.lower).filter
    fun w => !stopWords.contains w

def distinct (vs : List Value) : List Value :=
  vs.foldl (fun kept v => if kept.any (·.sameKey v) then kept else kept ++ [v]) []

/-- The files of the rows, each once. They are handed on as a set, in no order that can be relied on;
here it is fixed to the order of their written forms. -/
def filePaths (rows : List Fields) : Except Fault (List Value) :=
  let paths := (rows.map fun row => row.getD "filePath" .null).filter Value.isPresent
  match paths.find? fun v => !v.isHashable with
  | some v => .error (.notHashable v.typeName)
  | none => .ok ((distinct paths).mergeSort fun v w => Json.write v ≤ Json.write w)

/-- The first label that is not just `File`, without the words that all labels share. -/
def fileKind : List Value → Except Fault Text
  | [] => .ok "file"
  | label :: rest => do
    let label ← label.asText "replace"
    if label == "File" then fileKind rest
    else
      return Text.without "Job" <| Text.without "Module" <| Text.without "Program" <|
        Text.without "File" label

/-- An entity of a file, unless it has no name. -/
def contentText (row : Fields) : Except Fault (Option Text) := do
  let type ← typeText row
  let name := row.getD "name" (.str "")
  return if name.isPresent then some (type ++ " '" ++ name.display ++ "'") else none

def fileLines (row : Fields) : Search Unit := do
  let kind ← Work.lift do fileKind (← (row.getD "fileLabels" (.list [])).members)
  let path ← Work.lift ((Value.dict row).field "path")
  gather ("The " ++ Text.lower kind ++ " file '" ++ path.display ++
    "' is part of repository '" ++ (row.getD "repoId" (.str "unknown")).display ++ "'.")
  let rows ← Work.ask (contentsQuery path)
  let contents ← Work.lift (rows.filterMapM contentText)
  if !contents.isEmpty then
    gather ("The file '" ++ path.display ++ "' contains: " ++ Text.intercalate ", " contents ++ ".")

def nearby (embedding : Value) : Search (List Fields) := do
  let functions ← Work.ask (functionQuery embedding)
  let files ← Work.ask (fileQuery embedding)
  let found := functions ++ files
  let ids ← Work.lift (found.mapM entityId)
  gatherRows (placedLine "") found
  if !found.isEmpty then
    gatherRows (placedLine "Via graph traversal: ") (← Work.ask (traversalQuery ids))
  match found with
  | first :: second :: _ =>
    gatherRows (placedLine "Via path connection: ")
      (← Work.ask (pathQuery (first.getD "name" .null) (second.getD "name" .null)))
  | _ => pure ()
  return found

def byKeywords (question : Value) : Search Unit := do
  let keywords := keywordsOf (← Work.lift (question.asText "split"))
  if !keywords.isEmpty then
    gatherRows nameLine (← Work.ask (keywordQuery "name" keywords))
    gatherRows descriptionLine (← Work.ask (keywordQuery "description" keywords))

def aroundFiles (found : List Fields) : Search Unit := do
  let paths ← Work.lift (filePaths found)
  if !paths.isEmpty then
    (← Work.ask (filesQuery paths)).forM fileLines

def all (embedding question : Value) : Search Unit := do
  let found ← nearby embedding
  byKeywords question
  aroundFiles found

def report (lines : List Text) : Text :=
  if lines.isEmpty then "No specific context found in the graph." else Text.intercalate "\n" lines

end Search

def retrieve (embedding question : Value) (database : Database) : Text × Database :=
  let (_, desk) := (Search.all embedding question).runOn ⟨database, []⟩
  (Search.report desk.notes, desk.database)

end CodeAtlas.Graph
