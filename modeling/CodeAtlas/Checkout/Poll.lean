import CodeAtlas.Checkout.Site
import CodeAtlas.Text.Cut

/-! Waiting until nodes turn up in the graph. A poll that ends in a fault counts as one that found
nothing. -/
namespace CodeAtlas.Checkout

/-- How many seconds to pause between two polls, and for how many to poll at all. -/
structure Schedule where
  pause : Nat
  limit : Nat
  pause_pos : 0 < pause

namespace Schedule

/-- Polls until a poll leaves nothing to go on with or the time is up; the result says whether it was
a poll that put an end to it. Since the start `elapsed` seconds have passed, and only a pause takes
time. -/
def pollFrom {ω : Type} (s : Schedule) (poll : ω → Job (Option ω)) (elapsed : Nat) (w : ω) :
    Job Bool :=
  if elapsed < s.limit then do
    match ← poll w with
    | none => return true
    | some w =>
      sleep s.pause
      s.pollFrom poll (elapsed + s.pause) w
  else return false
termination_by s.limit - elapsed
decreasing_by
  have := s.pause_pos
  omega

end Schedule

def countQuery (name : Text) : Query where
  text := Query.block 20 ["MATCH (n) ", "RETURN count(n) as " ++ name]

def repositoryQuery (repo : Value) : Query where
  text := Query.block 24 [
    "MATCH (n)",
    "WHERE n.repo_id = $repo_id",
    "RETURN count(n) as count"]
  params := [("repo_id", repo)]

def likelyFilesQuery : Query where
  text := Query.block 24 [
    "MATCH (n)",
    "WHERE any(label IN labels(n) WHERE label =~ \".*File.*\" OR label = \"Function\" " ++
      "OR label = \"Module\")",
    "RETURN count(n) as count"]

/-- The number of all nodes; a database that answers with nothing has none. -/
def nodeCount (name : Text) : Job Value := do
  match ← Work.askOne (countQuery name) with
  | none | some [] => return .int 0
  | some row => Work.lift ((Value.dict row).field name)

/-- One poll for a batch: whether there is any node at all, one of the repository, or one that looks
like a file. -/
def pollBatch (repo : Value) : Job Bool := do
  Work.openSession
  let total ← nodeCount "node_count"
  print ("DEBUG - Found " ++ total.display ++ " total nodes in Neo4j")
  if ← Work.lift total.isPositive then
    print ("Found " ++ total.display ++ " nodes in Neo4j, considering batch processed")
    return true
  if let some count ← Work.lift (Value.positiveCount (← Work.askOne (repositoryQuery repo))) then
    print ("Found " ++ count.display ++ " nodes with repo_id " ++ repo.display)
    return true
  if let some count ← Work.lift (Value.positiveCount (← Work.askOne likelyFilesQuery)) then
    print ("Found " ++ count.display ++ " potential file nodes")
    return true
  return false

/-- A poll for a batch that goes on after a fault; nothing is left to do once it finds something. -/
def tryBatch (repo : Value) : Job (Option Unit) := do
  let found ← tryCatch (pollBatch repo) fun fault => do
    print ("Error during batch verification: " ++ fault.message)
    return false
  return if found then none else some ()

def batchSchedule : Schedule where
  pause := 1
  limit := 15
  pause_pos := by decide

def lastPart : Value → Except Fault Value
  | .str path => .ok (.str (Path.baseName path))
  | v => .error (.notPath v.typeName)

/-- Looks for traces of a batch in the graph for a quarter of a minute. -/
def awaitBatch (s : Surroundings) (repo files : Value) : Job Unit :=
  match s.credentials? with
  | none => print "Neo4j connection details missing, skipping batch verification"
  | some c =>
    tryCatch
      (do
        Work.connect c
        let names ← Work.lift do (← files.members).mapM lastPart
        let size ← Work.lift files.size
        print ("Verifying batch of " ++ Text.natText size ++ " files in Neo4j: " ++
          (Value.list names).display)
        if !(← batchSchedule.pollFrom (fun _ => tryBatch repo) 0 ()) then
          print "Verification timed out but continuing anyway")
      fun fault => print ("Error in batch verification: " ++ fault.message)

/-- The count seen last, and how many polls in a row have seen it again. -/
structure Watch where
  last : Number := .int (-1)
  stalls : Nat := 0

namespace Watch

def see (w : Watch) (count : Number) : Watch :=
  if count.sameValue w.last then { w with stalls := w.stalls + 1 } else ⟨count, 0⟩

end Watch

def foundMessage (count : Value) : Text :=
  "Processing complete. Found " ++ count.display ++ " nodes in Neo4j."

/-- Says on the board that nothing has been found so far, if that is so. -/
def noteWaiting (repo : Value) (n : Number) : Job Unit := do
  if n.sameValue (.int 0) then
    print "No nodes found in Neo4j yet, waiting..."
    setMessage repo "Waiting for Neo4j ingestion to begin..."

/-- What a poll for the end of processing makes of the number of all nodes: nothing when there are
nodes, and otherwise what to watch from now on. -/
def judgeCount (repo : Value) (w : Watch) (count : Value) : Job (Option Watch) := do
  match count.number? with
  | none => throw (.notOrdered count.typeName)
  | some n =>
    if n.isPositive then
      print ("Found " ++ count.display ++ " total nodes - considering processing successful")
      setStatus repo "partial" (foundMessage count)
      return none
    let w := w.see n
    if 3 ≤ w.stalls then
      print ("Processing appears stalled at " ++ count.display ++ " nodes for " ++
        Text.natText w.stalls ++ " consecutive checks")
      if n.isPositive then
        print ("Considering as partial success with " ++ count.display ++ " nodes")
        setStatus repo "partial" (foundMessage count)
        return none
    noteWaiting repo n
    return some w

def pollEnd (repo : Value) (w : Watch) : Job (Option Watch) := do
  Work.openSession
  let count ← nodeCount "total_nodes"
  print ("Found " ++ count.display ++ " total nodes in Neo4j")
  judgeCount repo w count

/-- A poll for the end of processing that puts a fault on the board and goes on watching as before. -/
def tryEnd (repo : Value) (w : Watch) : Job (Option Watch) :=
  tryCatch (pollEnd repo w) fun fault => do
    setMessage repo ("Error checking Neo4j: " ++ fault.message)
    print ("Error checking Neo4j: " ++ fault.message)
    return some w

def endSchedule : Schedule where
  pause := 5
  limit := 120
  pause_pos := by decide

/-- Waits at most two minutes for the end of processing, and puts the result on the board. -/
def awaitEnd (s : Surroundings) (repo : Value) : Job Unit :=
  tryCatch
    (match s.credentials? with
      | none => setStatus repo "error" "Neo4j connection details missing"
      | some c => do
        Work.connect c
        if !(← endSchedule.pollFrom (tryEnd repo) 0 {}) then
          print "Processing wait timed out, but continuing anyway"
          setStatus repo "partial"
            "Processing time limit reached. Some files may not be processed.")
    fun fault => do
      setStatus repo "error" ("Error during Neo4j processing: " ++ fault.message)
      print ("Error in Neo4j processing: " ++ fault.message)

end CodeAtlas.Checkout
