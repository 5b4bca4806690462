import CodeAtlas.Work

/-! The vector indexes of the graph. They are dropped and made anew, and trouble with them is not
passed on. -/
namespace CodeAtlas.Chat.Index

variable {σ : Type}

def showQuery : Query := { text := "SHOW INDEXES WHERE name in ['file_index', 'function_index']" }

def dropQuery (name : Value) : Query := { text := "DROP INDEX " ++ name.display }

def dimensions : Nat := 3072

def createQuery (name node label : Text) : Query where
  text :=
    Text.join ([
      "CREATE VECTOR INDEX `" ++ name ++ "` IF NOT EXISTS",
      "FOR (" ++ node ++ ":" ++ label ++ ") ON (" ++ node ++ ".embedding)",
      "OPTIONS \x7b",
      "    indexConfig: \x7b",
      "        `vector.dimensions`: " ++ Text.natText dimensions ++ ",",
      "        `vector.similarity_function`: 'cosine'",
      "    \x7d",
      "\x7d"].map (Query.margin 12 ++ ·)) ++ Query.margin 8

def createFileIndex : Query := createQuery "file_index" "f" "File"

def createFunctionIndex : Query := createQuery "function_index" "func" "Function"

/-- Drops the index that a row names, if it names one. -/
def dropRow (row : Fields) : Work σ Unit := do
  let name := row.getD "name" .null
  if name.isPresent then
    let _ ← Work.ask (dropQuery name)

/-- Drops the indexes there are, up to the first that cannot be dropped. -/
def dropAll : Work σ Unit := do (← Work.ask showQuery).forM dropRow

/-- Work whose fault, if any, is left at that. -/
def forgiving (work : Work σ Unit) : Work σ Unit := tryCatch work fun _ => pure ()

def create : Work σ Unit := do
  let _ ← Work.ask createFileIndex
  let _ ← Work.ask createFunctionIndex

def renew : Work σ Unit := forgiving do
  Work.openSession
  forgiving dropAll
  create

end CodeAtlas.Chat.Index
