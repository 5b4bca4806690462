import CodeAtlas.Database

/-! Work that asks the graph database and keeps notes, and may end in a fault. -/
namespace CodeAtlas

/-- What a job has at hand: the database, and notes of its own. -/
structure Desk (σ : Type) where
  database : Database
  notes : σ

/-- Work on a desk. A fault ends the work and leaves the desk as it is. -/
abbrev Work (σ : Type) := ExceptT Fault (StateM (Desk σ))

namespace Work

variable {σ α : Type}

def lift : Except Fault α → Work σ α
  | .ok a => pure a
  | .error fault => throw fault

def ask (q : Query) : Work σ (List Fields) := do
  let desk ← get
  let (answer, database) := desk.database.ask q
  set { desk with database }
  lift answer

def askOne (q : Query) : Work σ (Option Fields) := return (← ask q).head?

def connect (c : Credentials) : Work σ Unit := do
  let desk ← get
  let (result, database) := desk.database.connect c
  set { desk with database }
  lift result

def verify : Work σ Unit := do lift (← get).database.verify

def openSession : Work σ Unit := do lift (← get).database.openSession

def notes : Work σ σ := return (← get).notes

def note (f : σ → σ) : Work σ Unit := modify fun desk => { desk with notes := f desk.notes }

/-- Does other work with its own notes on the same database; its faults do not end this work. -/
def aside {τ : Type} (work : ExceptT Fault (StateM (Desk τ)) α) (start : τ) :
    Work σ (Except Fault α × τ) := do
  let desk ← get
  let (result, inner) := work.run.run ⟨desk.database, start⟩
  set { desk with database := inner.database }
  return (result, inner.notes)

def runOn (work : Work σ α) (desk : Desk σ) : Except Fault α × Desk σ := work.run.run desk

end Work

end CodeAtlas
