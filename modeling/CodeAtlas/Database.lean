import CodeAtlas.Fault

/-! The graph database as seen from here: what it is asked and what it answers. -/
namespace CodeAtlas

structure Query where
  text : Text
  params : Fields := []
deriving Inhabited

/-- A line break and `indent` spaces. -/
def Query.margin (indent : Nat) : Text :=
  "\n" ++ List.replicate indent (CodePoint.ofChar ' ')

def Query.block (indent : Nat) (lines : List Text) : Text :=
  Text.join (lines.map (Query.margin indent ++ ·)) ++ Query.margin indent

abbrev Answer := Except Fault (List Fields)

structure Credentials where
  address : Text
  user : Text
  password : Text
deriving DecidableEq, Repr

/-- The database during one job: how it reacts, and what it was asked so far. -/
structure Database where
  connectFault : Option Fault
  verifyFault : Option Fault
  sessionFault : Option Fault
  /-- Answers to the queries to come, in order. -/
  answers : List Answer
  /-- The answer to every query after those. -/
  otherwise : Answer
  asked : List Query := []
  connects : List Credentials := []

namespace Database

/-- Asks a query. It counts as asked even if it ends in a fault. -/
def ask (db : Database) (q : Query) : Answer × Database :=
  match db.answers with
  | [] => (db.otherwise, { db with asked := db.asked ++ [q] })
  | answer :: rest => (answer, { db with answers := rest, asked := db.asked ++ [q] })

/-- Connects; the attempt counts even if it ends in a fault. -/
def connect (db : Database) (c : Credentials) : Except Fault Unit × Database :=
  let db := { db with connects := db.connects ++ [c] }
  match db.connectFault with
  | some fault => (.error fault, db)
  | none => (.ok (), db)

def verify (db : Database) : Except Fault Unit :=
  match db.verifyFault with
  | some fault => .error fault
  | none => .ok ()

def openSession (db : Database) : Except Fault Unit :=
  match db.sessionFault with
  | some fault => .error fault
  | none => .ok ()

end Database

end CodeAtlas
