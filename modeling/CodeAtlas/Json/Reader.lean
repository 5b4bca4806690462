import CodeAtlas.Fault
import CodeAtlas.Json.Token

/-! Reading a JSON document: one pass over its tokens with a stack of the lists and dictionaries
that are still open. -/
namespace CodeAtlas.Json

/-- A container around the value being read, with what it holds so far in reverse. -/
inductive Frame where
  | list (items : List Value)
  | entry (fields : List (Text × Value)) (key : Text)

inductive Phase where
  | value
  /-- A value, or the end of an empty list. -/
  | item
  /-- A key, or the end of an empty dictionary. -/
  | field
  | key (fields : List (Text × Value))
  | colon (fields : List (Text × Value)) (key : Text)
  /-- A value is complete: a comma, the end of its container, or the end of the document. -/
  | after (v : Value)

structure State where
  stack : List Frame
  phase : Phase

namespace State

def start : State := ⟨[], .value⟩

/-- A container is opened within those on the stack. -/
def enter (limit : Nat) (stack : List Frame) (next : State) : Except Fault State :=
  if stack.length < limit then .ok next else .error .tooDeep

def openValue (limit : Nat) (stack : List Frame) : Token → Except Fault State
  | .text s => .ok ⟨stack, .after (.str s)⟩
  | .scalar v => .ok ⟨stack, .after v⟩
  | .openList => enter limit stack ⟨.list [] :: stack, .item⟩
  | .openDict => enter limit stack ⟨stack, .field⟩
  | .longNumber digits => .error (.tooManyDigits digits)
  | _ => .error .malformedJson

def closeValue (stack : List Frame) (v : Value) : Token → Except Fault State
  | .comma =>
    match stack with
    | .list items :: rest => .ok ⟨.list (v :: items) :: rest, .value⟩
    | .entry fields key :: rest => .ok ⟨rest, .key ((key, v) :: fields)⟩
    | [] => .error .malformedJson
  | .closeList =>
    match stack with
    | .list items :: rest => .ok ⟨rest, .after (.list (v :: items).reverse)⟩
    | _ => .error .malformedJson
  | .closeDict =>
    match stack with
    | .entry fields key :: rest =>
      .ok ⟨rest, .after (.dict (Fields.ofPairs ((key, v) :: fields).reverse))⟩
    | _ => .error .malformedJson
  | _ => .error .malformedJson

def step (limit : Nat) (s : State) (token : Token) : Except Fault State :=
  match s.phase, token with
  | .value, token => openValue limit s.stack token
  | .item, .closeList => .ok ⟨s.stack.tail, .after (.list [])⟩
  | .item, token => openValue limit s.stack token
  | .field, .closeDict => .ok ⟨s.stack, .after (.dict [])⟩
  | .field, .text key => .ok ⟨s.stack, .colon [] key⟩
  | .key fields, .text key => .ok ⟨s.stack, .colon fields key⟩
  | .colon fields key, .colon => .ok ⟨.entry fields key :: s.stack, .value⟩
  | .after v, token => closeValue s.stack v token
  | _, _ => .error .malformedJson

def finish : State → Except Fault Value
  | ⟨[], .after v⟩ => .ok v
  | _ => .error .malformedJson

end State

/-- The document in a text, with at most `limit` lists and dictionaries open within one another. -/
def readWithin (limit : Nat) (s : Text) : Except Fault Value := do
  (← (tokens s).foldlM (State.step limit) State.start).finish

/-- How many lists and dictionaries may usually be open within one another. -/
def depthLimit : Nat := 990

def read (s : Text) : Except Fault Value := readWithin depthLimit s

end CodeAtlas.Json
