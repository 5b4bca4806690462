import CodeAtlas.Fault

/-! Getting at the parts of a value of unknown kind, with the fault that each wrong kind gives. -/
namespace CodeAtlas.Value

def asFields : Value → Except Fault Fields
  | .dict fields => .ok fields
  | v => .error (.lacksOperation v.typeName "get")

def asText (operation : Text) : Value → Except Fault Text
  | .str s => .ok s
  | v => .error (.lacksOperation v.typeName operation)

/-- The field of a dictionary that has to be there. -/
def field (key : Text) : Value → Except Fault Value
  | .dict fields =>
    match Fields.get? fields key with
    | some v => .ok v
    | none => .error (.missingKey (.str key))
  | v => .error (.notSubscriptable v.typeName)

/-- The members to go through: the items of a list, the characters of a text, the keys of a
dictionary. -/
def members : Value → Except Fault (List Value)
  | .list items => .ok items
  | .str s => .ok (s.map fun c => .str ([c]))
  | .dict fields => .ok (fields.map fun (key, _) => .str key)
  | v => .error (.notIterable v.typeName)

def size : Value → Except Fault Nat
  | .list items => .ok items.length
  | .str s => .ok s.length
  | .dict fields => .ok fields.length
  | v => .error (.noLength v.typeName)

def firstPart (n : Nat) : Value → Except Fault Value
  | .str s => .ok (.str (s.take n))
  | .list items => .ok (.list (items.take n))
  | v => .error (.notSliceable v.typeName)

def isPositive (v : Value) : Except Fault Bool :=
  match v.number? with
  | some n => .ok n.isPositive
  | none => .error (.notOrdered v.typeName)

/-- The count in a row, if the row is there, is not empty and counts at least one. -/
def positiveCount : Option Fields → Except Fault (Option Value)
  | none | some [] => .ok none
  | some row => do
    let count ← (Value.dict row).field "count"
    return if ← count.isPositive then some count else none

def setField (v : Value) (key : Text) (new : Value) : Except Fault Value :=
  match v with
  | .dict fields => .ok (.dict (Fields.set fields key new))
  | v => .error (.notAssignable v.typeName)

end CodeAtlas.Value
