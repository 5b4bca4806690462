import CodeAtlas.Number.Shortest

/-! Values of the documents that services exchange. A dictionary keeps its fields in the order in
which they were first written. -/
namespace CodeAtlas

inductive Value where
  | null
  | bool (b : Bool)
  | int (n : Int)
  | float (x : Binary64)
  | str (s : Text)
  | list (items : List Value)
  | dict (fields : List (Text × Value))
deriving Inhabited

abbrev Fields := List (Text × Value)

namespace Fields

def get? (fields : Fields) (key : Text) : Option Value := fields.lookup key

def getD (fields : Fields) (key : Text) (default : Value) : Value :=
  (fields.lookup key).getD default

def has (fields : Fields) (key : Text) : Bool := (fields.lookup key).isSome

/-- A known key keeps its place and takes the new value; a new key goes to the end. -/
def set : Fields → Text → Value → Fields
  | [], key, v => [(key, v)]
  | (k, old) :: rest, key, v => if k == key then (k, v) :: rest else (k, old) :: set rest key v

def setAll (fields new : Fields) : Fields := new.foldl (fun fs (k, v) => fs.set k v) fields

/-- A key that occurs twice keeps its first place and its last value. -/
def ofPairs (pairs : List (Text × Value)) : Fields := setAll [] pairs

end Fields

inductive Number where
  | int (n : Int)
  | float (x : Binary64)
deriving DecidableEq, Repr

namespace Number

/-- The sum, or nothing when a whole number is too large to become a floating point number. -/
def add? : Number → Number → Option Number
  | .int m, .int n => some (.int (m + n))
  | .int m, .float y => (Binary64.ofInt? m).map fun x => .float (x.add y)
  | .float x, .int n => (Binary64.ofInt? n).map fun y => .float (x.add y)
  | .float x, .float y => some (.float (x.add y))

def isPositive : Number → Bool
  | .int n => 0 < n
  | .float x => x.above 0 1

def isBelow (bound : Nat) : Number → Bool
  | .int n => n < bound
  | .float x => x.below bound 1

def sameValue : Number → Number → Bool
  | .int m, .int n => m == n
  | .int n, .float x | .float x, .int n =>
    match x.fraction? with
    | some (m, d) => m == n * d
    | none => false
  | .float x, .float y => x.sameValue y

end Number

namespace Value

/-- The name by which a message refers to the kind of a value. -/
def typeName : Value → Text
  | .null => "NoneType"
  | .bool _ => "bool"
  | .int _ => "int"
  | .float _ => "float"
  | .str _ => "str"
  | .list _ => "list"
  | .dict _ => "dict"

/-- Null, false, zero and everything empty count as absent. -/
def isPresent : Value → Bool
  | .null => false
  | .bool b => b
  | .int n => n != 0
  | .float x => !x.isZero
  | .str s => !s.isEmpty
  | .list items => !items.isEmpty
  | .dict fields => !fields.isEmpty

def isNull : Value → Bool
  | .null => true
  | _ => false

/-- The number a value stands for in arithmetic; true is one and false is zero. -/
def number? : Value → Option Number
  | .bool b => some (.int (if b then 1 else 0))
  | .int n => some (.int n)
  | .float x => some (.float x)
  | _ => none

def text? : Value → Option Text
  | .str s => some s
  | _ => none

/-- Whether a value may be a member of a set or name an entry of a table. -/
def isHashable : Value → Bool
  | .list _ | .dict _ => false
  | _ => true

/-- Equality of values that may name an entry of a table. Here not a number is equal to itself. -/
def sameKey (v w : Value) : Bool :=
  match v, w with
  | .null, .null => true
  | .float .nan, .float .nan => true
  | .str s, .str t => s == t
  | v, w =>
    match v.number?, w.number? with
    | some m, some n => m.sameValue n
    | _, _ => false

end Value

end CodeAtlas
