import CodeAtlas.Fault

/-! The outline of a source file: the entities found in it and how they are related. -/
namespace CodeAtlas

/-- Fields are values because an outline may come from a model that put anything into them. -/
structure Entity where
  name : Value
  kind : Value
  path : Value
  description : Value := .str ""
  properties : Value := .dict []
deriving Inhabited

structure Relationship where
  source : Value
  target : Value
  kind : Value
  context : Value := .str ""
deriving Inhabited

structure Outline where
  entities : List Entity
  relationships : List Relationship
deriving Inhabited

namespace Entity

def toValue (e : Entity) : Value :=
  let fixed : Fields := [
    ("name", e.name), ("entity_type", e.kind), ("file_path", e.path),
    ("description", e.description)]
  let extra : Fields := if e.properties.isPresent then [("properties", e.properties)] else []
  .dict (fixed ++ extra)

def argumentNames : List Text :=
  ["name", "entity_type", "file_path", "description", "properties"]

def ofArguments (args : Fields) : Except Fault Entity :=
  if args.all fun (key, _) => argumentNames.contains key then
    match args.get? "name", args.get? "entity_type", args.get? "file_path" with
    | some name, some kind, some path =>
      let properties := args.getD "properties" .null
      .ok ⟨name, kind, path, args.getD "description" (.str ""),
        if properties.isNull then .dict [] else properties⟩
    | _, _, _ => .error .badArguments
  else .error .badArguments

end Entity

namespace Relationship

def toValue (r : Relationship) : Value :=
  .dict [("source", r.source), ("target", r.target), ("relationship_type", r.kind),
    ("context", r.context)]

def argumentNames : List Text := ["source", "target", "relationship_type", "context"]

def ofArguments (args : Fields) : Except Fault Relationship :=
  if args.all fun (key, _) => argumentNames.contains key then
    match args.get? "source", args.get? "target", args.get? "relationship_type" with
    | some source, some target, some kind =>
      .ok ⟨source, target, kind, args.getD "context" (.str "")⟩
    | _, _, _ => .error .badArguments
  else .error .badArguments

end Relationship

namespace Outline

def empty : Outline := ⟨[], []⟩

end Outline

end CodeAtlas
