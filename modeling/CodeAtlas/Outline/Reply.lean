import CodeAtlas.Json.Reader
import CodeAtlas.Outline
import CodeAtlas.Outline.Request
import CodeAtlas.Resources

/-! The outline of a source file as the text model describes it. One ill-formed entity or
relationship spoils the whole answer. -/
namespace CodeAtlas.Outline

/-- The text from the first opening to the last closing brace. -/
def documentPart? (s : Text) : Option Text :=
  let opened := s.dropWhile fun c : CodePoint => c != '\x7b'
  let closed := (opened.reverse.dropWhile fun c : CodePoint => c != '\x7d').reverse
  if closed.isEmpty then none else some closed

/-- Keys of an entity that are not moved into its properties. -/
def entityKeys : List Text := ["name", "entity_type", "description", "properties"]

/-- The properties of an entity, with every other key of it that is not null moved in. -/
def gatherProperties (fields : Fields) : Except Fault Value :=
  let extra := fields.filter fun (key, v) => !entityKeys.contains key && !v.isNull
  let own := fields.getD "properties" (.dict [])
  extra.foldlM (fun properties (key, v) => properties.setField key v) own

/-- From two lines before `line` to three after the end of the code, as a first and a last bound on
the list of lines. Only whole numbers can be bounds. -/
def window (lineCount : Nat) (line length : Number) : Except Fault (Nat × Int) :=
  match line.add? (.int (-3)), (line.add? length).bind (·.add? (.int 3)) with
  | some start, some stop =>
    let start := if start.isPositive then start else .int 0
    let stop := if stop.isBelow lineCount then stop else .int lineCount
    match start, stop with
    | .int first, .int last => .ok (first.toNat, last)
    | _, _ => .error .notAnIndex
  | _, _ => .error .numberTooLarge

/-- The properties with the lines around the entity, when they say where it stands. -/
def addSample (content properties : Value) : Except Fault Value := do
  let fields ← properties.asFields
  let lineNumber := fields.getD "line_number" (.int 0)
  let codeLength := fields.getD "code_length" (.int 20)
  match lineNumber.number?, codeLength.number? with
  | none, _ => .error (.notOrdered lineNumber.typeName)
  | some line, length =>
    if !line.isPositive then return properties
    let lines := Text.lines (← content.asText "split")
    let some length := length | .error (.notAddable lineNumber.typeName codeLength.typeName)
    let (first, last) ← window lines.length line length
    let sample := Text.intercalate "\n" (Text.slice lines first last)
    return .dict (fields.set "context_sample" (.str sample))

def entityOf (path content data : Value) : Except Fault Entity := do
  let fields ← data.asFields
  let properties ← addSample content (← gatherProperties fields)
  return {
    name := fields.getD "name" .null
    kind := fields.getD "entity_type" .null
    path
    description := fields.getD "description" (.str "")
    properties }

def relationshipOf (data : Value) : Except Fault Relationship := do
  let fields ← data.asFields
  return {
    source := fields.getD "source" .null
    target := fields.getD "target" .null
    kind := fields.getD "relationship_type" .null
    context := fields.getD "context" (.str "") }

def ofDocument (path content document : Value) : Except Fault Outline := do
  let fields ← document.asFields
  let entities ← (← (fields.getD "entities" (.list [])).members).mapM (entityOf path content)
  let relationships ← (← (fields.getD "relationships" (.list [])).members).mapM relationshipOf
  return { entities, relationships }

def ofReply (path content reply : Value) : Except Fault Outline := do
  match documentPart? (← reply.asText "find") with
  | none => return empty
  | some part => ofDocument path content (← Json.read part)

/-- What asking the text model came to. -/
structure Consultation where
  outline : Outline
  failure : Option Fault
  /-- The requests that were sent. -/
  requests : List Text

/-- Asks the text model; any fault leaves an empty outline. -/
def consult (assistant : Assistant) (path language content : Value) : Consultation :=
  match request language content with
  | .error fault => ⟨empty, some fault, []⟩
  | .ok text =>
    match assistant.reply.bind (ofReply path content) with
    | .ok outline => ⟨outline, none, [text]⟩
    | .error fault => ⟨empty, some fault, [text]⟩

end CodeAtlas.Outline
