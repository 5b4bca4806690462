import CodeAtlas.Text.Codec

/-! What a service is run with: its settings, the models that it may call on, and files in object
storage. -/
namespace CodeAtlas

abbrev Settings := List (Text × Text)

namespace Settings

def get? (s : Settings) (name : Text) : Option Text := s.lookup name

def getD (s : Settings) (name default : Text) : Text := (s.get? name).getD default

def isGiven (s : Settings) (name : Text) : Bool := s.getD name "" != ""

def set (s : Settings) (name value : Text) : Settings :=
  (name, value) :: s.filter (·.1 != name)

def readInt (s : Text) : Except Fault Int :=
  match Text.readInt s with
  | .int n => .ok n
  | .tooLong digits => .error (.tooManyDigits digits)
  | .malformed => .error (.notAnInteger s)

end Settings

/-- What the models answer while a request is served. -/
structure Assistant where
  /-- The text that the text model gives. -/
  reply : Except Fault Value
  /-- The embeddings that the embedding model gives for one text. -/
  embeddings : Except Fault (List Value)

namespace Assistant

def embedding (a : Assistant) : Except Fault Value := do
  match ← a.embeddings with
  | [] => .error .indexOutOfRange
  | v :: _ => .ok v

end Assistant

structure StoredFile where
  isThere : Bool
  metadata : Value
  /-- What a download gives. -/
  bytes : Except Fault (List Text.Byte)

structure Upload where
  bucket : Text
  name : Text
  metadata : Value
  /-- The text written and its content type; a file from disk is written as it is. -/
  text : Option (Text × Text)

/-- Names to which writing fails. -/
abbrev Refusals := List (Text × Fault)

namespace StoredFile

def metadataFields (file : StoredFile) : Except Fault Fields :=
  if file.metadata.isPresent then
    match file.metadata with
    | .dict fields => .ok fields
    | v => .error (.lacksOperation v.typeName "get")
  else .ok []

def utf8Text (file : StoredFile) : Except Fault Text := do
  match Text.decodeUtf8? (← file.bytes) with
  | some s => .ok s
  | none => .error .notUtf8

end StoredFile

end CodeAtlas
