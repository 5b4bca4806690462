import CodeAtlas.Resources

/-! How each service starts: the settings it needs, the models it loads and where it listens. -/
namespace CodeAtlas

inductive Service where
  | chat
  | checkout
  | analysis
  | intake

namespace Startup

structure Access where
  project : Option Text
  location : Option Text

structure Listener where
  host : Option Text := none
  port : Int
  debug : Bool

inductive Result where
  /-- The service is up, with these of its settings at hand. -/
  | ready (known : List (Text × Option Text))
  | stopped (code : Nat)
  | failed (fault : Fault)

structure Outcome where
  /-- The settings after the start. -/
  settings : Settings
  accesses : List Access := []
  models : List Text := []
  listeners : List Listener := []
  result : Result

def known (s : Settings) (names : List Text) : List (Text × Option Text) :=
  names.map fun name => (name, s.get? name)

def databaseSettings : List Text := ["NEO4J_URI", "NEO4J_USERNAME", "NEO4J_PASSWORD"]

def chatSettings : List Text := "GCP_PROJECT_ID" :: "GCP_REGION" :: databaseSettings

def embeddingModel : Text := "text-embedding-large-exp-03-07"

def usualLocation : Text := "us-central1"

def chatPort (s : Settings) : Except Fault Int :=
  match s.get? "PORT" with
  | none => .ok 5001
  | some text => Settings.readInt text

def listenForChat (s : Settings) (isMain : Bool) : Except Fault (List Listener) := do
  if !isMain then return []
  return [{ host := some "0.0.0.0", port := ← chatPort s, debug := false }]

/-- The chat service stops when a setting is missing or the models refuse access. -/
def chat (s : Settings) (isMain : Bool) (accessFault : Option Fault) : Outcome :=
  if !chatSettings.all s.isGiven then { settings := s, result := .stopped 1 }
  else
    let accesses := [⟨s.get? "GCP_PROJECT_ID", some usualLocation⟩]
    match accessFault with
    | some _ => { settings := s, accesses, result := .stopped 1 }
    | none =>
      let models := [embeddingModel, "gemini-2.5-flash"]
      match listenForChat s isMain with
      | .error fault => { settings := s, accesses, models, result := .failed fault }
      | .ok listeners =>
        { settings := s, accesses, models, listeners, result := .ready (known s chatSettings) }

def bucketSetting : Text := "GCS_BUCKET_NAME"

def usualBucket : Text := "gca-cloned-repos-graphrag-464113"

/-- The checkout service needs no models. As the main program it also puts a bucket into settings
that have none. -/
def checkout (s : Settings) (isMain : Bool) : Outcome where
  settings := if isMain && !s.isGiven bucketSetting then s.set bucketSetting usualBucket else s
  listeners := if isMain then [{ port := 5000, debug := true }] else []
  result := .ready [(bucketSetting, some (s.getD bucketSetting usualBucket))]

def withModel (s : Settings) (access : Access) (model : Text) (names : List Text)
    (accessFault : Option Fault) : Outcome :=
  match accessFault with
  | some fault => { settings := s, accesses := [access], result := .failed fault }
  | none =>
    { settings := s, accesses := [access], models := [model], result := .ready (known s names) }

def analysis (s : Settings) (accessFault : Option Fault) : Outcome :=
  withModel s ⟨s.get? "GCP_PROJECT_ID", some (s.getD "GCP_REGION" usualLocation)⟩
    "gemini-1.5-flash" ["PARSED_DATA_BUCKET"] accessFault

def intake (s : Settings) (accessFault : Option Fault) : Outcome :=
  withModel s ⟨s.get? "GCP_PROJECT_ID", s.get? "GCP_REGION"⟩ embeddingModel databaseSettings
    accessFault

end Startup

/-- Starts a service; `accessFault` is what the models answer to a request for access. -/
def Service.start (service : Service) (s : Settings) (isMain : Bool) (accessFault : Option Fault) :
    Startup.Outcome :=
  match service with
  | .chat => Startup.chat s isMain accessFault
  | .checkout => Startup.checkout s isMain
  | .analysis => Startup.analysis s accessFault
  | .intake => Startup.intake s accessFault

end CodeAtlas
