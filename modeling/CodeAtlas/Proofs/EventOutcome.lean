import CodeAtlas.Analysis

/-! What an event about a stored source file comes to. Storage and the settings can stop it; what
stands in the file and what the text model says cannot. -/
namespace CodeAtlas

namespace StoredFile

theorem metadataFields_eq {file : StoredFile} {metadata : Option Fields}
    (h : file.metadata = metadata.elim .null .dict) :
    file.metadataFields = .ok (metadata.getD []) := by
  unfold metadataFields
  rw [h]
  cases metadata with
  | none => rfl
  | some fields => cases fields <;> rfl

end StoredFile

namespace Analysis

/-- The repository of a stored file: the one that its metadata name, or else the one in its name. -/
def repositoryFor (metadata : Fields) (name : Text) : Value :=
  let known := metadata.getD "repo_id" .null
  if known.isPresent then known else .str (repositoryOf name)

/-- The path of a stored file in its repository, if its metadata name one, or else its name. -/
def originFor (metadata : Fields) (name : Text) : Value :=
  let given := metadata.getD "file_path" .null
  if given.isPresent then given else .str name

/-- The document for a stored file with the given content. -/
def documentFor (assistant : Assistant) (metadata : Fields) (name : Text)
    (bytes : List Text.Byte) : Value :=
  (ofText assistant name (Text.decodeSource bytes)).document (repositoryFor metadata name) name
    (originFor metadata name)

/-- Where the document for a stored file goes. -/
def resultName (metadata : Fields) (name : Text) : Text :=
  destination (repositoryFor metadata name) name

def unsetBucket : Fault := .settingUnset "PARSED_DATA_BUCKET environment variable not set."

/-- What stops the event about a file that is there: the download, the missing name of a bucket, or
the upload, whichever comes first. -/
def obstacle (file : StoredFile) (refusals : Refusals) (target : Option Text) (result : Text) :
    Option Fault :=
  match file.bytes with
  | .error fault => some fault
  | .ok _ => if (target.getD "").isEmpty then some unsetBucket else refusals.lookup result

theorem isEmpty_getD_iff {target : Option Text} :
    (target.getD "").isEmpty = true ↔ target = none ∨ target = some "" := by
  cases target with
  | none => exact iff_of_true rfl (.inl rfl)
  | some bucket =>
    constructor
    · intro h
      exact .inr (congrArg some (List.isEmpty_iff.mp h))
    · rintro (h | h)
      · cases h
      · cases h
        rfl

theorem obstacle_isSome_iff (file : StoredFile) (refusals : Refusals) (target : Option Text)
    (result : Text) :
    (obstacle file refusals target result).isSome = true ↔
      (∃ fault, file.bytes = .error fault) ∨ (target = none ∨ target = some "") ∨
        ∃ fault, refusals.lookup result = some fault := by
  unfold obstacle
  rw [← isEmpty_getD_iff]
  cases file.bytes with
  | error fault => simp
  | ok bytes =>
    cases (target.getD "").isEmpty with
    | true => simp
    | false => simp [Option.isSome_iff_exists]

/-- An analysis always finds something: if nothing else, the file itself. -/
theorem entities_ofText_ne_nil (assistant : Assistant) (path content : Text) :
    (ofText assistant path content).outline.entities ≠ [] := by
  unfold ofText
  dsimp only
  split
  · exact List.cons_ne_nil _ _
  next h => simpa using h

section
variable (assistant : Assistant) (refusals : Refusals) (target : Option Text) {file : StoredFile}
  {event bucket : Value} {name : Text} {metadata : Fields}

theorem handle_gone (hbucket : event.field "bucket" = .ok bucket)
    (hname : event.field "name" = .ok (.str name)) (hgone : file.isThere = false) :
    handle assistant file refusals target event = ([], none) := by
  have hupload : uploadFor assistant file target event = .ok none := by
    simp [uploadFor, hbucket, hname, hgone, bind, Except.bind, pure, Except.pure]
  simp [handle, hupload]

theorem uploadFor_there (hbucket : event.field "bucket" = .ok bucket)
    (hname : event.field "name" = .ok (.str name)) (hthere : file.isThere = true)
    (hmetadata : file.metadataFields = .ok metadata) {bytes : List Text.Byte}
    (hbytes : file.bytes = .ok bytes) :
    uploadFor assistant file target event =
      if (target.getD "").isEmpty then .error unsetBucket
      else .ok (some ((ofText assistant name (Text.decodeSource bytes)).upload (target.getD "") name
        metadata)) := by
  simp only [uploadFor, hbucket, hname, hthere, hmetadata, hbytes, bind, Except.bind, pure,
    Except.pure, throw, throwThe, MonadExceptOf.throw, Bool.not_true]
  rfl

theorem uploadFor_unreadable (hbucket : event.field "bucket" = .ok bucket)
    (hname : event.field "name" = .ok (.str name)) (hthere : file.isThere = true)
    (hmetadata : file.metadataFields = .ok metadata) {fault : Fault}
    (hbytes : file.bytes = .error fault) :
    uploadFor assistant file target event = .error fault := by
  simp [uploadFor, hbucket, hname, hthere, hmetadata, hbytes, bind, Except.bind]

/-- An event about a file that is there ends in the first obstacle, or with one upload. -/
theorem handle_there (hbucket : event.field "bucket" = .ok bucket)
    (hname : event.field "name" = .ok (.str name)) (hthere : file.isThere = true)
    (hmetadata : file.metadataFields = .ok metadata) :
    (∃ fault, obstacle file refusals target (resultName metadata name) = some fault ∧
      handle assistant file refusals target event = ([], some fault)) ∨
    ∃ bytes, obstacle file refusals target (resultName metadata name) = none ∧
      file.bytes = .ok bytes ∧
      handle assistant file refusals target event =
        ([(ofText assistant name (Text.decodeSource bytes)).upload (target.getD "") name metadata],
          none) := by
  cases hbytes : file.bytes with
  | error fault =>
    have hupload := uploadFor_unreadable assistant target hbucket hname hthere hmetadata hbytes
    exact .inl ⟨fault, by simp [obstacle, hbytes], by simp [handle, hupload]⟩
  | ok bytes =>
    have hupload := uploadFor_there assistant target hbucket hname hthere hmetadata hbytes
    cases hunset : (target.getD "").isEmpty with
    | true =>
      rw [hunset, if_pos rfl] at hupload
      exact .inl ⟨unsetBucket, by simp [obstacle, hbytes, hunset], by simp [handle, hupload]⟩
    | false =>
      rw [hunset, if_neg Bool.false_ne_true] at hupload
      have hobstacle : obstacle file refusals target (resultName metadata name) =
          refusals.lookup (resultName metadata name) := by simp [obstacle, hbytes, hunset]
      -- the upload is named after the file alone, whatever the analysis found
      have hresult (a : Analysis) : (a.upload (target.getD "") name metadata).name =
          resultName metadata name := rfl
      rw [hobstacle]
      cases hrefused : refusals.lookup (resultName metadata name) with
      | some fault => exact .inl ⟨fault, rfl, by simp [handle, hupload, hresult, hrefused]⟩
      | none => exact .inr ⟨bytes, rfl, rfl, by simp [handle, hupload, hresult, hrefused]⟩

end

/-- For any content and any answer of the text model, an event fails exactly when the file is there
and cannot be downloaded, no bucket is named for the result, or storage refuses the result. If the
file is there and the event does not fail there is one upload, with a document that has at least
one entity; otherwise there is none. -/
theorem event_fails_iff (assistant : Assistant) (file : StoredFile) (refusals : Refusals)
    (target : Option Text) (event : Value) (bucket name : Text) (metadata : Option Fields)
    (hbucket : event.field "bucket" = .ok (.str bucket))
    (hname : event.field "name" = .ok (.str name))
    (hmetadata : file.metadata = metadata.elim .null .dict) :
    ((handle assistant file refusals target event).2.isSome = true ↔
      file.isThere = true ∧
        ((∃ fault, file.bytes = .error fault) ∨ (target = none ∨ target = some "") ∨
          ∃ fault, refusals.lookup (resultName (metadata.getD []) name) = some fault)) ∧
    (handle assistant file refusals target event).2 =
      (if file.isThere then
        obstacle file refusals target (resultName (metadata.getD []) name) else none) ∧
    (file.isThere = false → (handle assistant file refusals target event).1 = []) ∧
    ((handle assistant file refusals target event).2.isSome = true →
      (handle assistant file refusals target event).1 = []) ∧
    (file.isThere = true → (handle assistant file refusals target event).2 = none →
      ∃ (bytes : List Text.Byte) (u : Upload),
        file.bytes = .ok bytes ∧ (handle assistant file refusals target event).1 = [u] ∧
        some u.bucket = target ∧ u.name = resultName (metadata.getD []) name ∧
        u.text = some
          (Json.writeIndented (documentFor assistant (metadata.getD []) name bytes),
            Text.ofString "application/json") ∧
        (ofText assistant name (Text.decodeSource bytes)).outline.entities ≠ []) := by
  have hfields := StoredFile.metadataFields_eq hmetadata
  rw [← obstacle_isSome_iff]
  cases hthere : file.isThere with
  | false =>
    rw [handle_gone assistant refusals target hbucket hname hthere]
    simp
  | true =>
    rcases handle_there assistant refusals target hbucket hname hthere hfields with
      ⟨fault, hobstacle, h⟩ | ⟨bytes, hobstacle, hbytes, h⟩
    · rw [h, hobstacle]
      simp
    · rw [h, hobstacle]
      have hbucket : some (target.getD "") = target := by
        cases target with
        | none =>
          rw [obstacle, hbytes] at hobstacle
          cases hobstacle
        | some bucket => rfl
      refine ⟨by simp, rfl, by simp, by simp, fun _ _ => ?_⟩
      exact ⟨bytes, _, hbytes, rfl, hbucket, rfl, rfl, entities_ofText_ne_nil _ _ _⟩

/-- An answer whose only entity is a number. -/
def hostileAssistant : Assistant := ⟨.ok (.str "\x7b\"entities\": [1]\x7d"), .ok []⟩

/-- A file that is not valid UTF-8, in a repository named by a list. -/
def hostileFile : StoredFile := ⟨true, .dict [("repo_id", .list [.null])], .ok [255, 10]⟩

def hostileEvent : Value := .dict [("bucket", .str "b"), ("name", .str "a/x.py")]

theorem event_fails_iff_hostile :
    hostileEvent.field "bucket" = .ok (.str "b") ∧
    hostileEvent.field "name" = .ok (.str "a/x.py") ∧
    hostileFile.metadata = .dict [("repo_id", .list [.null])] ∧
    (handle hostileAssistant hostileFile [] (some "results") hostileEvent).2 = none ∧
    (∃ u, (handle hostileAssistant hostileFile [] (some "results") hostileEvent).1 = [u] ∧
      u.name = "parsed_data/[None]/x.py.json") ∧
    (handle hostileAssistant hostileFile [] (some "") hostileEvent).2 = some unsetBucket := by
  have h (target : Option Text) := event_fails_iff hostileAssistant hostileFile [] target
    hostileEvent "b" "a/x.py" (some [("repo_id", .list [.null])]) rfl rfl rfl
  have hnone : (handle hostileAssistant hostileFile [] (some "results") hostileEvent).2 = none :=
    (h _).2.1
  obtain ⟨bytes, u, -, huploads, -, hname, -⟩ := (h (some "results")).2.2.2.2 rfl hnone
  exact ⟨rfl, rfl, rfl, hnone, ⟨u, huploads, hname⟩, (h _).2.1⟩

/-- The missing name of a bucket goes unnoticed when the file is gone. -/
theorem unset_bucket_unnoticed :
    handle hostileAssistant ⟨false, .null, .ok []⟩ [] none hostileEvent = ([], none) := rfl

end Analysis

end CodeAtlas
