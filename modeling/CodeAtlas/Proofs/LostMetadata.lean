import CodeAtlas.Proofs.EventOutcome
import CodeAtlas.Proofs.SplitLaws
import CodeAtlas.Proofs.UploadReach
import Mathlib.Data.Set.List

/-! A file in storage says twice to which repository it belongs, in its metadata and in its name. The
two agree, so an event about a file whose metadata are lost comes to the same result, but for where the
file is said to come from. -/
namespace CodeAtlas.Analysis

open Checkout (uploadOf storedName)

variable {repo : Text}

/-- The parts of the name under which a file of a repository is stored. -/
theorem split_storedName (hslash : CodePoint.ofChar '/' ∉ repo) (path : Text) :
    Text.split '/' (storedName (.str repo) (.str path)) =
      Text.ofString "cloned_repos" :: repo :: Text.split '/' path := by
  have hname : storedName (.str repo) (.str path) =
      Text.ofString "cloned_repos" ++ CodePoint.ofChar '/' :: (repo ++ CodePoint.ofChar '/' :: path) := by
    simp [storedName, Value.display, Text.ofString, Text.ofChars]
  rw [hname, Text.split_append, Text.split_append, Text.split_of_not_mem (by decide),
    Text.split_of_not_mem hslash]
  rfl

theorem repositoryOf_storedName (hslash : CodePoint.ofChar '/' ∉ repo) (path : Text) :
    repositoryOf (storedName (.str repo) (.str path)) = repo := by
  have hstart : Text.startsWith "cloned_repos/" (storedName (.str repo) (.str path)) = true := by
    rw [Text.startsWith, List.isPrefixOf_iff_prefix, storedName, List.append_assoc,
      List.append_assoc]
    exact List.prefix_append _ _
  have hrest : 0 < (Text.split '/' path).length :=
    List.length_pos_iff.mpr (Text.split_ne_nil _ path)
  simp [repositoryOf, split_storedName hslash, hstart, hrest]

theorem repositoryFor_metadata (hrepo : repo ≠ []) (rest : Fields) (name : Text) :
    repositoryFor (("repo_id", .str repo) :: rest) name = .str repo := by
  have hpresent : (Value.str repo).isPresent = true := by simpa [Value.isPresent] using hrepo
  show (if (Value.str repo).isPresent then Value.str repo else _) = _
  rw [hpresent, if_pos rfl]

theorem repositoryFor_storedName (hslash : CodePoint.ofChar '/' ∉ repo) (path : Text) :
    repositoryFor [] (storedName (.str repo) (.str path)) = .str repo :=
  congrArg Value.str (repositoryOf_storedName hslash path)

/-- Two results for one stored file of a repository that differ at most in where they say the file
comes from. -/
structure SameButOrigin (repo name : Text) (u v : Upload) : Prop where
  bucket_eq : v.bucket = u.bucket
  name_eq : u.name = "parsed_data/" ++ repo ++ "/" ++ Path.baseName name ++ ".json"
  same_name : v.name = u.name
  metadata : ∃ (fields : Fields) (origin : Value), u.metadata = .dict fields ∧
    v.metadata = .dict (fields.set "file_path" origin) ∧ fields.get? "repo_id" = some (.str repo)
  document : ∃ (fields : Fields) (origin : Value) (kind : Text),
    u.text = some (Json.writeIndented (.dict fields), kind) ∧
    v.text = some (Json.writeIndented (.dict (fields.set "original_path" origin)), kind) ∧
    fields.get? "repo_id" = some (.str repo)

theorem upload_eq (a : Analysis) (bucket name : Text) (metadata : Fields) :
    a.upload bucket name metadata =
      { bucket
        name := destination (repositoryFor metadata name) name
        metadata := .dict [("repo_id", repositoryFor metadata name), ("original_file", .str name),
          ("file_path", originFor metadata name)]
        text := some (Json.writeIndented (a.document (repositoryFor metadata name) name
          (originFor metadata name)), "application/json") } := rfl

section
variable {name : Text} {metadata metadata' : Fields}
  (h : repositoryFor metadata name = .str repo) (h' : repositoryFor metadata' name = .str repo)

include h h'

theorem upload_sameButOrigin (a : Analysis) (bucket : Text) :
    SameButOrigin repo name (a.upload bucket name metadata) (a.upload bucket name metadata') := by
  rw [upload_eq, upload_eq, h, h']
  exact {
    bucket_eq := rfl
    name_eq := rfl
    same_name := rfl
    metadata := ⟨_, originFor metadata' name, rfl, rfl, rfl⟩
    document := ⟨_, originFor metadata' name, _, rfl, rfl, rfl⟩ }

/-- Two events that come to the same: neither leads to an upload, because the file is gone or because
of the same fault, or each leads to one. -/
def ComeToSame (isThere : Bool) (same : Upload → Upload → Prop)
    (r r' : List Upload × Option Fault) : Prop :=
  (∃ u v, r = ([u], none) ∧ r' = ([v], none) ∧ same u v) ∨
    ∃ fault, r = ([], fault) ∧ r' = ([], fault) ∧ (fault = none → isThere = false)

/-- Files that differ in their metadata alone, which name the same repository. -/
theorem handle_sameButOrigin (assistant : Assistant) (refusals : Refusals) (target : Option Text)
    {isThere : Bool} {v v' event : Value} {bytes : Except Fault (List Text.Byte)}
    (hname : event.field "name" = .ok (.str name))
    (hmetadata : StoredFile.metadataFields ⟨isThere, v, bytes⟩ = .ok metadata)
    (hmetadata' : StoredFile.metadataFields ⟨isThere, v', bytes⟩ = .ok metadata') :
    ComeToSame isThere (SameButOrigin repo name)
      (handle assistant ⟨isThere, v, bytes⟩ refusals target event)
      (handle assistant ⟨isThere, v', bytes⟩ refusals target event) := by
  cases hbucket : event.field "bucket" with
  | error fault =>
    have hhandle (file : StoredFile) :
        handle assistant file refusals target event = ([], some fault) := by
      simp [handle, uploadFor, hbucket, bind, Except.bind]
    exact .inr ⟨some fault, hhandle _, hhandle _, by simp⟩
  | ok bucket =>
    cases isThere with
    | false =>
      exact .inr ⟨none, handle_gone assistant refusals target hbucket hname rfl,
        handle_gone assistant refusals target hbucket hname rfl, fun _ => rfl⟩
    | true =>
      have hresult := handle_there assistant refusals target hbucket hname rfl hmetadata
      have hresult' := handle_there assistant refusals target hbucket hname rfl hmetadata'
      -- the same obstacle meets both, for both results would have the same name
      simp only [obstacle, resultName, h] at hresult
      simp only [obstacle, resultName, h'] at hresult'
      obtain ⟨fault, hfault, hresult⟩ | ⟨bytes, hnone, hread, hresult⟩ := hresult
      · obtain ⟨fault', hfault', hresult'⟩ | ⟨_, hnone, -⟩ := hresult'
        · obtain rfl : fault' = fault := Option.some.inj (hfault'.symm.trans hfault)
          exact .inr ⟨some fault', hresult, hresult', by simp⟩
        · rw [hfault] at hnone
          cases hnone
      · obtain ⟨fault, hfault, -⟩ | ⟨bytes', -, hread', hresult'⟩ := hresult'
        · rw [hfault] at hnone
          cases hnone
        · obtain rfl : bytes = bytes' := Except.ok.inj (hread.symm.trans hread')
          exact .inl ⟨_, _, hresult, hresult', upload_sameButOrigin h h' _ _⟩

end

/-- All that a hand-over uploads are files of its repository, under their stored names and with their
metadata. -/
theorem handOver_uploads (s : Checkout.Surroundings) {repo : Value} (hrepo : repo.isHashable = true)
    (files : List Value) (id : Checkout.FolderId) (d : Desk Checkout.Notes) :
    (Checkout.handOver s repo (.list files) id).Gives d fun _ d' => ∃ paths : List Text,
      d'.notes.log.uploads = d.notes.log.uploads ++ paths.map (uploadOf s repo) := by
  apply (Checkout.handOver_gives hrepo rfl).mono
  intro _ d' h
  have hrange : files.filterMap (Checkout.upload? s d.notes.site repo id) ∈
      Set.range (List.map (uploadOf s repo)) := by
    rw [Set.range_list_map]
    intro u hu
    obtain ⟨file, -, hfile⟩ := List.mem_filterMap.mp hu
    cases file with
    | str path => exact ⟨path, (Checkout.upload?_str_eq_some hfile).1.symm⟩
    | _ => cases hfile
  obtain ⟨paths, hpaths⟩ := hrange
  exact ⟨paths, hpaths ▸ congrArg Checkout.Situation.uploads h⟩

/-- Whatever a hand-over uploads for a repository, an event about the file finds the same repository in
its name as in its metadata. With the metadata and without them the event comes to the same, but for
where the result says that the file comes from. -/
theorem repository_survives_lost_metadata (s : Checkout.Surroundings) (repo : Text)
    (hrepo : repo ≠ []) (hslash : CodePoint.ofChar '/' ∉ repo) :
    (∀ (files : List Value) (id : Checkout.FolderId) (d : Desk Checkout.Notes),
      (Checkout.handOver s (.str repo) (.list files) id).Gives d fun _ d' => ∃ paths : List Text,
        d'.notes.log.uploads = d.notes.log.uploads ++ paths.map (uploadOf s (.str repo))) ∧
    ∀ (path : Text) (assistant : Assistant) (isThere : Bool)
      (bytes : Except Fault (List Text.Byte)) (refusals : Refusals) (target : Option Text)
      (event lost : Value), lost.isPresent = false →
      event.field "name" = .ok (.str (uploadOf s (.str repo) path).name) →
      ComeToSame isThere (SameButOrigin repo (uploadOf s (.str repo) path).name)
        (handle assistant ⟨isThere, (uploadOf s (.str repo) path).metadata, bytes⟩ refusals target
          event)
        (handle assistant ⟨isThere, lost, bytes⟩ refusals target event) := by
  refine ⟨handOver_uploads s rfl, ?_⟩
  intro path assistant isThere bytes refusals target event lost hlost hname
  have hlostFields : StoredFile.metadataFields ⟨isThere, lost, bytes⟩ = .ok [] := by
    simp [StoredFile.metadataFields, hlost]
  exact handle_sameButOrigin (repositoryFor_metadata hrepo _ _) (repositoryFor_storedName hslash path)
    assistant refusals target hname rfl hlostFields

/-- A file whose path starts with a slash and holds two in a row. -/
def slashedFile : Upload := uploadOf Checkout.sampleSurroundings (.str "r") "/d//a.py"

def slashedEvent : Value := .dict [("bucket", .str "b"), ("name", .str slashedFile.name)]

theorem repository_survives_lost_metadata_sample :
    Text.ofString "r" ≠ [] ∧ CodePoint.ofChar '/' ∉ Text.ofString "r" ∧
    Value.null.isPresent = false ∧ slashedEvent.field "name" = .ok (.str slashedFile.name) ∧
    ∃ u v,
      handle hostileAssistant ⟨true, slashedFile.metadata, .ok [255, 10]⟩ [] (some "results")
        slashedEvent = ([u], none) ∧
      handle hostileAssistant ⟨true, .null, .ok [255, 10]⟩ [] (some "results") slashedEvent =
        ([v], none) ∧
      SameButOrigin "r" slashedFile.name u v ∧ u.name = "parsed_data/r/a.py.json" := by
  have hrepo : Text.ofString "r" ≠ [] := by decide
  have hslash : CodePoint.ofChar '/' ∉ Text.ofString "r" := by decide
  have hname : slashedEvent.field "name" = .ok (.str slashedFile.name) := rfl
  have hsame := (repository_survives_lost_metadata Checkout.sampleSurroundings "r" hrepo hslash).2
    "/d//a.py" hostileAssistant true (.ok [255, 10]) [] (some "results") slashedEvent .null rfl hname
  refine ⟨hrepo, hslash, rfl, hname, ?_⟩
  obtain ⟨u, v, hu, hv, hsame⟩ | ⟨fault, hfault, -, hgone⟩ := hsame
  · refine ⟨u, v, hu, hv, hsame, ?_⟩
    rw [hsame.name_eq]
    decide
  · have hnone : (handle hostileAssistant ⟨true, slashedFile.metadata, .ok [255, 10]⟩ []
        (some "results") slashedEvent).2 = none := rfl
    cases hgone ((congrArg Prod.snd hfault).symm.trans hnone)

end CodeAtlas.Analysis
