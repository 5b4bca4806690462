import CodeAtlas.Analysis
import CodeAtlas.Proofs.ExceptLaws
import CodeAtlas.Proofs.ValueParts
import Mathlib.Data.List.Induction

/-! The names under which results are written. A result is named after the last part of the path of
its file, so files of one repository that agree in it share a name, and the bucket keeps only the last
of their results. -/
namespace CodeAtlas.Analysis

/-- One event, with the file and the services that it meets. -/
structure Delivery where
  assistant : Assistant
  file : StoredFile
  refusals : Refusals
  event : Value

/-- What a bucket holds under each name. -/
abbrev Bucket := Text → Option Upload

namespace Delivery

def uploads (d : Delivery) (target : Option Text) : List Upload :=
  (handle d.assistant d.file d.refusals target d.event).1

/-- The event is about this file. -/
def isFor (d : Delivery) (source : Text) : Bool :=
  match d.event.field "name" with
  | .ok (.str name) => name == source
  | _ => false

end Delivery

namespace Bucket

def empty : Bucket := fun _ => none

def put (bucket : Bucket) (u : Upload) : Bucket := fun name =>
  if name = u.name then some u else bucket name

def receive (target : Option Text) (bucket : Bucket) (d : Delivery) : Bucket :=
  (d.uploads target).foldl put bucket

/-- The bucket once all the events have been dealt with, one after another. -/
def after (target : Option Text) (ds : List Delivery) : Bucket := ds.foldl (receive target) empty

end Bucket

/-- The last result for a file. -/
def latest (target : Option Text) (ds : List Delivery) (source : Text) : Option Upload :=
  (ds.flatMap fun d => if d.isFor source then d.uploads target else []).getLast?

/-- The last result for every file is still in the bucket. -/
def NothingLost (target : Option Text) (ds : List Delivery) : Prop :=
  ∀ source u, latest target ds source = some u → Bucket.after target ds u.name = some u

/-- What the metadata of a result say under a key. -/
def metadataOf (u : Upload) (key : Text) : Value :=
  match u.metadata with
  | .dict fields => Fields.getD fields key .null
  | _ => .null

theorem destination_eq_iff (repository : Value) {f g : Text} :
    destination repository f = destination repository g ↔ Path.baseName f = Path.baseName g := by
  unfold destination
  constructor
  · intro h
    exact List.append_cancel_left (List.append_cancel_right h)
  · intro h
    rw [h]

theorem uploadFor_eq_ok {assistant : Assistant} {file : StoredFile} {target : Option Text}
    {event : Value} {u : Upload} (h : uploadFor assistant file target event = .ok (some u)) :
    ∃ (a : Analysis) (bucket name : Text) (metadata : Fields),
      event.field "name" = .ok (.str name) ∧ u = a.upload bucket name metadata := by
  unfold uploadFor at h
  obtain ⟨_, _, h⟩ := Except.bind_eq_ok.mp h
  obtain ⟨v, hname, h⟩ := Except.bind_eq_ok.mp h
  split at h
  · cases h
  · obtain ⟨metadata, _, h⟩ := Except.bind_eq_ok.mp h
    obtain ⟨bytes, _, h⟩ := Except.bind_eq_ok.mp h
    cases v with
    | str name =>
      dsimp only at h
      split at h
      · cases h
      · cases h
        exact ⟨_, _, name, metadata, hname, rfl⟩
    | _ => cases h

/-- A result is for the file that the event is about, and is named after it. -/
theorem mem_uploads {d : Delivery} {target : Option Text} {u : Upload}
    (h : u ∈ d.uploads target) :
    ∃ name, (∀ source, d.isFor source = (name == source)) ∧
      metadataOf u "original_file" = .str name ∧
      u.name = destination (metadataOf u "repo_id") name := by
  unfold Delivery.uploads handle at h
  split at h
  · cases h
  · cases h
  next upload hupload =>
    split at h
    · cases h
    · obtain rfl := List.mem_singleton.mp h
      obtain ⟨a, bucket, name, metadata, hname, rfl⟩ := uploadFor_eq_ok hupload
      exact ⟨name, fun source => by simp [Delivery.isFor, hname], rfl, rfl⟩

section
variable {target : Option Text} {ds : List Delivery}

/-- All results, in the order in which they are written. -/
def uploadsOf (target : Option Text) (ds : List Delivery) : List Upload :=
  ds.flatMap fun d => d.uploads target

/-- The last result that passes a test. -/
def lastWith (p : Upload → Bool) (us : List Upload) : Option Upload := (us.filter p).getLast?

theorem lastWith_concat (p : Upload → Bool) (us : List Upload) (u : Upload) :
    lastWith p (us ++ [u]) = if p u then some u else lastWith p us := by
  unfold lastWith
  cases h : p u <;> simp [h]

theorem lastWith_eq_some {p : Upload → Bool} {us : List Upload} {u : Upload}
    (h : lastWith p us = some u) : u ∈ us ∧ p u = true :=
  List.mem_filter.mp (List.mem_of_getLast? h)

theorem exists_lastWith {p : Upload → Bool} {us : List Upload} {u : Upload} (hu : u ∈ us)
    (hp : p u = true) : ∃ v, lastWith p us = some v := by
  have hmem : u ∈ us.filter p := List.mem_filter.mpr ⟨hu, hp⟩
  exact ⟨_, List.getLast?_eq_some_getLast (List.ne_nil_of_mem hmem)⟩

/-- Two tests that accept each other's last result have the same last result. -/
theorem lastWith_unique {p q : Upload → Bool} {us : List Upload} {u v : Upload}
    (hu : lastWith p us = some u) (hv : lastWith q us = some v) (hqu : q u = true)
    (hpv : p v = true) : u = v := by
  induction us using List.reverseRecOn with
  | nil => cases hu
  | append_singleton us w ih =>
    rw [lastWith_concat] at hu hv
    cases hp : p w <;> cases hq : q w <;> simp_all

/-- The bucket holds under a name the last result that was written to it. -/
theorem foldl_put (us : List Upload) (name : Text) :
    us.foldl Bucket.put Bucket.empty name = lastWith (fun u => name == u.name) us := by
  induction us using List.reverseRecOn with
  | nil => rfl
  | append_singleton us u ih =>
    rw [List.foldl_append, lastWith_concat, ← ih]
    simp [Bucket.put]

theorem after_eq (name : Text) :
    Bucket.after target ds name = lastWith (fun u => name == u.name) (uploadsOf target ds) := by
  rw [← foldl_put, uploadsOf, List.foldl_flatMap]
  rfl

/-- The result is for this file, by its metadata. -/
def hasSource (source : Text) (u : Upload) : Bool :=
  (metadataOf u "original_file").text? == some source

theorem hasSource_eq_isFor {d : Delivery} {u : Upload} (h : u ∈ d.uploads target)
    (source : Text) : hasSource source u = d.isFor source := by
  obtain ⟨name, hfor, hname, _⟩ := mem_uploads h
  rw [hasSource, hname, hfor]
  rfl

theorem filter_uploads (d : Delivery) (source : Text) :
    (d.uploads target).filter (hasSource source) =
      if d.isFor source then d.uploads target else [] := by
  split
  next hfor =>
    exact List.filter_eq_self.mpr fun u hu => (hasSource_eq_isFor hu source).trans hfor
  next hfor =>
    refine List.filter_eq_nil_iff.mpr fun u hu hhas => hfor ?_
    exact (hasSource_eq_isFor hu source).symm.trans hhas

theorem latest_eq (source : Text) :
    latest target ds source = lastWith (hasSource source) (uploadsOf target ds) := by
  rw [latest, lastWith, uploadsOf, List.filter_flatMap]
  congr 2
  funext d
  exact (filter_uploads d source).symm

/-- The files that results were written for. -/
def IsResultSource (target : Option Text) (ds : List Delivery) (source : Text) : Prop :=
  ∃ d ∈ ds, d.isFor source = true ∧ d.uploads target ≠ []

theorem IsResultSource.of_mem {u : Upload} {source : Text} (hu : u ∈ uploadsOf target ds)
    (hsource : hasSource source u = true) : IsResultSource target ds source := by
  obtain ⟨d, hd, hu⟩ := List.mem_flatMap.mp hu
  exact ⟨d, hd, (hasSource_eq_isFor hu source).symm.trans hsource, List.ne_nil_of_mem hu⟩

theorem IsResultSource.exists_latest {source : Text} (h : IsResultSource target ds source) :
    ∃ u, latest target ds source = some u := by
  obtain ⟨d, hd, hfor, hsome⟩ := h
  obtain ⟨u, hu⟩ := List.exists_mem_of_ne_nil _ hsome
  rw [latest_eq]
  exact exists_lastWith (List.mem_flatMap.mpr ⟨d, hd, hu⟩)
    ((hasSource_eq_isFor hu source).trans hfor)

theorem exists_hasSource {u : Upload} (hu : u ∈ uploadsOf target ds) :
    ∃ source, hasSource source u = true := by
  obtain ⟨d, _, hu⟩ := List.mem_flatMap.mp hu
  obtain ⟨name, _, hname, _⟩ := mem_uploads hu
  exact ⟨name, by simp [hasSource, hname, Value.text?]⟩

theorem hasSource_unique {u : Upload} {f g : Text} (hf : hasSource f u = true)
    (hg : hasSource g u = true) : f = g := by
  have hf : (metadataOf u "original_file").text? = some f := by simpa [hasSource] using hf
  have hg : (metadataOf u "original_file").text? = some g := by simpa [hasSource] using hg
  exact Option.some.inj (hf.symm.trans hg)

/-- Results for one repository are named after the file alone. -/
theorem name_eq_destination {repository : Value} {u : Upload} {source : Text}
    (hone : ∀ d ∈ ds, ∀ u ∈ d.uploads target, metadataOf u "repo_id" = repository)
    (hu : u ∈ uploadsOf target ds) (hsource : hasSource source u = true) :
    u.name = destination repository source := by
  obtain ⟨d, hd, hu⟩ := List.mem_flatMap.mp hu
  obtain ⟨name, hfor, _, hname⟩ := mem_uploads hu
  rw [hasSource_eq_isFor hu, hfor] at hsource
  rw [hname, hone d hd u hu, eq_of_beq hsource]

/-- Of the files of one repository nothing is lost exactly when no two of them agree in the last
part of their paths. -/
theorem results_kept_iff (target : Option Text) (repository : Value) (ds : List Delivery)
    (hone : ∀ d ∈ ds, ∀ u ∈ d.uploads target, metadataOf u "repo_id" = repository) :
    (∀ f g, destination repository f = destination repository g ↔
      Path.baseName f = Path.baseName g) ∧
    (NothingLost target ds ↔ ∀ f g, IsResultSource target ds f → IsResultSource target ds g →
      Path.baseName f = Path.baseName g → f = g) := by
  refine ⟨fun f g => destination_eq_iff repository, ?_, ?_⟩
  · intro hkept f g hf hg hbase
    obtain ⟨u, hu⟩ := hf.exists_latest
    obtain ⟨v, hv⟩ := hg.exists_latest
    have hu' := lastWith_eq_some ((latest_eq f).symm.trans hu)
    have hv' := lastWith_eq_some ((latest_eq g).symm.trans hv)
    have hname : u.name = v.name := by
      rw [name_eq_destination hone hu'.1 hu'.2, name_eq_destination hone hv'.1 hv'.2]
      exact (destination_eq_iff repository).mpr hbase
    -- two results under one name cannot both be what the bucket holds there
    have hsame : u = v := by
      have hstored := hkept f u hu
      rw [hname, hkept g v hv] at hstored
      exact (Option.some.inj hstored).symm
    exact hasSource_unique hu'.2 (hsame ▸ hv'.2)
  · intro hinjective f u hu
    rw [latest_eq] at hu
    obtain ⟨hmem, hsource⟩ := lastWith_eq_some hu
    obtain ⟨v, hv⟩ := exists_lastWith (p := fun v => u.name == v.name) hmem (by simp)
    obtain ⟨hvmem, hvname⟩ := lastWith_eq_some hv
    obtain ⟨g, hvsource⟩ := exists_hasSource hvmem
    have hbase : Path.baseName f = Path.baseName g := by
      rw [← destination_eq_iff repository, ← name_eq_destination hone hmem hsource,
        ← name_eq_destination hone hvmem hvsource]
      exact eq_of_beq hvname
    obtain rfl := hinjective f g (.of_mem hmem hsource) (.of_mem hvmem hvsource) hbase
    rw [after_eq, hv, lastWith_unique hu hv (by simp) hvsource]

end

/-- The event that an empty file was stored under the name. -/
def sampleDelivery (name : Text) : Delivery where
  assistant := ⟨.ok (.str ""), .ok []⟩
  file := ⟨true, .null, .ok []⟩
  refusals := []
  event := .dict [("bucket", .str "b"), ("name", .str name)]

def sampleUpload (name : Text) : Upload :=
  (ofText ⟨.ok (.str ""), .ok []⟩ name (Text.decodeSource [])).upload "results" name []

section
variable {names : List Text} {name source : Text}

theorem uploads_sampleDelivery :
    (sampleDelivery name).uploads (some "results") = [sampleUpload name] := rfl

theorem isFor_sampleDelivery : (sampleDelivery name).isFor source = (name == source) := rfl

theorem repo_id_samples (h : ∀ name ∈ names, repositoryOf name = "r") :
    ∀ d ∈ names.map sampleDelivery, ∀ u ∈ d.uploads (some "results"),
      metadataOf u "repo_id" = .str "r" := by
  intro d hd u hu
  obtain ⟨name, hname, rfl⟩ := List.mem_map.mp hd
  obtain rfl := List.mem_singleton.mp hu
  rw [← h name hname]
  rfl

theorem isResultSource_samples :
    IsResultSource (some "results") (names.map sampleDelivery) source ↔ source ∈ names := by
  simp [IsResultSource, uploads_sampleDelivery, isFor_sampleDelivery]

end

def distinctNames : List Text :=
  ["cloned_repos/r/a/x.py", "cloned_repos/r/b/y.py", "cloned_repos/r/a/x.py"]

theorem results_kept_iff_distinctNames :
    (∀ d ∈ distinctNames.map sampleDelivery, ∀ u ∈ d.uploads (some "results"),
      metadataOf u "repo_id" = .str "r") ∧
    NothingLost (some "results") (distinctNames.map sampleDelivery) := by
  have hone := repo_id_samples (by decide : ∀ name ∈ distinctNames, repositoryOf name = "r")
  have hbases : ∀ f ∈ distinctNames, ∀ g ∈ distinctNames,
      Path.baseName f = Path.baseName g → f = g := by decide
  refine ⟨hone, (results_kept_iff _ _ _ hone).2.mpr fun f g hf hg => ?_⟩
  exact hbases f (isResultSource_samples.mp hf) g (isResultSource_samples.mp hg)

def clashingNames : List Text := ["cloned_repos/r/a/x.py", "cloned_repos/r/b/x.py"]

/-- The result for the second file replaces that for the first. -/
theorem result_lost :
    (∀ d ∈ clashingNames.map sampleDelivery, ∀ u ∈ d.uploads (some "results"),
      metadataOf u "repo_id" = .str "r") ∧
    destination (.str "r") "cloned_repos/r/a/x.py" =
      destination (.str "r") "cloned_repos/r/b/x.py" ∧
    ¬ NothingLost (some "results") (clashingNames.map sampleDelivery) := by
  refine ⟨repo_id_samples (by decide), by decide, fun hkept => ?_⟩
  have hlatest : latest (some "results") (clashingNames.map sampleDelivery)
      "cloned_repos/r/a/x.py" = some (sampleUpload "cloned_repos/r/a/x.py") := by
    rfl
  have hstored : Bucket.after (some "results") (clashingNames.map sampleDelivery)
      (sampleUpload "cloned_repos/r/a/x.py").name =
        some (sampleUpload "cloned_repos/r/b/x.py") := by
    rfl
  have hsame := Option.some.inj (hstored.symm.trans (hkept _ _ hlatest))
  have hsource := congrArg (fun u => (metadataOf u "original_file").text?) hsame
  revert hsource
  decide

end CodeAtlas.Analysis
