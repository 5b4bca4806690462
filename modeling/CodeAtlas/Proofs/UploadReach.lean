import CodeAtlas.Proofs.BatchAccounts
import CodeAtlas.Proofs.NumeralLaws
import CodeAtlas.Proofs.PathReach

/-! Which files of the machine a hand-over can reach. The selected paths are taken as they come, so
a hand-over stays in its clone exactly as far as the paths themselves do. -/
namespace CodeAtlas.Checkout

/-- The full path of a clone's folder. -/
def cloneFolder (id : FolderId) : Text := "/tmp/" ++ folderName id

theorem folderName_injective : Function.Injective folderName := by
  intro a b h
  exact Text.natText_injective (List.append_cancel_left h)

theorem slash_not_mem_folderName (id : FolderId) : CodePoint.ofChar '/' ∉ folderName id := by
  intro h
  rcases List.mem_append.mp h with h | h
  · exact absurd h (by decide)
  · exact absurd (Text.isDigit_of_mem_natText h) (by decide)

theorem isName_folderName (id : FolderId) : Path.isName (folderName id) = true := by
  have hhead : (folderName id).head? = some (CodePoint.ofChar 't') := rfl
  have hne (name : Text) (h : name.head? ≠ some (CodePoint.ofChar 't')) :
      (folderName id == name) = false := by
    apply beq_false_of_ne
    rintro rfl
    exact h hhead
  rw [Path.isName, hne "" (by decide), hne "." (by decide), hne ".." (by decide)]
  rfl

theorem split_cloneFolder (id : FolderId) :
    Text.split '/' (cloneFolder id) = [("" : Text), "tmp", folderName id] := by
  have htail := Text.split_of_not_mem (slash_not_mem_folderName id)
  have hcut : cloneFolder id = "/tmp" ++ CodePoint.ofChar '/' :: folderName id := rfl
  rw [hcut, Text.split_append, htail]
  rfl

theorem resolve_cloneFolder (id : FolderId) :
    Path.resolve (cloneFolder id) = [("tmp" : Text), folderName id] := by
  have hname := isName_folderName id
  cases Path.move (folderName id) with
  | stay _ h | up _ h => simp [h] at hname
  | down _ _ henter =>
    rw [Path.resolve, split_cloneFolder]
    change (Path.enter ["tmp"] (folderName id)).reverse = _
    rw [henter]
    rfl

theorem lookup_folderName (disk : List (FolderId × Tree)) (id : FolderId) :
    (disk.map fun (id, t) => (folderName id, t)).lookup (folderName id) = disk.lookup id := by
  induction disk with
  | nil => rfl
  | cons entry disk ih =>
    obtain ⟨other, t⟩ := entry
    have hsame : (folderName id == folderName other) = (id == other) := by
      rw [Bool.eq_iff_iff, beq_iff_eq, beq_iff_eq]
      exact folderName_injective.eq_iff
    simp only [List.map_cons, List.lookup_cons, hsame, ih]

/-- Below the folder of a clone stands what the clone holds. -/
theorem machine_at?_clone (site : Site) (outside : List (Text × Tree)) (id : FolderId)
    (names : List Text) :
    (site.machine outside).at? (Path.resolve (cloneFolder id) ++ names) =
      (site.disk.lookup id).bind fun t => t.at? names := by
  rw [resolve_cloneFolder]
  change (((site.disk.map fun (id, t) => (folderName id, t)).lookup (folderName id)).bind
    fun t => t.node? names).bind Tree.seen? = _
  rw [lookup_folderName, Option.bind_assoc]
  rfl

section
variable {s : Surroundings} {site : Site} {repo : Value} {id : FolderId} {path : Text} {u : Upload}

theorem upload?_str_eq_some (h : upload? s site repo id (.str path) = some u) :
    u = uploadOf s repo path ∧ locate s site id path = some .file := by
  unfold upload? at h
  dsimp only at h
  split at h
  next hfile =>
    split at h
    · cases h
    · exact ⟨(Option.some.inj h).symm, hfile⟩
  · cases h

/-- What is uploaded is the file to which the text of the full path leads. -/
theorem at?_of_upload? (h : upload? s site repo id (.str path) = some u) :
    (site.machine s.outside).at? (Path.resolve (fullPath id path)) = some .file :=
  Tree.at?_of_find? (upload?_str_eq_some h).2

theorem filterMap_upload?_str (s : Surroundings) (site : Site) (repo : Value) (id : FolderId)
    (paths : List Text) :
    (paths.map Value.str).filterMap (upload? s site repo id) =
      (paths.filter fun path => (upload? s site repo id (.str path)).isSome).map
        (uploadOf s repo) := by
  induction paths with
  | nil => rfl
  | cons path paths ih =>
    rw [List.map_cons]
    cases h : upload? s site repo id (.str path) with
    | none => simpa [h] using ih
    | some u => simpa [h, (upload?_str_eq_some h).1] using ih

end

/-- A hand-over uploads the files to which the texts of its full paths lead. A tame path leads to a
file of the clone. Any other path leads out of the clone's folder, unless it names that folder
itself, and the file it leads to is uploaded all the same. -/
theorem uploads_stay_in_clone_iff (s : Surroundings) (repo : Value) (paths : List Text)
    (id : FolderId) (d : Desk Notes) (hrepo : repo.isHashable = true) :
    (handOver s repo (.list (paths.map .str)) id).Gives d fun _ d' =>
      ∃ uploaded : List Text,
        uploaded = paths.filter (fun path =>
          (upload? s d.notes.site repo id (.str path)).isSome) ∧
        d'.notes.log.uploads = d.notes.log.uploads ++ uploaded.map (uploadOf s repo) ∧
        (∀ path ∈ uploaded,
          (d.notes.site.machine s.outside).at? (Path.resolve (fullPath id path)) = some .file) ∧
        (∀ path ∈ uploaded, Path.LiesIn (cloneFolder id) (fullPath id path) →
          ∃ t names, d.notes.site.disk.lookup id = some t ∧ t.at? names = some .file ∧
            Path.resolve (fullPath id path) = Path.resolve (cloneFolder id) ++ names) ∧
        (∀ path ∈ paths, Path.IsTame path → Path.LiesIn (cloneFolder id) (fullPath id path)) ∧
        ∀ path ∈ paths, folderName id ∉ Text.split '/' path →
          (Path.LiesIn (cloneFolder id) (fullPath id path) ↔ Path.IsTame path) := by
  apply (handOver_gives hrepo rfl).mono
  intro _ d' h
  have hfile : ∀ path ∈ paths.filter (fun path =>
      (upload? s d.notes.site repo id (.str path)).isSome),
      (d.notes.site.machine s.outside).at? (Path.resolve (fullPath id path)) = some .file := by
    intro path hpath
    obtain ⟨u, hu⟩ := Option.isSome_iff_exists.mp (List.mem_filter.mp hpath).2
    exact at?_of_upload? hu
  refine ⟨_, rfl, ?_, hfile, ?_, ?_, ?_⟩
  · rw [← filterMap_upload?_str]
    exact congrArg Situation.uploads h
  · rintro path hpath ⟨names, hnames⟩
    have hat := hfile path hpath
    rw [← hnames, machine_at?_clone] at hat
    obtain ⟨t, ht, hat⟩ := Option.bind_eq_some_iff.mp hat
    exact ⟨t, names, ht, hat, hnames.symm⟩
  · intro path _ htame
    exact Path.liesIn_of_isTame (cloneFolder id) htame
  · intro path _ hother
    have hlast : (Path.resolve (cloneFolder id)).getLast? = some (folderName id) := by
      rw [resolve_cloneFolder]
      rfl
    exact Path.liesIn_iff_isTame hlast hother

/-- Of these paths all but the last two are tame. -/
def samplePaths : List Text := ["d/../a.py", "./d//../a.py", "d/../../tmp0/a.py", "/etc/passwd"]

theorem uploads_stay_in_clone_iff_sample :
    (Value.str "r").isHashable = true ∧
    (handOver sampleSurroundings (.str "r") (.list (samplePaths.map .str)) 0).Gives sampleDesk
      fun _ d' =>
        d'.notes.log.uploads = samplePaths.map (uploadOf sampleSurroundings (.str "r")) ∧
        Path.LiesIn (cloneFolder 0) (fullPath 0 "./d//../a.py") ∧
        ¬ Path.LiesIn (cloneFolder 0) (fullPath 0 "/etc/passwd") := by
  refine ⟨rfl, (uploads_stay_in_clone_iff sampleSurroundings (.str "r") samplePaths 0 sampleDesk
    rfl).mono ?_⟩
  rintro _ d' ⟨uploaded, huploaded, huploads, -, -, htame, hiff⟩
  have hall : uploaded = samplePaths := by
    rw [huploaded]
    decide +kernel
  refine ⟨?_, htame _ (by decide) (by decide +kernel), ?_⟩
  · rw [huploads, hall]
    rfl
  · rw [hiff _ (by decide) (by decide +kernel)]
    decide

/-- The password file of the machine is uploaded, by its full path and by going up from the clone.
Neither path leads into the clone's folder. -/
theorem password_file_uploaded :
    ¬ Path.LiesIn (cloneFolder 0) (fullPath 0 "/etc/passwd") ∧
    ¬ Path.LiesIn (cloneFolder 0) (fullPath 0 "../../etc/passwd") ∧
    (handOver sampleSurroundings (.str "r")
        (.list [.str "/etc/passwd", .str "../../etc/passwd"]) 0).Gives sampleDesk fun _ d' =>
      d'.notes.log.uploads =
        ["/etc/passwd", "../../etc/passwd"].map (uploadOf sampleSurroundings (.str "r")) := by
  refine ⟨by decide +kernel, by decide +kernel, (handOver_gives rfl rfl).mono fun _ d' h => ?_⟩
  exact congrArg Situation.uploads h

end CodeAtlas.Checkout
