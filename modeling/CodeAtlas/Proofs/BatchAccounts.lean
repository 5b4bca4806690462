import CodeAtlas.Checkout.Batch
import CodeAtlas.Proofs.PollEffects

/-! The accounts of a hand-over. Every selected path is either uploaded or counted as failed, in the
order of the selection and whatever storage and the database do. -/
namespace CodeAtlas.Checkout

variable {s : Surroundings} {repo : Value} {id : FolderId} {d : Desk Notes}

/-- The upload of a selected path: there is one if the path leads to a file and storage does not
refuse the name. -/
def upload? (s : Surroundings) (site : Site) (repo : Value) (id : FolderId) (file : Value) :
    Option Upload :=
  match file with
  | .str path =>
    match locate s site id path with
    | some .file =>
      if (s.refusals.lookup (storedName repo file)).isSome then none
      else some (uploadOf s repo path)
    | _ => none
  | _ => none

/-- What a path leads to depends on the folders alone. -/
theorem upload?_of_stock {site site' : Site} (h : site.stock = site'.stock) :
    upload? s site repo id = upload? s site' repo id := by
  have hdisk : site.disk = site'.disk := congrArg Stock.disk h
  have hlocate (path : Text) : locate s site id path = locate s site' id path := by
    simp only [locate, Site.machine, hdisk]
  funext file
  simp only [upload?, hlocate]

section
variable {a : Account} {file : Value} {path : Text}

/-- The upload of a path that leads to `t`, after its announcement on the board. -/
def deliver (s : Surroundings) (repo : Value) (path : Text) (t : Tree) : Job Bool := do
  if t.isFolder then throw .isDirectory
  if let some fault := s.refusals.lookup (uploadOf s repo path).name then throw fault
  record fun log => { log with uploads := log.uploads ++ [uploadOf s repo path] }
  return true

theorem uploadFile_found (hrepo : repo.isHashable = true)
    (ha : (situation repo d).account = some a) {t : Tree}
    (ht : locate s d.notes.site id path = some t) :
    ∃ d', situation repo d' = situation repo d ∧
      (uploadFile s repo id (.str path)).runOn d = (deliver s repo path t).runOn d' := by
  obtain ⟨_, d₁, hrun₁, h₁⟩ := setField_settles hrepo ha currentFile_isAside (.str path)
  obtain ⟨_, d₂, hrun₂, h₂⟩ := setMessage_settles hrepo (h₁ ▸ ha) ("Processing " ++ path)
  refine ⟨d₂, h₂.trans h₁, ?_⟩
  unfold uploadFile
  rw [Work.runOn_bind_ok runOn_site, ht]
  dsimp only
  rw [Work.runOn_bind_ok hrun₁, Work.runOn_bind_ok hrun₂]
  rfl

theorem uploadFile_gives (hrepo : repo.isHashable = true)
    (ha : (situation repo d).account = some a) {u : Upload}
    (hu : upload? s d.notes.site repo id file = some u) :
    (uploadFile s repo id file).Gives d fun done d' => done = true ∧ situation repo d' =
      { situation repo d with uploads := (situation repo d).uploads ++ [u] } := by
  unfold upload? at hu
  split at hu
  next path =>
    split at hu
    next hfile =>
      split at hu
      · cases hu
      next haccepted =>
        cases hu
        obtain ⟨d', h, hrun⟩ := uploadFile_found hrepo ha hfile
        have haccepted : s.refusals.lookup (uploadOf s repo path).name = none :=
          Option.not_isSome_iff_eq_none.mp haccepted
        simp only [deliver, Tree.isFolder, haccepted] at hrun
        exact ⟨true, _, hrun, rfl, by rw [← h]; rfl⟩
    · cases hu
  · cases hu

theorem uploadFile_ends (hrepo : repo.isHashable = true)
    (ha : (situation repo d).account = some a)
    (hu : upload? s d.notes.site repo id file = none) :
    (uploadFile s repo id file).Ends d fun r d' =>
      r ≠ .ok true ∧ situation repo d' = situation repo d := by
  unfold Work.Ends
  cases file with
  | str path =>
    cases ht : locate s d.notes.site id path with
    | none =>
      have hrun : (uploadFile s repo id (.str path)).runOn d = (.ok false, d) := by
        unfold uploadFile
        rw [Work.runOn_bind_ok runOn_site, ht]
        rfl
      rw [hrun]
      exact ⟨by simp, rfl⟩
    | some t =>
      obtain ⟨d', h, hrun⟩ := uploadFile_found hrepo ha ht
      rw [hrun]
      cases t with
      | folder entries => exact ⟨by simp [deliver, Tree.isFolder], h⟩
      | link target =>
        obtain ⟨t, -, hseen⟩ := Option.bind_eq_some_iff.mp ht
        exact absurd hseen (t.seen?_ne_link target)
      | file =>
        simp only [upload?, ht] at hu
        split at hu
        next hrefused =>
          obtain ⟨fault, hfault⟩ := Option.isSome_iff_exists.mp hrefused
          have hfault : s.refusals.lookup (uploadOf s repo path).name = some fault := hfault
          simp only [deliver, Tree.isFolder, hfault]
          exact ⟨by simp, h⟩
        · cases hu
  | _ => exact ⟨by simp [uploadFile], rfl⟩

end

/-- The tally of files that have been gone through. -/
def tallyOf (u : Value → Option Upload) (files : List Value) : Tally where
  uploaded := files.filter fun file => (u file).isSome
  failed := files.filter fun file => (u file).isNone

/-- The account of a hand-over while it goes through the files. -/
def accountUnderway (u : Value → Option Upload) (total : Nat) (past : List Value) : Account where
  total := some (.int total)
  processed := some (.int (tallyOf u past).uploaded.length)
  failed := none
  status := some (.str "processing")

/-- How a hand-over that began in the situation `S` stands after the files `past`. -/
structure Underway (repo : Value) (u : Value → Option Upload) (total : Nat) (S : Situation)
    (past : List Value) (t : Tally) (d : Desk Notes) : Prop where
  tally : t = tallyOf u past
  situation : situation repo d =
    { S with
      account := some (accountUnderway u total past)
      uploads := S.uploads ++ past.filterMap u }

namespace Underway

variable {u : Value → Option Upload} {total : Nat} {S : Situation} {past : List Value} {t : Tally}

theorem account (h : Underway repo u total S past t d) :
    (Checkout.situation repo d).account = some (accountUnderway u total past) := by
  rw [h.situation]

theorem settled (h : Underway repo u total S past t d) {d' : Desk Notes}
    (hd : Checkout.situation repo d' = Checkout.situation repo d) :
    Underway repo u total S past t d' := ⟨h.tally, hd.trans h.situation⟩

theorem takeFile (hrepo : repo.isHashable = true)
    (hu : ∀ site : Site, site.stock = S.stock → upload? s site repo id = u)
    (h : Underway repo u total S past t d) (file : Value) :
    (takeFile s repo id t file).Gives d (Underway repo u total S (past ++ [file])) := by
  obtain ⟨rfl, hd⟩ := h
  have hu : upload? s d.notes.site repo id = u := hu _ (congrArg Situation.stock hd)
  have ha : (Checkout.situation repo d).account = some (accountUnderway u total past) := by rw [hd]
  unfold Checkout.takeFile
  cases hfile : u file with
  | none =>
    have htry : (tryCatch (uploadFile s repo id file) fun _ => return false).Gives d
        fun done d' => done = false ∧ Checkout.situation repo d' = Checkout.situation repo d := by
      refine Work.Gives.tryCatch (uploadFile_ends hrepo ha (hu ▸ hfile)) ?_ ?_
      · rintro done d' ⟨hdone, h⟩
        exact ⟨by simpa using hdone, h⟩
      · rintro fault d' ⟨-, h⟩
        exact Work.Gives.pure ⟨rfl, h⟩
    refine htry.bind ?_
    rintro _ d' ⟨rfl, h⟩
    refine Work.Gives.pure ⟨?_, ?_⟩
    · simp [tallyOf, hfile]
    · rw [h, hd]
      simp [accountUnderway, tallyOf, hfile]
  | some v =>
    refine ((uploadFile_gives hrepo ha (hu ▸ hfile)).tryCatch_ok _).bind ?_
    rintro _ d' ⟨rfl, h⟩
    have ha' : (Checkout.situation repo d').account = some (accountUnderway u total past) := by
      rw [h]
      exact ha
    refine (setField_gives hrepo ha' _ _).bind fun _ d'' h' => Work.Gives.pure ⟨?_, ?_⟩
    · simp [tallyOf, hfile]
    · rw [h', h, hd]
      simp [accountUnderway, tallyOf, hfile]

theorem takeBatch (hrepo : repo.isHashable = true)
    (hu : ∀ site : Site, site.stock = S.stock → upload? s site repo id = u)
    (h : Underway repo u total S past t d) (batch : List Value) :
    (takeBatch s repo id total t batch).Gives d (Underway repo u total S (past ++ batch)) := by
  have hfiles : (batch.foldlM (Checkout.takeFile s repo id) t).Gives d
      (Underway repo u total S (past ++ batch)) :=
    Work.Gives.foldlM (fun past file t d h => h.takeFile hrepo hu file) past h
  refine hfiles.bind fun after d₁ h₁ => ?_
  dsimp only
  split
  · refine (setMessage_settles hrepo h₁.account _).bind fun _ d₂ hd₂ => ?_
    have h₂ := h₁.settled hd₂
    refine (sleep_settles repo 10).bind fun _ d₃ hd₃ => ?_
    have h₃ := h₂.settled hd₃
    refine (setMessage_settles hrepo h₃.account _).bind fun _ d₄ hd₄ => ?_
    have h₄ := h₃.settled hd₄
    refine (awaitBatch_settles repo _).bind fun _ d₅ hd₅ => ?_
    exact Work.Gives.pure (h₄.settled hd₅)
  · exact Work.Gives.pure h₁

theorem takeBatches (hrepo : repo.isHashable = true)
    (hu : ∀ site : Site, site.stock = S.stock → upload? s site repo id = u)
    (h : Underway repo u total S [] t d) (batches : List (List Value)) :
    (batches.foldlM (Checkout.takeBatch s repo id total) t).Gives d
      (Underway repo u total S batches.flatten) := by
  refine Work.Gives.foldlM (I := fun past => Underway repo u total S past.flatten)
    (fun past batch t d h => ?_) [] h
  rw [List.flatten_append, List.flatten_singleton]
  exact h.takeBatch hrepo hu batch

end Underway

theorem flatten_inFives {α : Type} (xs : List α) : (inFives xs).flatten = xs := by
  fun_induction inFives xs with
  | case1 => rfl
  | case2 a b c d e rest ih => simp [ih]
  | case3 rest => simp

theorem size_of_selection {files : Value} {members : List Value}
    (h : selection files = .ok members) : files.size = .ok members.length := by
  cases files with
  | list items =>
    cases h
    rfl
  | str text =>
    cases h
    simp [Value.size]
  | dict fields =>
    cases fields with
    | nil =>
      cases h
      rfl
    | cons field rest => cases h
  | _ => cases h

/-- The account of a hand-over that is done. -/
def accountAtEnd (s : Surroundings) (u : Value → Option Upload) (files : List Value)
    (connectFault : Option Fault) : Account where
  total := some (.int files.length)
  processed := some (.int (tallyOf u files).uploaded.length)
  failed := if (tallyOf u files).failed.isEmpty then none else some (.list (tallyOf u files).failed)
  status := some (.str
    (if (tallyOf u files).uploaded.isEmpty then "error" else finalStatus s connectFault))

/-- The site without a clone that is done with, if the clone's folder is still there. -/
def Site.cleaned (site : Site) (repo : Value) (id : FolderId) : Site :=
  if site.hasFolder id then (site.removeFolder id).dropClone repo else site

theorem Site.cleaned_board (site : Site) (repo : Value) (id : FolderId) :
    (site.cleaned repo id).board = site.board := by
  unfold Site.cleaned
  split
  · cases repo <;> rfl
  · rfl

theorem Site.cleaned_stock {site site' : Site} (h : site.stock = site'.stock) (repo : Value)
    (id : FolderId) : (site.cleaned repo id).stock = (site'.cleaned repo id).stock := by
  obtain ⟨board, clones, disk, made⟩ := site
  obtain ⟨board', clones', disk', made'⟩ := site'
  obtain ⟨rfl, rfl, rfl⟩ := Stock.mk.inj h
  by_cases hid : (disk.lookup id).isSome
  · simp only [Site.cleaned, Site.hasFolder, hid]
    cases repo <;> rfl
  · simp only [Site.cleaned, Site.hasFolder, hid]
    rfl

/-- The end of a hand-over: the status is settled and the clone removed. -/
def finish (s : Surroundings) (repo : Value) (id : FolderId) (t : Tally) : Job Unit := do
  if t.uploaded.isEmpty then
    setStatus repo "error" "No files were successfully uploaded"
  else
    setMessage repo "Waiting for Neo4j ingestion to complete"
    awaitEnd s repo
  cleanUp repo id

theorem cleanUp_gives (repo : Value) (id : FolderId) (d : Desk Notes) :
    (cleanUp repo id).Gives d fun _ d' => situation repo d' =
      { situation repo d with stock := (d.notes.site.cleaned repo id).stock } := by
  refine ⟨(), _, runOn_changeSite fun site => site.cleaned repo id, ?_⟩
  simp [situation, Site.cleaned_board]

theorem finish_gives (hrepo : repo.isHashable = true) {a : Account}
    (ha : (situation repo d).account = some a) (t : Tally) :
    (finish s repo id t).Gives d fun _ d' => situation repo d' =
      { (situation repo d).withStatus a
          (if t.uploaded.isEmpty then "error" else finalStatus s d.database.connectFault) with
        stock := (d.notes.site.cleaned repo id).stock } := by
  have hclean (d' : Desk Notes) (status : Text)
      (h : situation repo d' = (situation repo d).withStatus a status) :
      (cleanUp repo id).Gives d' fun _ d'' => situation repo d'' =
        { (situation repo d).withStatus a status with
          stock := (d.notes.site.cleaned repo id).stock } := by
    have hstock : d'.notes.site.stock = d.notes.site.stock := congrArg Situation.stock h
    refine (cleanUp_gives repo id d').mono fun _ d'' h' => ?_
    rw [h', h, Site.cleaned_stock hstock]
  unfold finish
  split
  · exact (setStatus_gives hrepo ha _ _).bind fun _ d' h => hclean d' _ h
  · refine (setMessage_settles hrepo ha _).bind fun _ d₁ h₁ => ?_
    have hfault : d₁.database.connectFault = d.database.connectFault :=
      congrArg Situation.connectFault h₁
    refine (awaitEnd_gives hrepo (h₁ ▸ ha)).bind fun _ d₂ h₂ => hclean d₂ _ ?_
    rw [h₂, h₁, hfault]

/-- The end of a hand-over that has gone through all its files and noted those that failed. -/
theorem finish_after (hrepo : repo.isHashable = true) {u : Value → Option Upload}
    {members : List Value} {failed : Option Value} {d' : Desk Notes}
    (h : situation repo d' =
      { situation repo d with
        account := some { accountUnderway u members.length members with failed := failed }
        uploads := (situation repo d).uploads ++ members.filterMap u }) :
    (finish s repo id (tallyOf u members)).Gives d' fun _ d'' => situation repo d'' =
      { account := some { accountAtEnd s u members d.database.connectFault with failed := failed }
        uploads := d.notes.log.uploads ++ members.filterMap u
        stock := (d.notes.site.cleaned repo id).stock
        connectFault := d.database.connectFault } := by
  have hstock : d'.notes.site.stock = d.notes.site.stock := congrArg Situation.stock h
  have hfault : d'.database.connectFault = d.database.connectFault :=
    congrArg Situation.connectFault h
  refine (finish_gives hrepo (by rw [h]) _).mono fun _ d'' h' => ?_
  rw [h', h, hfault, Site.cleaned_stock hstock]
  rfl

/-- A hand-over always comes to its end, and this is how it leaves things. -/
theorem handOver_gives (hrepo : repo.isHashable = true) {files : Value} {members : List Value}
    (hfiles : selection files = .ok members) :
    (handOver s repo files id).Gives d fun _ d' => situation repo d' =
      { account := some (accountAtEnd s (upload? s d.notes.site repo id) members
          d.database.connectFault)
        uploads := d.notes.log.uploads ++ members.filterMap (upload? s d.notes.site repo id)
        stock := (d.notes.site.cleaned repo id).stock
        connectFault := d.database.connectFault } := by
  set u := upload? s d.notes.site repo id with hu
  set S := situation repo d
  have hfit (site : Site) (h : site.stock = S.stock) : upload? s site repo id = u :=
    upload?_of_stock h
  refine Work.Gives.tryCatch_ok (.lift_bind (size_of_selection hfiles) ?_) _
  refine (setProgress_gives hrepo _).bind fun _ d₁ h₁ => .lift_bind hfiles ?_
  have hstart : Underway repo u members.length S [] {} d₁ := ⟨rfl, by
    rw [h₁, List.filterMap_nil, List.append_nil]
    rfl⟩
  refine (hstart.takeBatches hrepo hfit (inFives members)).bind fun t d₂ h₂ => ?_
  rw [flatten_inFives] at h₂
  obtain ⟨rfl, h₂⟩ := h₂
  change (if (!(tallyOf u members).failed.isEmpty) = true then
      setField repo "failed_files" (.list (tallyOf u members).failed) >>= fun _ =>
        finish s repo id (tallyOf u members)
    else finish s repo id (tallyOf u members)).Gives d₂ _
  split
  next hfailed =>
    refine (setField_gives hrepo (by rw [h₂]) _ _).bind fun _ d₃ h₃ => ?_
    have h₃ : situation repo d₃ = { S with
        account := some { accountUnderway u members.length members with
          failed := some (.list (tallyOf u members).failed) }
        uploads := S.uploads ++ members.filterMap u } := by
      rw [h₃, h₂, Account.set_failed]
    refine (finish_after hrepo h₃).mono fun _ d' h => ?_
    rw [h]
    simp_all [accountAtEnd]
  next hfailed =>
    refine (finish_after hrepo h₂).mono fun _ d' h => ?_
    rw [h]
    simp_all [accountAtEnd]

theorem credentials?_isSome (s : Surroundings) : s.credentials?.isSome =
    (s.settings.isGiven "NEO4J_URI" && s.settings.isGiven "NEO4J_USERNAME" &&
      s.settings.isGiven "NEO4J_PASSWORD") := by
  have hgiven (name : Text) : s.settings.isGiven name = !(s.settings.getD name "").isEmpty := by
    unfold Settings.isGiven
    cases s.settings.getD name "" <;> rfl
  simp only [Surroundings.credentials?, hgiven]
  cases (s.settings.getD "NEO4J_URI" "").isEmpty <;>
    cases (s.settings.getD "NEO4J_USERNAME" "").isEmpty <;>
    cases (s.settings.getD "NEO4J_PASSWORD" "").isEmpty <;> rfl

section
variable (u : Value → Option Upload) (files : List Value)

theorem length_uploaded : (tallyOf u files).uploaded.length = (files.filterMap u).length := by
  induction files with
  | nil => rfl
  | cons file files ih =>
    cases h : u file <;> simpa [tallyOf, h] using ih

theorem length_uploaded_add_failed :
    (tallyOf u files).uploaded.length + (tallyOf u files).failed.length = files.length := by
  induction files with
  | nil => rfl
  | cons file files ih =>
    cases h : u file <;> simp [tallyOf, h] at ih ⊢ <;> omega

end

/-- What the last wait needs before it can look at the graph. -/
def CanReachGraph (s : Surroundings) (db : Database) : Prop :=
  s.settings.isGiven "NEO4J_URI" = true ∧ s.settings.isGiven "NEO4J_USERNAME" = true ∧
    s.settings.isGiven "NEO4J_PASSWORD" = true ∧ db.connectFault = none

theorem finalStatus_eq (s : Surroundings) (db : Database) :
    (finalStatus s db.connectFault = "partial" ∧ CanReachGraph s db) ∨
      (finalStatus s db.connectFault = "error" ∧ ¬ CanReachGraph s db) := by
  have hiff : s.canPoll db.connectFault = true ↔ CanReachGraph s db := by
    simp [Surroundings.canPoll, CanReachGraph, credentials?_isSome, and_assoc]
  unfold finalStatus
  split
  next h => exact .inl ⟨rfl, hiff.mp h⟩
  next h => exact .inr ⟨rfl, fun hreach => h (hiff.mpr hreach)⟩

/-- Whatever is selected and whatever goes wrong, the entry of the repository counts every selected
path once, as uploaded or as failed, and ends with a settled status. -/
theorem handOver_accounts (s : Surroundings) (repo : Value) (files : List Value) (id : FolderId)
    (d : Desk Notes) (hrepo : repo.isHashable = true) :
    (handOver s repo (.list files) id).Gives d fun _ d' =>
      ∃ (entry : Fields) (uploads : List Upload) (failed : List Value),
        d'.notes.site.board.get? repo = some (.dict entry) ∧
        uploads = files.filterMap (upload? s d.notes.site repo id) ∧
        failed = files.filter (fun file => (upload? s d.notes.site repo id file).isNone) ∧
        d'.notes.log.uploads = d.notes.log.uploads ++ uploads ∧
        entry.get? "total_files" = some (.int files.length) ∧
        entry.get? "processed" = some (.int uploads.length) ∧
        entry.get? "failed_files" = (if failed.isEmpty then none else some (.list failed)) ∧
        uploads.length + failed.length = files.length ∧
        ((entry.get? "status" = some (.str "partial") ∧
            uploads ≠ [] ∧ CanReachGraph s d.database) ∨
          (entry.get? "status" = some (.str "error") ∧
            ¬ (uploads ≠ [] ∧ CanReachGraph s d.database))) := by
  refine (handOver_gives hrepo rfl).mono fun _ d' h => ?_
  set u := upload? s d.notes.site repo id
  obtain ⟨entry, hentry, haccount⟩ := account_eq_some (congrArg Situation.account h)
  have hlength := length_uploaded u files
  refine ⟨entry, files.filterMap u, (tallyOf u files).failed, hentry, rfl, rfl,
    congrArg Situation.uploads h, (congrArg Account.total haccount).symm, ?_,
    (congrArg Account.failed haccount).symm, ?_, ?_⟩
  · rw [← hlength]
    exact (congrArg Account.processed haccount).symm
  · rw [← hlength]
    exact length_uploaded_add_failed u files
  · have hstatus : Fields.get? entry "status" = some (.str
        (if (tallyOf u files).uploaded.isEmpty then "error"
          else finalStatus s d.database.connectFault)) :=
      (congrArg Account.status haccount).symm
    rw [hstatus]
    cases huploads : files.filterMap u with
    | nil =>
      have hnone : (tallyOf u files).uploaded = [] :=
        List.length_eq_zero_iff.mp (by rw [hlength, huploads, List.length_nil])
      exact .inr ⟨by rw [hnone]; rfl, by simp⟩
    | cons v uploads =>
      have hsome : (tallyOf u files).uploaded.isEmpty = false := by
        rw [List.isEmpty_eq_false_iff, ← List.length_pos_iff, hlength, huploads]
        exact Nat.succ_pos _
      simp only [hsome]
      obtain ⟨h, hreach⟩ | ⟨h, hreach⟩ := finalStatus_eq s d.database
      · exact .inl ⟨by rw [← h]; rfl, by simp, hreach⟩
      · exact .inr ⟨by rw [← h]; rfl, fun hboth => hreach hboth.2⟩

/-- Two files and an empty folder in a clone, and nothing done yet. -/
def sampleDesk : Desk Notes where
  database := .barren
  notes := { site := { disk := [(0, .folder [("a.py", .file), ("b.py", .file), ("d", .empty)])] } }

/-- Storage refuses one of the files. -/
def sampleSurroundings : Surroundings where
  settings := [("NEO4J_URI", "bolt://db"), ("NEO4J_USERNAME", "neo"), ("NEO4J_PASSWORD", "pw")]
  bucket := "cloned-bucket"
  refusals := [("cloned_repos/r/b.py", .service .system "")]

def sampleFiles : List Value :=
  [.str "a.py", .str "b.py", .str "c.py", .str "a.py", .str "d", .null, .str "a.py"]

theorem handOver_accounts_sample :
    (Value.str "r").isHashable = true ∧
    (handOver sampleSurroundings (.str "r") (.list sampleFiles) 0).Gives sampleDesk fun _ d' =>
      ∃ entry : Fields, d'.notes.site.board.get? (.str "r") = some (.dict entry) ∧
        entry.get? "processed" = some (.int 3) ∧
        entry.get? "failed_files" =
          some (.list [.str "b.py", .str "c.py", .str "d", .null]) ∧
        entry.get? "status" = some (.str "partial") := by
  refine ⟨rfl, (handOver_accounts _ (.str "r") sampleFiles 0 sampleDesk rfl).mono ?_⟩
  rintro _ d' ⟨entry, uploads, failed, hentry, huploads, hfailed, -, -, hprocessed, hf, -, hstatus⟩
  have hcount : uploads.length = 3 := by
    rw [huploads]
    rfl
  have hsome : uploads ≠ [] := List.ne_nil_of_length_pos (by omega)
  refine ⟨entry, hentry, ?_, ?_, ?_⟩
  · rw [hprocessed, hcount]
    rfl
  · rw [hf, hfailed]
    rfl
  · obtain ⟨h, -⟩ | ⟨-, h⟩ := hstatus
    · exact h
    · exact absurd ⟨hsome, by unfold CanReachGraph; decide⟩ h

end CodeAtlas.Checkout
