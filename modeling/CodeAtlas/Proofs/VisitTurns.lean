import CodeAtlas.Checkout.Service
import CodeAtlas.Proofs.BatchAccounts
import CodeAtlas.Proofs.ValueParts

/-! What one request to the checkout service can do to the clones. There are few occasions, and
`Turn` lists them with everything that is known on each. -/
namespace CodeAtlas.Checkout

/-- The fields of the document that comes with a request. -/
def fieldsOf (r : Http.Request) : Option Fields :=
  match r.payload with
  | .document (.dict fields) => some fields
  | _ => none

/-- The fields of the document that a request brings to a path. -/
def documentFor (r : Http.Request) (path : Text) : Option Fields :=
  match r.dispatch routes with
  | .run asked => if asked = path then fieldsOf r else none
  | _ => none

/-- A request, with the surroundings and the database that it meets. -/
structure Visit where
  surroundings : Surroundings
  database : Database
  request : Http.Request

namespace Visit

def outcome (v : Visit) (site : Site) : Except Fault Http.Response × Desk Notes :=
  (handle v.surroundings v.request).runOn ⟨v.database, { site }⟩

/-- The status of the answer. -/
def status (v : Visit) (site : Site) : Option Nat :=
  (v.outcome site).1.toOption.map Http.Response.status

end Visit

/-- The address that is to be cloned. -/
def addressIn (fields : Fields) : Option Text :=
  (fields.getD "github_url" .null).text?.filter (Text.startsWith "https://github.com/")

/-- The repository that is to be cloned. -/
def fetchedIn (fields : Fields) : Option Text :=
  (addressIn fields).bind fun url => (repositoryId url).toOption

/-- The repository, named by a text, whose files are to be handed over, and the selected files. -/
def processedIn (fields : Fields) : Option (Text × Value) :=
  (fields.getD "repo_id" .null).text?.map fun r => (r, fields.getD "selected_files" .null)

namespace Visit

/-- The repository that a request asks to clone. -/
def fetched? (v : Visit) : Option Text := (documentFor v.request fetchPath).bind fetchedIn

/-- The repository whose files a request asks to hand over, and the selected files. -/
def processed? (v : Visit) : Option (Text × Value) :=
  (documentFor v.request processPath).bind processedIn

end Visit

def Site.after (site : Site) (v : Visit) : Site := (v.outcome site).2.notes.site

namespace Stock

/-- The clone of a repository whose folder is still there. -/
def find? (k : Stock) (r : Text) : Option FolderId :=
  (k.clones.lookup r).filter fun id => (k.disk.lookup id).isSome

/-- A clone in a new folder takes the place of the one that the repository had. -/
def opened (k : Stock) (r : Text) (t : Tree) : Stock where
  clones := k.clones.filter (·.1 != r) ++ [(r, k.made)]
  disk := k.disk ++ [(k.made, t)]
  made := k.made + 1

/-- The repository is forgotten, and a folder was made in vain. -/
def undone (k : Stock) (r : Text) : Stock where
  clones := k.clones.filter (·.1 != r)
  disk := k.disk
  made := k.made + 1

/-- The repository is forgotten and its folder removed. -/
def closed (k : Stock) (r : Text) (id : FolderId) : Stock where
  clones := k.clones.filter (·.1 != r)
  disk := k.disk.filter (·.1 != id)
  made := k.made

/-- Every folder was made before. -/
def IsFresh (k : Stock) : Prop := ∀ folder ∈ k.disk, folder.1 < k.made

end Stock

/-- What a request that asks to clone `fetched` or to hand over `processed` does to the clones `k`:
the status of the answer and the clones afterwards. -/
inductive Turn (s : Surroundings) (fetched : Option Text) (processed : Option (Text × Value))
    (k : Stock) : Nat → Stock → Prop where
  | opened {r : Text} (hfetched : fetched = some r) (hprocessed : processed = none)
      (hfolder : s.folderFault = none) (hclone : s.cloneFault = none) :
      Turn s fetched processed k 200 (k.opened r s.repository)
  | undone {r : Text} (hfetched : fetched = some r) (hprocessed : processed = none)
      (hfolder : s.folderFault = none) (hclone : s.cloneFault ≠ none) :
      Turn s fetched processed k 500 (k.undone r)
  | closed {r : Text} {files : Value} {id : FolderId} (hfetched : fetched = none)
      (hprocessed : processed = some (r, files)) (hid : k.find? r = some id) :
      Turn s fetched processed k 200 (k.closed r id)
  | missing {r : Text} {files : Value} (hfetched : fetched = none)
      (hprocessed : processed = some (r, files)) (hid : k.find? r = none) :
      Turn s fetched processed k 404 k
  | idle {status : Nat} (hfetched : ∀ r, fetched = some r → s.folderFault ≠ none ∧ status ≠ 200)
      (hprocessed : ∀ r files, processed = some (r, files) → status ≠ 404 ∧
        (status = 200 → ∃ field rest, files = .dict (field :: rest)) ∧
        (r ≠ [] → files.isPresent = true → (k.find? r).isSome = true)) :
      Turn s fetched processed k status k

/-- The status that a result is answered with. -/
def statusOf : Except Fault Http.Response → Nat
  | .ok response => response.status
  | .error _ => 500

variable {s : Surroundings} {d : Desk Notes}

/-- The clones that a desk shows. -/
def stockOn (d : Desk Notes) : Stock := d.notes.site.stock

/-- The work takes one of the turns. -/
abbrev Turns (s : Surroundings) (fetched : Option Text) (processed : Option (Text × Value))
    (w : Job Http.Response) (d : Desk Notes) : Prop :=
  w.Ends d fun r d' => Turn s fetched processed (stockOn d) (statusOf r) (stockOn d')

/-- Where nothing is asked for, nothing happens. -/
theorem turns_idle {w : Job Http.Response} (h : w.Leaves stockOn) : Turns s none none w d := by
  refine (h.ends d).mono fun r d' h => ?_
  rw [h]
  exact .idle (by simp) (by simp)

section Fetch

theorem filter_fresh {disk : List (FolderId × Tree)} {n : FolderId}
    (hfresh : ∀ folder ∈ disk, folder.1 < n) : disk.filter (·.1 != n) = disk := by
  refine List.filter_eq_self.mpr fun folder hfolder => ?_
  simpa using Nat.ne_of_lt (hfresh folder hfolder)

theorem fill_fresh {disk : List (FolderId × Tree)} {n : FolderId}
    (hfresh : ∀ folder ∈ disk, folder.1 < n) (t : Tree) :
    disk.map (fun folder => (folder.1, if folder.1 == n then t else folder.2)) = disk := by
  have h (folder : FolderId × Tree) (hfolder : folder ∈ disk) :
      (folder.1, if folder.1 == n then t else folder.2) = folder := by
    rw [beq_eq_false_iff_ne.mpr (Nat.ne_of_lt (hfresh folder hfolder))]
    rfl
  rw [List.map_congr_left h, List.map_id']

theorem stock_cloned {site : Site} (hfresh : site.stock.IsFresh) (r : Text) (t : Tree) :
    (((site.makeFolder .empty).2.setClone r site.made).fillFolder site.made t).stock =
      site.stock.opened r t := by
  have hfresh : ∀ folder ∈ site.disk, folder.1 < site.made := hfresh
  have hfill : (site.disk ++ [(site.made, Tree.empty)]).map
      (fun folder => (folder.1, if folder.1 == site.made then t else folder.2)) =
        site.disk ++ [(site.made, t)] := by
    rw [List.map_append, fill_fresh hfresh]
    simp
  exact congrArg (fun disk => Stock.mk _ disk (site.made + 1)) hfill

theorem stock_undone {site : Site} {k : Stock} (hfresh : k.IsFresh) {r : Text} {t : Tree}
    (h : site.stock = k.opened r t) :
    ((site.removeFolder k.made).dropClone (.str r)).stock = k.undone r := by
  obtain ⟨board, clones, disk, made⟩ := site
  obtain ⟨rfl, rfl, rfl⟩ := Stock.mk.inj h
  simp [Site.stock, Site.removeFolder, Site.dropClone, Stock.undone, filter_fresh hfresh]

theorem clone_gives (hfresh : (stockOn d).IsFresh) (r : Text) :
    (clone s r).Gives d fun result d' =>
      (s.cloneFault = none ∧ result.isOk = true ∧
        stockOn d' = (stockOn d).opened r s.repository) ∨
      (∃ fault, s.cloneFault = some fault ∧ result = .error fault ∧
        stockOn d' = (stockOn d).undone r) := by
  have hopened := stock_cloned hfresh r s.repository
  unfold clone
  cases hclone : s.cloneFault with
  | none => exact ⟨_, _, rfl, .inl ⟨rfl, rfl, hopened⟩⟩
  | some fault => exact ⟨_, _, rfl, .inr ⟨fault, rfl, rfl, stock_undone hfresh hopened⟩⟩

theorem requestClear_gives (s : Surroundings) (d : Desk Notes) :
    (requestClear s).Gives d fun _ d' => stockOn d' = stockOn d := ⟨(), _, rfl, rfl⟩

theorem cloneRefusal_status (fault : Fault) : (cloneRefusal fault).status = 500 := by
  unfold cloneRefusal
  split <;> rfl

theorem fetchFrom_turns (hfresh : (stockOn d).IsFresh) (url : Text) :
    Turns s (repositoryId url).toOption none (fetchFrom s url) d := by
  obtain ⟨_, d₁, hclear, hd₁⟩ := requestClear_gives s d
  unfold Turns Work.Ends fetchFrom
  rw [Work.runOn_bind_ok hclear]
  cases hid : repositoryId url with
  | error fault =>
    simp only [Work.runOn_pure, statusOf, cloneRefusal_status, hd₁]
    exact .idle (by simp [Except.toOption]) (by simp)
  | ok r =>
    cases hfolder : s.folderFault with
    | some fault =>
      simp only [Work.runOn_pure, statusOf, cloneRefusal_status, hd₁]
      exact .idle (by simp [hfolder]) (by simp)
    | none =>
      dsimp only
      obtain ⟨result, d₂, hrun, h⟩ := clone_gives (s := s) (hd₁ ▸ hfresh) r
      rw [Work.runOn_bind_ok hrun]
      rw [hd₁] at h
      obtain ⟨hclone, hresult, h⟩ | ⟨fault, hclone, rfl, h⟩ := h
      · cases result with
        | error fault => cases hresult
        | ok id =>
          simp only [Work.runOn_pure, h]
          exact .opened rfl rfl hfolder hclone
      · simp only [Work.runOn_pure, statusOf, cloneRefusal_status, h]
        exact .undone rfl rfl hfolder (by simp [hclone])

variable {fields : Fields}

theorem fetch_address {url : Text} (h : addressIn fields = some url) :
    (fetch s (.dict fields)).runOn d = (fetchFrom s url).runOn d := by
  obtain ⟨hgiven, hstart⟩ := Option.filter_eq_some_iff.mp h
  have hurl : fields.getD "github_url" .null = .str url := Value.text?_eq_some.mp hgiven
  have hpresent : (Value.str url).isPresent = true :=
    Value.isPresent_str fun hnil => by
      subst hnil
      cases hstart
  simp [fetch, Value.asFields, Value.asText, Work.runOn_bind, hurl, hpresent, hstart]

theorem fetch_no_address (h : addressIn fields = none) :
    ((fetch s (.dict fields)).runOn d).2 = d := by
  cases hpresent : (fields.getD "github_url" .null).isPresent with
  | false => simp [fetch, Value.asFields, Work.runOn_bind, hpresent]
  | true =>
    cases hgiven : (fields.getD "github_url" .null).text? with
    | none =>
      simp [fetch, Value.asFields, Work.runOn_bind, hpresent, Value.asText_of_no_text hgiven]
    | some url =>
      have hstart : Text.startsWith "https://github.com/" url = false := by
        simpa [addressIn, hgiven] using h
      have hurl : fields.getD "github_url" .null = .str url := Value.text?_eq_some.mp hgiven
      rw [hurl] at hpresent
      simp [fetch, Value.asFields, Value.asText, Work.runOn_bind, hpresent, hurl, hstart]

theorem fetch_turns (hfresh : (stockOn d).IsFresh) (fields : Fields) :
    Turns s (fetchedIn fields) none (fetch s (.dict fields)) d := by
  unfold Turns Work.Ends fetchedIn
  cases haddress : addressIn fields with
  | none =>
    rw [fetch_no_address haddress]
    exact .idle (by simp) (by simp)
  | some url =>
    rw [fetch_address haddress]
    exact fetchFrom_turns hfresh url

end Fetch

section Process

theorem setProgress_leaves (repo : Value) (fields : Fields) :
    (setProgress repo fields).Leaves stockOn := by
  intro d
  unfold setProgress putEntry
  split <;> rfl

theorem selection_error {files : Value} {n : Nat} {fault : Fault} (hsize : files.size = .ok n)
    (h : selection files = .error fault) : ∃ field rest, files = .dict (field :: rest) := by
  cases files with
  | dict fields =>
    cases fields with
    | nil => cases h
    | cons field rest => exact ⟨field, rest, rfl⟩
  | list items => cases h
  | str text => cases h
  | _ => cases hsize

/-- A hand-over that cannot even begin leaves the clones as they are. -/
theorem handOver_refused {repo files : Value} {fault : Fault} (hrepo : repo.isHashable = true)
    (h : selection files = .error fault) (id : FolderId) :
    (handOver s repo files id).Gives d fun _ d' => stockOn d' = stockOn d := by
  refine Work.Gives.tryCatch (Work.Leaves.ends ?_ d) (fun _ _ h => h) fun fault' d' h' => ?_
  · refine (Work.Leaves.lift _).bind fun total => (setProgress_leaves _ _).bind fun _ => ?_
    rw [h]
    exact .throw fault
  · refine (setProgress_gives hrepo _).mono fun _ d'' h'' => ?_
    exact (congrArg Situation.stock h'').trans h'

/-- How the start of a hand-over may end: the clone is done with, or nothing has happened to it. The
latter goes with status 200 only if the files are selected by a dictionary. -/
def Started (repo files : Value) (id : FolderId) (site : Site) (status : Nat) (k : Stock) : Prop :=
  (status = 200 ∧ k = (site.cleaned repo id).stock) ∨
    (k = site.stock ∧ (status = 500 ∨
      (status = 200 ∧ ∃ field rest, files = .dict (field :: rest))))

section
variable {repo files : Value}

theorem Started.of_stock {id : FolderId} {site site' : Site} {status : Nat} {k : Stock}
    (h : Started repo files id site status k) (hsite : site.stock = site'.stock) :
    Started repo files id site' status k := by
  unfold Started at h ⊢
  rwa [← hsite, ← Site.cleaned_stock hsite]

theorem handOver_started (hrepo : repo.isHashable = true) {n : Nat}
    (hsize : files.size = .ok n) (id : FolderId) :
    (handOver s repo files id).Gives d fun _ d' =>
      Started repo files id d.notes.site 200 (stockOn d') := by
  cases hfiles : selection files with
  | ok members =>
    refine (handOver_gives hrepo hfiles).mono fun _ d' h => .inl ⟨rfl, ?_⟩
    exact congrArg Situation.stock h
  | error fault =>
    refine (handOver_refused hrepo hfiles id).mono fun _ d' h => .inr ⟨h, .inr ⟨rfl, ?_⟩⟩
    exact selection_error hsize hfiles

theorem start_gives (hrepo : repo.isHashable = true) (id : FolderId) :
    (start s repo files id).Gives d fun response d' =>
      Started repo files id d.notes.site response.status (stockOn d') := by
  refine Work.Gives.tryCatch
    (E := fun r d' => (∃ response, r = .ok response ∧
        Started repo files id d.notes.site response.status (stockOn d')) ∨
      ∃ fault, r = .error fault ∧ stockOn d' = stockOn d)
    ((Work.Ends.lift files.size d).bind ?_ ?_) ?_ ?_
  · rintro total d₀ ⟨hsize, rfl⟩
    refine (setProgress_gives hrepo _).bind_ends fun _ d₁ h => ?_
    have h₁ : stockOn d₁ = stockOn d₀ := congrArg Situation.stock h
    cases hworker : s.workerFault with
    | some fault => exact .inr ⟨fault, rfl, h₁⟩
    | none =>
      refine (handOver_started hrepo hsize.symm id).bind_ends fun _ d₂ hstarted => ?_
      exact .inl ⟨_, rfl, hstarted.of_stock h₁⟩
  · rintro fault _ ⟨-, rfl⟩
    exact .inr ⟨fault, rfl, rfl⟩
  · rintro response d' (⟨_, h, hstarted⟩ | ⟨fault, h, -⟩)
    · cases h
      exact hstarted
    · cases h
  · rintro fault d' (⟨_, h, -⟩ | ⟨_, -, h⟩)
    · cases h
    · refine (setProgress_gives hrepo _).bind fun _ d'' h'' => Work.Gives.pure (.inr ⟨?_, .inl rfl⟩)
      exact (congrArg Situation.stock h'').trans h

end

theorem processedIn_eq_some {fields : Fields} {r : Text} {files : Value} :
    processedIn fields = some (r, files) ↔
      fields.getD "repo_id" .null = .str r ∧ fields.getD "selected_files" .null = files := by
  simp [processedIn, Value.text?_eq_some]

section
variable {fields : Fields} {repo files : Value}
  (hrepo : fields.getD "repo_id" .null = repo) (hfiles : fields.getD "selected_files" .null = files)

include hrepo hfiles

theorem process_incomplete (h : files.isPresent = false ∨ repo.isPresent = false) :
    (process s (.dict fields)).runOn d =
      (.ok (refusal 400 "Selected files and repo ID are required."), d) := by
  simp [process, Value.asFields, Work.runOn_bind, hrepo, hfiles, h]

variable (hpresent : files.isPresent = true ∧ repo.isPresent = true)

include hpresent

theorem process_unhashable (hhash : repo.isHashable = false) :
    (process s (.dict fields)).runOn d = (.error (.notHashable repo.typeName), d) := by
  simp [process, Value.asFields, Work.runOn_bind, hrepo, hfiles, hpresent, hhash]

variable (hhash : repo.isHashable = true)

include hhash

theorem process_missing (h : (d.notes.site.cloneOf? repo).filter d.notes.site.hasFolder = none) :
    (process s (.dict fields)).runOn d =
      (.ok (refusal 404 "Repository not found or session expired. Please re-clone."), d) := by
  simp [process, Value.asFields, Work.runOn_bind, runOn_site, hrepo, hfiles, hpresent, hhash, h]

theorem process_found {id : FolderId}
    (h : (d.notes.site.cloneOf? repo).filter d.notes.site.hasFolder = some id) :
    (process s (.dict fields)).runOn d = (start s repo files id).runOn d := by
  simp [process, Value.asFields, Work.runOn_bind, runOn_site, hrepo, hfiles, hpresent, hhash, h]

end

theorem Started.turn {r : Text} {files : Value} {id : FolderId} {site : Site} {status : Nat}
    {k : Stock} (h : Started (.str r) files id site status k) (hid : site.stock.find? r = some id) :
    Turn s none (some (r, files)) site.stock status k := by
  obtain ⟨rfl, rfl⟩ | ⟨rfl, hstatus⟩ := h
  · have hfolder : site.hasFolder id = true := (Option.filter_eq_some_iff.mp hid).2
    have hclosed : (site.cleaned (.str r) id).stock = site.stock.closed r id := by
      rw [Site.cleaned, if_pos hfolder]
      rfl
    rw [hclosed]
    exact .closed rfl rfl hid
  · refine .idle (by simp) fun r' files' heq => ?_
    obtain ⟨rfl, rfl⟩ := Prod.mk.inj (Option.some.inj heq)
    refine ⟨?_, ?_, fun _ _ => by rw [hid]; rfl⟩
    · rcases hstatus with rfl | ⟨rfl, -⟩ <;> decide
    · intro hok
      rcases hstatus with rfl | ⟨-, h⟩
      · cases hok
      · exact h

theorem process_turns (fields : Fields) :
    Turns s none (processedIn fields) (process s (.dict fields)) d := by
  obtain ⟨repo, hrepo⟩ : ∃ repo, fields.getD "repo_id" .null = repo := ⟨_, rfl⟩
  obtain ⟨files, hfiles⟩ : ∃ files, fields.getD "selected_files" .null = files := ⟨_, rfl⟩
  have hnamed {r : Text} {files' : Value} :
      processedIn fields = some (r, files') ↔ repo = .str r ∧ files = files' := by
    rw [processedIn_eq_some, hrepo, hfiles]
  unfold Turns Work.Ends
  by_cases hpresent : files.isPresent = true ∧ repo.isPresent = true
  · cases hhash : repo.isHashable with
    | false =>
      rw [process_unhashable hrepo hfiles hpresent hhash]
      refine .idle (by simp) fun r files' h => ?_
      obtain ⟨rfl, -⟩ := hnamed.mp h
      cases hhash
    | true =>
      cases hid : (d.notes.site.cloneOf? repo).filter d.notes.site.hasFolder with
      | none =>
        rw [process_missing hrepo hfiles hpresent hhash hid]
        cases repo with
        | str r => exact .missing rfl (hnamed.mpr ⟨rfl, rfl⟩) hid
        | _ => exact .idle (by simp) fun r files' h => by cases (hnamed.mp h).1
      | some id =>
        rw [process_found hrepo hfiles hpresent hhash hid]
        cases repo with
        | str r =>
          obtain ⟨response, d', hrun, hstarted⟩ := start_gives (s := s) (d := d) hhash id
          rw [hrun, hnamed.mpr ⟨rfl, rfl⟩]
          exact hstarted.turn hid
        | _ => cases hid
  · have hincomplete : files.isPresent = false ∨ repo.isPresent = false := by
      simpa [Decidable.imp_iff_not_or] using hpresent
    rw [process_incomplete hrepo hfiles hincomplete]
    change Turn s none (processedIn fields) (stockOn d) 400 (stockOn d)
    refine .idle (by simp) fun r files' h => ⟨by decide, by simp, fun hr hf => ?_⟩
    obtain ⟨rfl, rfl⟩ := hnamed.mp h
    exact absurd ⟨hf, Value.isPresent_str hr⟩ hpresent

end Process

section Handle
variable {fetched : Fields → Option Text} {processed : Fields → Option (Text × Value)}

theorem withDocument_turns {f : Value → Job Http.Response} (r : Http.Request)
    (hfields : ∀ fields, Turns s (fetched fields) (processed fields) (f (.dict fields)) d)
    (hother : ∀ v fault, v.asFields = .error fault → (f v).Leaves stockOn) :
    Turns s ((fieldsOf r).bind fetched) ((fieldsOf r).bind processed) (withDocument r f) d := by
  unfold withDocument fieldsOf
  cases r.payload with
  | document v =>
    cases hv : v.asFields with
    | ok fields =>
      obtain rfl := Value.asFields_eq_ok.mp hv
      exact hfields fields
    | error fault =>
      cases v with
      | dict fields => cases hv
      | _ => exact turns_idle (hother _ fault hv)
  | malformed => exact turns_idle (.pure _)
  | notJson => exact turns_idle (.pure _)
  | failed fault => exact turns_idle (.throw fault)

theorem leaves_of_asFields {v : Value} {fault : Fault} (h : v.asFields = .error fault)
    (k : Fields → Job Http.Response) : (Work.lift v.asFields >>= k).Leaves stockOn := by
  rw [h]
  exact .throw fault

theorem report_leaves (parameters : List (Text × Text)) :
    (report parameters).Leaves stockOn := by
  unfold report
  change Work.Leaves stockOn (if _ then _ else _)
  split
  · exact .pure _
  · refine Work.Leaves.bind (.of_runOn fun d => rfl) fun here => ?_
    split
    · exact .pure _
    · exact (Work.Leaves.lift _).bind fun _ => .pure _

theorem caught_turns {fetched : Option Text} {processed : Option (Text × Value)}
    {w : Job Http.Response} (h : Turns s fetched processed w d) :
    (tryCatch w fun _ => return ⟨500, none⟩).Gives d fun response d' =>
      Turn s fetched processed (stockOn d) response.status (stockOn d') := by
  refine Work.Gives.tryCatch h (fun response d' h => h) fun fault d' h => ?_
  exact Work.Gives.pure h

theorem serve_turns (hfresh : (stockOn d).IsFresh) (path : Text) (r : Http.Request) :
    Turns s ((if path = fetchPath then fieldsOf r else none).bind fetchedIn)
      ((if path = processPath then fieldsOf r else none).bind processedIn) (serve s path r) d := by
  unfold serve
  by_cases hfetch : path = fetchPath
  · subst hfetch
    have hdiffer : fetchPath ≠ processPath := by decide
    have h : Turns s ((fieldsOf r).bind fetchedIn) ((fieldsOf r).bind fun _ => none)
        (withDocument r (fetch s)) d :=
      withDocument_turns r (fetch_turns hfresh) fun v fault hv => leaves_of_asFields hv _
    simpa [hdiffer] using h
  · by_cases hprocess : path = processPath
    · subst hprocess
      have h : Turns s ((fieldsOf r).bind fun _ => none) ((fieldsOf r).bind processedIn)
          (withDocument r (process s)) d :=
        withDocument_turns r process_turns fun v fault hv => leaves_of_asFields hv _
      simpa [hfetch] using h
    · simpa [hfetch, hprocess] using turns_idle (report_leaves r.target.parameters)

theorem handle_gives (hfresh : (stockOn d).IsFresh) (v : Visit) :
    (handle v.surroundings v.request).Gives d fun response d' =>
      Turn v.surroundings v.fetched? v.processed? (stockOn d) response.status (stockOn d') := by
  unfold handle Visit.fetched? Visit.processed? documentFor
  cases v.request.dispatch routes with
  | run path =>
    have hserve := serve_turns (s := v.surroundings) hfresh path v.request
    refine (caught_turns hserve).bind fun response d' h => Work.Gives.pure ?_
    have hstatus : (response.sentTo v.request).status = response.status := by
      unfold Http.Response.sentTo
      split <;> rfl
    rw [hstatus]
    exact h
  | _ => exact Work.Gives.pure (.idle (by simp) (by simp))

/-- Every request to a site takes one of the turns. -/
theorem Visit.turn (v : Visit) {site : Site} (hfresh : site.stock.IsFresh) :
    ∃ status, v.status site = some status ∧
      Turn v.surroundings v.fetched? v.processed? site.stock status (site.after v).stock := by
  obtain ⟨response, d', hrun, h⟩ := handle_gives (d := ⟨v.database, { site }⟩) hfresh v
  refine ⟨response.status, ?_, ?_⟩
  · unfold Visit.status Visit.outcome
    rw [hrun]
    rfl
  · unfold Site.after Visit.outcome
    rw [hrun]
    exact h

end Handle

end CodeAtlas.Checkout
