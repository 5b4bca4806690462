import CodeAtlas.Proofs.CloneSessions
import CodeAtlas.Proofs.ExceptLaws
import CodeAtlas.Proofs.TreeListing
import CodeAtlas.Proofs.UploadReach

/-! From the listing of a repository to the hand-over of its files. The paths that a listing shows
are relative to the clone, and a hand-over takes them from the clone again. Other requests may come
in between; as long as they do not touch the clone, every selection from the listing is uploaded,
but for the links that lead nowhere. -/
namespace CodeAtlas.Checkout

section Located
variable {s : Surroundings} {site : Site} {id : FolderId} {path : Text} {t : Tree}

theorem fullPath_of_names (id : FolderId)
    (h : ∀ name ∈ Text.split '/' path, Path.isName name = true) :
    fullPath id path = cloneFolder id ++ CodePoint.ofChar '/' :: path := by
  have hstart : Text.startsWith "/" path = false := by
    cases path with
    | nil => rfl
    | cons c cs =>
      by_cases hc : c = CodePoint.ofChar '/'
      · have hempty := h [] (by simp [Text.split, hc])
        cases hempty
      · change (CodePoint.ofChar '/' == c && _) = false
        rw [beq_false_of_ne (Ne.symm hc), Bool.false_and]
  rw [fullPath, hstart]
  exact (List.append_cons _ _ path).symm

/-- A path made up of names leads to what is found at these names in the clone. -/
theorem locate_of_names (hdisk : site.disk.lookup id = some t)
    (hnames : ∀ name ∈ Text.split '/' path, Path.isName name = true) :
    locate s site id path = t.at? (Text.split '/' path) := by
  have hall : ∀ name ∈ ("tmp" : Text) :: folderName id :: Text.split '/' path,
      Path.isName name = true := by
    intro name hname
    rcases List.mem_cons.mp hname with rfl | hname
    · rfl
    · rcases List.mem_cons.mp hname with rfl | hname
      · exact isName_folderName id
      · exact hnames name hname
  have hat := machine_at?_clone site s.outside id (Text.split '/' path)
  rw [resolve_cloneFolder, hdisk] at hat
  rw [locate, fullPath_of_names id hnames, Tree.find?, Text.split_append, split_cloneFolder]
  change (Tree.follow [] _ ("tmp" :: folderName id :: Text.split '/' path)).bind Tree.seen? = _
  rw [Tree.follow_names hall]
  exact hat

end Located

namespace Stock

/-- The repository has a clone with the given tree in it. -/
def Holds (k : Stock) (r : Text) (t : Tree) : Prop :=
  ∃ id, k.clones.lookup r = some id ∧ k.disk.lookup id = some t

theorem IsFresh.holds_opened {k : Stock} (h : k.IsFresh) (r : Text) (t : Tree) :
    (k.opened r t).Holds r t := by
  refine ⟨k.made, by simp [lookup_opened], ?_⟩
  have hnone : k.disk.lookup k.made = none :=
    lookup_eq_none_of_forall_ne fun folder hfolder => Nat.ne_of_lt (h folder hfolder)
  simp [opened, List.lookup_append, hnone]

end Stock

section Kept
variable {r : Text} {t : Tree} {k k' : Stock}

/-- A request that answers an attempt to clone with 200 has cloned. -/
theorem Turn.of_opens {s : Surroundings} {fetched : Option Text} {processed : Option (Text × Value)}
    {status : Nat} (h : Turn s fetched processed k status k') (hfetched : fetched = some r)
    (hstatus : status = 200) :
    s.folderFault = none ∧ s.cloneFault = none ∧ k' = k.opened r s.repository := by
  subst hfetched
  cases h with
  | opened h _ hfolder hclone =>
    cases h
    exact ⟨hfolder, hclone, rfl⟩
  | undone => cases hstatus
  | closed h => cases h
  | missing h => cases h
  | idle h => exact absurd hstatus (h r rfl).2

/-- A clone stays as it is through a request that neither opens nor closes its session. -/
theorem Turn.holds {e : Exchange}
    (h : Turn e.visit.surroundings e.visit.fetched? e.visit.processed? k e.status k')
    (hk : k.WellKept) (hholds : k.Holds r t) (hopens : ¬ e.Opens r) (hcloses : ¬ e.Closes r) :
    k'.Holds r t := by
  obtain ⟨v, status⟩ := e
  obtain ⟨id, hclone, hdisk⟩ := hholds
  dsimp only at h
  cases h with
  | @opened r₀ hfetched _ _ _ =>
    have hr : r ≠ r₀ := fun heq => hopens ⟨heq ▸ hfetched, rfl⟩
    refine ⟨id, ?_, ?_⟩
    · rw [Stock.lookup_opened, if_neg hr, hclone]
    · simp [Stock.opened, List.lookup_append, hdisk]
  | @undone r₀ hfetched _ hfolder hfault =>
    have hr : r ≠ r₀ := fun heq => hcloses (.inl ⟨⟨heq ▸ hfetched, hfolder⟩, hfault⟩)
    refine ⟨id, ?_, hdisk⟩
    rw [Stock.undone, lookup_filter_ne, if_neg hr, hclone]
  | @closed r₀ files id₀ _ hprocessed hid =>
    have hr : r ≠ r₀ := fun heq => hcloses (.inr ⟨files, heq ▸ hprocessed, rfl⟩)
    -- The folder that goes is the other repository's own.
    have hne : id ≠ id₀ := by
      rw [hk.find?_eq_lookup] at hid
      exact fun heq => hr (hk.own_folder _ (mem_of_lookup hclone) _ (mem_of_lookup hid) heq)
    refine ⟨id, ?_, ?_⟩
    · rw [Stock.closed, lookup_filter_ne, if_neg hr, hclone]
    · rw [Stock.closed, lookup_filter_ne, if_neg hne, hdisk]
  | missing => exact ⟨id, hclone, hdisk⟩
  | idle => exact ⟨id, hclone, hdisk⟩

variable {history before after : List Exchange} {site : Site} {v : Visit}

/-- The clone that a request made is still there after a run of others that leave it alone. -/
theorem Run.holds (hrun : Run history site) (hhistory : history = before ++ ⟨v, 200⟩ :: after)
    (hfetched : v.fetched? = some r) (hafter : ∀ e ∈ after, ¬ e.Opens r ∧ ¬ e.Closes r) :
    ∃ start, Run before start ∧ v.status start = some 200 ∧
      site.stock.Holds r v.surroundings.repository := by
  induction hrun generalizing after with
  | start => simp at hhistory
  | @visit history site v' status hrun hstatus ih =>
    obtain ⟨status', hstatus', hturn⟩ := v'.turn hrun.wellKept.fresh
    obtain rfl : status' = status := Option.some.inj (hstatus'.symm.trans hstatus)
    obtain rfl | ⟨after, last, rfl⟩ := List.eq_nil_or_concat' after
    · obtain ⟨rfl, hlast⟩ := List.append_inj' hhistory rfl
      obtain ⟨rfl, rfl⟩ := Exchange.mk.inj (List.singleton_inj.mp hlast)
      obtain ⟨-, -, hopened⟩ := hturn.of_opens hfetched rfl
      refine ⟨site, hrun, hstatus, ?_⟩
      rw [hopened]
      exact hrun.wellKept.fresh.holds_opened r _
    · rw [← List.cons_append, ← List.append_assoc] at hhistory
      obtain ⟨rfl, hlast⟩ := List.append_inj' hhistory rfl
      obtain rfl := List.singleton_inj.mp hlast
      obtain ⟨start, hstart, hanswered, hholds⟩ :=
        ih rfl fun e he => hafter e (List.mem_append_left _ he)
      obtain ⟨hopens, hcloses⟩ := hafter ⟨v', status'⟩ (by simp)
      refine ⟨start, hstart, hanswered, ?_⟩
      exact Turn.holds (e := ⟨v', status'⟩) hturn hrun.wellKept hholds hopens hcloses

end Kept

section Answered
variable {v : Visit} {site : Site} {r : Text} {fields : Fields} {response : Http.Response}
  {d : Desk Notes}

theorem documentFor_eq_some {request : Http.Request} {path : Text}
    (h : documentFor request path = some fields) :
    request.dispatch routes = .run path ∧ request.payload = .document (.dict fields) := by
  unfold documentFor at h
  split at h
  next asked hasked =>
    split at h
    next heq =>
      subst heq
      refine ⟨hasked, ?_⟩
      unfold fieldsOf at h
      split at h
      next hpayload =>
        cases h
        exact hpayload
      · cases h
    · cases h
  · cases h

/-- The paths that take a document are not served to a request for the head of an answer. -/
theorem method_ne_head {request : Http.Request} {path : Text}
    (hpath : path = fetchPath ∨ path = processPath) (h : request.dispatch routes = .run path) :
    (request.method == "HEAD") = false := by
  cases hhead : request.method == "HEAD" with
  | false => rfl
  | true =>
    have hasked : request.asked = "HEAD" := by
      rw [Http.Request.asked, eq_of_beq hhead]
      rfl
    have hroute : (Http.findRoute? routes path).any (·.allows "HEAD") = false := by
      rcases hpath with rfl | rfl <;> rfl
    unfold Http.Request.dispatch at h
    rw [hasked] at h
    dsimp only at h
    split at h
    next hallows =>
      split at h
      · cases h
      · split at h
        · cases h
          rw [hroute] at hallows
          cases hallows
        · cases h
    · split at h
      · cases h
      · split at h <;> cases h

theorem outcome_of_serve {path : Text} (hpath : path = fetchPath ∨ path = processPath)
    (hdispatch : v.request.dispatch routes = .run path)
    (hserve : (serve v.surroundings path v.request).runOn ⟨v.database, { site }⟩ =
      (.ok response, d)) : v.outcome site = (.ok response, d) := by
  have hsent : response.sentTo v.request = response := by
    rw [Http.Response.sentTo, method_ne_head hpath hdispatch]
    rfl
  unfold Visit.outcome handle
  rw [hdispatch]
  dsimp only
  have hcaught := Work.runOn_tryCatch (serve v.surroundings path v.request)
    (fun _ => return ⟨500, none⟩) ⟨v.database, { site }⟩
  rw [hserve] at hcaught
  rw [Work.runOn_bind_ok hcaught, hsent]
  rfl

theorem outcome_fetch (hdocument : documentFor v.request fetchPath = some fields)
    (hrun : (fetch v.surroundings (.dict fields)).runOn ⟨v.database, { site }⟩ =
      (.ok response, d)) : v.outcome site = (.ok response, d) := by
  obtain ⟨hdispatch, hpayload⟩ := documentFor_eq_some hdocument
  apply outcome_of_serve (.inl rfl) hdispatch
  rw [← hrun]
  simp [serve, withDocument, hpayload]

theorem outcome_process (hdocument : documentFor v.request processPath = some fields)
    (hrun : (process v.surroundings (.dict fields)).runOn ⟨v.database, { site }⟩ =
      (.ok response, d)) : v.outcome site = (.ok response, d) := by
  obtain ⟨hdispatch, hpayload⟩ := documentFor_eq_some hdocument
  apply outcome_of_serve (.inr rfl) hdispatch
  rw [← hrun]
  have hdiffer : processPath ≠ fetchPath := by decide
  simp [serve, withDocument, hpayload, hdiffer]

theorem fetched?_eq_some (h : v.fetched? = some r) : ∃ fields url,
    documentFor v.request fetchPath = some fields ∧ addressIn fields = some url ∧
      repositoryId url = .ok r := by
  obtain ⟨fields, hdocument, hin⟩ := Option.bind_eq_some_iff.mp h
  obtain ⟨url, hurl, hid⟩ := Option.bind_eq_some_iff.mp hin
  refine ⟨fields, url, hdocument, hurl, ?_⟩
  cases hname : repositoryId url with
  | error fault => simp [hname, Except.toOption] at hid
  | ok r' => simpa [hname, Except.toOption] using hid

/-- The answer to a request that has cloned a repository. -/
def listingAnswer (r : Text) (files : List Text) : Http.Response :=
  answer 200 [
    ("success", .bool true),
    ("message", .str "Repository cloned successfully. Select files."),
    ("files", .list (files.map .str)),
    ("repo_id", .str r)]

theorem fetchFrom_gives {s : Surroundings} {url : Text} (hfresh : (stockOn d).IsFresh)
    (hid : repositoryId url = .ok r) (hfolder : s.folderFault = none)
    (hclone : s.cloneFault = none) :
    (fetchFrom s url).Gives d fun response _ =>
      response = listingAnswer r s.repository.listing := by
  apply (requestClear_gives s d).bind
  intro _ d₁ hd₁
  rw [hid, hfolder]
  apply (clone_gives (hd₁ ▸ hfresh) r).bind
  rintro result d₂ (⟨-, hresult, -⟩ | ⟨fault, hfault, -⟩)
  · cases result with
    | error fault => cases hresult
    | ok id => exact Work.Gives.pure rfl
  · cases hclone.symm.trans hfault

theorem outcome_of_opens (hk : site.stock.WellKept) (hfetched : v.fetched? = some r)
    (hstatus : v.status site = some 200) :
    (v.outcome site).1 = .ok (listingAnswer r v.surroundings.repository.listing) := by
  obtain ⟨status, hsome, hturn⟩ := v.turn hk.fresh
  obtain ⟨hfolder, hclone, -⟩ :=
    hturn.of_opens hfetched (Option.some.inj (hsome.symm.trans hstatus))
  obtain ⟨fields, url, hdocument, hurl, hid⟩ := fetched?_eq_some hfetched
  obtain ⟨response, d, hrun, rfl⟩ :=
    fetchFrom_gives (d := ⟨v.database, { site }⟩) hk.fresh hid hfolder hclone
  rw [← fetch_address hurl] at hrun
  rw [outcome_fetch hdocument hrun]

/-- The answer to a request that has handed files over. -/
def handOverAnswer (r : Text) : Http.Response :=
  answer 200 [
    ("success", .bool true),
    ("message", .str "File processing started"),
    ("repo_id", .str r)]

theorem start_handsOver {s : Surroundings} (hworker : s.workerFault = none) (files : List Value)
    (id : FolderId) :
    (start s (.str r) (.list files) id).Gives d fun response d' => response = handOverAnswer r ∧
      situation (.str r) d' =
        { account := some (accountAtEnd s (upload? s d.notes.site (.str r) id) files
            d.database.connectFault)
          uploads := d.notes.log.uploads ++ files.filterMap (upload? s d.notes.site (.str r) id)
          stock := (d.notes.site.cleaned (.str r) id).stock
          connectFault := d.database.connectFault } := by
  apply Work.Gives.tryCatch_ok
  apply Work.Gives.lift_bind rfl
  apply (setProgress_gives rfl _).bind
  intro _ d₁ h₁
  have hstock : d₁.notes.site.stock = d.notes.site.stock := congrArg Situation.stock h₁
  have huploads : d₁.notes.log.uploads = d.notes.log.uploads := congrArg Situation.uploads h₁
  have hconnect : d₁.database.connectFault = d.database.connectFault :=
    congrArg Situation.connectFault h₁
  rw [hworker]
  apply (handOver_gives rfl rfl).bind
  intro _ d₂ h₂
  rw [upload?_of_stock hstock, huploads, hconnect, Site.cleaned_stock hstock] at h₂
  exact Work.Gives.pure ⟨rfl, h₂⟩

/-- A worker that cannot be started leaves an entry without any count. -/
theorem start_idle {s : Surroundings} {fault : Fault} (hworker : s.workerFault = some fault)
    (files : List Value) (id : FolderId) :
    (start s (.str r) (.list files) id).Gives d fun response d' => response.status = 500 ∧
      situation (.str r) d' =
        { situation (.str r) d with account := some ⟨none, none, none, some (.str "error")⟩ } := by
  refine Work.Gives.tryCatch
    (E := fun result d' => result = .error fault ∧
      ∃ a, situation (.str r) d' = { situation (.str r) d with account := a })
    (Work.Ends.bind_of_ok rfl ?_) ?_ ?_
  · refine (setProgress_gives rfl _).bind_ends fun _ d₁ h₁ => ?_
    rw [hworker]
    exact ⟨rfl, _, h₁⟩
  · rintro response d' ⟨h, -⟩
    cases h
  · rintro _ d' ⟨-, a, h⟩
    refine (setProgress_gives rfl _).bind fun _ d'' h'' => Work.Gives.pure ⟨rfl, ?_⟩
    rw [h'', h]
    rfl

/-- A request for files of a clone that is there comes to what its worker is started for. -/
theorem outcome_of_start {files : List Value} {id : FolderId} (hr : r ≠ []) (hfiles : files ≠ [])
    (hprocessed : v.processed? = some (r, .list files)) (hid : site.stock.find? r = some id)
    {Q : Http.Response → Desk Notes → Prop}
    (hstart : (start v.surroundings (.str r) (.list files) id).Gives ⟨v.database, { site }⟩ Q) :
    ∃ response d, v.outcome site = (.ok response, d) ∧ Q response d := by
  obtain ⟨fields, hdocument, hin⟩ := Option.bind_eq_some_iff.mp hprocessed
  obtain ⟨hrepo, hselected⟩ := processedIn_eq_some.mp hin
  have hfound := process_found (s := v.surroundings) (d := ⟨v.database, { site }⟩) hrepo hselected
    ⟨Value.isPresent_list hfiles, Value.isPresent_str hr⟩ rfl hid
  obtain ⟨response, d, hrun, hd⟩ := hstart
  exact ⟨response, d, outcome_process hdocument (hfound.trans hrun), hd⟩

end Answered

section Listed
variable {s : Surroundings} {site : Site} {id : FolderId} {r : Text} {t : Tree}

theorem length_sha256 (bs : List UInt8) : (Digest.sha256 bs).length = 64 := by
  simp [Digest.sha256, Digest.Words.toList, Digest.hexWord]

theorem repositoryId_ne_nil {url : Text} (h : repositoryId url = .ok r) : r ≠ [] := by
  unfold repositoryId at h
  obtain ⟨bs, -, hr⟩ := Except.bind_eq_ok.mp h
  cases hr
  exact List.ne_nil_of_length_pos (by rw [length_sha256]; decide)

/-- The upload of a file of a repository. -/
def listedUpload (bucket r path : Text) : Upload where
  bucket
  name := "cloned_repos/" ++ r ++ "/" ++ path
  metadata := .dict [
    ("repo_id", .str r),
    ("file_path", .str path),
    ("file_name", .str ((Text.split '/' path).getLastD ""))]
  text := none

theorem uploadOf_eq (s : Surroundings) (r path : Text) :
    uploadOf s (.str r) path = listedUpload s.bucket r path := by
  have hlast : Path.baseName path = (Text.split '/' path).getLastD "" := by
    rw [List.getLastD_eq_getLast?, Text.split_getLast?]
    rfl
  rw [uploadOf, hlast]
  rfl

/-- Every path that is listed for a clone can be uploaded, unless a link there leads nowhere. -/
theorem upload?_of_listed (hdisk : site.disk.lookup id = some t) (hnamed : t.IsWellNamed)
    {path : Text} (hpath : path ∈ t.listing)
    (haccepted : s.refusals.lookup ("cloned_repos/" ++ r ++ "/" ++ path) = none) :
    upload? s site (.str r) id (.str path) =
      if t.isDeadAt path then none else some (listedUpload s.bucket r path) := by
  have hfound := hnamed.at?_of_listing hpath
  rw [← locate_of_names (s := s) hdisk (hnamed.of_listing hpath).2] at hfound
  have haccepted : s.refusals.lookup (storedName (.str r) (.str path)) = none := haccepted
  simp only [upload?, hfound, haccepted, uploadOf_eq]
  cases t.isDeadAt path <;> rfl

/-- The paths that have an upload and the others are told apart, each in their order. -/
theorem tallyOf_of_uploads {u : Value → Option Upload} {f : Text → Upload} {dead : Text → Bool}
    {paths : List Text}
    (h : ∀ path ∈ paths, u (.str path) = if dead path then none else some (f path)) :
    tallyOf u (paths.map .str) =
        ⟨(paths.filter (!dead ·)).map .str, (paths.filter dead).map .str⟩ ∧
      (paths.map .str).filterMap u = (paths.filter (!dead ·)).map f := by
  induction paths with
  | nil => exact ⟨rfl, rfl⟩
  | cons path paths ih =>
    have hpath := h path List.mem_cons_self
    obtain ⟨htally, huploads⟩ := ih fun path hmem => h path (List.mem_cons_of_mem _ hmem)
    obtain ⟨huploaded, hfailed⟩ := Tally.mk.inj htally
    cases hdead : dead path with
    | true =>
      rw [hdead, if_pos rfl] at hpath
      simp [tallyOf, hpath, hdead, huploaded, hfailed, huploads]
    | false =>
      rw [hdead, if_neg Bool.false_ne_true] at hpath
      simp [tallyOf, hpath, hdead, huploaded, hfailed, huploads]

end Listed

/-- How a hand-over of paths ends if it can take all of them but the dead ones. -/
structure HandsOver (w : Visit) (site : Site) (r : Text) (paths : List Text)
    (dead : Text → Bool) : Prop where
  answer : (w.outcome site).1 = .ok (handOverAnswer r)
  uploads : (w.outcome site).2.notes.log.uploads =
    (paths.filter (!dead ·)).map (listedUpload w.surroundings.bucket r)
  account : ∃ entry : Fields, (site.after w).board.get? (.str r) = some (.dict entry) ∧
    entry.get? "total_files" = some (.int paths.length) ∧
    entry.get? "processed" = some (.int (paths.filter (!dead ·)).length) ∧
    entry.get? "failed_files" =
      if (paths.filter dead).isEmpty then none else some (.list ((paths.filter dead).map .str))

/-- A selection from what is listed for a clone is handed over. -/
theorem handsOver_of_listed {w : Visit} {site : Site} {r : Text} {t : Tree} {paths : List Text}
    (hkept : site.stock.WellKept) (hholds : site.stock.Holds r t) (hr : r ≠ [])
    (hnamed : t.IsWellNamed) (hprocessed : w.processed? = some (r, .list (paths.map .str)))
    (hsome : paths ≠ []) (hlisted : ∀ path ∈ paths, path ∈ t.listing)
    (haccepted : ∀ path ∈ paths,
      w.surroundings.refusals.lookup ("cloned_repos/" ++ r ++ "/" ++ path) = none)
    (hworker : w.surroundings.workerFault = none) : HandsOver w site r paths t.isDeadAt := by
  obtain ⟨id, hclone, hdisk⟩ := hholds
  have hfind : site.stock.find? r = some id := by rw [hkept.find?_eq_lookup, hclone]
  obtain ⟨_, d, houtcome, rfl, hd⟩ := outcome_of_start hr (by simpa using hsome) hprocessed hfind
    (start_handsOver hworker _ id)
  have hu : ∀ path ∈ paths, upload? w.surroundings site (.str r) id (.str path) =
      if t.isDeadAt path then none else some (listedUpload w.surroundings.bucket r path) :=
    fun path hpath => upload?_of_listed hdisk hnamed (hlisted path hpath) (haccepted path hpath)
  obtain ⟨htally, huploads⟩ := tallyOf_of_uploads hu
  obtain ⟨entry, hentry, haccount⟩ := account_eq_some (congrArg Situation.account hd)
  rw [accountAtEnd, htally, List.length_map, List.length_map, List.isEmpty_map] at haccount
  constructor
  · rw [houtcome]
  · rw [houtcome, ← huploads]
    exact congrArg Situation.uploads hd
  · refine ⟨entry, ?_, ?_, ?_, ?_⟩
    · rw [Site.after, houtcome]
      exact hentry
    · exact (congrArg Account.total haccount).symm
    · exact (congrArg Account.processed haccount).symm
    · exact (congrArg Account.failed haccount).symm

/-- Once a repository has been cloned, any selection from the files that were listed can be handed
over, whatever other requests come in between, as long as the repository is neither cloned again nor
handed over and the worker can be started. Each path is then uploaded and counted as processed,
except that links that lead nowhere are counted as failed; without links there are none of these. -/
theorem listed_files_are_handed_over {before after : List Exchange} {v : Visit} {r : Text}
    {site : Site} (hrun : Run (before ++ ⟨v, 200⟩ :: after) site) (hfetched : v.fetched? = some r)
    (hafter : ∀ e ∈ after, ¬ e.Opens r ∧ ¬ e.Closes r)
    (hnamed : v.surroundings.repository.IsWellNamed) :
    (∃ start, Run before start ∧
      (v.outcome start).1 = .ok (listingAnswer r v.surroundings.repository.listing)) ∧
    (∀ (w : Visit) (paths : List Text), w.processed? = some (r, .list (paths.map .str)) →
      paths ≠ [] → (∀ path ∈ paths, path ∈ v.surroundings.repository.listing) →
      (∀ path ∈ paths,
        w.surroundings.refusals.lookup ("cloned_repos/" ++ r ++ "/" ++ path) = none) →
      w.surroundings.workerFault = none →
      HandsOver w site r paths v.surroundings.repository.isDeadAt) ∧
    (v.surroundings.repository.IsSound →
      ∀ path, v.surroundings.repository.isDeadAt path = false) := by
  obtain ⟨start, hstart, hstatus, hholds⟩ := hrun.holds rfl hfetched hafter
  refine ⟨⟨start, hstart, outcome_of_opens hstart.wellKept hfetched hstatus⟩, ?_, ?_⟩
  · intro w paths hprocessed hsome hlisted haccepted hworker
    obtain ⟨_, _, -, -, hid⟩ := fetched?_eq_some hfetched
    exact handsOver_of_listed hrun.wellKept hholds (repositoryId_ne_nil hid) hnamed hprocessed
      hsome hlisted haccepted hworker
  · intro hsound path
    exact hsound.isDeadAt path

/-- A selection of files by their texts, read off a request. -/
theorem processed?_eq_texts {v : Visit} {r : Text} {paths : List Text}
    (h : v.processed?.map (fun p => (p.1, p.2.texts?)) = some (r, some paths)) :
    v.processed? = some (r, .list (paths.map .str)) := by
  obtain ⟨⟨r', files⟩, hv, h⟩ := Option.map_eq_some_iff.mp h
  simp only [Prod.mk.injEq] at h
  rw [hv, h.1, Value.texts?_eq_some h.2]

/-- Beside files and folders, hidden or not, the repository has a link of each kind. -/
def listedTree : Tree := .folder [
  ("src", .folder [("a.py", .file), (".git", .folder [("config", .file)])]),
  (".env", .file),
  ("b.py", .link .file),
  ("docs", .link .folder),
  ("gone.py", .link .nowhere)]

theorem listedTree_isWellNamed : listedTree.IsWellNamed := by
  refine .folder (by decide) (by decide) ?_
  simp only [List.forall_mem_cons, List.not_mem_nil, false_implies, implies_true, and_true]
  refine ⟨.folder (by decide) (by decide) ?_, .file, .link _, .link _, .link _⟩
  simp only [List.forall_mem_cons, List.not_mem_nil, false_implies, implies_true, and_true]
  exact ⟨.file, .folder (by decide) (by decide) (List.forall_mem_singleton.mpr .file)⟩

def listedFetch : Visit :=
  { sampleFetch none with
    surroundings := { settings := [], bucket := "b", repository := listedTree } }

/-- The files are given as they are written in the request. -/
def listedHandOver (files : Text) : Visit :=
  sampleVisit processPath
    ("\x7b\"selected_files\": [" ++ files ++ "], \"repo_id\": \"" ++ sampleRepository ++ "\"\x7d")
    none

theorem listedFetch_fetched : listedFetch.fetched? = some sampleRepository :=
  (sampleFetch_attempts none).1

/-- In between, another repository is asked for. -/
def listedSite : Site := (Site.after {} listedFetch).after (sampleHandOver "x")

theorem listedRun : Run [⟨listedFetch, 200⟩, ⟨sampleHandOver "x", 404⟩] listedSite :=
  (Run.start.visit (by decide +kernel)).visit (by decide +kernel)

theorem listedSite_untouched : ∀ e ∈ [(⟨sampleHandOver "x", 404⟩ : Exchange)],
    ¬ e.Opens sampleRepository ∧ ¬ e.Closes sampleRepository := by
  intro e he
  rw [List.mem_singleton.mp he]
  constructor
  · rintro ⟨hfetched, -⟩
    cases hfetched
  · rintro (⟨⟨hfetched, -⟩, -⟩ | ⟨files, -, hstatus⟩)
    · cases hfetched
    · cases hstatus

theorem listedSite_holds : listedSite.stock.Holds sampleRepository listedTree := by
  have hrun : Run ([] ++ ⟨listedFetch, 200⟩ :: [⟨sampleHandOver "x", 404⟩]) listedSite := listedRun
  obtain ⟨_, -, -, hholds⟩ := hrun.holds rfl listedFetch_fetched listedSite_untouched
  exact hholds

/-- One path is selected twice. -/
def selectedPaths : List Text := ["src/a.py", "gone.py", "b.py", "src/a.py"]

def livePaths : List Text := ["src/a.py", "b.py", "src/a.py"]

theorem selectedPaths_listed : ∀ path ∈ selectedPaths, path ∈ listedTree.listing := by
  simp only [Tree.mem_listing]
  decide +kernel

def selectedHandOver : Visit :=
  listedHandOver "\"src/a.py\", \"gone.py\", \"b.py\", \"src/a.py\""

theorem listed_files_are_handed_over_sample :
    Run [⟨listedFetch, 200⟩, ⟨sampleHandOver "x", 404⟩] listedSite ∧
    (∀ path ∈ selectedPaths, path ∈ listedTree.listing) ∧
    (selectedHandOver.outcome listedSite).1 = .ok (handOverAnswer sampleRepository) ∧
    (selectedHandOver.outcome listedSite).2.notes.log.uploads =
      livePaths.map (listedUpload "b" sampleRepository) ∧
    ∃ entry : Fields,
      (listedSite.after selectedHandOver).board.get? (.str sampleRepository) =
        some (.dict entry) ∧
      entry.get? "total_files" = some (.int 4) ∧ entry.get? "processed" = some (.int 3) ∧
      entry.get? "failed_files" = some (.list [.str "gone.py"]) := by
  have hprocessed : selectedHandOver.processed? =
      some (sampleRepository, .list (selectedPaths.map .str)) :=
    processed?_eq_texts (by decide +kernel)
  have hrun : Run ([] ++ ⟨listedFetch, 200⟩ :: [⟨sampleHandOver "x", 404⟩]) listedSite := listedRun
  obtain ⟨-, hhandOver, -⟩ := listed_files_are_handed_over hrun listedFetch_fetched
    listedSite_untouched listedTree_isWellNamed
  obtain ⟨hanswer, huploads, entry, hentry, htotal, hcount, hfailed⟩ :=
    hhandOver selectedHandOver _ hprocessed (by decide) selectedPaths_listed (fun _ _ => rfl) rfl
  have hlive : (selectedPaths.filter fun path => !listedTree.isDeadAt path) = livePaths := by
    decide +kernel
  have hdead : selectedPaths.filter listedTree.isDeadAt = [Text.ofString "gone.py"] := by
    decide +kernel
  rw [show listedFetch.surroundings.repository = listedTree from rfl] at huploads hcount hfailed
  rw [hlive] at huploads hcount
  rw [hdead] at hfailed
  exact ⟨listedRun, selectedPaths_listed, hanswer, huploads, entry, hentry, htotal, hcount,
    hfailed⟩

/-- A link that leads nowhere is all that is selected. -/
def deadHandOver : Visit := listedHandOver "\"gone.py\""

theorem deadHandOver_handsOver :
    deadHandOver.processed? = some (sampleRepository, .list [.str "gone.py"]) ∧
    HandsOver deadHandOver listedSite sampleRepository ["gone.py"] listedTree.isDeadAt := by
  have hprocessed : deadHandOver.processed? =
      some (sampleRepository, .list ([Text.ofString "gone.py"].map .str)) :=
    processed?_eq_texts (by decide +kernel)
  refine ⟨hprocessed, handsOver_of_listed listedRun.wellKept listedSite_holds (by decide)
    listedTree_isWellNamed hprocessed (by decide) ?_ (fun _ _ => rfl) rfl⟩
  exact List.forall_mem_singleton.mpr (selectedPaths_listed _ (by decide))

/-- The worker cannot be started. -/
def idleHandOver : Visit :=
  { listedHandOver "\"src/a.py\"" with
    surroundings := {
      settings := []
      bucket := "b"
      workerFault := some (.service .runtime "can't start new thread") } }

theorem idleHandOver_stops :
    idleHandOver.processed? = some (sampleRepository, .list [.str "src/a.py"]) ∧
    idleHandOver.status listedSite = some 500 ∧
    (idleHandOver.outcome listedSite).2.notes.log.uploads = [] ∧
    ∃ entry : Fields,
      (listedSite.after idleHandOver).board.get? (.str sampleRepository) = some (.dict entry) ∧
      entry.get? "processed" = none := by
  have hprocessed : idleHandOver.processed? =
      some (sampleRepository, .list ([Text.ofString "src/a.py"].map .str)) :=
    processed?_eq_texts (by decide +kernel)
  obtain ⟨id, hclone, -⟩ := listedSite_holds
  rw [← listedRun.wellKept.find?_eq_lookup] at hclone
  obtain ⟨response, d, houtcome, hstatus, hd⟩ :=
    outcome_of_start (by decide) (by simp) hprocessed hclone (start_idle rfl _ id)
  obtain ⟨entry, hentry, haccount⟩ := account_eq_some (congrArg Situation.account hd)
  refine ⟨hprocessed, ?_, ?_, entry, ?_, (congrArg Account.processed haccount).symm⟩
  · rw [Visit.status, houtcome, ← hstatus]
    rfl
  · rw [houtcome]
    exact congrArg Situation.uploads hd
  · rw [Site.after, houtcome]
    exact hentry

/-- A link that leads nowhere is listed, but nothing is uploaded when it is selected, and it is
counted as failed. Nor is anything uploaded or counted when the worker cannot be started. -/
theorem dead_link_and_idle_worker_not_handed_over :
    Run [⟨listedFetch, 200⟩, ⟨sampleHandOver "x", 404⟩] listedSite ∧
    (Text.ofString "gone.py" ∈ listedTree.listing ∧
      deadHandOver.processed? = some (sampleRepository, .list [.str "gone.py"]) ∧
      (deadHandOver.outcome listedSite).2.notes.log.uploads = [] ∧
      ∃ entry : Fields,
        (listedSite.after deadHandOver).board.get? (.str sampleRepository) = some (.dict entry) ∧
        entry.get? "processed" = some (.int 0) ∧
        entry.get? "failed_files" = some (.list [.str "gone.py"])) ∧
    Text.ofString "src/a.py" ∈ listedTree.listing ∧
      idleHandOver.processed? = some (sampleRepository, .list [.str "src/a.py"]) ∧
      idleHandOver.status listedSite = some 500 ∧
      (idleHandOver.outcome listedSite).2.notes.log.uploads = [] ∧
      ∃ entry : Fields,
        (listedSite.after idleHandOver).board.get? (.str sampleRepository) = some (.dict entry) ∧
        entry.get? "processed" = none := by
  obtain ⟨hgone, -, huploads, entry, hentry, -, hcount, hfailed⟩ := deadHandOver_handsOver
  have hdead : [Text.ofString "gone.py"].filter listedTree.isDeadAt =
      [Text.ofString "gone.py"] := by decide +kernel
  have hlive : ([Text.ofString "gone.py"].filter fun path => !listedTree.isDeadAt path) = [] := by
    decide +kernel
  rw [hlive] at huploads hcount
  rw [hdead] at hfailed
  exact ⟨listedRun, ⟨selectedPaths_listed _ (by decide), hgone, huploads, entry, hentry, hcount,
    hfailed⟩, selectedPaths_listed _ (by decide), idleHandOver_stops⟩

end CodeAtlas.Checkout
