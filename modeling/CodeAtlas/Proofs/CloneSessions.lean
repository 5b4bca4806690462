import CodeAtlas.Proofs.VisitTurns

/-! The life of a clone over any run of requests. A repository can be handed over from the request
that cloned it until a later attempt to clone it fails or its files have been handed over. All this
is read off the turns that a request can take. -/
namespace CodeAtlas.Checkout

namespace Stock

theorem lookup_opened (k : Stock) (r r' : Text) (t : Tree) :
    (k.opened r t).clones.lookup r' = if r' = r then some k.made else k.clones.lookup r' := by
  rw [Stock.opened, List.lookup_append, lookup_filter_ne]
  by_cases hr : r' = r
  · simp [hr]
  · simp [hr, List.lookup_cons, beq_eq_false_iff_ne.mpr hr]

/-- Every clone has a folder, which exists and is no other repository's, and numbers of folders are
not used again. -/
structure WellKept (k : Stock) : Prop where
  folder_exists : ∀ c ∈ k.clones, (k.disk.lookup c.2).isSome = true
  own_folder : ∀ c ∈ k.clones, ∀ c' ∈ k.clones, c.2 = c'.2 → c.1 = c'.1
  fresh : k.IsFresh

namespace WellKept
variable {k : Stock}

theorem clone_lt_made (hk : k.WellKept) {c : Text × FolderId} (hc : c ∈ k.clones) :
    c.2 < k.made := by
  obtain ⟨folder, hfolder, hid⟩ := List.lookup_isSome_iff.mp (hk.folder_exists c hc)
  rw [eq_of_beq hid]
  exact hk.fresh folder hfolder

theorem find?_eq_lookup (hk : k.WellKept) (r : Text) : k.find? r = k.clones.lookup r := by
  unfold find?
  cases h : k.clones.lookup r with
  | none => rfl
  | some id => simp [hk.folder_exists _ (mem_of_lookup h)]

protected theorem opened (hk : k.WellKept) (r : Text) (t : Tree) : (k.opened r t).WellKept where
  folder_exists c hc := by
    obtain hc | hc := List.mem_append.mp hc
    · have h := hk.folder_exists c (List.mem_filter.mp hc).1
      simp only [Stock.opened, List.lookup_append, Option.isSome_or, h, Bool.true_or]
    · obtain rfl := List.mem_singleton.mp hc
      simp [Stock.opened, List.lookup_append]
  own_folder c hc c' hc' h := by
    have hold {c : Text × FolderId} (hc : c ∈ k.clones.filter (·.1 != r)) : c.2 < k.made :=
      hk.clone_lt_made (List.mem_filter.mp hc).1
    obtain hc | hc := List.mem_append.mp hc <;> obtain hc' | hc' := List.mem_append.mp hc'
    · exact hk.own_folder c (List.mem_filter.mp hc).1 c' (List.mem_filter.mp hc').1 h
    · obtain rfl := List.mem_singleton.mp hc'
      exact absurd h (Nat.ne_of_lt (hold hc))
    · obtain rfl := List.mem_singleton.mp hc
      exact absurd h (Nat.ne_of_gt (hold hc'))
    · rw [List.mem_singleton.mp hc, List.mem_singleton.mp hc']
  fresh folder hfolder := by
    obtain h | h := List.mem_append.mp hfolder
    · exact Nat.lt_succ_of_lt (hk.fresh folder h)
    · rw [List.mem_singleton.mp h]
      exact Nat.lt_succ_self k.made

protected theorem undone (hk : k.WellKept) (r : Text) : (k.undone r).WellKept where
  folder_exists c hc := hk.folder_exists c (List.mem_filter.mp hc).1
  own_folder c hc c' hc' :=
    hk.own_folder c (List.mem_filter.mp hc).1 c' (List.mem_filter.mp hc').1
  fresh folder hfolder := Nat.lt_succ_of_lt (hk.fresh folder hfolder)

-- The folder that is removed belongs to no repository but `r`, so no other clone loses its folder.
protected theorem closed (hk : k.WellKept) {r : Text} {id : FolderId} (hid : k.find? r = some id) :
    (k.closed r id).WellKept where
  folder_exists c hc := by
    obtain ⟨hc, hr⟩ := List.mem_filter.mp hc
    rw [hk.find?_eq_lookup] at hid
    have hne : c.2 ≠ id := fun h => by
      have := hk.own_folder c hc _ (mem_of_lookup hid) h
      simp [this] at hr
    obtain ⟨folder, hfolder, h⟩ := List.lookup_isSome_iff.mp (hk.folder_exists c hc)
    refine List.lookup_isSome_iff.mpr ⟨folder, List.mem_filter.mpr ⟨hfolder, ?_⟩, h⟩
    rw [← eq_of_beq h]
    exact bne_iff_ne.mpr hne
  own_folder c hc c' hc' :=
    hk.own_folder c (List.mem_filter.mp hc).1 c' (List.mem_filter.mp hc').1
  fresh folder hfolder := hk.fresh folder (List.mem_filter.mp hfolder).1

end WellKept

end Stock

namespace Turn
variable {s : Surroundings} {fetched : Option Text} {processed : Option (Text × Value)}
  {k k' : Stock} {status : Nat}

protected theorem wellKept (h : Turn s fetched processed k status k') (hk : k.WellKept) :
    k'.WellKept := by
  cases h with
  | opened => exact hk.opened _ _
  | undone => exact hk.undone _
  | closed _ _ hid => exact hk.closed hid
  | missing => exact hk
  | idle => exact hk

/-- A hand-over that names a repository and files is refused just where there is no clone. -/
theorem missing_iff (h : Turn s fetched processed k status k') {r : Text} {files : Value}
    (hprocessed : processed = some (r, files)) (hr : r ≠ []) (hfiles : files.isPresent = true) :
    status = 404 ↔ k.find? r = none := by
  subst hprocessed
  cases h with
  | opened _ h => cases h
  | undone _ h => cases h
  | closed _ h hid =>
    cases h
    simp [hid]
  | missing _ h hid =>
    cases h
    simp [hid]
  | idle _ h =>
    obtain ⟨hstatus, -, hfound⟩ := h r files rfl
    simp [hstatus, Option.isSome_iff_ne_none.mp (hfound hr hfiles)]

/-- An attempt to clone has one of two ends, and which one is up to the surroundings. -/
theorem of_attempt (h : Turn s fetched processed k status k') {r : Text}
    (hfetched : fetched = some r) (hfolder : s.folderFault = none) :
    (s.cloneFault = none ∧ status = 200 ∧ k' = k.opened r s.repository) ∨
      (s.cloneFault ≠ none ∧ status = 500 ∧ k' = k.undone r) := by
  subst hfetched
  cases h with
  | opened h _ _ hclone =>
    cases h
    exact .inl ⟨hclone, rfl, rfl⟩
  | undone h _ _ hclone =>
    cases h
    exact .inr ⟨hclone, rfl, rfl⟩
  | closed h => cases h
  | missing h => cases h
  | idle h => exact absurd hfolder (h r rfl).1

/-- What is not answered with 200 changes no folder, and only a clone that was attempted is lost. -/
theorem of_status_ne (h : Turn s fetched processed k status k') (hstatus : status ≠ 200) :
    (k' = k ∧ ∀ r, fetched = some r → s.folderFault ≠ none) ∨
      ∃ r, fetched = some r ∧ s.folderFault = none ∧ k' = k.undone r := by
  cases h with
  | opened => exact absurd rfl hstatus
  | undone hfetched _ hfolder => exact .inr ⟨_, hfetched, hfolder, rfl⟩
  | closed => exact absurd rfl hstatus
  | missing hfetched => exact .inl ⟨rfl, fun r h => by rw [hfetched] at h; cases h⟩
  | idle hfetched => exact .inl ⟨rfl, fun r h => (hfetched r h).1⟩

end Turn

/-- The request gets as far as cloning the repository. -/
def Visit.Attempts (v : Visit) (r : Text) : Prop :=
  v.fetched? = some r ∧ v.surroundings.folderFault = none

/-- The request selects the files of a repository by the keys of a dictionary. -/
def Visit.SelectsByKeys (v : Visit) : Prop := ∃ r fields, v.processed? = some (r, .dict fields)

/-- A request and the status of its answer. -/
structure Exchange where
  visit : Visit
  status : Nat

namespace Exchange

/-- The repository was cloned. -/
def Opens (e : Exchange) (r : Text) : Prop := e.visit.fetched? = some r ∧ e.status = 200

/-- Cloning the repository failed, or its files were handed over. -/
def Closes (e : Exchange) (r : Text) : Prop :=
  (e.visit.Attempts r ∧ e.visit.surroundings.cloneFault ≠ none) ∨
    ∃ files, e.visit.processed? = some (r, files) ∧ e.status = 200

end Exchange

theorem Turn.hasClone_iff {e : Exchange} {k k' : Stock}
    (h : Turn e.visit.surroundings e.visit.fetched? e.visit.processed? k e.status k')
    (hkeys : ¬ e.visit.SelectsByKeys) (r : Text) :
    (k'.clones.lookup r).isSome = true ↔
      e.Opens r ∨ ((k.clones.lookup r).isSome = true ∧ ¬ e.Closes r) := by
  obtain ⟨v, status⟩ := e
  unfold Exchange.Opens Exchange.Closes Visit.Attempts
  dsimp only at h hkeys ⊢
  cases h with
  | @opened r₀ hfetched hprocessed hfolder hclone =>
    rw [Stock.lookup_opened, hfetched, hprocessed, hclone]
    by_cases hr : r = r₀
    · simp [hr]
    · simp [hr, Ne.symm hr]
  | @undone r₀ hfetched hprocessed hfolder hclone =>
    rw [Stock.undone, lookup_filter_ne, hfetched, hprocessed, hfolder]
    by_cases hr : r = r₀
    · simp [hr, hclone]
    · simp [hr, Ne.symm hr]
  | @closed r₀ files id hfetched hprocessed hid =>
    rw [Stock.closed, lookup_filter_ne, hfetched, hprocessed]
    by_cases hr : r = r₀
    · simp [hr]
    · simp [hr, Ne.symm hr]
  | missing hfetched hprocessed hid => simp [hfetched]
  | idle hfetched hprocessed =>
    have hopens : ¬ (v.fetched? = some r ∧ status = 200) := fun h => (hfetched r h.1).2 h.2
    have hattempts : ¬ (v.fetched? = some r ∧ v.surroundings.folderFault = none) :=
      fun h => (hfetched r h.1).1 h.2
    have hdone : ¬ ∃ files, v.processed? = some (r, files) ∧ status = 200 := by
      rintro ⟨files, hfiles, hstatus⟩
      obtain ⟨field, rest, rfl⟩ := (hprocessed r files hfiles).2.1 hstatus
      exact hkeys ⟨r, _, hfiles⟩
    simp only [hopens, hattempts, hdone, false_and, or_false, false_or, not_false_eq_true, and_true]

/-- The repository was cloned, and since then neither did cloning it fail nor were its files handed
over. -/
def IsOpen (r : Text) (history : List Exchange) : Prop :=
  ∃ before e after, history = before ++ e :: after ∧ e.Opens r ∧ ∀ e' ∈ after, ¬ e'.Closes r

theorem isOpen_concat (r : Text) (history : List Exchange) (e : Exchange) :
    IsOpen r (history ++ [e]) ↔ e.Opens r ∨ (IsOpen r history ∧ ¬ e.Closes r) := by
  constructor
  · rintro ⟨before, e', after, heq, hopens, hafter⟩
    obtain rfl | ⟨after, last, rfl⟩ := List.eq_nil_or_concat' after
    · obtain ⟨-, h⟩ := List.append_inj' heq rfl
      obtain rfl := List.singleton_inj.mp h
      exact .inl hopens
    · rw [← List.cons_append, ← List.append_assoc] at heq
      obtain ⟨rfl, h⟩ := List.append_inj' heq rfl
      obtain rfl := List.singleton_inj.mp h
      refine .inr ⟨⟨before, e', after, rfl, hopens, fun e'' he'' => ?_⟩, ?_⟩
      · exact hafter e'' (List.mem_append_left _ he'')
      · exact hafter e (by simp)
  · rintro (hopens | ⟨⟨before, e', after, rfl, hopens, hafter⟩, hcloses⟩)
    · exact ⟨history, e, [], rfl, hopens, by simp⟩
    · refine ⟨before, e', after ++ [e], by simp, hopens, fun e'' he'' => ?_⟩
      obtain h | h := List.mem_append.mp he''
      · exact hafter e'' h
      · rwa [List.mem_singleton.mp h]

/-- The exchanges of a service that began with nothing, and the site as they leave it. -/
inductive Run : List Exchange → Site → Prop where
  | start : Run [] {}
  | visit {history : List Exchange} {site : Site} {v : Visit} {status : Nat}
      (hrun : Run history site) (hstatus : v.status site = some status) :
      Run (history ++ [⟨v, status⟩]) (site.after v)

variable {history : List Exchange} {site : Site} {v : Visit}

theorem Run.wellKept (hrun : Run history site) : site.stock.WellKept := by
  induction hrun with
  | start => exact ⟨by simp [Site.stock], by simp [Site.stock], by simp [Stock.IsFresh, Site.stock]⟩
  | @visit history site v status _ _ ih =>
    obtain ⟨_, -, hturn⟩ := v.turn ih.fresh
    exact hturn.wellKept ih

theorem Run.hasClone_iff (hrun : Run history site) (hkeys : ∀ e ∈ history, ¬ e.visit.SelectsByKeys)
    (r : Text) : (site.clones.lookup r).isSome = true ↔ IsOpen r history := by
  induction hrun with
  | start => simp [IsOpen]
  | @visit history site v status hrun hstatus ih =>
    obtain ⟨status', hstatus', hturn⟩ := v.turn hrun.wellKept.fresh
    obtain rfl : status' = status := Option.some.inj (hstatus'.symm.trans hstatus)
    have hstep := Turn.hasClone_iff (e := ⟨v, status'⟩) hturn (hkeys _ (by simp)) r
    rw [isOpen_concat, ← ih fun e he => hkeys e (by simp [he])]
    exact hstep

/-- Every request is answered. -/
theorem Run.exists_visit (hrun : Run history site) (v : Visit) :
    ∃ status, Run (history ++ [⟨v, status⟩]) (site.after v) := by
  obtain ⟨status, hstatus, -⟩ := v.turn hrun.wellKept.fresh
  exact ⟨status, hrun.visit hstatus⟩

theorem clones_of_attempt (hk : site.stock.WellKept) {r : Text} (hattempts : v.Attempts r) :
    (v.surroundings.cloneFault = none → v.status site = some 200 ∧
      (site.after v).clones = site.clones.filter (·.1 != r) ++ [(r, site.made)]) ∧
    (v.surroundings.cloneFault ≠ none → v.status site = some 500 ∧
      (site.after v).clones = site.clones.filter (·.1 != r)) := by
  obtain ⟨status, hstatus, hturn⟩ := v.turn hk.fresh
  obtain ⟨hclone, rfl, h⟩ | ⟨hclone, rfl, h⟩ := hturn.of_attempt hattempts.1 hattempts.2
  · exact ⟨fun _ => ⟨hstatus, congrArg Stock.clones h⟩, fun hne => absurd hclone hne⟩
  · exact ⟨fun heq => absurd heq hclone, fun _ => ⟨hstatus, congrArg Stock.clones h⟩⟩

theorem attempt_succeeds_iff (hk : site.stock.WellKept) {r : Text} (hattempts : v.Attempts r) :
    v.status site = some 200 ↔ v.surroundings.cloneFault = none := by
  obtain ⟨hopened, hundone⟩ := clones_of_attempt hk hattempts
  constructor
  · intro hstatus
    by_contra hclone
    rw [(hundone hclone).1] at hstatus
    cases hstatus
  · intro hclone
    exact (hopened hclone).1

theorem missing_iff_no_clone (hk : site.stock.WellKept) {r : Text} {files : Value}
    (hprocessed : v.processed? = some (r, files)) (hr : r ≠ []) (hfiles : files.isPresent = true) :
    v.status site = some 404 ↔ site.clones.lookup r = none := by
  obtain ⟨status, hstatus, hturn⟩ := v.turn hk.fresh
  have h := hturn.missing_iff hprocessed hr hfiles
  rw [hk.find?_eq_lookup] at h
  rw [hstatus, Option.some.injEq]
  exact h

/-- Over any run of requests every clone keeps a folder of its own. After it every request is
answered, an attempt to clone succeeds unless the surroundings fail, and just the repositories whose
session is open can be handed over. -/
theorem clones_are_sessions (hrun : Run history site) :
    (∀ v, ∃ status, Run (history ++ [⟨v, status⟩]) (site.after v)) ∧
    (∀ (v : Visit) (r : Text), v.Attempts r →
      (v.status site = some 200 ↔ v.surroundings.cloneFault = none)) ∧
    (∀ c ∈ site.clones, site.hasFolder c.2 = true) ∧
    (∀ c ∈ site.clones, ∀ c' ∈ site.clones, c.2 = c'.2 → c.1 = c'.1) ∧
    ((∀ e ∈ history, ¬ e.visit.SelectsByKeys) →
      ∀ (v : Visit) (r : Text) (files : List Value), v.processed? = some (r, .list files) →
        r ≠ [] → files ≠ [] → (v.status site = some 404 ↔ ¬ IsOpen r history)) := by
  have hk := hrun.wellKept
  refine ⟨hrun.exists_visit, fun v r => attempt_succeeds_iff hk, hk.folder_exists,
    hk.own_folder, ?_⟩
  intro hkeys v r files hv hr hfiles
  rw [missing_iff_no_clone hk hv hr (Value.isPresent_list hfiles), ← hrun.hasClone_iff hkeys]
  exact Option.not_isSome_iff_eq_none.symm

/-- A request by which a document is sent to a path. -/
def sampleVisit (path document : Text) (cloneFault : Option Fault) : Visit where
  surroundings := { settings := [], bucket := "b", cloneFault }
  database := .barren
  request := {
    method := "POST"
    target := ⟨path, []⟩
    body := some ⟨"application/json", Text.encodeUtf8 document⟩ }

def sampleFetch (cloneFault : Option Fault) : Visit :=
  sampleVisit fetchPath "\x7b\"github_url\": \"https://github.com/username/repo\"\x7d" cloneFault

def sampleHandOver (repo : Text) : Visit :=
  sampleVisit processPath
    ("\x7b\"selected_files\": [\"a.py\"], \"repo_id\": \"" ++ repo ++ "\"\x7d") none

/-- The repository that `sampleFetch` asks for. -/
def sampleRepository : Text := "bf6c02c0968d532e195af38bf67cb02417a9ec36a3730b054299ebffa92a6eae"

theorem sampleFetch_attempts (cloneFault : Option Fault) :
    (sampleFetch cloneFault).Attempts sampleRepository := by
  have h : (sampleFetch none).fetched? = some sampleRepository := by decide +kernel
  exact ⟨h, rfl⟩

/-- The site after `sampleFetch`. -/
def sampleSite : Site := Site.after {} (sampleFetch none)

theorem sampleFetch_opens :
    (sampleFetch none).status {} = some 200 ∧ sampleSite.clones = [(sampleRepository, 0)] :=
  (clones_of_attempt Run.start.wellKept (sampleFetch_attempts none)).1 rfl

theorem sampleRun : Run [⟨sampleFetch none, 200⟩] sampleSite := Run.start.visit sampleFetch_opens.1

theorem exists_listed {v : Visit} {r : Text}
    (h : v.processed?.map (fun p => (p.1, p.2.typeName, p.2.isPresent)) =
      some (r, Text.ofString "list", true)) :
    ∃ files, v.processed? = some (r, .list files) ∧ files ≠ [] := by
  obtain ⟨⟨r', selected⟩, hv, h⟩ := Option.map_eq_some_iff.mp h
  simp only [Prod.mk.injEq] at h
  obtain ⟨rfl, htype, hpresent⟩ := h
  cases selected with
  | list files =>
    refine ⟨files, hv, ?_⟩
    rintro rfl
    cases hpresent
  | _ => cases htype

theorem sampleHandOver_listed : ∃ files,
    (sampleHandOver sampleRepository).processed? = some (sampleRepository, .list files) ∧
      files ≠ [] :=
  exists_listed (by decide +kernel)

theorem clones_are_sessions_sample :
    (sampleHandOver sampleRepository).status sampleSite ≠ some 404 ∧
      (sampleHandOver "x").status sampleSite = some 404 := by
  have hkeys : ∀ e ∈ [(⟨sampleFetch none, 200⟩ : Exchange)], ¬ e.visit.SelectsByKeys := by
    rintro e he ⟨r, fields, h⟩
    rw [List.mem_singleton.mp he] at h
    have hnone : (sampleFetch none).processed?.isNone = true := by decide +kernel
    rw [h] at hnone
    cases hnone
  have hfetched := (sampleFetch_attempts none).1
  have hsessions := (clones_are_sessions sampleRun).2.2.2.2 hkeys
  constructor
  · obtain ⟨files, hv, hfiles⟩ := sampleHandOver_listed
    have hopen : IsOpen sampleRepository [⟨sampleFetch none, 200⟩] :=
      ⟨[], _, [], rfl, ⟨hfetched, rfl⟩, by simp⟩
    rw [ne_eq, hsessions _ _ _ hv (by decide) hfiles]
    exact not_not_intro hopen
  · obtain ⟨files, hv, hfiles⟩ := exists_listed (v := sampleHandOver "x") (r := "x")
      (by decide +kernel)
    refine (hsessions _ _ _ hv (by decide) hfiles).mpr ?_
    intro hopen
    obtain ⟨hopens, -⟩ | ⟨hnone, -⟩ := (isOpen_concat "x" [] _).mp hopen
    · cases hfetched.symm.trans hopens
    · simp [IsOpen] at hnone

/-- Without a name for the repository, files and a repository are asked for, though nothing has been
cloned. -/
theorem nameless_hand_over_not_missing :
    Run [] {} ∧ ¬ IsOpen [] [] ∧ (sampleHandOver []).status {} = some 400 ∧
      ∃ files, (sampleHandOver []).processed? = some ([], .list files) ∧ files ≠ [] :=
  ⟨.start, by simp [IsOpen], by decide +kernel, exists_listed (by decide +kernel)⟩

theorem after_of_failure (hk : site.stock.WellKept) (hstatus : v.status site ≠ some 200) :
    ((site.after v).stock = site.stock ∧ ∀ r, ¬ v.Attempts r) ∨
      ∃ r, v.Attempts r ∧ (site.after v).stock = site.stock.undone r := by
  obtain ⟨status, hsome, hturn⟩ := v.turn hk.fresh
  have hne : status ≠ 200 := fun h => hstatus (h ▸ hsome)
  obtain ⟨h, hfolder⟩ | ⟨r, hfetched, hfolder, h⟩ := hturn.of_status_ne hne
  · exact .inl ⟨h, fun r hr => hfolder r hr.1 hr.2⟩
  · exact .inr ⟨r, ⟨hfetched, hfolder⟩, h⟩

theorem lookup_of_failure (hk : site.stock.WellKept) (hstatus : v.status site ≠ some 200)
    (r : Text) :
    (v.Attempts r → (site.after v).clones.lookup r = none) ∧
      (¬ v.Attempts r → (site.after v).clones.lookup r = site.clones.lookup r) := by
  obtain ⟨h, hnone⟩ | ⟨r₀, hattempts, h⟩ := after_of_failure hk hstatus
  · have hclones : (site.after v).clones = site.clones := congrArg Stock.clones h
    exact ⟨fun hr => absurd hr (hnone r), fun _ => by rw [hclones]⟩
  · have hclones : (site.after v).clones = site.clones.filter (·.1 != r₀) :=
      congrArg Stock.clones h
    rw [hclones, lookup_filter_ne]
    refine ⟨fun hr => ?_, fun hr => ?_⟩
    · rw [if_pos (Option.some.inj (hr.1.symm.trans hattempts.1))]
    · have hne : r ≠ r₀ := fun heq => hr (heq ▸ hattempts)
      rw [if_neg hne]

/-- A request that is not answered with 200 leaves the folders as they were, and the clones too
unless it attempts to clone a repository that has one. That clone is then lost, and nothing else. -/
theorem failed_visit_keeps_clones_iff (hrun : Run history site)
    (hstatus : v.status site ≠ some 200) :
    (site.after v).disk = site.disk ∧
    ((site.after v).clones = site.clones ↔ ∀ r, v.Attempts r → site.clones.lookup r = none) ∧
    (∀ r, ¬ v.Attempts r → (site.after v).clones.lookup r = site.clones.lookup r) ∧
    (∀ (v' : Visit) (r : Text) (files : Value), v'.processed? = some (r, files) → r ≠ [] →
      files.isPresent = true →
      (v'.status (site.after v) = some 404 ↔ v.Attempts r ∨ v'.status site = some 404)) := by
  have hk := hrun.wellKept
  obtain ⟨status, hrun'⟩ := hrun.exists_visit v
  refine ⟨?_, ?_, fun r => (lookup_of_failure hk hstatus r).2, fun v' r files hv' hr hfiles => ?_⟩
  · obtain ⟨h, -⟩ | ⟨r, -, h⟩ := after_of_failure hk hstatus
    · exact congrArg Stock.disk h
    · exact congrArg Stock.disk h
  · constructor
    · intro h r hr
      rw [← h]
      exact (lookup_of_failure hk hstatus r).1 hr
    · intro hfree
      obtain ⟨h, -⟩ | ⟨r, hattempts, h⟩ := after_of_failure hk hstatus
      · exact congrArg Stock.clones h
      · have hkept : site.clones.filter (·.1 != r) = site.clones := by
          refine List.filter_eq_self.mpr fun c hc => ?_
          rw [bne_comm]
          exact List.lookup_eq_none_iff.mp (hfree r hattempts) c hc
        exact (congrArg Stock.clones h).trans hkept
  · rw [missing_iff_no_clone hrun'.wellKept hv' hr hfiles, missing_iff_no_clone hk hv' hr hfiles]
    obtain ⟨hlost, hkept⟩ := lookup_of_failure hk hstatus r
    by_cases hattempts : v.Attempts r
    · simp [hlost hattempts, hattempts]
    · simp [hkept hattempts, hattempts]

/-- An attempt to clone that fails. -/
def sampleFailure : Visit := sampleFetch (some (.service .git "boom"))

theorem sampleFailure_undoes :
    sampleFailure.status sampleSite = some 500 ∧ (sampleSite.after sampleFailure).clones = [] := by
  have hattempts : sampleFailure.Attempts sampleRepository := sampleFetch_attempts _
  have hclone : sampleFailure.surroundings.cloneFault ≠ none := Option.some_ne_none _
  have h := (clones_of_attempt sampleRun.wellKept hattempts).2 hclone
  rw [sampleFetch_opens.2] at h
  simpa using h

theorem failed_visit_keeps_clones_iff_sample :
    sampleFailure.status sampleSite = some 500 ∧
      (sampleSite.after sampleFailure).disk = sampleSite.disk ∧
      (sampleHandOver sampleRepository).status (sampleSite.after sampleFailure) = some 404 := by
  have hstatus := sampleFailure_undoes.1
  have hattempts : sampleFailure.Attempts sampleRepository := sampleFetch_attempts _
  obtain ⟨files, hv, hfiles⟩ := sampleHandOver_listed
  have h := failed_visit_keeps_clones_iff sampleRun (v := sampleFailure) (by simp [hstatus])
  refine ⟨hstatus, h.1, ?_⟩
  exact (h.2.2.2 _ _ _ hv (by decide) (Value.isPresent_list hfiles)).mpr (.inl hattempts)

/-- A repository that was cloned is lost when it cannot be cloned again. -/
theorem earlier_clone_lost :
    Run [⟨sampleFetch none, 200⟩] sampleSite ∧ sampleFailure.status sampleSite = some 500 ∧
      sampleSite.clones = [(sampleRepository, 0)] ∧ (sampleSite.after sampleFailure).clones = [] :=
  ⟨sampleRun, sampleFailure_undoes.1, sampleFetch_opens.2, sampleFailure_undoes.2⟩

end CodeAtlas.Checkout
