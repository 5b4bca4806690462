import CodeAtlas.Proofs.CloneSessions

/-! Folders that are left behind. A folder stays on disk without a clone exactly when a repository
is fetched again while its session is open, and no later request removes such a folder. -/
namespace CodeAtlas.Checkout

namespace Stock

/-- The folder exists and is no clone's. -/
def IsStray (k : Stock) (id : FolderId) : Prop :=
  id ∈ k.disk.map Prod.fst ∧ ∀ c ∈ k.clones, c.2 ≠ id

/-- No repository has two clones. -/
def HasSingleClones (k : Stock) : Prop := (k.clones.map Prod.fst).Nodup

variable {k : Stock}

namespace HasSingleClones

theorem filter (h : k.HasSingleClones) (p : Text × FolderId → Bool) :
    ((k.clones.filter p).map Prod.fst).Nodup :=
  h.sublist (List.filter_sublist.map Prod.fst)

protected theorem opened (h : k.HasSingleClones) (r : Text) (t : Tree) :
    (k.opened r t).HasSingleClones := nodup_keys_put h r k.made

end HasSingleClones

theorem WellKept.mem_disk (hk : k.WellKept) {c : Text × FolderId} (hc : c ∈ k.clones) :
    c.2 ∈ k.disk.map Prod.fst := by
  obtain ⟨folder, hfolder, hid⟩ := List.lookup_isSome_iff.mp (hk.folder_exists c hc)
  exact List.mem_map.mpr ⟨folder, hfolder, (eq_of_beq hid).symm⟩

theorem WellKept.lt_made (hk : k.WellKept) {id : FolderId} (h : id ∈ k.disk.map Prod.fst) :
    id < k.made := by
  obtain ⟨folder, hfolder, rfl⟩ := List.mem_map.mp h
  exact hk.fresh folder hfolder

/-- Where a repository is forgotten and its folder stays, that folder is the only new stray one. -/
theorem isStray_undone_iff (hk : k.WellKept) (hsingle : k.HasSingleClones) {r : Text}
    {id : FolderId} : (k.undone r).IsStray id ↔ k.IsStray id ∨ k.clones.lookup r = some id := by
  constructor
  · rintro ⟨hfolder, hother⟩
    by_cases hr : k.clones.lookup r = some id
    · exact .inr hr
    · refine .inl ⟨hfolder, fun c hc hid => hr ?_⟩
      by_cases hname : c.1 = r
      · rw [← hname, ← hid]
        exact lookup_of_mem hsingle hc
      · exact absurd hid (hother c (List.mem_filter.mpr ⟨hc, by simpa using hname⟩))
  · rintro (⟨hfolder, hnone⟩ | hr)
    · exact ⟨hfolder, fun c hc => hnone c (List.mem_filter.mp hc).1⟩
    · have hmem := mem_of_lookup hr
      refine ⟨hk.mem_disk hmem, fun c hc hid => ?_⟩
      obtain ⟨hc, hname⟩ := List.mem_filter.mp hc
      have hsame : c.1 = r := hk.own_folder c hc (r, id) hmem hid
      simp [hsame] at hname

/-- The new folder of a clone is not a stray one. -/
theorem isStray_opened_iff (hk : k.WellKept) {r : Text} {t : Tree} {id : FolderId} :
    (k.opened r t).IsStray id ↔ (k.undone r).IsStray id := by
  constructor
  · rintro ⟨hfolder, hnone⟩
    have hnew : k.made ≠ id := hnone (r, k.made) (by simp [opened])
    refine ⟨?_, fun c hc => hnone c (List.mem_append_left _ hc)⟩
    rw [opened, List.map_append, List.mem_append] at hfolder
    rcases hfolder with hfolder | hfolder
    · exact hfolder
    · exact absurd (List.mem_singleton.mp hfolder).symm hnew
  · rintro ⟨hfolder, hnone⟩
    have hlt : id < k.made := hk.lt_made hfolder
    refine ⟨?_, fun c hc => ?_⟩
    · rw [opened, List.map_append]
      exact List.mem_append_left _ hfolder
    · rcases List.mem_append.mp hc with hc | hc
      · exact hnone c hc
      · rw [List.mem_singleton.mp hc]
        exact Nat.ne_of_gt hlt

/-- Where a repository is forgotten together with its folder, nothing is left behind. -/
theorem isStray_closed_iff (hk : k.WellKept) (hsingle : k.HasSingleClones) {r : Text}
    {id₀ id : FolderId} (hid₀ : k.find? r = some id₀) :
    (k.closed r id₀).IsStray id ↔ k.IsStray id := by
  rw [hk.find?_eq_lookup] at hid₀
  have hdisk : id ∈ (k.closed r id₀).disk.map Prod.fst ↔ id ∈ k.disk.map Prod.fst ∧ id ≠ id₀ := by
    simp [closed]
  have hundone : (k.undone r).IsStray id ↔ k.IsStray id ∨ id = id₀ := by
    rw [isStray_undone_iff hk hsingle, hid₀, Option.some.injEq, eq_comm (a := id₀)]
  constructor
  · rintro ⟨hfolder, hnone⟩
    obtain ⟨hfolder, hne⟩ := hdisk.mp hfolder
    exact (hundone.mp ⟨hfolder, hnone⟩).resolve_right hne
  · intro hstray
    have hne : id ≠ id₀ := fun h => hstray.2 _ (mem_of_lookup hid₀) h.symm
    exact ⟨hdisk.mpr ⟨hstray.1, hne⟩, (hundone.mpr (.inl hstray)).2⟩

end Stock

namespace Turn
variable {s : Surroundings} {fetched : Option Text} {processed : Option (Text × Value)}
  {k k' : Stock} {status : Nat}

protected theorem hasSingleClones (h : Turn s fetched processed k status k')
    (hk : k.HasSingleClones) : k'.HasSingleClones := by
  cases h with
  | opened => exact hk.opened _ _
  | undone => exact hk.filter _
  | closed => exact hk.filter _
  | missing => exact hk
  | idle => exact hk

/-- A folder becomes a stray one only when its repository is fetched again, and stays one. -/
theorem isStray_iff (h : Turn s fetched processed k status k') (hk : k.WellKept)
    (hsingle : k.HasSingleClones) (id : FolderId) :
    k'.IsStray id ↔ k.IsStray id ∨
      ∃ r, fetched = some r ∧ s.folderFault = none ∧ k.clones.lookup r = some id := by
  cases h with
  | opened hfetched _ hfolder _ =>
    rw [Stock.isStray_opened_iff hk, Stock.isStray_undone_iff hk hsingle]
    simp [hfetched, hfolder]
  | undone hfetched _ hfolder _ =>
    rw [Stock.isStray_undone_iff hk hsingle]
    simp [hfetched, hfolder]
  | closed hfetched _ hid =>
    rw [Stock.isStray_closed_iff hk hsingle hid]
    simp [hfetched]
  | missing hfetched => simp [hfetched]
  | idle hfetched =>
    have hnone : ¬ ∃ r, fetched = some r ∧ s.folderFault = none ∧ k.clones.lookup r = some id := by
      rintro ⟨r, hr, hfolder, -⟩
      exact (hfetched r hr).1 hfolder
    simp [hnone]

/-- A hand-over of listed files that is answered with 200 removes the folder. -/
theorem removes_folder (h : Turn s fetched processed k 200 k') {r : Text} {files : List Value}
    (hprocessed : processed = some (r, .list files)) {id : FolderId}
    (hid : k.find? r = some id) : id ∉ k'.disk.map Prod.fst := by
  subst hprocessed
  cases h with
  | opened _ h => cases h
  | closed _ h hid' =>
    cases h
    rw [hid] at hid'
    cases hid'
    simp [Stock.closed]
  | idle _ h =>
    obtain ⟨field, rest, hdict⟩ := (h r _ rfl).2.1 rfl
    cases hdict

end Turn

/-- Some request attempts to clone a repository whose session is open. -/
def Refetches (history : List Exchange) : Prop :=
  ∃ before e after, history = before ++ e :: after ∧
    ∃ r, e.visit.Attempts r ∧ IsOpen r before

theorem refetches_concat (history : List Exchange) (e : Exchange) :
    Refetches (history ++ [e]) ↔
      Refetches history ∨ ∃ r, e.visit.Attempts r ∧ IsOpen r history := by
  constructor
  · rintro ⟨before, e', after, heq, hagain⟩
    obtain rfl | ⟨after, last, rfl⟩ := List.eq_nil_or_concat' after
    · obtain ⟨rfl, h⟩ := List.append_inj' heq rfl
      obtain rfl := List.singleton_inj.mp h
      exact .inr hagain
    · rw [← List.cons_append, ← List.append_assoc] at heq
      obtain ⟨rfl, -⟩ := List.append_inj' heq rfl
      exact .inl ⟨before, e', after, rfl, hagain⟩
  · rintro (⟨before, e', after, rfl, hagain⟩ | hagain)
    · exact ⟨before, e', after ++ [e], by simp, hagain⟩
    · exact ⟨history, e, [], rfl, hagain⟩

variable {history : List Exchange} {site : Site} {v : Visit}

theorem Run.hasSingleClones (hrun : Run history site) : site.stock.HasSingleClones := by
  induction hrun with
  | start => exact List.nodup_nil
  | @visit history site v status hrun _ ih =>
    obtain ⟨_, -, hturn⟩ := v.turn hrun.wellKept.fresh
    exact hturn.hasSingleClones ih

theorem Run.isStray_after_iff (hrun : Run history site) (v : Visit) (id : FolderId) :
    (site.after v).stock.IsStray id ↔ site.stock.IsStray id ∨
      ∃ r, v.Attempts r ∧ site.clones.lookup r = some id := by
  obtain ⟨_, -, hturn⟩ := v.turn hrun.wellKept.fresh
  rw [hturn.isStray_iff hrun.wellKept hrun.hasSingleClones id]
  simp only [Visit.Attempts, and_assoc]
  rfl

theorem Run.exists_stray_iff (hrun : Run history site)
    (hkeys : ∀ e ∈ history, ¬ e.visit.SelectsByKeys) :
    (∃ id, site.stock.IsStray id) ↔ Refetches history := by
  induction hrun with
  | start => simp [Stock.IsStray, Site.stock, Refetches]
  | @visit history site v status hrun _ ih =>
    have hkeys : ∀ e ∈ history, ¬ e.visit.SelectsByKeys := fun e he => hkeys e (by simp [he])
    have hopen (r : Text) : (∃ id, site.clones.lookup r = some id) ↔ IsOpen r history := by
      rw [← Option.isSome_iff_exists]
      exact hrun.hasClone_iff hkeys r
    rw [refetches_concat, ← ih hkeys]
    simp only [hrun.isStray_after_iff v, exists_or, ← hopen]
    constructor
    · rintro (h | ⟨id, r, hattempts, hid⟩)
      · exact .inl h
      · exact .inr ⟨r, hattempts, id, hid⟩
    · rintro (h | ⟨r, hattempts, id, hid⟩)
      · exact .inl h
      · exact .inr ⟨id, r, hattempts, hid⟩

theorem handOver_of_clone (hrun : Run history site) {c : Text × FolderId} (hc : c ∈ site.clones)
    {files : List Value} (hv : v.processed? = some (c.1, .list files)) (hname : c.1 ≠ [])
    (hfiles : files ≠ []) : v.status site ≠ some 404 ∧
      (v.status site = some 200 → c.2 ∉ (site.after v).disk.map Prod.fst) := by
  have hk := hrun.wellKept
  have hlookup : site.clones.lookup c.1 = some c.2 := lookup_of_mem hrun.hasSingleClones hc
  constructor
  · rw [ne_eq, missing_iff_no_clone hk hv hname (Value.isPresent_list hfiles), hlookup]
    simp
  · intro hstatus
    obtain ⟨status, hstatus', hturn⟩ := v.turn hk.fresh
    obtain rfl : status = 200 := Option.some.inj (hstatus'.symm.trans hstatus)
    exact hturn.removes_folder hv ((hk.find?_eq_lookup c.1).trans hlookup)

/-- After any run every folder on disk is a clone's exactly when no repository was fetched again
while its session was open. A folder that is no clone's stays one for good; any other is found by a
hand-over of its repository and is gone once that is answered with 200. -/
theorem folders_are_clones_iff (hrun : Run history site)
    (hkeys : ∀ e ∈ history, ¬ e.visit.SelectsByKeys) :
    ((∀ folder ∈ site.disk, ∃ c ∈ site.clones, c.2 = folder.1) ↔ ¬ Refetches history) ∧
    (∀ (v : Visit) (id : FolderId), site.stock.IsStray id → (site.after v).stock.IsStray id) ∧
    (∀ c ∈ site.clones, ∀ (v : Visit) (files : List Value),
      v.processed? = some (c.1, .list files) → c.1 ≠ [] → files ≠ [] →
        v.status site ≠ some 404 ∧
          (v.status site = some 200 → c.2 ∉ (site.after v).disk.map Prod.fst)) := by
  refine ⟨?_, fun v id h => (hrun.isStray_after_iff v id).mpr (.inl h),
    fun c hc v files hv hname hfiles => handOver_of_clone hrun hc hv hname hfiles⟩
  rw [← hrun.exists_stray_iff hkeys]
  constructor
  · rintro hall ⟨id, hfolder, hnone⟩
    obtain ⟨folder, hmem, rfl⟩ := List.mem_map.mp hfolder
    obtain ⟨c, hc, hid⟩ := hall folder hmem
    exact hnone c hc hid
  · intro hnone folder hmem
    by_contra h
    refine hnone ⟨folder.1, List.mem_map_of_mem hmem, fun c hc hid => h ⟨c, hc, hid⟩⟩

theorem sampleFetch_selects_nothing (cloneFault : Option Fault) :
    ¬ (sampleFetch cloneFault).SelectsByKeys := by
  have hnone : (sampleFetch none).processed?.isNone = true := by decide +kernel
  rintro ⟨r, fields, h⟩
  have h : (sampleFetch none).processed? = some (r, .dict fields) := h
  rw [h] at hnone
  cases hnone

/-- One repository, fetched once, and then the hand-over of its files. -/
theorem folders_are_clones_iff_sample :
    (∀ folder ∈ sampleSite.disk, ∃ c ∈ sampleSite.clones, c.2 = folder.1) ∧
      ¬ Refetches [⟨sampleFetch none, 200⟩] ∧
      (sampleHandOver sampleRepository).status sampleSite ≠ some 404 := by
  have hkeys : ∀ e ∈ [(⟨sampleFetch none, 200⟩ : Exchange)], ¬ e.visit.SelectsByKeys := by
    intro e he
    rw [List.mem_singleton.mp he]
    exact sampleFetch_selects_nothing none
  have hnot : ¬ Refetches [⟨sampleFetch none, 200⟩] := by
    intro h
    rcases (refetches_concat [] _).mp h with
      ⟨before, e, after, h, -⟩ | ⟨r, -, before, e, after, h, -⟩
    · simp at h
    · simp at h
  have h := folders_are_clones_iff sampleRun hkeys
  obtain ⟨files, hv, hfiles⟩ := sampleHandOver_listed
  have hclone : (sampleRepository, 0) ∈ sampleSite.clones := by
    rw [sampleFetch_opens.2]
    exact List.mem_singleton_self _
  exact ⟨h.1.mpr hnot, hnot, (h.2.2 _ hclone _ files hv (by decide) hfiles).1⟩

/-- The first folder of a repository that is fetched twice is left behind, whether the second
attempt fails or not. -/
theorem folder_left_behind :
    (∃ site, Run [⟨sampleFetch none, 200⟩, ⟨sampleFailure, 500⟩] site ∧
      site.clones = [] ∧ site.stock.IsStray 0) ∧
    (∃ site, Run [⟨sampleFetch none, 200⟩, ⟨sampleFetch none, 200⟩] site ∧
      site.stock.IsStray 0) := by
  have hlookup : sampleSite.clones.lookup sampleRepository = some 0 := by
    rw [sampleFetch_opens.2]
    exact List.lookup_cons_self
  have hstray (cloneFault : Option Fault) :
      (sampleSite.after (sampleFetch cloneFault)).stock.IsStray 0 :=
    (sampleRun.isStray_after_iff _ 0).mpr
      (.inr ⟨sampleRepository, sampleFetch_attempts cloneFault, hlookup⟩)
  have hagain : (sampleFetch none).status sampleSite = some 200 :=
    (attempt_succeeds_iff sampleRun.wellKept (sampleFetch_attempts none)).mpr rfl
  exact ⟨⟨_, sampleRun.visit sampleFailure_undoes.1, sampleFailure_undoes.2, hstray _⟩,
    ⟨_, sampleRun.visit hagain, hstray none⟩⟩

end CodeAtlas.Checkout
