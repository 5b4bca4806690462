import CodeAtlas.Proofs.LookupLaws
import CodeAtlas.Proofs.PathReach

/-! What a listing of a tree says about the tree. A tree is well named if it could be one on a disk:
the names in each folder are proper and no name occurs twice; it is sound if it also has no links.
The paths that are listed for a sound tree are those of its files below no hidden name, and each
leads back to its file. Links are listed too, unless they lead to a folder, and those that lead
nowhere are the only listed paths that do. -/
namespace CodeAtlas

namespace Tree

/-- A name that something in a folder can have. -/
def IsProper (name : Text) : Prop := name ≠ [] ∧ CodePoint.ofChar '/' ∉ name

instance (name : Text) : Decidable (IsProper name) := inferInstanceAs (Decidable (_ ∧ _))

/-- A tree that could be on a disk. -/
inductive IsWellNamed : Tree → Prop where
  | file : IsWellNamed .file
  | link (target : LinkEnd) : IsWellNamed (.link target)
  | folder {entries : List (Text × Tree)}
      (hnames : ∀ entry ∈ entries, IsProper entry.1)
      (hdistinct : (entries.map Prod.fst).Nodup)
      (hentries : ∀ entry ∈ entries, IsWellNamed entry.2) : IsWellNamed (.folder entries)

/-- A tree without links that could be on a disk. -/
inductive IsSound : Tree → Prop where
  | file : IsSound .file
  | folder {entries : List (Text × Tree)}
      (hnames : ∀ entry ∈ entries, IsProper entry.1)
      (hdistinct : (entries.map Prod.fst).Nodup)
      (hentries : ∀ entry ∈ entries, IsSound entry.2) : IsSound (.folder entries)

theorem IsSound.isWellNamed {t : Tree} (h : t.IsSound) : t.IsWellNamed := by
  induction h with
  | file => exact .file
  | folder hnames hdistinct _ ih => exact .folder hnames hdistinct ih

theorem IsSound.seen? {t : Tree} (h : t.IsSound) : t.seen? = some t := by
  cases h <;> rfl

/-- What a listing shows by its name: files, and links that lead to no folder. -/
def isShown : Tree → Bool
  | .file => true
  | .folder _ => false
  | .link target => target != .folder

/-- A link that leads nowhere. -/
def isDead : Tree → Bool
  | .link .nowhere => true
  | _ => false

/-- What is shown leads to a file, unless it is dead. -/
theorem seen?_of_isShown {t : Tree} (h : t.isShown = true) :
    t.seen? = if t.isDead then none else some .file := by
  cases t with
  | file => rfl
  | folder entries => cases h
  | link target =>
    cases target with
    | file | nowhere => rfl
    | folder => cases h

theorem visibleEntries_eq (entries : List (Text × Tree)) :
    visibleEntries entries = entries.flatMap fun entry =>
      if isHidden entry.1 then [] else (visible entry.2).map (entry.1 :: ·) := by
  induction entries with
  | nil => rfl
  | cons entry entries ih => rw [visibleEntries, List.flatMap_cons, ih]

theorem mem_visibleEntries {entries : List (Text × Tree)} {names : List Text} :
    names ∈ visibleEntries entries ↔ ∃ entry ∈ entries, isHidden entry.1 = false ∧
      ∃ rest ∈ visible entry.2, entry.1 :: rest = names := by
  rw [visibleEntries_eq, List.mem_flatMap]
  apply exists_congr
  intro entry
  cases hhidden : isHidden entry.1 <;> simp

/-- A name that a listing shows is not one of those that stay in place or go up. -/
theorem isName_of_visible {name : Text} (hproper : IsProper name)
    (hvisible : isHidden name = false) : Path.isName name = true := by
  have hempty : (name == ("" : Text)) = false := beq_false_of_ne hproper.1
  have hne (other : Text) (h : isHidden other = true) : (name == other) = false := by
    apply beq_false_of_ne
    rintro rfl
    rw [hvisible] at h
    cases h
  rw [Path.isName, hempty, hne "." rfl, hne ".." rfl]
  rfl

/-- What stands in a well named tree is well named, and proper names lead there. -/
theorem IsWellNamed.of_node? {t found : Tree} (h : t.IsWellNamed) {names : List Text}
    (hfound : t.node? names = some found) :
    found.IsWellNamed ∧ ∀ name ∈ names, IsProper name := by
  induction names generalizing t with
  | nil =>
    cases hfound
    simpa using h
  | cons name names ih =>
    cases h with
    | file | link => cases hfound
    | folder hproper _ hentries =>
      obtain ⟨child, hchild, hbelow⟩ := Option.bind_eq_some_iff.mp hfound
      have hentry := mem_of_lookup hchild
      obtain ⟨hnamed, hnames⟩ := ih (hentries _ hentry) hbelow
      exact ⟨hnamed, by simpa using ⟨hproper _ hentry, hnames⟩⟩

theorem IsSound.lookup {t : Tree} {entries : List (Text × Tree)} {name : Text}
    (h : IsSound (.folder entries)) (ht : entries.lookup name = some t) : t.IsSound := by
  cases h with
  | folder _ _ hentries => exact hentries _ (mem_of_lookup ht)

theorem IsSound.of_node? {t found : Tree} (h : t.IsSound) {names : List Text}
    (hfound : t.node? names = some found) : found.IsSound := by
  induction names generalizing t with
  | nil =>
    cases hfound
    exact h
  | cons name names ih =>
    cases t with
    | file | link target => cases hfound
    | folder entries =>
      obtain ⟨child, hchild, hbelow⟩ := Option.bind_eq_some_iff.mp hfound
      exact ih (h.lookup hchild) hbelow

/-- Where there are no links, what is found at some names is what stands there. -/
theorem IsSound.at?_eq {t : Tree} (h : t.IsSound) (names : List Text) :
    t.at? names = t.node? names := by
  rw [at?]
  cases hfound : t.node? names with
  | none => rfl
  | some found => exact (h.of_node? hfound).seen?

/-- The names of a tree that are shown are those of what can be shown below no hidden name. -/
theorem IsWellNamed.mem_visible {t : Tree} (h : t.IsWellNamed) {names : List Text} :
    names ∈ visible t ↔ (∃ found, t.node? names = some found ∧ found.isShown = true) ∧
      ∀ name ∈ names, isHidden name = false := by
  induction h generalizing names with
  | file => cases names <;> simp [visible, node?, isShown]
  | link target => cases target <;> cases names <;> simp [visible, node?, isShown]
  | folder _ hdistinct _ ih =>
    rw [visible, mem_visibleEntries]
    constructor
    · rintro ⟨entry, hentry, hvisible, rest, hrest, rfl⟩
      obtain ⟨hshown, hbelow⟩ := (ih entry hentry).mp hrest
      constructor
      · simpa [node?, lookup_of_mem hdistinct hentry] using hshown
      · simpa using ⟨hvisible, hbelow⟩
    · rintro ⟨⟨found, hfound, hshown⟩, hvisible⟩
      cases names with
      | nil =>
        cases hfound
        cases hshown
      | cons name rest =>
        obtain ⟨child, hchild, hbelow⟩ := Option.bind_eq_some_iff.mp hfound
        have hentry := mem_of_lookup hchild
        have hrest : rest ∈ visible child := (ih _ hentry).mpr ⟨⟨found, hbelow, hshown⟩,
          fun name hname => hvisible name (List.mem_cons_of_mem _ hname)⟩
        exact ⟨_, hentry, hvisible name List.mem_cons_self, rest, hrest, rfl⟩

/-- The names of a sound tree that are shown are those of its files below no hidden name. -/
theorem IsSound.mem_visible {t : Tree} (h : t.IsSound) {names : List Text} :
    names ∈ visible t ↔ t.at? names = some .file ∧ ∀ name ∈ names, isHidden name = false := by
  rw [h.isWellNamed.mem_visible, h.at?_eq]
  refine and_congr_left fun _ => ⟨?_, fun hfile => ⟨_, hfile, rfl⟩⟩
  rintro ⟨found, hfound, hshown⟩
  rw [hfound]
  cases h.of_node? hfound with
  | file => rfl
  | folder => cases hshown

theorem IsWellNamed.nodup_visible {t : Tree} (h : t.IsWellNamed) : (visible t).Nodup := by
  induction h with
  | file => simp [visible]
  | link target => cases target <;> simp [visible]
  | folder _ hdistinct _ ih =>
    rw [visible, visibleEntries_eq, List.nodup_flatMap]
    constructor
    · intro entry hentry
      split
      · exact List.nodup_nil
      · exact (ih entry hentry).map (List.cons_injective)
    · -- what two entries show starts with their two names
      have hhead (entry : Text × Tree) (names : List Text) (hnames : names ∈
          if isHidden entry.1 then [] else (visible entry.2).map (entry.1 :: ·)) :
          names.head? = some entry.1 := by
        split at hnames
        · cases hnames
        · obtain ⟨rest, -, rfl⟩ := List.mem_map.mp hnames
          rfl
      apply (List.pairwise_map.mp hdistinct).imp
      intro entry entry' hne names hnames hnames'
      have hsame := (hhead entry names hnames).symm.trans (hhead entry' names hnames')
      exact hne (Option.some.inj hsame)

theorem IsWellNamed.of_visible {t : Tree} (h : t.IsWellNamed) {names : List Text}
    (hnames : names ∈ visible t) :
    (∃ found, t.node? names = some found ∧ found.isShown = true) ∧
      ∀ name ∈ names, Path.isName name = true ∧ CodePoint.ofChar '/' ∉ name := by
  obtain ⟨⟨found, hfound, hshown⟩, hvisible⟩ := h.mem_visible.mp hnames
  have hproper := (h.of_node? hfound).2
  refine ⟨⟨found, hfound, hshown⟩, fun name hname => ⟨?_, (hproper name hname).2⟩⟩
  exact isName_of_visible (hproper name hname) (hvisible name hname)

theorem mem_listing {t : Tree} {path : Text} :
    path ∈ t.listing ↔
      t.isFolder = true ∧ ∃ names ∈ visible t, Text.intercalate "/" names = path := by
  cases t with
  | file | link target => simp [listing, isFolder]
  | folder entries => simp [listing, isFolder, visible, List.mem_mergeSort]

/-- The path of what is shown below a folder consists of the names that lead there. -/
theorem IsWellNamed.split_shown {t found : Tree} (h : t.IsWellNamed) (hfolder : t.isFolder = true)
    {names : List Text} (hfound : t.node? names = some found) (hshown : found.isShown = true) :
    Text.split '/' (Text.intercalate "/" names) = names := by
  have hsome : names ≠ [] := by
    -- the folder itself is not shown
    rintro rfl
    cases hfound
    cases t with
    | file | link target => cases hfolder
    | folder entries => cases hshown
  exact Text.split_intercalate hsome fun name hname => ((h.of_node? hfound).2 name hname).2

theorem IsWellNamed.split_visible {t : Tree} (h : t.IsWellNamed) (hfolder : t.isFolder = true)
    {names : List Text} (hnames : names ∈ visible t) :
    Text.split '/' (Text.intercalate "/" names) = names := by
  obtain ⟨⟨found, hfound, hshown⟩, -⟩ := h.of_visible hnames
  exact h.split_shown hfolder hfound hshown

/-- A listed path consists of names that lead down to something that can be shown. -/
theorem IsWellNamed.of_listing {t : Tree} (h : t.IsWellNamed) {path : Text}
    (hpath : path ∈ t.listing) :
    (∃ found, t.node? (Text.split '/' path) = some found ∧ found.isShown = true) ∧
      ∀ name ∈ Text.split '/' path, Path.isName name = true := by
  obtain ⟨hfolder, names, hnames, rfl⟩ := mem_listing.mp hpath
  obtain ⟨hfound, hbelow⟩ := h.of_visible hnames
  rw [h.split_visible hfolder hnames]
  exact ⟨hfound, fun name hname => (hbelow name hname).1⟩

/-- A link that leads nowhere stands at the path. -/
def isDeadAt (t : Tree) (path : Text) : Bool := (t.node? (Text.split '/' path)).any isDead

theorem IsSound.isDeadAt {t : Tree} (h : t.IsSound) (path : Text) : t.isDeadAt path = false := by
  rw [Tree.isDeadAt]
  cases hfound : t.node? (Text.split '/' path) with
  | none => rfl
  | some found => cases h.of_node? hfound <;> rfl

/-- A listed path leads to a file, unless a dead link stands there. -/
theorem IsWellNamed.at?_of_listing {t : Tree} (h : t.IsWellNamed) {path : Text}
    (hpath : path ∈ t.listing) :
    t.at? (Text.split '/' path) = if t.isDeadAt path then none else some .file := by
  obtain ⟨⟨found, hfound, hshown⟩, -⟩ := h.of_listing hpath
  rw [at?, isDeadAt, hfound]
  exact seen?_of_isShown hshown

theorem IsWellNamed.nodup_listing {t : Tree} (h : t.IsWellNamed) : t.listing.Nodup := by
  cases t with
  | file | link target => exact List.nodup_nil
  | folder entries =>
    rw [listing, (List.mergeSort_perm _ _).nodup_iff]
    apply List.Nodup.map_on _ h.nodup_visible
    intro names hnames names' hnames' hpath
    rw [← h.split_visible rfl hnames, hpath, h.split_visible rfl hnames']

theorem isHidden_eq_false_iff {name : Text} :
    isHidden name = false ↔ name.head? ≠ some (CodePoint.ofChar '.') := by
  cases name with
  | nil => simp [isHidden, Text.startsWith, Text.ofString, Text.ofChars]
  | cons c cs =>
    show (CodePoint.ofChar '.' == c && List.isPrefixOf [] cs) = false ↔ _
    rw [List.isPrefixOf_nil_left, Bool.and_true, beq_eq_false_iff_ne, List.head?_cons, ne_comm,
      ne_eq, ne_eq, Option.some_inj]

/-- Names that go down lead to what stands at them. -/
theorem follow_names {names : List Text} (h : ∀ name ∈ names, Path.isName name = true)
    (above : List Tree) (t : Tree) : follow above t names = t.node? names := by
  induction names generalizing above t with
  | nil => rw [follow, node?]
  | cons name names ih =>
    cases t with
    | file | link target => rfl
    | folder entries =>
      have hname := h name List.mem_cons_self
      simp only [Path.isName, Bool.not_eq_true', Bool.or_eq_false_iff] at hname
      obtain ⟨⟨hempty, hdot⟩, hdots⟩ := hname
      simp only [follow, node?, hempty, hdot, hdots]
      cases entries.lookup name with
      | none => rfl
      | some child => exact ih (fun name hmem => h name (List.mem_cons_of_mem _ hmem)) _ child

section Made
variable {node t : Tree} {entries : List (Text × Tree)} {name : Text}
  {names place parts : List Text}

theorem isSound_empty : empty.IsSound := .folder (by simp) (by simp) (by simp)

theorem IsSound.put (h : IsSound (.folder entries)) (hname : IsProper name) (hnode : node.IsSound) :
    IsSound (.folder (entries.filter (·.1 != name) ++ [(name, node)])) := by
  cases h with
  | folder hnames hdistinct hentries =>
    constructor
    · intro entry hentry
      rcases List.mem_append.mp hentry with hold | hnew
      · exact hnames entry (List.mem_filter.mp hold).1
      · rw [List.mem_singleton.mp hnew]
        exact hname
    · exact nodup_keys_put hdistinct name node
    · intro entry hentry
      rcases List.mem_append.mp hentry with hold | hnew
      · exact hentries entry (List.mem_filter.mp hold).1
      · rw [List.mem_singleton.mp hnew]
        exact hnode

theorem IsSound.insert (hnode : node.IsSound) (h : t.IsSound)
    (hnames : ∀ name ∈ names, IsProper name) : (insert node names t).IsSound := by
  induction names generalizing t with
  | nil => exact hnode
  | cons name names ih =>
    cases t with
    | file => exact .file
    | link target => exact h
    | folder entries =>
      have hold : ((entries.lookup name).getD empty).IsSound := by
        cases hlookup : entries.lookup name with
        | none => exact isSound_empty
        | some t => exact h.lookup hlookup
      apply h.put (hnames name List.mem_cons_self)
      split
      · split
        · exact hold
        · exact hnode
      · exact ih hold fun name hname => hnames name (List.mem_cons_of_mem _ hname)

theorem IsSound.makeFrom (h : t.IsSound) (hplace : ∀ name ∈ place, IsProper name)
    (hparts : ∀ part ∈ parts, CodePoint.ofChar '/' ∉ part) : (makeFrom place parts t).IsSound := by
  induction parts generalizing place t with
  | nil => exact h
  | cons part parts ih =>
    have hrest : ∀ part ∈ parts, CodePoint.ofChar '/' ∉ part :=
      fun part hpart => hparts part (List.mem_cons_of_mem _ hpart)
    unfold Tree.makeFrom
    split
    · exact ih h hplace hrest
    next hstay =>
      split
      · split
        · exact h
        · exact ih h (fun name hname => hplace name (List.dropLast_subset _ hname)) hrest
      · have hpart : IsProper part := by
          refine ⟨?_, hparts part List.mem_cons_self⟩
          rintro rfl
          exact hstay rfl
        have hnext : ∀ name ∈ place ++ [part], IsProper name := by
          intro name hname
          rcases List.mem_append.mp hname with hname | hname
          · exact hplace name hname
          · rw [List.mem_singleton.mp hname]
            exact hpart
        refine ih (IsSound.insert ?_ h hnext) hnext hrest
        split
        · exact .file
        · exact isSound_empty

/-- Whatever paths are made in a tree, it is sound. -/
theorem isSound_ofPaths (paths : List Text) : (ofPaths paths).IsSound := by
  have hmake (paths : List Text) (t : Tree) (h : t.IsSound) : (paths.foldl make t).IsSound := by
    induction paths generalizing t with
    | nil => exact h
    | cons path paths ih =>
      exact ih _ (h.makeFrom (by simp) fun part hpart => Text.not_mem_of_mem_split hpart)
  exact hmake paths empty isSound_empty

end Made

/-- Down from a place the names lead to a file, and none of them starts with a dot. -/
def HasVisible (disk : Tree) (place names : List Text) : Prop :=
  disk.at? (place ++ names) = some .file ∧ ∀ name ∈ names, name.head? ≠ some (CodePoint.ofChar '.')

/-- Wherever a listing starts, it holds the path of each file below that can be seen from there, and
nothing else. No path is listed twice, and no two files have the same path. -/
theorem listing_is_exact (disk : Tree) (start : Text) (entries : List (Text × Tree))
    (hdisk : disk.IsSound) (hstart : disk.find? start = some (.folder entries)) :
    (Tree.folder entries).listing.Nodup ∧
    (∀ path, path ∈ (Tree.folder entries).listing ↔
      ∃ names, disk.HasVisible (Path.resolve start) names ∧ Text.intercalate "/" names = path) ∧
    ∀ names names', disk.HasVisible (Path.resolve start) names →
      disk.HasVisible (Path.resolve start) names' →
      Text.intercalate "/" names = Text.intercalate "/" names' → names = names' := by
  have hplace := at?_of_find? hstart
  have hsound : (Tree.folder entries).IsSound := by
    rw [hdisk.at?_eq] at hplace
    exact hdisk.of_node? hplace
  have hat (names : List Text) :
      disk.at? (Path.resolve start ++ names) = (Tree.folder entries).at? names := by
    simp [at?_append, hplace]
  refine ⟨hsound.isWellNamed.nodup_listing, fun path => ?_, ?_⟩
  · simp only [mem_listing, hsound.mem_visible, isHidden_eq_false_iff, HasVisible, hat]
    simp [isFolder]
  · intro names names' hnames hnames' hpath
    have hsplit (names : List Text) (h : disk.HasVisible (Path.resolve start) names) :
        Text.split '/' (Text.intercalate "/" names) = names := by
      have hfile := h.1
      rw [hat, hsound.at?_eq] at hfile
      exact hsound.isWellNamed.split_shown rfl hfile rfl
    rw [← hsplit names hnames, hpath, hsplit names' hnames']

/-- A folder that is itself below a hidden one, with hidden names at each level. -/
def hiddenDisk : Tree :=
  ofPaths [".git/top/a.py", ".git/top/.env", ".git/top/d/.x/b.py", ".git/top/d/c.py", "e.py"]

def hiddenEntries : List (Text × Tree) :=
  [("a.py", .file), (".env", .file),
    ("d", .folder [(".x", .folder [("b.py", .file)]), ("c.py", .file)])]

theorem listing_is_exact_sample :
    hiddenDisk.IsSound ∧ hiddenDisk.find? ".git/top" = some (.folder hiddenEntries) ∧
    (Tree.folder hiddenEntries).listing.Nodup ∧
    Text.ofString "a.py" ∈ (Tree.folder hiddenEntries).listing ∧
    Text.ofString "d/c.py" ∈ (Tree.folder hiddenEntries).listing ∧
    Text.ofString ".env" ∉ (Tree.folder hiddenEntries).listing ∧
    Text.ofString "d/.x/b.py" ∉ (Tree.folder hiddenEntries).listing := by
  have hdisk : hiddenDisk.IsSound := isSound_ofPaths _
  have hstart : hiddenDisk.find? ".git/top" = some (.folder hiddenEntries) := by rfl
  obtain ⟨hnodup, hmem, -⟩ := listing_is_exact hiddenDisk ".git/top" hiddenEntries hdisk hstart
  have hsplit (path : Text) (h : path ∈ (Tree.folder hiddenEntries).listing) :
      ∀ name ∈ Text.split '/' path, isHidden name = false := by
    obtain ⟨names, ⟨hfile, hvisible⟩, rfl⟩ := (hmem path).mp h
    have hplace := at?_of_find? hstart
    rw [hdisk.at?_eq] at hplace hfile
    rw [node?_append, hplace] at hfile
    rw [(hdisk.of_node? hplace).isWellNamed.split_shown rfl hfile rfl]
    exact fun name hname => isHidden_eq_false_iff.mpr (hvisible name hname)
  refine ⟨hdisk, hstart, hnodup, ?_, ?_, ?_, ?_⟩
  · exact (hmem _).mpr ⟨["a.py"], ⟨rfl, by decide⟩, rfl⟩
  · exact (hmem _).mpr ⟨["d", "c.py"], ⟨rfl, by decide⟩, rfl⟩
  · exact fun h => absurd (hsplit _ h ".env" (by decide)) (by decide)
  · exact fun h => absurd (hsplit _ h ".x" (by decide)) (by decide)

end Tree

end CodeAtlas
