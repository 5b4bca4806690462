import CodeAtlas.Proofs.FieldsLaws
import CodeAtlas.Proofs.SearchQueries
import CodeAtlas.Proofs.ValueParts

/-! The plan of a search. On a database that answers every query with rows of the right form, which
queries a search asks and how many lines it gathers depends on nothing but the rows: on how many
nodes are near the question, on whether the question has words to look for, and on whether a node
stands in a file. -/
namespace CodeAtlas

namespace Database

variable {db : Database}

theorem IsFaultless.answerAt_eq (h : db.IsFaultless) (n : Nat) :
    db.answerAt n = .ok (db.rowsAt n) := by
  obtain ⟨rows, hrows⟩ := h n
  rw [rowsAt, hrows]
  rfl

/-- A database that answers queries with the rows given and then finds nothing. -/
def answering (answers : List (List Fields)) : Database :=
  { barren with answers := answers.map .ok }

theorem answering_isFaultless (answers : List (List Fields)) : (answering answers).IsFaultless := by
  intro n
  refine ⟨answers.getD n [], ?_⟩
  change (answers.map Except.ok).getD n (.ok []) = _
  rw [List.getD_eq_getElem?_getD, List.getElem?_map, List.getD_eq_getElem?_getD]
  cases answers[n]? <;> rfl

end Database

namespace Graph.Search

section Rows

/-- A type that is given is a text. -/
def isTyped (row : Fields) : Bool := (row.get? "type").all fun v => v.text?.isSome

/-- A node with a name. -/
def isNode (row : Fields) : Bool := isTyped row && (row.get? "name").isSome

/-- A node with a name and the path of its file. -/
def isPlaced (row : Fields) : Bool := isNode row && (row.get? "filePath").isSome

/-- A node with a name and the path of its file, which is a text or null. -/
def isNear (row : Fields) : Bool :=
  isPlaced row && (row.get? "filePath").all fun v => v.isNull || v.text?.isSome

/-- The labels of a file, if they are given, are a list of texts. -/
def isLabelled (row : Fields) : Bool :=
  (row.get? "fileLabels").all fun
    | .list labels => labels.all fun v => v.text?.isSome
    | _ => false

/-- A file with a path. -/
def isFile (row : Fields) : Bool := isLabelled row && (row.get? "path").isSome

/-- The path of the node's file is given and not empty. -/
def hasPath (row : Fields) : Bool := (row.get? "filePath").any Value.isPresent

/-- The name of the node is given and not empty. -/
def hasName (row : Fields) : Bool := (row.get? "name").any Value.isPresent

variable {row : Fields} {rows : List Fields}

theorem exists_typeText (h : isTyped row = true) : ∃ type, typeText row = .ok type := by
  unfold isTyped at h
  unfold typeText
  rw [Fields.getD_eq]
  cases htype : row.get? "type" with
  | none => exact ⟨_, rfl⟩
  | some v =>
    rw [htype] at h
    obtain ⟨s, hs⟩ := Option.isSome_iff_exists.mp h
    rw [Value.text?_eq_some.mp hs]
    exact ⟨_, rfl⟩

theorem field_eq {key : Text} (h : (row.get? key).isSome = true) :
    (Value.dict row).field key = .ok (row.getD key .null) := by
  obtain ⟨v, hv⟩ := Option.isSome_iff_exists.mp h
  rw [Fields.getD_eq, hv]
  exact Value.field_eq_ok.mpr ⟨row, rfl, hv⟩

theorem exists_placedLine (lead : Text) (h : isNode row = true) :
    ∃ line, placedLine lead row = .ok line := by
  obtain ⟨htyped, hname⟩ := Bool.and_eq_true_iff.mp h
  obtain ⟨type, htype⟩ := exists_typeText htyped
  simp only [placedLine, htype, field_eq hname]
  exact ⟨_, rfl⟩

theorem exists_nameLine (h : isPlaced row = true) : ∃ line, nameLine row = .ok line := by
  obtain ⟨hnode, hpath⟩ := Bool.and_eq_true_iff.mp h
  obtain ⟨htyped, hname⟩ := Bool.and_eq_true_iff.mp hnode
  obtain ⟨type, htype⟩ := exists_typeText htyped
  simp only [nameLine, htype, field_eq hname, field_eq hpath]
  exact ⟨_, rfl⟩

theorem exists_descriptionLine (h : isPlaced row = true) :
    ∃ line, descriptionLine row = .ok line := by
  obtain ⟨hnode, hpath⟩ := Bool.and_eq_true_iff.mp h
  obtain ⟨htyped, hname⟩ := Bool.and_eq_true_iff.mp hnode
  obtain ⟨type, htype⟩ := exists_typeText htyped
  simp only [descriptionLine, htype, field_eq hname, field_eq hpath]
  exact ⟨_, rfl⟩

/-- The id of a node that has a name and a path. -/
def idOf (row : Fields) : Text :=
  (row.getD "name" .null).display ++ "-" ++ (row.getD "filePath" .null).display

theorem mapM_entityId (h : ∀ row ∈ rows, isPlaced row = true) :
    rows.mapM entityId = .ok (rows.map idOf) := by
  induction rows with
  | nil => rfl
  | cons row rows ih =>
    obtain ⟨hnode, hpath⟩ := Bool.and_eq_true_iff.mp (h row (by simp))
    obtain ⟨-, hname⟩ := Bool.and_eq_true_iff.mp hnode
    rw [List.mapM_cons, ih fun row hrow => h row (by simp [hrow])]
    simp only [entityId, field_eq hname, field_eq hpath]
    rfl

theorem exists_fileKind {labels : List Value} (h : labels.all (fun v => v.text?.isSome) = true) :
    ∃ kind, fileKind labels = .ok kind := by
  induction labels with
  | nil => exact ⟨_, rfl⟩
  | cons label labels ih =>
    obtain ⟨hlabel, hrest⟩ := Bool.and_eq_true_iff.mp h
    obtain ⟨s, hs⟩ := Option.isSome_iff_exists.mp hlabel
    rw [Value.text?_eq_some.mp hs]
    by_cases hfile : s = "File"
    · obtain ⟨kind, hkind⟩ := ih hrest
      exact ⟨kind, by simp [fileKind, Value.asText, bind, Except.bind, hfile, hkind]⟩
    · exact ⟨_, by simp [fileKind, Value.asText, bind, Except.bind, hfile, pure, Except.pure]; rfl⟩

theorem exists_kind (h : isLabelled row = true) :
    ∃ kind, (do fileKind (← (row.getD "fileLabels" (.list [])).members)) = .ok kind := by
  unfold isLabelled at h
  rw [Fields.getD_eq]
  cases hlabels : row.get? "fileLabels" with
  | none => exact ⟨_, rfl⟩
  | some v =>
    rw [hlabels] at h
    cases v with
    | list labels => exact exists_fileKind h
    | _ => cases h

theorem isPresent_getD_name : (row.getD "name" (.str "")).isPresent = hasName row := by
  unfold hasName
  rw [Fields.getD_eq]
  cases row.get? "name" <;> rfl

theorem exists_contents (h : ∀ row ∈ rows, isTyped row = true) :
    ∃ parts, rows.filterMapM contentText = .ok parts ∧ parts.isEmpty = !rows.any hasName := by
  induction rows with
  | nil => exact ⟨[], rfl, rfl⟩
  | cons row rows ih =>
    obtain ⟨parts, hparts, hempty⟩ := ih fun row hrow => h row (by simp [hrow])
    obtain ⟨type, htype⟩ := exists_typeText (h row (by simp))
    rw [List.filterMapM_cons, hparts]
    simp only [contentText, htype, isPresent_getD_name]
    cases hname : hasName row with
    | false => exact ⟨parts, rfl, by simp [hname, hempty]⟩
    | true => exact ⟨_, rfl, by simp [hname]⟩

theorem distinct_eq_nil {vs : List Value} : distinct vs = [] ↔ vs = [] := by
  have hkept (vs kept : List Value) (h : kept ≠ []) :
      vs.foldl (fun kept v => if kept.any (·.sameKey v) then kept else kept ++ [v]) kept ≠ [] := by
    induction vs generalizing kept with
    | nil => exact h
    | cons v vs ih =>
      apply ih
      dsimp only
      split
      · exact h
      · simp
  cases vs with
  | nil => simp [distinct]
  | cons v vs => simpa [distinct] using hkept vs [v] (by simp)

theorem filter_present_paths (rows : List Fields) :
    (rows.map fun row => row.getD "filePath" .null).filter Value.isPresent = [] ↔
      rows.any hasPath = false := by
  have hpresent (row : Fields) : (row.getD "filePath" .null).isPresent = hasPath row := by
    unfold hasPath
    rw [Fields.getD_eq]
    cases row.get? "filePath" <;> rfl
  simp [List.filter_eq_nil_iff, hpresent]

theorem exists_filePaths (h : ∀ row ∈ rows, isNear row = true) :
    ∃ paths, filePaths rows = .ok paths ∧ paths.isEmpty = !rows.any hasPath := by
  have hhash : ((rows.map fun row => row.getD "filePath" .null).filter Value.isPresent).find?
      (fun v => !v.isHashable) = none := by
    apply List.find?_eq_none.mpr
    intro v hv
    obtain ⟨row, hrow, rfl⟩ := List.mem_map.mp (List.mem_filter.mp hv).1
    have hpath := (Bool.and_eq_true_iff.mp (h row hrow)).2
    rw [Fields.getD_eq]
    cases hget : row.get? "filePath" with
    | none => simp [Value.isHashable]
    | some v =>
      rw [hget] at hpath
      cases v <;> simp_all [Value.isHashable, Value.isNull, Value.text?]
  unfold filePaths
  dsimp only
  rw [hhash]
  refine ⟨_, rfl, ?_⟩
  rw [Bool.eq_iff_iff, List.isEmpty_iff, ← List.length_eq_zero_iff, List.length_mergeSort,
    List.length_eq_zero_iff, distinct_eq_nil, filter_present_paths]
  simp

end Rows

section Phases

/-- On the database `db` the search asks just the queries `qs`, gathers `n` lines and gives `a`. -/
def Yields {α : Type} (w : Search α) (db : Database) (qs : List Query) (n : Nat) (a : α) : Prop :=
  ∀ lines, ∃ new, new.length = n ∧
    w.runOn ⟨db, lines⟩ = (.ok a, ⟨db.after qs, lines ++ new⟩)

namespace Yields

variable {α β : Type} {w : Search α} {k : α → Search β} {db : Database} {qs rs : List Query}
  {m n : Nat} {a : α} {b : β}

theorem lift {x : Except Fault α} (h : x = .ok a) : Yields (Work.lift x) db [] 0 a :=
  fun lines => ⟨[], rfl, by simp [h]⟩

theorem pure (a : α) : Yields (Pure.pure a) db [] 0 a := lift rfl

theorem gather (line : Text) : Yields (Search.gather line) db [] 1 () :=
  fun lines => ⟨[line], rfl, by simp⟩

theorem ask (h : db.IsFaultless) (q : Query) : Yields (Work.ask q) db [q] 0 (db.rowsAt 0) :=
  fun lines => ⟨[], rfl, by simp [Work.runOn_ask, h.answerAt_eq]⟩

theorem bind (hw : Yields w db qs m a) (hk : Yields (k a) (db.after qs) rs n b) :
    Yields (w >>= k) db (qs ++ rs) (m + n) b := by
  intro lines
  obtain ⟨new, hnew, hrun⟩ := hw lines
  obtain ⟨new', hnew', hrun'⟩ := hk (lines ++ new)
  refine ⟨new ++ new', by simp [hnew, hnew'], ?_⟩
  rw [Work.runOn_bind_ok hrun, hrun']
  simp

theorem lift_bind {x : Except Fault α} (h : x = .ok a) (hk : Yields (k a) db qs n b) :
    Yields (Work.lift x >>= k) db qs n b := by
  subst h
  exact hk

theorem ask_bind {k : List Fields → Search β} (h : db.IsFaultless) (q : Query)
    (hk : Yields (k (db.rowsAt 0)) (db.after [q]) qs n b) :
    Yields (Work.ask q >>= k) db (q :: qs) n b := by
  have hboth := (ask h q).bind hk
  rwa [Nat.zero_add] at hboth

/-- A last step that neither asks nor gathers. -/
theorem bind_pure (hw : Yields w db qs m a) (b : β) :
    Yields (w >>= fun _ => Pure.pure b) db qs m b := by
  have hboth := hw.bind (k := fun _ => Pure.pure b) (pure b)
  rwa [List.append_nil] at hboth

theorem of_count (h : Yields w db qs m a) (hn : m = n) : Yields w db qs n a := hn ▸ h

/-- A first step that asks nothing. -/
theorem silent_bind (hw : Yields w db [] m a) (hk : Yields (k a) db qs n b) :
    Yields (w >>= k) db qs (m + n) b :=
  hw.bind (by rwa [Database.after_nil])

end Yields

variable {db : Database} {rows : List Fields}

theorem gatherRows_yields {line : Fields → Except Fault Text}
    (h : ∀ row ∈ rows, ∃ text, line row = .ok text) :
    Yields (gatherRows line rows) db [] rows.length () := by
  induction rows with
  | nil => exact .pure ()
  | cons row rows ih =>
    obtain ⟨text, htext⟩ := h row (by simp)
    have hrow : Yields (do gather (← Work.lift (line row))) db [] 1 () :=
      .lift_bind htext (.gather text)
    rw [List.length_cons, Nat.add_comm]
    exact hrow.silent_bind (ih fun row hrow => h row (by simp [hrow]))

/-- The query for what is in a file. -/
def contentsQueryOf (row : Fields) : Query := contentsQuery (row.getD "path" .null)

theorem fileLines_yields {row : Fields} (hdb : db.IsFaultless) (hrow : isFile row = true)
    (hcontents : ∀ row ∈ db.rowsAt 0, isTyped row = true) :
    Yields (fileLines row) db [contentsQueryOf row]
      (1 + if (db.rowsAt 0).any hasName then 1 else 0) () := by
  obtain ⟨hlabels, hpath⟩ := Bool.and_eq_true_iff.mp hrow
  obtain ⟨kind, hkind⟩ := exists_kind hlabels
  obtain ⟨parts, hparts, hempty⟩ := exists_contents hcontents
  apply Yields.lift_bind hkind
  apply Yields.lift_bind (field_eq hpath)
  apply (Yields.gather _).silent_bind
  apply Yields.ask_bind hdb
  apply Yields.lift_bind hparts
  rw [hempty, Bool.not_not]
  split
  · exact .gather _
  · exact .pure ()

theorem files_yields {files : List Fields} {contents : List (List Fields)} (hdb : db.IsFaultless)
    (hfiles : ∀ row ∈ files, isFile row = true)
    (hfound : (List.range files.length).map db.rowsAt = contents)
    (hcontents : ∀ rows ∈ contents, ∀ row ∈ rows, isTyped row = true) :
    Yields (files.forM fileLines) db (files.map contentsQueryOf)
      (files.length + contents.countP (·.any hasName)) () := by
  induction files generalizing db contents with
  | nil =>
    subst hfound
    exact .pure ()
  | cons row files ih =>
    -- The answers after the first are those that the rest of the files meet.
    have hrest : (List.range files.length).map (db.after [contentsQueryOf row]).rowsAt =
        contents.tail := by
      rw [← hfound, List.length_cons, List.range_succ_eq_map]
      simp [Function.comp_def, Nat.add_comm 1]
    obtain ⟨first, rest, rfl⟩ : ∃ first rest, contents = first :: rest := by
      rw [← hfound, List.length_cons, List.range_succ_eq_map]
      exact ⟨_, _, rfl⟩
    have hfirst : db.rowsAt 0 = first := by
      rw [List.length_cons, List.range_succ_eq_map] at hfound
      exact (List.cons.inj hfound).1
    subst hfirst
    have hone := fileLines_yields hdb (hfiles row (by simp)) (hcontents _ (by simp))
    have hmore := ih (hdb.after [contentsQueryOf row]) (fun row hrow => hfiles row (by simp [hrow]))
      hrest fun rows hrows => hcontents rows (List.mem_cons_of_mem _ hrows)
    refine (hone.bind hmore).of_count ?_
    rw [List.length_cons, List.countP_cons, List.tail_cons]
    omega

/-- The queries for the nodes near a question and for what they are connected to. -/
def nearbyQueries (embedding : Value) (near : List Fields) : List Query :=
  functionQuery embedding :: fileQuery embedding ::
    match near with
    | [] => []
    | [row] => [traversalQuery [idOf row]]
    | first :: second :: rest =>
      [traversalQuery ((first :: second :: rest).map idOf),
        pathQuery (first.getD "name" .null) (second.getD "name" .null)]

/-- The rows of the traversal, which is made where there is a node to start from. -/
def connectedRows (db : Database) : List Fields → List Fields
  | [] => []
  | _ :: _ => db.rowsAt 2

/-- The rows of the paths between the first two nodes. -/
def betweenRows (db : Database) : List Fields → List Fields
  | _ :: _ :: _ => db.rowsAt 3
  | _ => []

theorem nearby_yields (embedding : Value) (hdb : db.IsFaultless) {near : List Fields}
    (hfound : db.rowsAt 0 ++ db.rowsAt 1 = near) (hnear : ∀ row ∈ near, isNear row = true)
    (hconnected : ∀ row ∈ connectedRows db near, isNode row = true)
    (hbetween : ∀ row ∈ betweenRows db near, isNode row = true) :
    Yields (nearby embedding) db (nearbyQueries embedding near)
      (near.length + ((connectedRows db near).length + (betweenRows db near).length)) near := by
  have hplaced (row : Fields) (hrow : row ∈ near) : isPlaced row = true :=
    (Bool.and_eq_true_iff.mp (hnear row hrow)).1
  have hnode (row : Fields) (hrow : row ∈ near) : isNode row = true :=
    (Bool.and_eq_true_iff.mp (hplaced row hrow)).1
  have hrows {lead : Text} {rows : List Fields} (h : ∀ row ∈ rows, isNode row = true) (qs) :
      Yields (gatherRows (placedLine lead) rows) (db.after qs) [] rows.length () :=
    gatherRows_yields fun row hrow => exists_placedLine lead (h row hrow)
  apply Yields.ask_bind hdb
  apply Yields.ask_bind (hdb.after _)
  simp only [Database.after_after, Database.rowsAt_after, List.length_singleton, hfound]
  apply Yields.lift_bind (mapM_entityId hplaced)
  apply (hrows hnode _).silent_bind
  match near with
  | [] => exact .pure []
  | [row] =>
    apply Yields.ask_bind (hdb.after _)
    rw [Database.after_after, Database.rowsAt_after]
    apply (hrows hconnected _).silent_bind
    exact .pure [row]
  | first :: second :: rest =>
    apply Yields.ask_bind (hdb.after _)
    rw [Database.after_after, Database.rowsAt_after]
    apply (hrows hconnected _).silent_bind
    apply Yields.ask_bind (hdb.after _)
    rw [Database.after_after, Database.rowsAt_after]
    exact (hrows hbetween _).bind_pure (first :: second :: rest)

/-- The words of a question that are looked for: those with more than two characters that say
something about what is looked for. -/
def searchWords (question : Text) : List Text :=
  (Text.words question).filter fun w => 2 < w.length && !stopWords.contains (Text.lower w)

theorem keywordsOf_eq (question : Text) :
    keywordsOf question = (searchWords question).map Text.lower := by
  simp [keywordsOf, searchWords, List.filter_map, List.filter_filter, Function.comp_def,
    Bool.and_comm]

/-- The queries for nodes that match the words of a question. -/
def keywordQueries (question : Text) : List Query :=
  if searchWords question = [] then []
  else [keywordQuery "name" ((searchWords question).map Text.lower),
    keywordQuery "description" ((searchWords question).map Text.lower)]

/-- The rows for the words of a question, where it has some. -/
def rowsForWords (question : Text) (rows : List Fields) : List Fields :=
  if searchWords question = [] then [] else rows

theorem byKeywords_yields (question : Text) {named described : List Fields}
    (hdb : db.IsFaultless) (hfound : rowsForWords question (db.rowsAt 0) = named)
    (hfound' : rowsForWords question (db.rowsAt 1) = described)
    (hnamed : ∀ row ∈ named, isPlaced row = true)
    (hdescribed : ∀ row ∈ described, isPlaced row = true) :
    Yields (byKeywords (.str question)) db (keywordQueries question)
      (named.length + described.length) () := by
  have hempty : (keywordsOf question).isEmpty = decide (searchWords question = []) := by
    rw [keywordsOf_eq]
    cases searchWords question <;> rfl
  apply Yields.lift_bind rfl
  unfold keywordQueries
  unfold rowsForWords at hfound hfound'
  change Yields (if _ then _ else _) _ _ _ _
  rw [hempty]
  by_cases hwords : searchWords question = []
  · rw [if_pos hwords] at hfound hfound'
    subst hfound hfound'
    simp only [hwords]
    exact .pure ()
  · rw [if_neg hwords] at hfound hfound'
    simp only [hwords, keywordsOf_eq]
    apply Yields.ask_bind hdb
    rw [hfound]
    apply Yields.silent_bind (gatherRows_yields fun row hrow => exists_nameLine (hnamed row hrow))
    apply Yields.ask_bind (hdb.after _)
    rw [Database.rowsAt_after, List.length_singleton, hfound']
    exact gatherRows_yields fun row hrow => exists_descriptionLine (hdescribed row hrow)

/-- The rows for the files of the nodes, where a node stands in a file. -/
def rowsForPaths (near rows : List Fields) : List Fields := if near.any hasPath then rows else []

/-- The queries for the files of the nodes and for what is in those that are found. -/
def fileQueries (near : List Fields) (paths : List Value) (files : List Fields) : List Query :=
  if near.any hasPath then filesQuery paths :: files.map contentsQueryOf else []

theorem aroundFiles_yields {near files : List Fields} {contents : List (List Fields)}
    {paths : List Value} (hdb : db.IsFaultless) (hpaths : filePaths near = .ok paths)
    (hempty : paths.isEmpty = !near.any hasPath)
    (hfound : rowsForPaths near (db.rowsAt 0) = files)
    (hfound' : (List.range files.length).map (fun i => db.rowsAt (1 + i)) = contents)
    (hfiles : ∀ row ∈ files, isFile row = true)
    (hcontents : ∀ rows ∈ contents, ∀ row ∈ rows, isTyped row = true) :
    Yields (aroundFiles near) db (fileQueries near paths files)
      (files.length + contents.countP (·.any hasName)) () := by
  apply Yields.lift_bind hpaths
  change Yields (if _ then _ else _) _ _ _ _
  unfold fileQueries
  unfold rowsForPaths at hfound
  rw [hempty, Bool.not_not]
  cases hany : near.any hasPath with
  | false =>
    rw [hany] at hfound
    subst hfound hfound'
    exact .pure ()
  | true =>
    rw [hany, if_pos rfl] at hfound
    rw [if_pos rfl, if_pos rfl]
    apply Yields.ask_bind hdb
    rw [hfound]
    apply files_yields (hdb.after [filesQuery paths]) hfiles _ hcontents
    rw [← hfound']
    simp

end Phases

/-- What the database answers in the phases of a search. A phase that is left out has no rows. -/
structure Course where
  /-- The nodes near the question. -/
  near : List Fields
  /-- What these are connected to. -/
  connected : List Fields
  /-- What is on a path between the first two. -/
  between : List Fields
  /-- The nodes with a word of the question in the name. -/
  named : List Fields
  /-- The nodes with a word of the question in the description. -/
  described : List Fields
  /-- The files of the nodes. -/
  files : List Fields
  /-- What is in each of these files. -/
  contents : List (List Fields)

namespace Course

/-- The course of a search: the answers of the database, taken in the order of the phases. -/
def of (db : Database) (question : Text) : Course :=
  let near := db.rowsAt 0 ++ db.rowsAt 1
  let words := 2 + (if 1 ≤ near.length then 1 else 0) + (if 2 ≤ near.length then 1 else 0)
  let around := words + 2 * (if searchWords question ≠ [] then 1 else 0)
  let files := rowsForPaths near (db.rowsAt around)
  { near
    connected := connectedRows db near
    between := betweenRows db near
    named := rowsForWords question (db.rowsAt words)
    described := rowsForWords question (db.rowsAt (words + 1))
    files
    contents := (List.range files.length).map fun i => db.rowsAt (around + (1 + i)) }

/-- All rows have the form that their phase takes them to have. -/
structure IsWellFormed (c : Course) : Prop where
  near : ∀ row ∈ c.near, isNear row = true
  connected : ∀ row ∈ c.connected, isNode row = true
  between : ∀ row ∈ c.between, isNode row = true
  named : ∀ row ∈ c.named, isPlaced row = true
  described : ∀ row ∈ c.described, isPlaced row = true
  files : ∀ row ∈ c.files, isFile row = true
  contents : ∀ rows ∈ c.contents, ∀ row ∈ rows, isTyped row = true

/-- The queries of a search, phase by phase. -/
def queries (c : Course) (embedding : Value) (question : Text) (paths : List Value) : List Query :=
  nearbyQueries embedding c.near ++ (keywordQueries question ++ fileQueries c.near paths c.files)

theorem length_nearbyQueries (embedding : Value) (near : List Fields) :
    (nearbyQueries embedding near).length =
      2 + (if 1 ≤ near.length then 1 else 0) + (if 2 ≤ near.length then 1 else 0) := by
  match near with
  | [] => rfl
  | [row] => rfl
  | first :: second :: rest => simp [nearbyQueries]

theorem length_keywordQueries (question : Text) :
    (keywordQueries question).length = 2 * (if searchWords question ≠ [] then 1 else 0) := by
  unfold keywordQueries
  by_cases h : searchWords question = [] <;> simp [h]

theorem length_fileQueries (near : List Fields) (paths : List Value) (files : List Fields) :
    (fileQueries near paths files).length =
      if near.any hasPath then 1 + files.length else 0 := by
  unfold fileQueries
  split <;> simp [Nat.add_comm]

end Course

open Course in
theorem all_yields (embedding : Value) (question : Text) {db : Database} {c : Course}
    {paths : List Value} (hdb : db.IsFaultless) (hof : Course.of db question = c)
    (hc : c.IsWellFormed) (hpaths : filePaths c.near = .ok paths)
    (hempty : paths.isEmpty = !c.near.any hasPath) :
    Yields (all embedding (.str question)) db (c.queries embedding question paths)
      (c.near.length + (c.connected.length + c.between.length) +
        (c.named.length + c.described.length +
          (c.files.length + c.contents.countP (·.any hasName)))) () := by
  subst hof
  apply Yields.bind (nearby_yields embedding hdb rfl hc.near hc.connected hc.between)
  -- The answers to the queries for words come after those to the queries for what is near.
  apply Yields.bind (a := ())
  · apply byKeywords_yields question (hdb.after _) _ _ hc.named hc.described
    · rw [Database.rowsAt_after, length_nearbyQueries]
      rfl
    · rw [Database.rowsAt_after, length_nearbyQueries]
      rfl
  -- The answers about files come last.
  rw [Database.after_after]
  apply aroundFiles_yields (hdb.after _) hpaths hempty _ _ hc.files hc.contents
  · rw [Database.rowsAt_after, List.length_append, length_nearbyQueries, length_keywordQueries]
    rfl
  · simp only [Database.rowsAt_after]
    rw [List.length_append, length_nearbyQueries, length_keywordQueries]
    rfl

end Graph.Search

namespace Graph

open Search Course

/-- A search on a database that answers every query with rows of the right form goes through all of
its phases: it asks two queries for what is near the question, one for what these nodes are
connected to if there is a node and one for paths if there are two, two if the question has words to
look for and, if a node stands in a file, one for the files and one for each file that is found. It
gathers a line for each row but the contents of a file, which are one line if something in them has
a name. -/
theorem search_follows_plan (embedding : Value) (question : Text) {db : Database}
    (hdb : db.IsFaultless) (hc : (Course.of db question).IsWellFormed) :
    let c := Course.of db question
    (∃ paths, filePaths c.near = .ok paths ∧
      (retrieve embedding (.str question) db).2.asked = db.asked ++
        (nearbyQueries embedding c.near ++
          (keywordQueries question ++ fileQueries c.near paths c.files))) ∧
    (retrieve embedding (.str question) db).2.asked.length = db.asked.length +
      (2 + (if 1 ≤ c.near.length then 1 else 0) + (if 2 ≤ c.near.length then 1 else 0) +
        2 * (if searchWords question ≠ [] then 1 else 0) +
        (if c.near.any hasPath then 1 + c.files.length else 0)) ∧
    (retrieve embedding (.str question) db).1 =
      report (gathered embedding (.str question) db) ∧
    (gathered embedding (.str question) db).length =
      c.near.length + c.connected.length + c.between.length + c.named.length +
        c.described.length + c.files.length + c.contents.countP (·.any hasName) := by
  intro c
  obtain ⟨paths, hpaths, hempty⟩ := exists_filePaths hc.near
  obtain ⟨lines, hlines, hrun⟩ := all_yields (c := c) embedding question hdb rfl hc hpaths hempty []
  have hasked : (retrieve embedding (.str question) db).2.asked =
      db.asked ++ c.queries embedding question paths := by
    rw [retrieve, hrun]
    rfl
  refine ⟨⟨paths, hpaths, hasked⟩, ?_, rfl, ?_⟩
  · rw [hasked, queries, List.length_append, List.length_append, List.length_append,
      length_nearbyQueries, length_keywordQueries, length_fileQueries]
    omega
  · rw [gathered, hrun, List.nil_append, hlines]
    omega

/-- A database that finds a function and a file near a question. They are connected to a class and
to each other, a word of the question is the name of a third node, and of the two files that the
first two stand in one has something with a name in it. -/
def plannedGraph : Database := .answering [
  [[("name", .str "load"), ("type", .str "Function"), ("filePath", .str "a.py")]],
  [[("name", .str "b.py"), ("filePath", .str "b.py")]],
  [[("name", .str "Cache")]],
  [[("name", .str "load")], [("name", .str "b.py")]],
  [[("name", .str "parse"), ("filePath", .null)]],
  [],
  [[("path", .str "a.py"), ("fileLabels", .list [.str "File"])], [("path", .str "b.py")]],
  [[("name", .str "load"), ("type", .str "Function")], [("name", .null)]],
  [[("name", .str "")]]]

theorem plannedGraph_isFaultless : plannedGraph.IsFaultless := Database.answering_isFaultless _

theorem plannedGraph_isWellFormed : (Course.of plannedGraph "how to parse it").IsWellFormed where
  near := by decide +kernel
  connected := by decide +kernel
  between := by decide +kernel
  named := by decide +kernel
  described := by decide +kernel
  files := by decide +kernel
  contents := by decide +kernel

theorem search_follows_plan_sample :
    (retrieve .null (.str "how to parse it") plannedGraph).2.asked.length = 9 ∧
    (gathered .null (.str "how to parse it") plannedGraph).length = 9 := by
  obtain ⟨-, hasked, -, hlines⟩ := search_follows_plan .null "how to parse it"
    plannedGraph_isFaultless plannedGraph_isWellFormed
  rw [hasked, hlines]
  decide +kernel

end Graph

end CodeAtlas
