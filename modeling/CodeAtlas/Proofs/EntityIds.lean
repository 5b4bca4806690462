import CodeAtlas.Outline.Scan
import CodeAtlas.Proofs.SearchQueries
import CodeAtlas.Proofs.SplitLaws
import CodeAtlas.Proofs.ValueParts
import CodeAtlas.Proofs.WorkContract

/-! The ids under which the nodes found for a question are passed on to the traversal. An id joins
the name of a node and the path of its file by a hyphen, and the traversal takes it apart at every
hyphen. Name and path come back just where neither has a hyphen, which no name of a definition
does. -/
namespace CodeAtlas

namespace Graph

/-- The sign that joins a name and a path, and at which an id is taken apart. -/
def hyphen : CodePoint := '-'

/-- Where the traversal starts for an id: at the name and the path that are the first two of its
pieces. -/
def startOf (id : Text) : Option Text × Option Text :=
  ((Text.split hyphen id)[0]?, (Text.split hyphen id)[1]?)

/-- Name and path come back just where neither has a hyphen. -/
theorem startOf_join_iff (name path : Text) :
    startOf (name ++ hyphen :: path) = (some name, some path) ↔ hyphen ∉ name ∧ hyphen ∉ path := by
  unfold startOf
  rw [Text.split_append, Prod.mk.injEq]
  constructor
  · rintro ⟨hname, hpath⟩
    have hhead : ((Text.split hyphen name ++ Text.split hyphen path)[0]?) =
        some (name.takeWhile (· != hyphen)) := by
      rw [List.getElem?_append_left (List.length_pos_iff.mpr (Text.split_ne_nil hyphen name)),
        Text.split_head]
    have hplain : hyphen ∉ name :=
      Text.not_mem_of_takeWhile (Option.some.inj (hhead.symm.trans hname))
    rw [Text.split_of_not_mem hplain, List.singleton_append, List.getElem?_cons_succ,
      Text.split_head] at hpath
    exact ⟨hplain, Text.not_mem_of_takeWhile (Option.some.inj hpath)⟩
  · rintro ⟨hname, hpath⟩
    simp [Text.split_of_not_mem hname, Text.split_of_not_mem hpath]

/-- A row of the search for nodes near a question: a node with its name, the path of its file and a
type. -/
structure NodeRow where
  row : Fields
  name : Text
  path : Text
  type : Text
  name_eq : row.get? "name" = some (.str name)
  path_eq : row.get? "filePath" = some (.str path)
  type_eq : row.getD "type" (.str "Entity") = .str type

namespace NodeRow

def id (n : NodeRow) : Text := n.name ++ hyphen :: n.path

theorem field_name (n : NodeRow) : (Value.dict n.row).field "name" = .ok (.str n.name) :=
  Value.field_eq_ok.mpr ⟨n.row, rfl, n.name_eq⟩

theorem field_path (n : NodeRow) : (Value.dict n.row).field "filePath" = .ok (.str n.path) :=
  Value.field_eq_ok.mpr ⟨n.row, rfl, n.path_eq⟩

theorem entityId_eq (n : NodeRow) : Search.entityId n.row = .ok n.id := by
  have hid : n.name ++ "-" ++ n.path = n.id := List.append_assoc n.name "-" n.path
  simp only [Search.entityId, field_name, field_path]
  exact congrArg Except.ok hid

theorem mapM_entityId (nodes : List NodeRow) :
    (nodes.map row).mapM Search.entityId = .ok (nodes.map id) := by
  induction nodes with
  | nil => rfl
  | cons n nodes ih =>
    rw [List.map_cons, List.mapM_cons, entityId_eq, ih]
    rfl

theorem placedLine_eq (n : NodeRow) (lead : Text) :
    ∃ line, Search.placedLine lead n.row = .ok line := by
  simp only [Search.placedLine, Search.typeText, n.type_eq, Value.asText, field_name]
  exact ⟨_, rfl⟩

end NodeRow

namespace Search

theorem gatherNodes_does (lead : Text) (nodes : List NodeRow) (db : Database) :
    (gatherRows (placedLine lead) (nodes.map NodeRow.row)).Does db [] (.ok ()) := by
  have hstep (n : NodeRow) (_ : n ∈ nodes) (rs : List Query) :
      Work.Does (do gather (← Work.lift (placedLine lead n.row))) (db.after rs) [] (.ok ()) := by
    obtain ⟨line, hline⟩ := n.placedLine_eq lead
    rw [hline]
    exact (Work.Does.lift _).bind_silent (gather_does line _)
  have h : (gatherRows (placedLine lead) (nodes.map NodeRow.row)).Does db
      (nodes.filterMap fun _ => none) (.ok ()) := Work.Does.forM hstep
  rwa [List.filterMap_eq_nil_iff.mpr (by simp)] at h

section
variable {embedding question : Value} {db : Database} {functions files : List NodeRow}
  (hfunctions : db.answerAt 0 = .ok (functions.map NodeRow.row))
  (hfiles : db.answerAt 1 = .ok (files.map NodeRow.row)) (hfound : functions ++ files ≠ [])

include hfunctions hfiles hfound

theorem nearby_ends (notes : List Text) : (nearby embedding).Ends ⟨db, notes⟩ fun _ d' =>
    db.asked ++ [functionQuery embedding, fileQuery embedding,
      traversalQuery ((functions ++ files).map NodeRow.id)] <+: d'.database.asked := by
  have hfiles' : (db.after [functionQuery embedding]).answerAt 0 = .ok (files.map NodeRow.row) := by
    rw [Database.answerAt_after]
    exact hfiles
  have hsome : (!((functions ++ files).map NodeRow.row).isEmpty) = true := by
    simpa using hfound
  unfold nearby
  refine (Work.Does.ask_ok hfunctions).bind_ends (fun notes => ?_) notes
  refine (Work.Does.ask_ok hfiles').bind_ends (fun notes => ?_) notes
  rw [← List.map_append]
  dsimp only
  rw [NodeRow.mapM_entityId]
  refine (Work.Does.lift _).bind_ends (fun notes => ?_) notes
  refine (gatherNodes_does "" _ _).bind_ends (fun notes => ?_) notes
  simp only [Database.after_after, Database.after_nil, List.cons_append, List.nil_append]
  rw [if_pos hsome]
  -- From here on queries are only added, and what has been asked is all that counts.
  have hasked (d' : Desk (List Text)) (h : d'.database =
      (db.after [functionQuery embedding, fileQuery embedding]).after
        [traversalQuery ((functions ++ files).map NodeRow.id)]) :
      db.asked ++ [functionQuery embedding, fileQuery embedding,
        traversalQuery ((functions ++ files).map NodeRow.id)] <+: d'.database.asked := by
    rw [h]
    simp [Database.after]
  refine Work.Ends.bind (Work.Ends.ask _ _) (fun rows d' hd' => ?_) fun _ d' hd' => hasked d' hd'
  refine Work.Asks.ends (P := IsQuery) ?_ (hasked d' hd')
  refine (gatherRows_asks _ rows).bind fun _ _ _ => ?_
  split
  · refine (Work.Asks.ask (.path _ _)).bind fun _ rows _ => ?_
    exact (gatherRows_asks _ rows).bind fun _ _ _ => .pure _
  · exact .pure _

theorem all_ends (notes : List Text) : (all embedding question).Ends ⟨db, notes⟩ fun _ d' =>
    db.asked ++ [functionQuery embedding, fileQuery embedding,
      traversalQuery ((functions ++ files).map NodeRow.id)] <+: d'.database.asked := by
  unfold all
  refine (nearby_ends hfunctions hfiles hfound notes).bind (fun found d' h => ?_) fun _ _ h => h
  refine Work.Asks.ends (P := IsQuery) ?_ h
  exact (byKeywords_asks question).bind fun _ _ _ => aroundFiles_asks found

end

end Search

theorem hyphen_mem_uniqueName (src : Source) {f : Finding} (h : f.kind.isImport = false) :
    hyphen ∈ f.uniqueName src := by
  rw [Finding.uniqueName, h]
  have hjoint : hyphen ∈ Text.ofString "-" := by decide
  simp [hjoint]

theorem exists_entity (src : Source) {f : Finding} (hf : f ∈ src.findings)
    (h : f.kind.isImport = false) : ∃ e ∈ src.scan.entities, e.name = .str (f.uniqueName src) := by
  refine ⟨f.entity src, List.mem_cons_of_mem _ (List.mem_map_of_mem hf), ?_⟩
  rw [Finding.entity, h]
  rfl

/-- The nodes found for a question are passed on to the traversal, each by its id. The traversal
starts at the name and the path of a node just where neither has a hyphen. So it never starts at a
definition that was found by rules. -/
theorem traversal_starts_iff (embedding question : Value) (db : Database)
    (functions files : List NodeRow) (hfunctions : db.answerAt 0 = .ok (functions.map NodeRow.row))
    (hfiles : db.answerAt 1 = .ok (files.map NodeRow.row)) :
    (functions ++ files ≠ [] →
      db.asked ++ [Search.functionQuery embedding, Search.fileQuery embedding,
        Search.traversalQuery ((functions ++ files).map NodeRow.id)] <+:
          (retrieve embedding question db).2.asked) ∧
    (∀ n : NodeRow, Search.entityId n.row = .ok n.id ∧
      (startOf n.id = (some n.name, some n.path) ↔ hyphen ∉ n.name ∧ hyphen ∉ n.path)) ∧
    (∀ (src : Source) (f : Finding), f ∈ src.findings → f.kind.isImport = false →
      (∃ e ∈ src.scan.entities, e.name = .str (f.uniqueName src)) ∧
        ∀ n : NodeRow, n.name = f.uniqueName src →
          startOf n.id ≠ (some n.name, some n.path)) := by
  refine ⟨fun hfound => Search.all_ends hfunctions hfiles hfound [],
    fun n => ⟨n.entityId_eq, startOf_join_iff n.name n.path⟩, fun src f hf himport => ?_⟩
  refine ⟨exists_entity src hf himport, fun n hn hstart => ?_⟩
  have hplain := ((startOf_join_iff n.name n.path).mp hstart).1
  rw [hn] at hplain
  exact hplain (hyphen_mem_uniqueName src himport)

/-- A function `f` of the file `a.py`, by the name that tells it apart from others. -/
def sampleNode : NodeRow where
  row := [("name", .str "f-a"), ("type", .str "Function"), ("filePath", .str "a.py"),
    ("description", .str ""), ("code", .str "")]
  name := "f-a"
  path := "a.py"
  type := "Function"
  name_eq := rfl
  path_eq := rfl
  type_eq := rfl

def sampleSource : Source := ⟨"a.py", .str "python", "def f():"⟩

/-- A database that finds one function. -/
def sampleGraph : Database := { Database.barren with answers := [.ok [sampleNode.row]] }

theorem traversal_starts_iff_sample :
    [Search.functionQuery .null, Search.fileQuery .null, Search.traversalQuery ["f-a-a.py"]] <+:
      (retrieve .null (.str "") sampleGraph).2.asked ∧
    ∃ f ∈ sampleSource.findings, f.uniqueName sampleSource = sampleNode.name ∧
      startOf sampleNode.id ≠ (some sampleNode.name, some sampleNode.path) := by
  have h := traversal_starts_iff .null (.str "") sampleGraph [sampleNode] [] rfl rfl
  have hfindings : sampleSource.findings.map
      (fun f => (f.kind.isImport, f.uniqueName sampleSource)) = [(false, sampleNode.name)] := by
    decide +kernel
  obtain ⟨f, hf, hname⟩ := List.map_eq_singleton_iff.mp hfindings
  obtain ⟨himport, hname⟩ := Prod.mk.inj hname
  have hmem : f ∈ sampleSource.findings := by simp [hf]
  exact ⟨h.1 (by simp), f, hmem, hname, (h.2.2 _ f hmem himport).2 sampleNode hname.symm⟩

/-- The name and the path of a function do not come back from its id. -/
theorem definition_id_split_apart :
    Search.entityId sampleNode.row = .ok "f-a-a.py" ∧
      startOf "f-a-a.py" = (some (Text.ofString "f"), some (Text.ofString "a")) :=
  ⟨rfl, by decide +kernel⟩

end Graph

end CodeAtlas
