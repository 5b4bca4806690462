import Mathlib.Data.List.TakeWhile
import CodeAtlas.Proofs.EntityIdentity
import CodeAtlas.Proofs.QueryText

/-! The parameters of the queries that are asked while a file is brought in, and the names by which
the query texts refer to them. The text and the parameters of an entity's query are put together
side by side. They part only over a key with a line break at its end, which passes the check on keys:
it stands among the parameters with the line break, and no text can refer to it. -/
namespace CodeAtlas

namespace Query

variable {s t : Text}

/-- What names of parameters are made of: letters, digits and underscores of ASCII. -/
def isNamePart (c : CodePoint) : Bool := c.isLetter || c.isDigit || c == '_'

/-- The names that a query text refers to: after each dollar sign, as much as can be part of a
name. -/
def references : Text → List Text
  | [] => []
  | c :: cs => if c == '$' then cs.takeWhile isNamePart :: references cs else references cs

/-- The text refers to exactly the parameters that go with it. -/
def IsInStep (q : Query) : Prop :=
  ∀ name, name ∈ references q.text ↔ name ∈ q.params.map Prod.fst

/-- The text does not go on with a name that ends before it. -/
def EndsNames (s : Text) : Prop := ∀ c ∈ s.head?, isNamePart c = false

theorem takeWhile_append_of_endsNames (ht : EndsNames t) :
    (s ++ t).takeWhile isNamePart = s.takeWhile isNamePart := by
  rw [List.takeWhile_append]
  split
  next hall =>
    have hwhole : s.takeWhile isNamePart = s := (List.takeWhile_prefix _).eq_of_length hall
    have hnone : t.takeWhile isNamePart = [] := by
      cases t with
      | nil => rfl
      | cons c cs => simp [ht c rfl]
    rw [hwhole, hnone, List.append_nil]
  · rfl

theorem references_append (ht : EndsNames t) :
    references (s ++ t) = references s ++ references t := by
  induction s with
  | nil => rfl
  | cons c cs ih =>
    simp only [List.cons_append, references, ih, takeWhile_append_of_endsNames ht]
    split <;> rfl

/-- Text without a dollar sign refers to nothing, whatever comes behind it. -/
theorem references_plain_append (hs : CodePoint.ofChar '$' ∉ s) :
    references (s ++ t) = references t := by
  induction s with
  | nil => rfl
  | cons c cs ih =>
    obtain ⟨hc, hcs⟩ := not_or.mp (mt List.mem_cons.mpr hs)
    have hno : (c == CodePoint.ofChar '$') = false := beq_false_of_ne (Ne.symm hc)
    rw [List.cons_append, references, hno, if_neg Bool.false_ne_true, ih hcs]

theorem references_plain (hs : CodePoint.ofChar '$' ∉ s) : references s = [] := by
  have h := references_plain_append (t := []) hs
  rwa [List.append_nil] at h

theorem not_mem_margin (indent : Nat) : CodePoint.ofChar '$' ∉ margin indent := by
  intro h
  rcases List.mem_append.mp h with h | h
  · revert h
    decide
  · have heq := List.eq_of_mem_replicate h
    revert heq
    decide

theorem endsNames_margin_append (indent : Nat) (s : Text) : EndsNames (margin indent ++ s) := by
  intro c hc
  cases hc
  decide

theorem block_cons (indent : Nat) (line : Text) (lines : List Text) :
    block indent (line :: lines) = margin indent ++ (line ++ block indent lines) := by
  simp [block, Text.join]

theorem endsNames_block (indent : Nat) (lines : List Text) : EndsNames (block indent lines) := by
  cases lines with
  | nil =>
    have h := endsNames_margin_append indent []
    rwa [List.append_nil] at h
  | cons line lines =>
    rw [block_cons]
    exact endsNames_margin_append indent _

theorem references_block (indent : Nat) (lines : List Text) :
    references (block indent lines) = lines.flatMap references := by
  induction lines with
  | nil => exact references_plain (not_mem_margin indent)
  | cons line lines ih =>
    rw [block_cons, references_plain_append (not_mem_margin indent),
      references_append (endsNames_block indent lines), ih, List.flatMap_cons]

end Query

namespace Graph

open Query

variable {key : Text}

theorem isNamePart_iff {c : CodePoint} : isNamePart c = true ↔ IsWordPart c := isWordPart_iff

/-- A plain identifier is a name as a whole. -/
theorem isNamePart_of_plain (h : isPlainIdentifier key = true) :
    ∀ c ∈ key, isNamePart c = true := by
  obtain ⟨c, cs, rfl, hc, hcs⟩ := isPlainIdentifier_iff.mp h
  intro x hx
  rcases List.mem_cons.mp hx with rfl | hx
  · exact isNamePart_iff.mpr (.inl hc)
  · exact isNamePart_iff.mpr (hcs x hx)

/-- An identifier is a plain one, or a plain one with a line break behind it. -/
theorem plain_or_broken (h : isIdentifier key = true) : isPlainIdentifier key = true ∨
    ∃ name, isPlainIdentifier name = true ∧ key = name ++ "\n" := by
  obtain ⟨c, cs, ending, rfl, hc, hcs, rfl | rfl⟩ := isIdentifier_iff.mp h
  · exact .inl (isPlainIdentifier_iff.mpr ⟨c, cs, by simp, hc, hcs⟩)
  · exact .inr ⟨c :: cs, isPlainIdentifier_iff.mpr ⟨c, cs, rfl, hc, hcs⟩, rfl⟩

/-- The name by which a query text refers to a key. -/
def nameIn (key : Text) : Text := key.takeWhile isNamePart

theorem nameIn_of_plain (h : isPlainIdentifier key = true) : nameIn key = key :=
  List.takeWhile_eq_self_iff.mpr (isNamePart_of_plain h)

/-- No text refers to a key with a line break. -/
theorem nameIn_ne_broken (name : Text) : nameIn key ≠ name ++ "\n" := by
  intro h
  have hbreak : CodePoint.ofChar '\n' ∈ nameIn key := by simp [h, Text.ofString, Text.ofChars]
  have hpart := List.all_eq_true.mp List.all_takeWhile _ hbreak
  revert hpart
  decide

theorem dollar_not_mem (h : isIdentifier key = true) : CodePoint.ofChar '$' ∉ key := by
  have hplain (name : Text) (h : isPlainIdentifier name = true) : CodePoint.ofChar '$' ∉ name := by
    intro hmem
    have hpart := isNamePart_of_plain h _ hmem
    revert hpart
    decide
  rcases plain_or_broken h with hkey | ⟨name, hname, rfl⟩
  · exact hplain key hkey
  · intro hmem
    rcases List.mem_append.mp hmem with hmem | hmem
    · exact hplain name hname hmem
    · revert hmem
      decide

namespace Assignments

theorem endsNames_text (s : Assignments) : EndsNames s.text := by
  obtain ⟨keys, params⟩ := s
  intro c hc
  cases keys with
  | nil => cases hc
  | cons key keys =>
    cases hc
    decide

/-- The assignments refer to their keys one after another. -/
theorem references_text (s : Assignments) (h : ∀ key ∈ s.keys, isIdentifier key = true) :
    references s.text = s.keys.map nameIn := by
  obtain ⟨keys, params⟩ := s
  induction keys with
  | nil => rfl
  | cons key keys ih =>
    obtain ⟨hkey, hkeys⟩ := List.forall_mem_cons.mp h
    have hdollar := dollar_not_mem hkey
    have hone : references (", e." ++ key ++ " = $" ++ key) = [nameIn key] := by
      rw [List.append_assoc, List.append_assoc, references_plain_append (by decide),
        references_plain_append hdollar]
      have hrest : references (Text.ofString " = $" ++ key) =
          key.takeWhile isNamePart :: references key := rfl
      rw [hrest, references_plain hdollar, nameIn]
    have hsplit : text ⟨key :: keys, params⟩ =
        (", e." ++ key ++ " = $" ++ key) ++ text ⟨keys, params⟩ := rfl
    rw [hsplit, references_append (endsNames_text ⟨keys, params⟩), hone, ih hkeys]
    rfl

/-- Keys of the parameters that every entity has. -/
def fixedKeys : List Text := ["file_path", "name", "description", "embedding", "repo_id"]

/-- The keys of the parameters are the fixed ones and those in the text. -/
def IsBalanced (s : Assignments) : Prop :=
  ∀ key, key ∈ s.params.map Prod.fst ↔ key ∈ fixedKeys ∨ key ∈ s.keys

variable {s : Assignments}

theorem IsBalanced.add (h : s.IsBalanced) (key : Text) (v : Value) : (s.add key v).IsBalanced := by
  intro other
  have hkeys : other ∈ (s.add key v).keys ↔ other ∈ s.keys ∨ other = key := by
    rw [Assignments.add, List.mem_append, List.mem_singleton]
  rw [hkeys, ← or_assoc, ← h other]
  exact Fields.mem_keys_set

end Assignments

theorem assignmentsOf_isBalanced (f : FileNode) (entity properties : Fields) (embedding : Value) :
    (assignmentsOf f entity properties embedding).IsBalanced := by
  apply assignmentsOf_induction (R := fun s _ => s.IsBalanced) properties embedding embedding
  · intro key
    simp [fixedAssignments, Assignments.fixedKeys]
  · intro s _ h key v
    exact h.add key v

/-- The text refers to every key of the parameters by the name in it, and to nothing else. -/
def RefersToKeys (q : Query) : Prop :=
  ∀ name, name ∈ references q.text ↔ name ∈ (q.params.map Prod.fst).map nameIn

theorem refersToKeys_of_lists {q : Query} {names : List Text} (keys : List Text)
    (hnames : references q.text = names) (hkeys : q.params.map Prod.fst = keys)
    (hthere : ∀ name ∈ names, name ∈ keys.map nameIn)
    (hback : ∀ name ∈ keys.map nameIn, name ∈ names) : RefersToKeys q := by
  intro name
  rw [hnames, hkeys]
  exact ⟨hthere name, hback name⟩

section Queries

variable {f : FileNode} {kind : Text} {s : Assignments} {name : Text}

theorem dollar_not_mem_label (type : FileType) : CodePoint.ofChar '$' ∉ type.label := by
  cases type <;> decide

theorem fileQuery_refersToKeys (f : FileNode) (sample : Value) :
    RefersToKeys (f.query sample) := by
  have hnames : references (f.query sample).text =
      (["filename", "repo_id", "file_name", "extension", "context_sample"] : List Text) := by
    rw [FileNode.query]
    simp only [List.append_assoc]
    rw [references_plain_append (by decide), references_plain_append (dollar_not_mem_label f.type)]
    decide +kernel
  exact refersToKeys_of_lists ["filename", "repo_id", "file_name", "extension", "context_sample"]
    hnames rfl (by decide) (by decide)

theorem lookupQuery_refersToKeys (name : Value) : RefersToKeys (lookupQuery name) := by
  have hnames : references lookupText = (["import_name", "import_name"] : List Text) := by
    decide +kernel
  exact refersToKeys_of_lists ["import_name"] hnames rfl (by decide) (by decide)

theorem placeholderQuery_refersToKeys (isStandard : Bool) (name source : Value) :
    RefersToKeys (placeholderQuery isStandard name source) := by
  have hnames : references (placeholderText isStandard) =
      (["import_name", "description"] : List Text) := by
    cases isStandard <;> decide +kernel
  exact refersToKeys_of_lists ["import_name", "description"] hnames rfl (by decide) (by decide)

theorem relationshipQuery_refersToKeys (f : FileNode) (kind : Text) (fields : Fields) :
    RefersToKeys (relationshipQuery f (relationType kind) fields) := by
  have htype : CodePoint.ofChar '$' ∉ relationType kind := by
    intro hmem
    have hcapital := relationType_capital kind _ hmem
    rw [← isUpper_iff] at hcapital
    revert hcapital
    decide
  have hline : references ("MERGE (source)-[r:" ++ relationType kind ++ "]->(target)") = [] := by
    rw [List.append_assoc, references_plain_append (by decide), references_plain_append htype]
    decide
  have hnames : references (relationshipQuery f (relationType kind) fields).text =
      (["source_name", "filename", "target_name", "filename", "context"] : List Text) := by
    rw [relationshipQuery, references_block]
    simp only [List.flatMap_cons, List.flatMap_nil, hline]
    decide +kernel
  exact refersToKeys_of_lists ["source_name", "target_name", "filename", "context"] hnames rfl
    (by decide) (by decide)

/-- What the query of an entity sets on its node. -/
def settings (s : Assignments) : Text :=
  "e.description = $description, e.embedding = $embedding, e.repo_id = $repo_id" ++ s.text

theorem references_settings (hkeys : ∀ key ∈ s.keys, isIdentifier key = true) :
    references (settings s) =
      Text.ofString "description" :: "embedding" :: "repo_id" :: s.keys.map nameIn := by
  rw [settings, references_append s.endsNames_text, s.references_text hkeys]
  rfl

/-- The query of an entity refers to the fixed keys and to those of its assignments. -/
theorem mem_references_entityQuery (hkeys : ∀ key ∈ s.keys, isIdentifier key = true) :
    name ∈ references (entityQuery f kind s).text ↔
      name ∈ Assignments.fixedKeys ∨ name ∈ s.keys.map nameIn := by
  have hfile : references ("MATCH (f:" ++ f.type.label ++ " \x7bpath: $file_path\x7d)") =
      [Text.ofString "file_path"] := by
    rw [List.append_assoc, references_plain_append (by decide),
      references_plain_append (dollar_not_mem_label f.type)]
    decide +kernel
  have hlabel : CodePoint.ofChar '$' ∉ nodeLabel kind :=
    dollar_not_mem (isIdentifier_iff.mpr (nodeLabel_isName kind))
  have hnode : references ("MERGE (e:" ++ nodeLabel kind ++
      " \x7bname: $name, file_path: $file_path\x7d)") = [Text.ofString "name", "file_path"] := by
    rw [List.append_assoc, references_plain_append (by decide), references_plain_append hlabel]
    decide +kernel
  have hcreate : references ("ON CREATE SET " ++ settings s) = references (settings s) :=
    references_plain_append (by decide)
  have hmatch : references ("ON MATCH SET " ++ settings s) = references (settings s) :=
    references_plain_append (by decide)
  have hlink : references "MERGE (f)-[:CONTAINS]->(e)" = [] := by decide
  have htext : (entityQuery f kind s).text = Query.block 8 [
      "MATCH (f:" ++ f.type.label ++ " \x7bpath: $file_path\x7d)",
      "MERGE (e:" ++ nodeLabel kind ++ " \x7bname: $name, file_path: $file_path\x7d)",
      "ON CREATE SET " ++ settings s, "ON MATCH SET " ++ settings s,
      "MERGE (f)-[:CONTAINS]->(e)"] := rfl
  rw [htext, references_block]
  simp only [List.flatMap_cons, List.flatMap_nil, hfile, hnode, hcreate, hmatch, hlink,
    references_settings hkeys, Assignments.fixedKeys, List.mem_append, List.mem_cons,
    List.not_mem_nil]
  grind

theorem entityQuery_refersToKeys (f : FileNode) (kind : Text) (entity properties : Fields)
    (embedding : Value) :
    RefersToKeys (entityQuery f kind (assignmentsOf f entity properties embedding)) := by
  have hkeys := assignmentsOf_keys f entity properties embedding
  have hbalanced := assignmentsOf_isBalanced f entity properties embedding
  have hfixed : ∀ key ∈ Assignments.fixedKeys, nameIn key = key := by decide
  intro name
  rw [mem_references_entityQuery fun key hkey => (hkeys key hkey).1]
  constructor
  · rintro (hname | hname)
    · have hkey := (hbalanced name).mpr (.inl hname)
      exact List.mem_map.mpr ⟨name, hkey, hfixed name hname⟩
    · obtain ⟨key, hkey, rfl⟩ := List.mem_map.mp hname
      exact List.mem_map_of_mem ((hbalanced key).mpr (.inr hkey))
  · intro hname
    obtain ⟨key, hkey, rfl⟩ := List.mem_map.mp hname
    rcases (hbalanced key).mp hkey with hkey | hkey
    · exact .inl ((hfixed key hkey).symm ▸ hkey)
    · exact .inr (List.mem_map_of_mem hkey)

end Queries

/-- Every query that is asked refers to its keys. -/
theorem Origin.refersToKeys {assistant : Assistant} {f : FileNode} {document : Fields} {q : Query}
    (h : Origin assistant f document q) : RefersToKeys q := by
  cases h with
  | file => exact fileQuery_refersToKeys f _
  | entity => exact entityQuery_refersToKeys f _ _ _ _
  | lookup => exact lookupQuery_refersToKeys _
  | placeholder => exact placeholderQuery_refersToKeys _ _ _
  | relationship => exact relationshipQuery_refersToKeys f _ _

/-- A key with a line break behind it is no plain identifier. -/
theorem ne_broken_of_plain (h : isPlainIdentifier key = true) (name : Text) : key ≠ name ++ "\n" :=
  nameIn_of_plain h ▸ nameIn_ne_broken name

/-- There is a property that is not null under a key that would be a plain identifier but for the
line break at its end. -/
def HasBrokenKey (properties : Fields) : Prop :=
  ∃ name v, isPlainIdentifier name = true ∧ (name ++ Text.ofString "\n", v) ∈ properties ∧
    v.isNull = false

/-- A text and parameters that part do so over a key with a line break. -/
theorem RefersToKeys.isInStep_iff {q : Query} (h : RefersToKeys q)
    (hkeys : ∀ key ∈ q.params.map Prod.fst, isIdentifier key = true) :
    q.IsInStep ↔ ∀ name, name ++ Text.ofString "\n" ∉ q.params.map Prod.fst := by
  constructor
  · intro hstep name hbroken
    have hreferred := (h _).mp ((hstep _).mpr hbroken)
    obtain ⟨key, -, hkey⟩ := List.mem_map.mp hreferred
    exact nameIn_ne_broken name hkey
  · intro hnone name
    have hsame : ∀ key ∈ q.params.map Prod.fst, nameIn key = id key := by
      intro key hkey
      rcases plain_or_broken (hkeys key hkey) with hplain | ⟨base, -, rfl⟩
      · exact nameIn_of_plain hplain
      · exact absurd hkey (hnone base)
    rw [h name, List.map_congr_left hsame, List.map_id]

section Entities

variable {f : FileNode} {entity properties : Fields} {embedding : Value}

theorem isPlainIdentifier_fixedKeys :
    ∀ key ∈ Assignments.fixedKeys, isPlainIdentifier key = true := by decide

theorem isIdentifier_of_plain (h : isPlainIdentifier key = true) : isIdentifier key = true := by
  rw [isIdentifier, h, Bool.true_or]

theorem isIdentifier_paramKeys : ∀ key ∈ (assignmentsOf f entity properties embedding).params.map
    Prod.fst, isIdentifier key = true := by
  intro key hkey
  rcases (assignmentsOf_isBalanced f entity properties embedding key).mp hkey with hkey | hkey
  · exact isIdentifier_of_plain (isPlainIdentifier_fixedKeys key hkey)
  · exact (assignmentsOf_keys f entity properties embedding key hkey).1

/-- The keys with a line break among the parameters of an entity are those of its properties. -/
theorem exists_broken_iff :
    (∃ name, name ++ Text.ofString "\n" ∈
        (assignmentsOf f entity properties embedding).params.map Prod.fst) ↔
      HasBrokenKey properties := by
  have hbalanced := assignmentsOf_isBalanced f entity properties embedding
  have hnamed (name key : Text) (h : isPlainIdentifier key = true) :
      name ++ Text.ofString "\n" ≠ key := (ne_broken_of_plain h name).symm
  constructor
  · rintro ⟨name, hname⟩
    rcases (hbalanced _).mp hname with hfixed | hkey
    · exact absurd rfl (hnamed name _ (isPlainIdentifier_fixedKeys _ hfixed))
    · rcases mem_keys_assignmentsOf.mp hkey with (⟨h, -⟩ | ⟨h, -⟩ | ⟨h, -⟩) | ⟨v, hv, hadmitted⟩
      · exact absurd h (hnamed name _ (by decide))
      · exact absurd h (hnamed name _ (by decide))
      · exact absurd h (hnamed name _ (by decide))
      · rcases plain_or_broken hadmitted.2.2 with hplain | ⟨base, hbase, heq⟩
        · exact absurd rfl (hnamed name _ hplain)
        · obtain rfl := List.append_cancel_right heq
          exact ⟨name, v, hbase, hv, hadmitted.2.1⟩
  · rintro ⟨name, v, hplain, hv, hnull⟩
    suffices hadmitted : Assignments.IsAdmitted (name ++ Text.ofString "\n") v from
      ⟨name, (hbalanced _).mpr (.inr (mem_keys_assignmentsOf.mpr (.inr ⟨v, hv, hadmitted⟩)))⟩
    refine ⟨?_, hnull, ?_⟩
    · intro hmem
      have hplain : ∀ key ∈ Assignments.namedKeys, isPlainIdentifier key = true := by decide
      exact hnamed name _ (hplain _ hmem) rfl
    · have hends : Text.endsWith "\n" (name ++ Text.ofString "\n") = true :=
        List.isSuffixOf_iff_suffix.mpr (List.suffix_append ..)
      have hdrop : (name ++ Text.ofString "\n").dropLast = name := List.dropLast_concat
      rw [isIdentifier, hends, hdrop, hplain]
      exact Bool.or_true _

end Entities

section

variable {assistant : Assistant} {f : FileNode} {document : Fields} {q : Query}

theorem EntityQuery.isInStep_iff (e : EntityQuery assistant f document q) :
    q.IsInStep ↔ ¬ HasBrokenKey e.properties := by
  obtain ⟨entity, properties, kind, embedding, _, _, _, _, rfl⟩ := e
  have hrefers := entityQuery_refersToKeys f kind entity properties embedding
  rw [hrefers.isInStep_iff isIdentifier_paramKeys, ← not_exists]
  exact not_congr exists_broken_iff

/-- Queries that are not about an entity have fixed parameters. -/
theorem Origin.isInStep (h : Origin assistant f document q) (hno : ¬ IsEntityQuery q) :
    q.IsInStep := by
  have hplain (keys : List Text) (hkeys : q.params.map Prod.fst = keys)
      (hall : ∀ key ∈ keys, isPlainIdentifier key = true) : q.IsInStep := by
    rw [h.refersToKeys.isInStep_iff]
    · intro name hname
      rw [hkeys] at hname
      exact ne_broken_of_plain (hall _ hname) name rfl
    · intro key hkey
      rw [hkeys] at hkey
      exact isIdentifier_of_plain (hall key hkey)
  cases h with
  | file =>
    exact hplain ["filename", "repo_id", "file_name", "extension", "context_sample"] rfl (by decide)
  | entity => exact absurd rfl hno
  | lookup => exact hplain ["import_name"] rfl (by decide)
  | placeholder => exact hplain ["import_name", "description"] rfl (by decide)
  | relationship =>
    exact hplain ["source_name", "target_name", "filename", "context"] rfl (by decide)

end

/-- Every query text refers to the keys of its parameters, each up to a line break at its end. So
the two agree in every query but those of entities that have a property under a key with such a line
break. -/
theorem parameters_in_step_iff (assistant : Assistant) (document : Value) (d : Desk IngestNotes) :
    ∀ q ∈ (ingest assistant document).queriesOf d, ∃ (fields : Fields) (name : Text),
      document = .dict fields ∧ fields.getD "filename" .null = .str name ∧
      RefersToKeys q ∧ (¬ IsEntityQuery q → q.IsInStep) ∧
      (IsEntityQuery q →
        Nonempty (EntityQuery assistant ⟨name, fields.getD "repo_id" .null⟩ fields q)) ∧
      ∀ e : EntityQuery assistant ⟨name, fields.getD "repo_id" .null⟩ fields q,
        q.IsInStep ↔ ¬ HasBrokenKey e.properties := by
  intro q hq
  obtain ⟨fields, name, hdocument, hname, horigin⟩ :=
    (ingest_asks assistant document).forall_queriesOf d q hq
  exact ⟨fields, name, hdocument, hname, horigin.refersToKeys, horigin.isInStep,
    horigin.entityQuery, fun e => e.isInStep_iff⟩

/-- Its only entity has a property under a key with a line break. -/
def brokenDocument : Fields := [
  ("filename", .str "a.py"),
  ("entities", .list [.dict [
    ("name", .str "f"), ("entity_type", .str "function"),
    ("properties", .dict [("size\n", .int 1)])]])]

def brokenQueries : List Query :=
  (ingest ⟨.ok .null, .ok []⟩ (.dict brokenDocument)).queriesOf ⟨.barren, {}⟩

theorem brokenQueries_length : brokenQueries.length = 2 := by decide +kernel

def brokenQuery : Query := brokenQueries.get ⟨1, by simp [brokenQueries_length]⟩

theorem isEntityQuery_brokenQuery : IsEntityQuery brokenQuery := by
  unfold IsEntityQuery
  decide +kernel

theorem parameters_in_step_iff_broken :
    brokenQuery ∈ brokenQueries ∧ RefersToKeys brokenQuery ∧
    ∃ fields, ∃ e : EntityQuery ⟨.ok .null, .ok []⟩ ⟨"a.py", .null⟩ fields brokenQuery,
      brokenQuery.IsInStep ↔ ¬ HasBrokenKey e.properties := by
  have hmem : brokenQuery ∈ brokenQueries := List.get_mem _ _
  obtain ⟨fields, name, hdocument, hname, hrefers, -, hentity, hiff⟩ :=
    parameters_in_step_iff _ _ _ _ hmem
  obtain ⟨e⟩ := hentity isEntityQuery_brokenQuery
  cases hdocument
  cases hname
  exact ⟨hmem, hrefers, _, e, hiff e⟩

/-- The query refers to `size`, and its parameters have `size` with a line break instead. -/
theorem parameter_out_of_step :
    ∃ q ∈ brokenQueries, ¬ q.IsInStep ∧
      Text.ofString "size" ∈ references q.text ∧
      Text.ofString "size" ∉ q.params.map Prod.fst ∧
      Text.ofString "size\n" ∈ q.params.map Prod.fst := by
  have hreferred : Text.ofString "size" ∈ references brokenQuery.text := by decide +kernel
  have hmissing : Text.ofString "size" ∉ brokenQuery.params.map Prod.fst := by decide +kernel
  have hbroken : Text.ofString "size\n" ∈ brokenQuery.params.map Prod.fst := by decide +kernel
  refine ⟨brokenQuery, List.get_mem _ _, ?_, hreferred, hmissing, hbroken⟩
  intro hstep
  exact hmissing ((hstep _).mp hreferred)

end Graph

end CodeAtlas
