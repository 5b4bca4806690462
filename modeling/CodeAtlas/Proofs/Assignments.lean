import CodeAtlas.Graph.Ingest
import CodeAtlas.Proofs.FieldsLaws

/-! The assignments of an entity's query: which keys get into its text, and which value each key has
among its parameters. -/
namespace CodeAtlas.Graph

namespace Assignments

variable {s : Assignments} {properties : Fields} {key k : Text} {v : Value}

/-- A property that is added under its own key. -/
def IsAdmitted (key : Text) (v : Value) : Prop :=
  key ∉ namedKeys ∧ v.isNull = false ∧ isIdentifier key = true

instance (key : Text) (v : Value) : Decidable (IsAdmitted key v) :=
  inferInstanceAs (Decidable (_ ∧ _))

theorem addProperty_eq (s : Assignments) (key : Text) (v : Value) :
    s.addProperty (key, v) = if IsAdmitted key v then s.add key (storedProperty v) else s := by
  have h : (namedKeys.contains key || v.isNull || !isIdentifier key) = true ↔
      ¬ IsAdmitted key v := by
    simp only [IsAdmitted, Bool.or_eq_true, List.contains_iff_mem, Bool.not_eq_true']
    grind
  by_cases ha : IsAdmitted key v
  · rw [if_pos ha]
    exact if_neg (fun hc => h.mp hc ha)
  · rw [if_neg ha]
    exact if_pos (h.mpr ha)

theorem mem_keys_addPresent : key ∈ (s.addPresent k v).keys ↔
    key ∈ s.keys ∨ key = k ∧ v.isPresent = true := by
  unfold addPresent
  split
  next hv => simp [add, hv]
  next hv => simp [hv]

theorem mem_keys_addProperty : key ∈ (s.addProperty (k, v)).keys ↔
    key ∈ s.keys ∨ key = k ∧ IsAdmitted k v := by
  rw [addProperty_eq]
  split
  next hadmitted => simp [add, hadmitted]
  next hno => simp [hno]

/-- Going through properties adds the keys of those that are admitted, and no others. -/
theorem mem_keys_foldl_addProperty : key ∈ (properties.foldl addProperty s).keys ↔
    key ∈ s.keys ∨ ∃ v, (key, v) ∈ properties ∧ IsAdmitted key v := by
  induction properties generalizing s with
  | nil => simp
  | cons property rest ih =>
    obtain ⟨k, v⟩ := property
    rw [List.foldl_cons, ih, mem_keys_addProperty, or_assoc]
    apply or_congr_right
    constructor
    · rintro (⟨rfl, hadmitted⟩ | ⟨w, hw, hadmitted⟩)
      · exact ⟨v, List.mem_cons_self, hadmitted⟩
      · exact ⟨w, List.mem_cons_of_mem _ hw, hadmitted⟩
    · rintro ⟨w, hw, hadmitted⟩
      rcases List.mem_cons.mp hw with heq | hw
      · obtain ⟨rfl, rfl⟩ := Prod.mk.inj heq
        exact .inl ⟨rfl, hadmitted⟩
      · exact .inr ⟨w, hw, hadmitted⟩

theorem get?_add : (s.add k v).params.get? key = if key = k then some v else s.params.get? key :=
  Fields.get?_set

theorem get?_addPresent (h : key ≠ k) : (s.addPresent k v).params.get? key = s.params.get? key := by
  unfold addPresent
  split
  · rw [get?_add, if_neg h]
  · rfl

/-- The property that counts under a key: the last one that is not null. -/
def effective? (properties : Fields) (key : Text) : Option Value :=
  Fields.last? (properties.filter fun property => !property.2.isNull) key

theorem effective?_cons : effective? ((k, v) :: properties) key =
    (effective? properties key).or (if key = k ∧ v.isNull = false then some v else none) := by
  unfold effective?
  rw [List.filter_cons]
  cases hv : v.isNull <;> simp [Fields.last?_cons]

theorem effective?_of_not_mem (h : key ∉ properties.map Prod.fst) :
    effective? properties key = none := by
  induction properties with
  | nil => rfl
  | cons property rest ih =>
    obtain ⟨k, v⟩ := property
    simp only [List.map_cons, List.mem_cons, not_or] at h
    rw [effective?_cons, ih h.2]
    simp [h.1]

/-- A property under a free key replaces what the key stood for before. -/
theorem get?_foldl_addProperty (hfree : key ∉ namedKeys) (hname : isIdentifier key = true) :
    (properties.foldl addProperty s).params.get? key =
      ((effective? properties key).map storedProperty).or (s.params.get? key) := by
  induction properties generalizing s with
  | nil => rfl
  | cons property rest ih =>
    obtain ⟨k, v⟩ := property
    rw [List.foldl_cons, ih, effective?_cons, addProperty_eq, Option.map_or, Option.or_assoc]
    congr 1
    by_cases hk : key = k
    · subst hk
      cases hv : v.isNull <;> simp [IsAdmitted, hfree, hname, hv, get?_add]
    · split
      · simp [hk, get?_add]
      · simp [hk]

end Assignments

/-- The assignments that every entity has. -/
def fixedAssignments (f : FileNode) (entity : Fields) (embedding : Value) : Assignments :=
  ⟨[], [
    ("file_path", entity.getD "file_path" (.str f.name)),
    ("name", entity.getD "name" .null),
    ("description", entity.getD "description" (.str "")),
    ("embedding", embedding),
    ("repo_id", f.repository)]⟩

/-- What relates the fixed assignments under two embeddings and is kept when both get the same
addition relates all the assignments. -/
theorem assignmentsOf_induction {R : Assignments → Assignments → Prop} {f : FileNode}
    {entity : Fields} (properties : Fields) (v v' : Value)
    (hfixed : R (fixedAssignments f entity v) (fixedAssignments f entity v'))
    (hadd : ∀ s s', R s s' → ∀ key w, R (s.add key w) (s'.add key w)) :
    R (assignmentsOf f entity properties v) (assignmentsOf f entity properties v') := by
  have hpresent (s s' : Assignments) (h : R s s') (key : Text) (w : Value) :
      R (s.addPresent key w) (s'.addPresent key w) := by
    unfold Assignments.addPresent
    split
    · exact hadd s s' h key w
    · exact h
  have hproperties (ps : Fields) (s s' : Assignments) (h : R s s') :
      R (ps.foldl Assignments.addProperty s) (ps.foldl Assignments.addProperty s') := by
    induction ps generalizing s s' with
    | nil => exact h
    | cons property rest ih =>
      apply ih
      rw [Assignments.addProperty_eq, Assignments.addProperty_eq]
      split
      · exact hadd s s' h _ _
      · exact h
  apply hproperties
  apply hpresent
  apply hpresent
  apply hpresent
  exact hfixed

/-- The keys in the text of an entity's query: those of its code and names, if they are there, and
those of its properties that are admitted. -/
theorem mem_keys_assignmentsOf {f : FileNode} {entity properties : Fields} {embedding : Value}
    {key : Text} : key ∈ (assignmentsOf f entity properties embedding).keys ↔
      (key = "context_sample" ∧ (codeOf entity properties).isPresent = true ∨
        key = "original_name" ∧ (properties.getD "original_name" .null).isPresent = true ∨
        key = "source_file" ∧ (properties.getD "source_file" .null).isPresent = true) ∨
      ∃ v, (key, v) ∈ properties ∧ Assignments.IsAdmitted key v := by
  unfold assignmentsOf
  rw [Assignments.mem_keys_foldl_addProperty, Assignments.mem_keys_addPresent,
    Assignments.mem_keys_addPresent, Assignments.mem_keys_addPresent]
  simp [or_assoc]

theorem assignmentsOf_keys (f : FileNode) (entity properties : Fields) (embedding : Value) :
    ∀ x ∈ (assignmentsOf f entity properties embedding).keys, isIdentifier x = true ∧
      (x ∈ properties.map Prod.fst ∨
        x ∈ (["context_sample", "original_name", "source_file"] : List Text)) := by
  intro x hx
  rcases mem_keys_assignmentsOf.mp hx with (⟨rfl, -⟩ | ⟨rfl, -⟩ | ⟨rfl, -⟩) | ⟨v, hv, hadmitted⟩
  · exact ⟨by decide, .inr (by simp)⟩
  · exact ⟨by decide, .inr (by simp)⟩
  · exact ⟨by decide, .inr (by simp)⟩
  · exact ⟨hadmitted.2.2, .inl (List.mem_map_of_mem hv)⟩

end CodeAtlas.Graph
