import CodeAtlas.Proofs.LookupLaws
import CodeAtlas.Value
import Mathlib.Tactic.Tauto

/-! Laws of looking up and setting fields. A dictionary has distinct keys; the list that stands for
one is called distinct when its keys are. -/
namespace CodeAtlas.Fields

variable {fields new : Fields} {key k : Text} {v : Value}

/-- No key occurs twice. -/
def IsDistinct (fields : Fields) : Prop := (fields.map Prod.fst).Nodup

/-- The value that a key was given last. -/
def last? (fields : Fields) (key : Text) : Option Value := fields.reverse.lookup key

theorem getD_eq (default : Value) : fields.getD key default = (fields.get? key).getD default := rfl

@[simp] theorem get?_nil : get? [] key = none := rfl

theorem get?_cons : get? ((k, v) :: fields) key = if key = k then some v else fields.get? key := by
  simp only [get?, List.lookup_cons]
  by_cases h : key = k
  · simp [h]
  · simp [h, beq_eq_false_iff_ne.mpr h]

theorem get?_set : (fields.set k v).get? key = if key = k then some v else fields.get? key := by
  induction fields with
  | nil => simp only [set, get?_cons]
  | cons field rest ih =>
    obtain ⟨k', old⟩ := field
    simp only [set, beq_iff_eq]
    split
    next h =>
      subst h
      simp only [get?_cons]
      split <;> rfl
    next h =>
      simp only [get?_cons, ih]
      by_cases hk : key = k'
      · rw [if_pos hk, if_pos hk, if_neg (fun he => h (hk.symm.trans he))]
      · rw [if_neg hk, if_neg hk]

theorem mem_keys_set :
    key ∈ (fields.set k v).map Prod.fst ↔ key ∈ fields.map Prod.fst ∨ key = k := by
  induction fields with
  | nil => simp [set]
  | cons field rest ih =>
    obtain ⟨k', old⟩ := field
    simp only [set, beq_iff_eq]
    split
    next h =>
      subst h
      simp only [List.map_cons, List.mem_cons]
      tauto
    · simp only [List.map_cons, List.mem_cons, ih, or_assoc]

theorem IsDistinct.set (h : fields.IsDistinct) : (fields.set k v).IsDistinct := by
  induction fields with
  | nil => simp [Fields.set, IsDistinct]
  | cons field rest ih =>
    obtain ⟨k', old⟩ := field
    simp only [IsDistinct, List.map_cons, List.nodup_cons] at h
    simp only [Fields.set, beq_iff_eq]
    split
    · simpa only [IsDistinct, List.map_cons, List.nodup_cons] using h
    next hne =>
      simp only [IsDistinct, List.map_cons, List.nodup_cons, mem_keys_set, not_or]
      exact ⟨⟨h.1, hne⟩, ih h.2⟩

theorem IsDistinct.setAll (h : fields.IsDistinct) (new : Fields) :
    (fields.setAll new).IsDistinct := by
  induction new generalizing fields with
  | nil => exact h
  | cons field rest ih => exact ih h.set

theorem ofPairs_isDistinct (pairs : List (Text × Value)) : (ofPairs pairs).IsDistinct :=
  IsDistinct.setAll (by simp [IsDistinct]) pairs

theorem IsDistinct.filter (h : fields.IsDistinct) (p : Text × Value → Bool) :
    IsDistinct (fields.filter p) :=
  h.sublist (List.filter_sublist.map Prod.fst)

theorem IsDistinct.mem_iff (h : fields.IsDistinct) :
    (key, v) ∈ fields ↔ fields.get? key = some v := ⟨lookup_of_mem h, mem_of_lookup⟩

theorem IsDistinct.get?_filter (h : fields.IsDistinct) (p : Text × Value → Bool) (key : Text) :
    get? (fields.filter p) key = (fields.get? key).filter fun v => p (key, v) := by
  apply Option.ext
  intro v
  rw [← (h.filter p).mem_iff, List.mem_filter, h.mem_iff, Option.filter_eq_some_iff]

theorem IsDistinct.last?_eq (h : fields.IsDistinct) : fields.last? key = fields.get? key := by
  have hreverse : IsDistinct fields.reverse := by
    simpa only [IsDistinct, List.map_reverse, List.nodup_reverse] using h
  apply Option.ext
  intro v
  rw [← h.mem_iff, ← List.mem_reverse, hreverse.mem_iff]
  rfl

@[simp] theorem last?_nil : last? [] key = none := rfl

theorem last?_cons : last? ((k, v) :: fields) key =
    (last? fields key).or (if key = k then some v else none) := by
  have hone : List.lookup key [(k, v)] = if key = k then some v else none := get?_cons
  simp only [last?, List.reverse_cons, List.lookup_append, hone]

/-- Setting fields one after another: the last value given for a key counts. -/
theorem get?_setAll : (fields.setAll new).get? key = (new.last? key).or (fields.get? key) := by
  induction new generalizing fields with
  | nil => simp [setAll]
  | cons field rest ih =>
    obtain ⟨k, v⟩ := field
    have hstep : fields.setAll ((k, v) :: rest) = (fields.set k v).setAll rest := rfl
    rw [hstep, ih, get?_set, last?_cons, Option.or_assoc]
    split <;> simp

theorem isDistinct_of_keys {fields : Fields} (keys : List Text)
    (h : fields.map Prod.fst = keys) (hkeys : keys.Nodup) : fields.IsDistinct := by
  rw [IsDistinct, h]
  exact hkeys

theorem mem_set {fields : Fields} {key : Text} {v : Value} {field : Text × Value}
    (h : field ∈ fields.set key v) : field ∈ fields ∨ field.2 = v := by
  induction fields with
  | nil =>
    obtain rfl := List.mem_singleton.mp h
    exact .inr rfl
  | cons first rest ih =>
    obtain ⟨k, old⟩ := first
    simp only [set] at h
    split at h
    · rcases List.mem_cons.mp h with rfl | h
      · exact .inr rfl
      · exact .inl (by simp [h])
    · rcases List.mem_cons.mp h with rfl | h
      · exact .inl (by simp)
      · rcases ih h with h | h
        · exact .inl (by simp [h])
        · exact .inr h

theorem setAll_values {fields new : Fields} {P : Value → Prop}
    (hfields : ∀ field ∈ fields, P field.2) (hnew : ∀ field ∈ new, P field.2) :
    ∀ field ∈ fields.setAll new, P field.2 := by
  induction new generalizing fields with
  | nil => exact hfields
  | cons first rest ih =>
    obtain ⟨k, v⟩ := first
    have hset : ∀ field ∈ fields.set k v, P field.2 := by
      intro field hfield
      rcases mem_set hfield with hfield | hfield
      · exact hfields field hfield
      · exact hfield ▸ hnew (k, v) (by simp)
    exact ih hset fun field hfield => hnew field (by simp [hfield])

theorem set_of_not_mem {fields : Fields} {key : Text} {v : Value}
    (h : key ∉ fields.map Prod.fst) : fields.set key v = fields ++ [(key, v)] := by
  induction fields with
  | nil => rfl
  | cons field rest ih =>
    obtain ⟨k, old⟩ := field
    simp only [List.map_cons, List.mem_cons, not_or] at h
    have hother : (k == key) = false := beq_false_of_ne (Ne.symm h.1)
    rw [set, hother, if_neg Bool.false_ne_true, ih h.2, List.cons_append]

theorem setAll_of_isDistinct {fields new : Fields} (h : IsDistinct (fields ++ new)) :
    fields.setAll new = fields ++ new := by
  induction new generalizing fields with
  | nil => exact (List.append_nil fields).symm
  | cons field rest ih =>
    obtain ⟨key, v⟩ := field
    have hnew : key ∉ fields.map Prod.fst := by
      intro hmem
      rw [IsDistinct, List.map_append, List.nodup_append] at h
      exact h.2.2 key hmem key (by simp) rfl
    have hstep : fields.setAll ((key, v) :: rest) = (fields.set key v).setAll rest := rfl
    rw [hstep, set_of_not_mem hnew, ih (by simpa using h)]
    simp

/-- Fields with distinct keys are what they are read as. -/
theorem ofPairs_of_isDistinct {fields : Fields} (h : fields.IsDistinct) :
    ofPairs fields = fields :=
  setAll_of_isDistinct h

/-- Apart from the given keys the fields say the same. -/
def AgreeBeyond (keys : List Text) (fields fields' : Fields) : Prop :=
  ∀ key, key ∉ keys → fields.get? key = fields'.get? key

/-- The fields whose keys are not among the given ones. -/
def beyond (keys : List Text) (fields : Fields) : Fields :=
  fields.filter fun field => !keys.contains field.1

theorem get?_beyond (keys : List Text) (fields : Fields) (key : Text) :
    (fields.beyond keys).get? key = if key ∈ keys then none else fields.get? key := by
  rw [get?, beyond, lookup_filter_keys fields fun key => !keys.contains key]
  by_cases hkey : key ∈ keys <;> simp [hkey, get?]

theorem agreeBeyond_of_beyond_eq {keys : List Text} {fields fields' : Fields}
    (h : fields.beyond keys = fields'.beyond keys) : AgreeBeyond keys fields fields' := by
  intro key hkey
  have hget := congrArg (fun fields => get? fields key) h
  simpa [get?_beyond, hkey] using hget

theorem beyond_set {keys : List Text} {key : Text} (hkey : key ∈ keys) (fields : Fields)
    (v : Value) : (fields.set key v).beyond keys = fields.beyond keys := by
  induction fields with
  | nil => simp [set, beyond, hkey]
  | cons field rest ih =>
    obtain ⟨k, old⟩ := field
    by_cases hk : k = key
    · simp [set, beyond, hk, hkey]
    · have hcons : set ((k, old) :: rest) key v = (k, old) :: set rest key v := by
        simp [set, hk]
      rw [hcons, beyond, beyond, List.filter_cons, List.filter_cons]
      rw [beyond, beyond] at ih
      rw [ih]

end CodeAtlas.Fields
