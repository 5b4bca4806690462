import CodeAtlas.Value.Access

/-! When getting at a part of a value succeeds. -/
namespace CodeAtlas.Value

variable {v : Value}

theorem asFields_eq_ok {fields : Fields} : v.asFields = .ok fields ↔ v = .dict fields := by
  cases v <;> simp [asFields]

theorem asText_eq_ok {operation s : Text} : v.asText operation = .ok s ↔ v = .str s := by
  cases v <;> simp [asText]

theorem text?_eq_some {s : Text} : v.text? = some s ↔ v = .str s := by
  cases v <;> simp [text?]

theorem isPresent_str {s : Text} (h : s ≠ []) : (Value.str s).isPresent = true := by
  cases s with
  | nil => exact absurd rfl h
  | cons c cs => rfl

theorem isPresent_list {items : List Value} (h : items ≠ []) :
    (Value.list items).isPresent = true := by
  cases items with
  | nil => exact absurd rfl h
  | cons item rest => rfl

theorem asText_of_no_text {operation : Text} (h : v.text? = none) :
    v.asText operation = .error (.lacksOperation v.typeName operation) := by
  cases v with
  | str s => cases h
  | _ => rfl

theorem field_eq_ok {key : Text} {w : Value} :
    v.field key = .ok w ↔ ∃ fields : Fields, v = .dict fields ∧ fields.get? key = some w := by
  cases v with
  | dict fields =>
    simp only [field]
    cases h : Fields.get? fields key <;> simp [h]
  | _ => simp [field]

/-- The texts in a list of nothing else. -/
def texts? : Value → Option (List Text)
  | .list items => items.mapM text?
  | _ => none

theorem mapM_text?_eq_some {items : List Value} {texts : List Text}
    (h : items.mapM text? = some texts) : items = texts.map .str := by
  induction items generalizing texts with
  | nil =>
    cases h
    rfl
  | cons item items ih =>
    rw [List.mapM_cons] at h
    obtain ⟨text, htext, h⟩ := Option.bind_eq_some_iff.mp h
    obtain ⟨rest, hrest, h⟩ := Option.bind_eq_some_iff.mp h
    cases h
    rw [text?_eq_some.mp htext, ih hrest]
    rfl

theorem texts?_eq_some {texts : List Text} (h : v.texts? = some texts) :
    v = .list (texts.map .str) := by
  cases v with
  | list items => rw [mapM_text?_eq_some h]
  | _ => cases h

end CodeAtlas.Value
