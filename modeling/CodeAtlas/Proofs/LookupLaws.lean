import Mathlib.Data.List.Nodup

/-! Laws of looking up a key in a list of pairs. -/
namespace CodeAtlas

variable {κ α : Type} [BEq κ] [LawfulBEq κ] {entries : List (κ × α)} {key : κ} {a : α}

theorem mem_of_lookup (h : entries.lookup key = some a) : (key, a) ∈ entries := by
  obtain ⟨before, after, rfl, -⟩ := List.lookup_eq_some_iff.mp h
  simp

/-- Where no key occurs twice, every pair is found. -/
theorem lookup_of_mem (hkeys : (entries.map Prod.fst).Nodup) (h : (key, a) ∈ entries) :
    entries.lookup key = some a := by
  induction entries with
  | nil => cases h
  | cons entry rest ih =>
    obtain ⟨first, b⟩ := entry
    obtain ⟨hfirst, hrest⟩ := List.nodup_cons.mp hkeys
    rcases List.mem_cons.mp h with heq | h
    · obtain ⟨rfl, rfl⟩ := Prod.mk.inj heq
      simp
    · have hne : key ≠ first := fun heq => hfirst (List.mem_map.mpr ⟨_, h, heq⟩)
      rw [List.lookup_cons, beq_eq_false_iff_ne.mpr hne]
      exact ih hrest h

theorem lookup_eq_none_of_forall_ne (h : ∀ entry ∈ entries, entry.1 ≠ key) :
    entries.lookup key = none := by
  rw [List.lookup_eq_none_iff]
  intro entry hentry
  exact bne_iff_ne.mpr (h entry hentry).symm

theorem lookup_filter_keys (entries : List (κ × α)) (p : κ → Bool) (key : κ) :
    (entries.filter fun entry => p entry.1).lookup key =
      if p key then entries.lookup key else none := by
  induction entries with
  | nil => simp
  | cons entry rest ih =>
    obtain ⟨first, a⟩ := entry
    by_cases hkey : key = first
    · subst hkey
      cases hp : p key with
      | true => simp [hp]
      | false => simpa [hp] using ih
    · cases hp : p first with
      | true => simpa [hp, List.lookup_cons, beq_eq_false_iff_ne.mpr hkey] using ih
      | false => simpa [hp, List.lookup_cons, beq_eq_false_iff_ne.mpr hkey] using ih

theorem lookup_filter_ne [DecidableEq κ] (entries : List (κ × α)) (removed key : κ) :
    (entries.filter (·.1 != removed)).lookup key =
      if key = removed then none else entries.lookup key := by
  rw [lookup_filter_keys entries (· != removed)]
  by_cases hkey : key = removed <;> simp [hkey]

/-- A pair that takes the place of those with its key. -/
theorem nodup_keys_put (h : (entries.map Prod.fst).Nodup) (key : κ) (a : α) :
    ((entries.filter (·.1 != key) ++ [(key, a)]).map Prod.fst).Nodup := by
  have hother : key ∉ (entries.filter (·.1 != key)).map Prod.fst := by simp
  rw [List.map_append, List.nodup_append]
  refine ⟨h.sublist (List.filter_sublist.map Prod.fst), List.nodup_singleton key, ?_⟩
  intro b hb c hc hbc
  rw [List.map_singleton, List.mem_singleton] at hc
  rw [hbc, hc] at hb
  exact hother hb

end CodeAtlas
