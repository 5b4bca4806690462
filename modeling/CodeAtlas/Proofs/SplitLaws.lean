import CodeAtlas.Text.Cut

/-! Laws of splitting a text at a separator, and of putting texts together with one. -/
namespace CodeAtlas.Text

variable (sep : CodePoint)

theorem split_ne_nil (s : Text) : split sep s ≠ [] := by
  cases s with
  | nil => simp [split]
  | cons c cs =>
    unfold split
    split
    · simp
    · split <;> simp

theorem split_cons_of_ne {sep c : CodePoint} (h : c ≠ sep) {s piece : Text} {rest : List Text}
    (hs : split sep s = piece :: rest) : split sep (c :: s) = (c :: piece) :: rest := by
  simp [split, h, hs]

theorem split_append (s t : Text) : split sep (s ++ sep :: t) = split sep s ++ split sep t := by
  induction s with
  | nil => simp [split]
  | cons c cs ih =>
    by_cases hc : c = sep
    · simp [split, hc, ih]
    · obtain ⟨piece, rest, hcs⟩ := List.exists_cons_of_ne_nil (split_ne_nil sep cs)
      rw [hcs, List.cons_append] at ih
      rw [List.cons_append, split_cons_of_ne hc ih, split_cons_of_ne hc hcs, List.cons_append]

theorem split_head (s : Text) : (split sep s)[0]? = some (s.takeWhile (· != sep)) := by
  induction s with
  | nil => simp [split]
  | cons c cs ih =>
    by_cases hc : c = sep
    · simp [split, hc]
    · obtain ⟨piece, rest, hcs⟩ := List.exists_cons_of_ne_nil (split_ne_nil sep cs)
      have hpiece : piece = cs.takeWhile (· != sep) := by simpa [hcs] using ih
      simp [split_cons_of_ne hc hcs, hc, hpiece]

variable {sep}

theorem not_mem_of_takeWhile {s : Text} (h : s.takeWhile (· != sep) = s) : sep ∉ s := by
  intro hmem
  rw [← h] at hmem
  simpa using List.all_eq_true.mp List.all_takeWhile sep hmem

theorem split_of_not_mem {s : Text} (h : sep ∉ s) : split sep s = [s] := by
  induction s with
  | nil => rfl
  | cons c cs ih =>
    have hc : c ≠ sep := fun heq => h (heq ▸ List.mem_cons_self)
    exact split_cons_of_ne hc (ih fun hmem => h (List.mem_cons_of_mem c hmem))

theorem not_mem_of_mem_split {s piece : Text} (h : piece ∈ split sep s) : sep ∉ piece := by
  induction s generalizing piece with
  | nil =>
    rw [split, List.mem_singleton] at h
    simp [h]
  | cons c cs ih =>
    by_cases hc : c = sep
    · rw [split, if_pos (by simp [hc]), List.mem_cons] at h
      rcases h with rfl | h
      · simp
      · exact ih h
    · obtain ⟨first, rest, hcs⟩ := List.exists_cons_of_ne_nil (split_ne_nil sep cs)
      rw [split_cons_of_ne hc hcs, List.mem_cons] at h
      rw [hcs] at ih
      rcases h with rfl | h
      · simp [Ne.symm hc, ih List.mem_cons_self]
      · exact ih (List.mem_cons_of_mem first h)

/-- Splitting undoes joining. -/
theorem split_intercalate {pieces : List Text} (hsome : pieces ≠ [])
    (h : ∀ piece ∈ pieces, sep ∉ piece) : split sep (intercalate [sep] pieces) = pieces := by
  induction pieces with
  | nil => exact absurd rfl hsome
  | cons piece rest ih =>
    have hpiece := split_of_not_mem (h piece List.mem_cons_self)
    cases rest with
    | nil =>
      rw [intercalate, List.intercalate_singleton]
      exact hpiece
    | cons next rest =>
      have hrest := ih (by simp) fun piece hmem => h piece (List.mem_cons_of_mem _ hmem)
      rw [intercalate, List.intercalate_cons_cons, List.append_assoc, List.singleton_append,
        split_append, hpiece]
      rw [intercalate] at hrest
      rw [hrest]
      rfl

theorem split_getLast? (s : Text) :
    (split sep s).getLast? = some (s.reverse.takeWhile (· != sep)).reverse := by
  have htake {last : Text} (hlast : sep ∉ last) (rest : Text) :
      (last ++ rest).takeWhile (· != sep) = last ++ rest.takeWhile (· != sep) :=
    List.takeWhile_append_of_pos fun c hc => bne_iff_ne.mpr fun heq => hlast (heq ▸ hc)
  by_cases h : sep ∈ s.reverse
  · obtain ⟨last, before, hs, hlast⟩ := List.eq_append_cons_of_mem h
    have hsplit : s = before.reverse ++ sep :: last.reverse := by
      simpa using congrArg List.reverse hs
    rw [hs, htake hlast, hsplit, split_append, split_of_not_mem (s := last.reverse) (by simpa)]
    simp
  · have hwhole := htake h []
    rw [List.append_nil] at hwhole
    rw [hwhole, split_of_not_mem (by simpa using h)]
    simp

/-- Joining undoes splitting. -/
theorem intercalate_split (s : Text) : intercalate [sep] (split sep s) = s := by
  unfold intercalate
  induction s with
  | nil => simp [split]
  | cons c cs ih =>
    by_cases hc : c = sep
    · have hsplit : split sep (c :: cs) = [] :: split sep cs := by simp [split, hc]
      rw [hsplit, List.intercalate_cons_of_ne_nil (split_ne_nil sep cs), ih, hc]
      rfl
    · obtain ⟨piece, rest, hcs⟩ := List.exists_cons_of_ne_nil (split_ne_nil sep cs)
      rw [hcs] at ih
      rw [split_cons_of_ne hc hcs]
      cases rest with
      | nil => simpa using ih
      | cons next rest =>
        rw [List.intercalate_cons_cons] at ih ⊢
        rw [← ih]
        rfl

section Parts

variable (sep : Text) {xs ys : List Text}

/-- Parts that are put together begin with the first parts put together. -/
theorem intercalate_prefix (hne : xs ≠ []) (h : xs <+: ys) :
    intercalate sep xs <+: intercalate sep ys := by
  obtain ⟨more, rfl⟩ := h
  unfold intercalate
  induction xs with
  | nil => exact absurd rfl hne
  | cons x xs ih =>
    cases xs with
    | nil => cases more <;> simp [List.intercalate_cons_cons]
    | cons x' xs =>
      rw [List.cons_append, List.cons_append, List.intercalate_cons_cons,
        List.intercalate_cons_cons, List.prefix_append_right_inj]
      exact ih (by simp)

/-- They end with the last parts put together. -/
theorem intercalate_suffix (h : xs <:+ ys) : intercalate sep xs <:+ intercalate sep ys := by
  obtain ⟨more, rfl⟩ := h
  unfold intercalate
  induction more with
  | nil => exact List.suffix_rfl
  | cons x more ih =>
    rw [List.cons_append]
    cases hrest : more ++ xs with
    | nil => simp_all
    | cons next rest =>
      rw [hrest] at ih
      rw [List.intercalate_cons_cons]
      exact ih.trans (List.suffix_append _ _)

theorem intercalate_isInfix (h : xs <:+: ys) : intercalate sep xs <:+: intercalate sep ys := by
  cases xs with
  | nil => exact List.nil_infix
  | cons x xs =>
    obtain ⟨before, after, hys⟩ := h
    have hstart : intercalate sep (x :: xs) <+: intercalate sep (x :: xs ++ after) :=
      intercalate_prefix sep (by simp) (List.prefix_append _ _)
    have hend : intercalate sep (x :: xs ++ after) <:+ intercalate sep ys :=
      intercalate_suffix sep ⟨before, by rw [← hys, List.append_assoc]⟩
    exact hstart.isInfix.trans hend.isInfix

end Parts

end CodeAtlas.Text
