import CodeAtlas.Proofs.WorkContract

/-! Two pieces of work side by side. `Alike` says that they end alike whenever they begin alike, and is
put together along their steps; steps whose results may differ are all right as long as both leave
alone what is compared. -/
namespace CodeAtlas.Work

variable {σ τ α α' β β' : Type}

/-- Both end in the same fault, or in results that are related by `S`. -/
inductive Same (S : α → α' → Prop) : Except Fault α → Except Fault α' → Prop where
  | ok {a : α} {b : α'} (h : S a b) : Same S (.ok a) (.ok b)
  | error (fault : Fault) : Same S (.error fault) (.error fault)

theorem Same.of_eq (x : Except Fault α) : Same Eq x x := by
  cases x with
  | ok a => exact .ok rfl
  | error fault => exact .error fault

theorem Same.eq {x y : Except Fault α} (h : Same Eq x y) : x = y := by
  cases h with
  | ok h => rw [h]
  | error fault => rfl

theorem Same.symm {S : α → α' → Prop} {S' : α' → α → Prop} {x : Except Fault α}
    {y : Except Fault α'} (h : Same S x y) (hS : ∀ a b, S a b → S' b a) : Same S' y x := by
  cases h with
  | ok h => exact .ok (hS _ _ h)
  | error fault => exact .error fault

/-- Done at desks whose views are related by `Q`, the two end in results that are related by `T`, and
the views of the desks they leave are related again. -/
def Alike (view : Desk σ → τ) (Q : τ → τ → Prop) (T : Except Fault α → Except Fault α' → Prop)
    (w : Work σ α) (w' : Work σ α') : Prop :=
  ∀ d d', Q (view d) (view d') →
    T (w.runOn d).1 (w'.runOn d').1 ∧ Q (view (w.runOn d).2) (view (w'.runOn d').2)

namespace Alike

variable {view : Desk σ → τ} {Q : τ → τ → Prop} {S : α → α' → Prop} {U : β → β' → Prop}
  {w : Work σ α} {w' : Work σ α'}

theorem pure {a : α} {b : α'} (h : S a b) :
    Alike view Q (Same S) (Pure.pure a : Work σ α) (Pure.pure b : Work σ α') :=
  fun _ _ hd => ⟨.ok h, hd⟩

theorem throw (fault : Fault) : Alike view Q (Same S)
    (MonadExcept.throw fault : Work σ α) (MonadExcept.throw fault : Work σ α') :=
  fun _ _ hd => ⟨.error fault, hd⟩

theorem lift (x : Except Fault α) :
    Alike view Q (Same Eq) (Work.lift x : Work σ α) (Work.lift x : Work σ α) := by
  intro d d' hd
  rw [runOn_lift, runOn_lift]
  exact ⟨.of_eq x, hd⟩

/-- Work that leaves alone what is compared. -/
theorem of_leaves (hw : Leaves view w) : Alike view Q (fun _ _ => True) w w := by
  intro d d' hd
  rw [hw d, hw d']
  exact ⟨trivial, hd⟩

theorem symm {S' : α' → α → Prop} (h : Alike view Eq (Same S) w w') (hS : ∀ a b, S a b → S' b a) :
    Alike view Eq (Same S') w' w := by
  intro d' d hd
  obtain ⟨hresult, hview⟩ := h d d' hd.symm
  exact ⟨hresult.symm hS, hview.symm⟩

theorem runOn_ok (h : Alike view Q (Same S) w w') {d d' e : Desk σ} {a : α}
    (hrun : w.runOn d = (.ok a, e)) (hd : Q (view d) (view d')) :
    ∃ b e', w'.runOn d' = (.ok b, e') ∧ S a b ∧ Q (view e) (view e') := by
  obtain ⟨hresult, hview⟩ := h d d' hd
  rcases hrun' : w'.runOn d' with ⟨r', e'⟩
  rw [hrun, hrun'] at hresult hview
  cases hresult with
  | ok hS => exact ⟨_, e', rfl, hS, hview⟩

theorem bind {k : α → Work σ β} {k' : α' → Work σ β'} {V : Except Fault β → Except Fault β' → Prop}
    (hw : Alike view Q (Same S) w w') (hk : ∀ a b, S a b → Alike view Q V (k a) (k' b))
    (herror : ∀ fault, V (.error fault) (.error fault)) :
    Alike view Q V (w >>= k) (w' >>= k') := by
  intro d d' hd
  obtain ⟨hresult, hview⟩ := hw d d' hd
  rcases h : w.runOn d with ⟨r, e⟩
  rcases h' : w'.runOn d' with ⟨r', e'⟩
  rw [h, h'] at hresult hview
  cases hresult with
  | ok hS =>
    rw [runOn_bind_ok h, runOn_bind_ok h']
    exact hk _ _ hS e e' hview
  | error fault =>
    rw [runOn_bind_error h, runOn_bind_error h']
    exact ⟨herror fault, hview⟩

theorem bind_same {k : α → Work σ β} {k' : α' → Work σ β'}
    (hw : Alike view Q (Same S) w w')
    (hk : ∀ a b, S a b → Alike view Q (Same U) (k a) (k' b)) :
    Alike view Q (Same U) (w >>= k) (w' >>= k') :=
  hw.bind hk Same.error

theorem bind_lift {x : Except Fault α} {k : α → Work σ β} {k' : α → Work σ β'}
    (hk : ∀ a, x = .ok a → Alike view Q (Same U) (k a) (k' a)) :
    Alike view Q (Same U) (Work.lift x >>= k) (Work.lift x >>= k') := by
  cases x with
  | ok a => exact hk a rfl
  | error fault => exact .throw fault

theorem forM {γ : Type} {f f' : γ → Work σ Unit} (xs : List γ)
    (h : ∀ x ∈ xs, Alike view Q (Same Eq) (f x) (f' x)) :
    Alike view Q (Same Eq) (xs.forM f) (xs.forM f') := by
  induction xs with
  | nil => exact .pure rfl
  | cons x xs ih =>
    rw [List.forM_eq_forM, List.forM_cons, List.forM_cons]
    apply (h x List.mem_cons_self).bind_same
    intro _ _ _
    exact ih fun y hy => h y (List.mem_cons_of_mem _ hy)

theorem filterMapM {γ : Type} {f f' : γ → Work σ (Option α)} (xs : List γ)
    (h : ∀ x ∈ xs, Alike view Q (Same Eq) (f x) (f' x)) :
    Alike view Q (Same Eq) (xs.filterMapM f) (xs.filterMapM f') := by
  induction xs with
  | nil => exact .pure rfl
  | cons x xs ih =>
    have ih := ih fun y hy => h y (List.mem_cons_of_mem _ hy)
    rw [List.filterMapM_cons, List.filterMapM_cons]
    apply (h x List.mem_cons_self).bind_same
    rintro found _ rfl
    cases found with
    | none => exact ih
    | some a =>
      apply ih.bind_same
      rintro zs _ rfl
      exact .pure rfl

theorem tryCatch {handler : Fault → Work σ α} {handler' : Fault → Work σ α'}
    (hw : Alike view Q (Same S) w w')
    (hhandler : ∀ fault, Alike view Q (Same S) (handler fault) (handler' fault)) :
    Alike view Q (Same S) (MonadExcept.tryCatch w handler)
      (MonadExcept.tryCatch w' handler') := by
  intro d d' hd
  obtain ⟨hresult, hview⟩ := hw d d' hd
  rw [runOn_tryCatch, runOn_tryCatch]
  rcases h : w.runOn d with ⟨r, e⟩
  rcases h' : w'.runOn d' with ⟨r', e'⟩
  rw [h, h'] at hresult hview
  cases hresult with
  | ok hS => exact ⟨.ok hS, hview⟩
  | error fault => exact hhandler fault e e' hview

/-- The faults may differ where the handler leaves alone what is compared. -/
theorem tryCatch_leaves {w' : Work σ α} {handler : Fault → Work σ α}
    (hw : Alike view Q (fun _ _ => True) w w') (hhandler : ∀ fault, Leaves view (handler fault)) :
    Alike view Q (fun _ _ => True) (MonadExcept.tryCatch w handler)
      (MonadExcept.tryCatch w' handler) := by
  have hsame (v : Work σ α) (d : Desk σ) :
      view ((MonadExcept.tryCatch v handler).runOn d).2 = view (v.runOn d).2 := by
    rw [runOn_tryCatch]
    rcases v.runOn d with ⟨fault | a, e⟩
    · exact hhandler fault e
    · rfl
  intro d d' hd
  rw [hsame, hsame]
  exact hw d d' hd

end Alike

end CodeAtlas.Work
