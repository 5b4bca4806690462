import CodeAtlas.Proofs.WorkRun

/-! What holds at the end of a piece of work. `Ends` speaks of the result and the desk together, so
that work that may fail has a contract as well; `Gives` says that there is a result; `Leaves` says
that a part of the desk is the same afterwards, however the work ends. -/
namespace CodeAtlas.Work

variable {σ α β τ : Type}

/-- Done at the desk `d`, the work ends so that `Q` holds of its result and of the desk left. -/
def Ends (w : Work σ α) (d : Desk σ) (Q : Except Fault α → Desk σ → Prop) : Prop :=
  Q (w.runOn d).1 (w.runOn d).2

/-- Done at the desk `d`, the work has a result, and `Q` holds of it and of the desk left. -/
def Gives (w : Work σ α) (d : Desk σ) (Q : α → Desk σ → Prop) : Prop :=
  ∃ a d', w.runOn d = (.ok a, d') ∧ Q a d'

/-- However the work ends, it leaves what `view` shows as it was. -/
def Leaves (view : Desk σ → τ) (w : Work σ α) : Prop := ∀ d, view (w.runOn d).2 = view d

/-- What `view` shows does not depend on the queries that the database was asked. -/
def SeesNoQueries (view : Desk σ → τ) : Prop :=
  ∀ (d : Desk σ) (qs : List Query), view { d with database := d.database.after qs } = view d

namespace Ends

variable {w : Work σ α} {k : α → Work σ β} {d : Desk σ} {Q Q' : Except Fault α → Desk σ → Prop}
  {R : Except Fault β → Desk σ → Prop}

theorem mono (h : Ends w d Q) (hQ : ∀ r d', Q r d' → Q' r d') : Ends w d Q' := hQ _ _ h

theorem and (h : Ends w d Q) (h' : Ends w d Q') : Ends w d fun r d' => Q r d' ∧ Q' r d' := ⟨h, h'⟩

theorem bind (hw : Ends w d Q) (hk : ∀ a d', Q (.ok a) d' → Ends (k a) d' R)
    (herror : ∀ fault d', Q (.error fault) d' → R (.error fault) d') : Ends (w >>= k) d R := by
  unfold Ends at hw ⊢
  rw [runOn_bind]
  rcases h : w.runOn d with ⟨fault | a, d'⟩
  · rw [h] at hw
    exact herror fault d' hw
  · rw [h] at hw
    exact hk a d' hw

theorem bind_of_ok {d' : Desk σ} {a : α} (hw : w.runOn d = (.ok a, d')) (hk : Ends (k a) d' R) :
    Ends (w >>= k) d R := by
  unfold Ends at hk ⊢
  rwa [runOn_bind_ok hw]

theorem bind_of_error {d' : Desk σ} {fault : Fault} (hw : w.runOn d = (.error fault, d'))
    (hR : R (.error fault) d') : Ends (w >>= k) d R := by
  unfold Ends
  rwa [runOn_bind_error hw]

theorem lift (x : Except Fault α) (d : Desk σ) :
    Ends (Work.lift x) d fun r d' => r = x ∧ d' = d := by
  unfold Ends
  rw [runOn_lift]
  exact ⟨rfl, rfl⟩

theorem ask (q : Query) (d : Desk σ) :
    Ends (Work.ask q) d fun _ d' => d'.database = d.database.after [q] := by
  unfold Ends
  rw [runOn_ask]

/-- A first step that fails is the last one. -/
theorem bind_error {fault : Fault} {P : Desk σ → Prop}
    (hw : Ends w d fun r d' => r = .error fault ∧ P d') :
    Ends (w >>= k) d fun r d' => r = .error fault ∧ P d' := by
  refine hw.bind (fun a d' h => ?_) fun fault' d' h => ⟨?_, h.2⟩
  · cases h.1
  · cases h.1
    rfl

theorem tryCatch {handler : Fault → Work σ α} (hw : Ends w d Q)
    (hok : ∀ a d', Q (.ok a) d' → Q' (.ok a) d')
    (herror : ∀ fault d', Q (.error fault) d' → Ends (handler fault) d' Q') :
    Ends (MonadExcept.tryCatch w handler) d Q' := by
  unfold Ends at hw ⊢
  have hrun := runOn_tryCatch w handler d
  rcases h : w.runOn d with ⟨fault | a, d'⟩
  · rw [h] at hw hrun
    exact hrun ▸ herror fault d' hw
  · rw [h] at hw hrun
    exact hrun ▸ hok a d' hw

end Ends

namespace Gives

variable {w : Work σ α} {k : α → Work σ β} {d : Desk σ} {Q Q' : α → Desk σ → Prop}
  {R : β → Desk σ → Prop}

theorem mono (h : Gives w d Q) (hQ : ∀ a d', Q a d' → Q' a d') : Gives w d Q' := by
  obtain ⟨a, d', hrun, h⟩ := h
  exact ⟨a, d', hrun, hQ a d' h⟩

theorem bind_ends {R : Except Fault β → Desk σ → Prop} (hw : Gives w d Q)
    (hk : ∀ a d', Q a d' → Ends (k a) d' R) : Ends (w >>= k) d R := by
  obtain ⟨a, d', hrun, h⟩ := hw
  unfold Ends
  rw [runOn_bind_ok hrun]
  exact hk a d' h

theorem pure {a : α} (h : Q a d) : Gives (Pure.pure a : Work σ α) d Q := ⟨a, d, rfl, h⟩

theorem bind_of_ok {d' : Desk σ} {a : α} (hw : w.runOn d = (.ok a, d'))
    (hk : Gives (k a) d' R) : Gives (w >>= k) d R := by
  unfold Gives at hk ⊢
  rwa [runOn_bind_ok hw]

theorem bind (hw : Gives w d Q) (hk : ∀ a d', Q a d' → Gives (k a) d' R) :
    Gives (w >>= k) d R := by
  obtain ⟨a, d', hrun, h⟩ := hw
  obtain ⟨b, d'', hrun', h'⟩ := hk a d' h
  exact ⟨b, d'', by rw [runOn_bind_ok hrun, hrun'], h'⟩

theorem tryCatch {handler : Fault → Work σ α} {E : Except Fault α → Desk σ → Prop}
    (hw : Ends w d E) (hok : ∀ a d', E (.ok a) d' → Q a d')
    (herror : ∀ fault d', E (.error fault) d' → Gives (handler fault) d' Q) :
    Gives (MonadExcept.tryCatch w handler) d Q := by
  unfold Ends at hw
  have hrun := runOn_tryCatch w handler d
  rcases h : w.runOn d with ⟨fault | a, d'⟩
  · rw [h] at hw hrun
    obtain ⟨a, d'', hhandler, h'⟩ := herror fault d' hw
    exact ⟨a, d'', hrun.trans hhandler, h'⟩
  · rw [h] at hw hrun
    exact ⟨a, d', hrun, hok a d' hw⟩

theorem lift_bind {x : Except Fault α} {a : α} (hx : x = .ok a) (hk : Gives (k a) d R) :
    Gives (Work.lift x >>= k) d R := by
  subst hx
  exact hk

/-- Nothing is caught where there is a result. -/
theorem tryCatch_ok (hw : Gives w d Q) (handler : Fault → Work σ α) :
    Gives (MonadExcept.tryCatch w handler) d Q := by
  obtain ⟨a, d', hrun, h⟩ := hw
  refine ⟨a, d', ?_, h⟩
  rw [runOn_tryCatch, hrun]

/-- A loop over a list, with what holds after each part of the list that has been gone through. -/
theorem foldlM {γ : Type} {f : β → γ → Work σ β} {I : List γ → β → Desk σ → Prop}
    (hstep : ∀ past x b d, I past b d → Gives (f b x) d (I (past ++ [x])))
    (past : List γ) {xs : List γ} {b : β} (h : I past b d) :
    Gives (xs.foldlM f b) d (I (past ++ xs)) := by
  induction xs generalizing past b d with
  | nil => exact Gives.pure (by rwa [List.append_nil])
  | cons x xs ih =>
    rw [List.foldlM_cons]
    refine (hstep past x b d h).bind fun b' d' h' => ?_
    have hrest := ih (past ++ [x]) h'
    rwa [List.append_assoc] at hrest

end Gives

namespace Leaves

variable {view : Desk σ → τ} {w : Work σ α} {k : α → Work σ β} {d : Desk σ}

theorem ends (h : Leaves view w) (d : Desk σ) : Ends w d fun _ d' => view d' = view d := h d

theorem of_runOn (h : ∀ d, (w.runOn d).2 = d) : Leaves view w := fun d => by rw [h]

theorem and_gives (h : Leaves view w) {Q : α → Desk σ → Prop} (hw : Gives w d Q) :
    Gives w d fun a d' => view d' = view d ∧ Q a d' := by
  obtain ⟨a, d', hrun, hQ⟩ := hw
  have hview := h d
  rw [hrun] at hview
  exact ⟨a, d', hrun, hview, hQ⟩

theorem pure (a : α) : Leaves view (Pure.pure a : Work σ α) := of_runOn fun _ => rfl

theorem throw (fault : Fault) : Leaves view (MonadExcept.throw fault : Work σ α) :=
  of_runOn fun _ => rfl

theorem lift (x : Except Fault α) : Leaves view (Work.lift x : Work σ α) :=
  of_runOn fun _ => by rw [runOn_lift]

theorem openSession : Leaves view (Work.openSession : Work σ Unit) :=
  of_runOn fun d => by rw [runOn_openSession]

theorem verify : Leaves view (Work.verify : Work σ Unit) := of_runOn fun d => by rw [runOn_verify]

theorem note {f : σ → σ} (h : ∀ d, view { d with notes := f d.notes } = view d) :
    Leaves view (Work.note f) := h

theorem bind (hw : Leaves view w) (hk : ∀ a, Leaves view (k a)) : Leaves view (w >>= k) := by
  intro d
  have h : Ends (w >>= k) d fun _ d' => view d' = view d := by
    refine (hw.ends d).bind (fun a d' h => ?_) fun _ _ h => h
    exact ((hk a).ends d').mono fun _ _ h' => h'.trans h
  exact h

theorem tryCatch {handler : Fault → Work σ α} (hw : Leaves view w)
    (hhandler : ∀ fault, Leaves view (handler fault)) :
    Leaves view (MonadExcept.tryCatch w handler) := by
  intro d
  have h : Ends (MonadExcept.tryCatch w handler) d fun _ d' => view d' = view d := by
    refine (hw.ends d).tryCatch (fun _ _ h => h) fun fault d' h => ?_
    exact ((hhandler fault).ends d').mono fun _ _ h' => h'.trans h
  exact h

section
variable (hview : SeesNoQueries view)

include hview

theorem ask (q : Query) : Leaves view (Work.ask q) := by
  intro d
  rw [runOn_ask]
  exact hview d [q]

theorem askOne (q : Query) : Leaves view (Work.askOne q) := (ask hview q).bind fun _ => .pure _

theorem aside {P : Query → Prop} {ρ : Type} {w : Work ρ α} (h : Asks P w) (start : ρ) :
    Leaves view (Work.aside w start) := by
  intro d
  obtain ⟨qs, hqs, -⟩ := h ⟨d.database, start⟩
  rw [runOn_aside, hqs]
  exact hview d qs

end

end Leaves

namespace Ends

variable {view : Desk σ → τ} {w : Work σ α} {d : Desk σ} {P : τ → Prop}

/-- What is shown after the first step is still shown at the end. -/
theorem bind_leaves {k : α → Work σ β} (hw : Ends w d fun _ d' => P (view d'))
    (hk : ∀ a, Leaves view (k a)) : Ends (w >>= k) d fun _ d' => P (view d') := by
  apply hw.bind
  · intro a d' h
    exact ((hk a).ends d').mono fun _ _ h' => h' ▸ h
  · intro _ _ h
    exact h

theorem tryCatch_leaves {handler : Fault → Work σ α} (hw : Ends w d fun _ d' => P (view d'))
    (hhandler : ∀ fault, Leaves view (handler fault)) :
    Ends (MonadExcept.tryCatch w handler) d fun _ d' => P (view d') := by
  apply hw.tryCatch
  · intro _ _ h
    exact h
  · intro fault d' h
    exact ((hhandler fault).ends d').mono fun _ _ h' => h' ▸ h

end Ends

/-- Work of which it is known exactly what it does. -/
theorem Does.ends {w : Work σ α} {d : Desk σ} {qs : List Query} {r : Except Fault α}
    (h : Does w d.database qs r) :
    Ends w d fun r' d' => r' = r ∧ d'.database = d.database.after qs := by
  obtain ⟨notes, hrun⟩ := h d.notes
  unfold Ends
  rw [hrun]
  exact ⟨rfl, rfl⟩

/-- A first step of which it is known exactly what it does. -/
theorem Does.bind_ends {w : Work σ α} {k : α → Work σ β} {db : Database} {qs : List Query} {a : α}
    {R : Except Fault β → Desk σ → Prop} (hw : Does w db qs (.ok a))
    (hk : ∀ notes, Ends (k a) ⟨db.after qs, notes⟩ R) (notes : σ) :
    Ends (w >>= k) ⟨db, notes⟩ R := by
  obtain ⟨notes', hrun⟩ := hw notes
  unfold Ends
  rw [runOn_bind_ok hrun]
  exact hk notes'

/-- What has been asked stays asked. -/
theorem Asks.ends {w : Work σ α} {P : Query → Prop} {d : Desk σ} {qs : List Query}
    (h : Asks P w) (hqs : qs <+: d.database.asked) :
    Ends w d fun _ d' => qs <+: d'.database.asked := by
  obtain ⟨rs, hrs, -⟩ := h.asked d
  have hkept : qs <+: (w.runOn d).2.database.asked := by
    rw [hrs]
    exact hqs.trans (List.prefix_append _ _)
  exact hkept

end CodeAtlas.Work
