import CodeAtlas.Work

/-! Laws of work at a desk. `Does` says exactly what a piece of work asks and how it ends on a given
database, whatever the notes are; `Asks` only bounds what it may ask, on every database. Both are
put together along the steps of the work, so that no proof about a job opens the steps again. -/
namespace CodeAtlas

namespace Database

/-- The answer to the query that comes after `n` others. -/
def answerAt (db : Database) (n : Nat) : Answer := db.answers.getD n db.otherwise

/-- The rows that answer the query that comes after `n` others. -/
def rowsAt (db : Database) (n : Nat) : List Fields := (db.answerAt n).toOption.getD []

/-- The database once the queries have been asked. -/
def after (db : Database) (qs : List Query) : Database :=
  { db with answers := db.answers.drop qs.length, asked := db.asked ++ qs }

/-- No query ends in a fault. -/
def IsFaultless (db : Database) : Prop := ∀ n, ∃ rows, db.answerAt n = .ok rows

/-- A database that answers every query and finds nothing. -/
def barren : Database :=
  { connectFault := none, verifyFault := none, sessionFault := none, answers := [],
    otherwise := .ok [] }

variable {db : Database}

@[simp] theorem after_nil : db.after [] = db := by simp [after]

@[simp] theorem after_after (qs rs : List Query) :
    (db.after qs).after rs = db.after (qs ++ rs) := by
  simp [after, List.drop_drop]

@[simp] theorem answerAt_after (qs : List Query) (n : Nat) :
    (db.after qs).answerAt n = db.answerAt (qs.length + n) := by
  simp [answerAt, after, List.getD_eq_getElem?_getD]

@[simp] theorem rowsAt_after (qs : List Query) (n : Nat) :
    (db.after qs).rowsAt n = db.rowsAt (qs.length + n) := by
  simp [rowsAt]

theorem ask_eq (q : Query) : db.ask q = (db.answerAt 0, db.after [q]) := by
  cases h : db.answers <;> simp [ask, answerAt, after, h]

theorem IsFaultless.after (h : db.IsFaultless) (qs : List Query) : (db.after qs).IsFaultless := by
  intro n
  rw [answerAt_after]
  exact h _

theorem barren_isFaultless : barren.IsFaultless := fun _ => ⟨[], rfl⟩

end Database

namespace Work

variable {σ α β : Type}

@[simp] theorem runOn_pure (a : α) (d : Desk σ) : (pure a : Work σ α).runOn d = (.ok a, d) := rfl

@[simp] theorem runOn_throw (fault : Fault) (d : Desk σ) :
    (throw fault : Work σ α).runOn d = (.error fault, d) := rfl

theorem runOn_bind (w : Work σ α) (k : α → Work σ β) (d : Desk σ) :
    (w >>= k).runOn d = match w.runOn d with
      | (.ok a, d') => (k a).runOn d'
      | (.error fault, d') => (.error fault, d') := by
  simp only [runOn, ExceptT.run_bind, StateT.run_bind]
  rcases (ExceptT.run w).run d with ⟨_ | a, d'⟩ <;> rfl

theorem runOn_bind_ok {w : Work σ α} {k : α → Work σ β} {d d' : Desk σ} {a : α}
    (h : w.runOn d = (.ok a, d')) : (w >>= k).runOn d = (k a).runOn d' := by
  rw [runOn_bind, h]

theorem runOn_bind_error {w : Work σ α} {k : α → Work σ β} {d d' : Desk σ} {fault : Fault}
    (h : w.runOn d = (.error fault, d')) : (w >>= k).runOn d = (.error fault, d') := by
  rw [runOn_bind, h]

/-- Work that ends well has done its first step well. -/
theorem runOn_bind_inv {w : Work σ α} {k : α → Work σ β} {d : Desk σ} {b : β}
    (h : ((w >>= k).runOn d).1 = .ok b) :
    ∃ a d', w.runOn d = (.ok a, d') ∧ ((k a).runOn d').1 = .ok b := by
  rcases hw : w.runOn d with ⟨fault | a, d'⟩
  · rw [runOn_bind_error hw] at h
    cases h
  · rw [runOn_bind_ok hw] at h
    exact ⟨a, d', rfl, h⟩

theorem runOn_tryCatch (w : Work σ α) (handler : Fault → Work σ α) (d : Desk σ) :
    (tryCatch w handler).runOn d = match w.runOn d with
      | (.ok a, d') => (.ok a, d')
      | (.error fault, d') => (handler fault).runOn d' := by
  simp only [runOn, tryCatch, tryCatchThe, MonadExceptOf.tryCatch, ExceptT.tryCatch, ExceptT.run,
    ExceptT.mk, StateT.run_bind]
  rcases StateT.run w d with ⟨_ | a, d'⟩ <;> rfl

@[simp] theorem runOn_lift (x : Except Fault α) (d : Desk σ) : (lift x).runOn d = (x, d) := by
  cases x <;> rfl

@[simp] theorem runOn_note (f : σ → σ) (d : Desk σ) :
    (note f).runOn d = (.ok (), { d with notes := f d.notes }) := rfl

theorem runOn_ask (q : Query) (d : Desk σ) :
    (ask q).runOn d = (d.database.answerAt 0, { d with database := d.database.after [q] }) := by
  have h : (ask q).runOn d =
      ((d.database.ask q).1, { d with database := (d.database.ask q).2 }) :=
    runOn_lift _ _
  rw [h, Database.ask_eq]

theorem runOn_askOne (q : Query) (d : Desk σ) : (askOne q).runOn d =
    ((d.database.answerAt 0).map List.head?, { d with database := d.database.after [q] }) := by
  have hask := runOn_ask q d
  cases hanswer : d.database.answerAt 0 with
  | error fault => exact runOn_bind_error (hanswer ▸ hask)
  | ok rows => exact runOn_bind_ok (hanswer ▸ hask)

theorem runOn_connect (c : Credentials) (d : Desk σ) : (connect c).runOn d =
    ((d.database.connect c).1, { d with database := (d.database.connect c).2 }) := runOn_lift _ _

theorem runOn_verify (d : Desk σ) : (verify : Work σ Unit).runOn d = (d.database.verify, d) :=
  runOn_lift _ _

theorem runOn_openSession (d : Desk σ) :
    (openSession : Work σ Unit).runOn d = (d.database.openSession, d) := runOn_lift _ _

theorem runOn_notes_bind (k : σ → Work σ α) (d : Desk σ) :
    (notes >>= k).runOn d = (k d.notes).runOn d := rfl

theorem runOn_aside {τ : Type} (w : Work τ α) (start : τ) (d : Desk σ) :
    (aside w start : Work σ (Except Fault α × τ)).runOn d =
      (.ok ((w.runOn ⟨d.database, start⟩).1, (w.runOn ⟨d.database, start⟩).2.notes),
        { d with database := (w.runOn ⟨d.database, start⟩).2.database }) := rfl

/-- Everything that a loop over a list picks out was picked for a member of the list. -/
theorem mem_of_filterMapM {γ : Type} {f : γ → Work σ (Option α)} {xs : List γ} {d : Desk σ}
    {ys : List α} (h : ((xs.filterMapM f).runOn d).1 = .ok ys) :
    ∀ y ∈ ys, ∃ x ∈ xs, ∃ d', ((f x).runOn d').1 = .ok (some y) := by
  induction xs generalizing d ys with
  | nil =>
    cases h
    simp
  | cons x xs ih =>
    rw [List.filterMapM_cons] at h
    obtain ⟨found, d₁, hx, h⟩ := runOn_bind_inv h
    intro y hy
    cases found with
    | none =>
      obtain ⟨x', hmem, hx'⟩ := ih h y hy
      exact ⟨x', List.mem_cons_of_mem _ hmem, hx'⟩
    | some a =>
      obtain ⟨zs, d₂, hzs, h⟩ := runOn_bind_inv h
      cases h
      rcases List.mem_cons.mp hy with rfl | hy
      · exact ⟨x, List.mem_cons_self, d, by rw [hx]⟩
      · obtain ⟨x', hmem, hx'⟩ := ih (by rw [hzs]) y hy
        exact ⟨x', List.mem_cons_of_mem _ hmem, hx'⟩

/-- A list split at the first member that fails a test. -/
theorem split_at_first {p : α → Bool} {xs : List α} {x : α}
    (h : xs.find? (fun a => !p a) = some x) :
    p x = false ∧ (∀ a ∈ xs.takeWhile p, p a = true) ∧
      ∃ rest, xs = xs.takeWhile p ++ x :: rest := by
  obtain ⟨hx, before, rest, rfl, hbefore⟩ := List.find?_eq_some_iff_append.mp h
  have hx : p x = false := by simpa using hx
  have hbefore : ∀ a ∈ before, p a = true := by simpa using hbefore
  have htake : (before ++ x :: rest).takeWhile p = before := by
    rw [List.takeWhile_append_of_pos hbefore, List.takeWhile_cons_of_neg (by simp [hx]),
      List.append_nil]
  rw [htake]
  exact ⟨hx, hbefore, rest, rfl⟩

/-- On the database `db` the work asks exactly the queries `qs`, in this order, and ends in `r`. -/
def Does (w : Work σ α) (db : Database) (qs : List Query) (r : Except Fault α) : Prop :=
  ∀ notes, ∃ notes', w.runOn ⟨db, notes⟩ = (r, ⟨db.after qs, notes'⟩)

namespace Does

variable {db : Database} {w : Work σ α} {k : α → Work σ β} {qs rs : List Query}

theorem pure (a : α) : Does (Pure.pure a : Work σ α) db [] (.ok a) := fun notes =>
  ⟨notes, by simp⟩

theorem throw (fault : Fault) : Does (MonadExcept.throw fault : Work σ α) db [] (.error fault) :=
  fun notes => ⟨notes, by simp⟩

theorem lift (x : Except Fault α) : Does (Work.lift x : Work σ α) db [] x := fun notes =>
  ⟨notes, by simp⟩

theorem note (f : σ → σ) : Does (Work.note f) db [] (.ok ()) := fun notes =>
  ⟨f notes, by simp⟩

theorem openSession : Does (Work.openSession : Work σ Unit) db [] db.openSession := fun notes =>
  ⟨notes, by rw [runOn_openSession, Database.after_nil]⟩

theorem ask (q : Query) : Does (Work.ask q : Work σ _) db [q] (db.answerAt 0) := fun notes =>
  ⟨notes, runOn_ask q _⟩

theorem bind {a : α} {r : Except Fault β} (hw : Does w db qs (.ok a))
    (hk : Does (k a) (db.after qs) rs r) : Does (w >>= k) db (qs ++ rs) r := by
  intro notes
  obtain ⟨notes₁, h₁⟩ := hw notes
  obtain ⟨notes₂, h₂⟩ := hk notes₁
  refine ⟨notes₂, ?_⟩
  rw [runOn_bind_ok h₁, h₂, Database.after_after]

theorem bind_error {fault : Fault} (hw : Does w db qs (.error fault)) :
    Does (w >>= k) db qs (.error fault) := by
  intro notes
  obtain ⟨notes₁, h₁⟩ := hw notes
  exact ⟨notes₁, runOn_bind_error h₁⟩

/-- A first step that asks nothing. -/
theorem bind_silent {a : α} {r : Except Fault β} (hw : Does w db [] (.ok a))
    (hk : Does (k a) db qs r) : Does (w >>= k) db qs r := by
  have h : Does (w >>= k) db ([] ++ qs) r := hw.bind (by rwa [Database.after_nil])
  simpa using h

/-- A last step that asks nothing. -/
theorem bind_last {a : α} {r : Except Fault β} (hw : Does w db qs (.ok a))
    (hk : Does (k a) (db.after qs) [] r) : Does (w >>= k) db qs r := by
  have h : Does (w >>= k) db (qs ++ []) r := hw.bind hk
  rwa [List.append_nil] at h

theorem bind_pure {a : α} (hw : Does w db qs (.ok a)) (g : α → β) :
    Does (w >>= fun a => Pure.pure (g a)) db qs (.ok (g a)) := hw.bind_last (Does.pure _)

theorem ask_ok {q : Query} {rows : List Fields} (h : db.answerAt 0 = .ok rows) :
    Does (Work.ask q : Work σ _) db [q] (.ok rows) := h ▸ Does.ask q

theorem askOne {q : Query} {rows : List Fields} (h : db.answerAt 0 = .ok rows) :
    Does (Work.askOne q : Work σ _) db [q] (.ok rows.head?) :=
  (Does.ask_ok h).bind_pure List.head?

section
variable {γ δ : Type} {q : γ → Option Query} {v : γ → δ} {xs : List γ}

theorem filterMap_cons_toList (q : γ → Option Query) (x : γ) (xs : List γ) :
    (x :: xs).filterMap q = (q x).toList ++ xs.filterMap q := by
  cases h : q x <;> simp [h]

/-- A loop in which the step over `v x` asks at most one query and gives `g x`, for every `x` of a
list; the rest of the loop may end as it likes. -/
theorem filterMapM_append {f : δ → Work σ (Option α)} {g : γ → Option α}
    {r : Except Fault (List α)} (ys : List δ)
    (hxs : ∀ x ∈ xs, ∀ rs, Does (f (v x)) (db.after rs) (q x).toList (.ok (g x)))
    (hys : Does (ys.filterMapM f) (db.after (xs.filterMap q)) qs r) :
    Does ((xs.map v ++ ys).filterMapM f) db (xs.filterMap q ++ qs)
      (r.map (xs.filterMap g ++ ·)) := by
  induction xs generalizing db with
  | nil =>
    rw [List.filterMap_nil, Database.after_nil] at hys
    cases r <;> exact hys
  | cons x xs ih =>
    have hx : Does (f (v x)) db (q x).toList (.ok (g x)) := by
      simpa using hxs x (by simp) []
    have hrest : Does ((xs.map v ++ ys).filterMapM f) (db.after (q x).toList)
        (xs.filterMap q ++ qs) (r.map (xs.filterMap g ++ ·)) := by
      refine ih (fun y hy rs => ?_) ?_
      · rw [Database.after_after]
        exact hxs y (by simp [hy]) _
      · rw [Database.after_after, ← filterMap_cons_toList]
        exact hys
    rw [List.map_cons, List.cons_append, List.filterMapM_cons, filterMap_cons_toList,
      List.append_assoc]
    cases hg : g x with
    | none =>
      rw [hg] at hx
      rw [List.filterMap_cons_none hg]
      exact hx.bind hrest
    | some a =>
      rw [hg] at hx
      rw [List.filterMap_cons_some hg]
      refine hx.bind ?_
      cases r with
      | error fault => exact hrest.bind_error
      | ok zs => exact hrest.bind_pure fun found => a :: found

theorem filterMapM {f : δ → Work σ (Option α)} {g : γ → Option α}
    (hxs : ∀ x ∈ xs, ∀ rs, Does (f (v x)) (db.after rs) (q x).toList (.ok (g x))) :
    Does ((xs.map v).filterMapM f) db (xs.filterMap q) (.ok (xs.filterMap g)) := by
  have h := filterMapM_append [] hxs (Does.pure [])
  simpa [Except.map] using h

/-- The loop breaks off at the first member that fails the test `p`. -/
theorem filterMapM_error {f : δ → Work σ (Option α)} {g : γ → Option α} {p : γ → Bool} {bad : γ}
    {fault : Fault} (h : xs.find? (fun x => !p x) = some bad)
    (hstep : ∀ x, p x = true → ∀ rs, Does (f (v x)) (db.after rs) (q x).toList (.ok (g x)))
    (hbad : p bad = false → ∀ rs, Does (f (v bad)) (db.after rs) [] (.error fault)) :
    Does ((xs.map v).filterMapM f) db ((xs.takeWhile p).filterMap q) (.error fault) := by
  obtain ⟨hnot, hbefore, rest, hsplit⟩ := split_at_first h
  have hend : Does (((bad :: rest).map v).filterMapM f)
      (db.after ((xs.takeWhile p).filterMap q)) [] (.error fault) := by
    rw [List.map_cons, List.filterMapM_cons]
    exact (hbad hnot _).bind_error
  have hloop := filterMapM_append _ (fun x hx => hstep x (hbefore x hx)) hend
  rw [← List.map_append, ← hsplit, List.append_nil] at hloop
  exact hloop

theorem forM_append {f : δ → Work σ Unit} {r : Except Fault Unit} (ys : List δ)
    (hxs : ∀ x ∈ xs, ∀ rs, Does (f (v x)) (db.after rs) (q x).toList (.ok ()))
    (hys : Does (ys.forM f) (db.after (xs.filterMap q)) qs r) :
    Does ((xs.map v ++ ys).forM f) db (xs.filterMap q ++ qs) r := by
  induction xs generalizing db with
  | nil =>
    rw [List.filterMap_nil, Database.after_nil] at hys
    exact hys
  | cons x xs ih =>
    have hx : Does (f (v x)) db (q x).toList (.ok ()) := by
      simpa using hxs x (by simp) []
    rw [List.map_cons, List.cons_append, List.forM_eq_forM, List.forM_cons,
      filterMap_cons_toList, List.append_assoc]
    refine hx.bind (ih (fun y hy rs => ?_) ?_)
    · rw [Database.after_after]
      exact hxs y (by simp [hy]) _
    · rw [Database.after_after, ← filterMap_cons_toList]
      exact hys

theorem forM {f : δ → Work σ Unit}
    (hxs : ∀ x ∈ xs, ∀ rs, Does (f (v x)) (db.after rs) (q x).toList (.ok ())) :
    Does ((xs.map v).forM f) db (xs.filterMap q) (.ok ()) := by
  have h := forM_append [] hxs (Does.pure ())
  simpa using h

theorem forM_error {f : δ → Work σ Unit} {p : γ → Bool} {bad : γ} {fault : Fault}
    (h : xs.find? (fun x => !p x) = some bad)
    (hstep : ∀ x, p x = true → ∀ rs, Does (f (v x)) (db.after rs) (q x).toList (.ok ()))
    (hbad : p bad = false → ∀ rs, Does (f (v bad)) (db.after rs) [] (.error fault)) :
    Does ((xs.map v).forM f) db ((xs.takeWhile p).filterMap q) (.error fault) := by
  obtain ⟨hnot, hbefore, rest, hsplit⟩ := split_at_first h
  have hend : Does (((bad :: rest).map v).forM f)
      (db.after ((xs.takeWhile p).filterMap q)) [] (.error fault) := by
    rw [List.map_cons, List.forM_eq_forM, List.forM_cons]
    exact (hbad hnot _).bind_error
  have hloop := forM_append _ (fun x hx => hstep x (hbefore x hx)) hend
  rw [← List.map_append, ← hsplit, List.append_nil] at hloop
  exact hloop

end

theorem asked {r : Except Fault α} (h : Does w db qs r) (notes : σ) :
    (w.runOn ⟨db, notes⟩).1 = r ∧
      (w.runOn ⟨db, notes⟩).2.database.asked = db.asked ++ qs := by
  obtain ⟨notes', h⟩ := h notes
  rw [h]
  exact ⟨rfl, rfl⟩

end Does

/-- The queries that the work asks when it is done at the desk `d`. -/
def queriesOf (w : Work σ α) (d : Desk σ) : List Query :=
  (w.runOn d).2.database.asked.drop d.database.asked.length

theorem Does.queriesOf_eq {w : Work σ α} {db : Database} {qs : List Query} {r : Except Fault α}
    (h : Does w db qs r) (notes : σ) : w.queriesOf ⟨db, notes⟩ = qs := by
  rw [queriesOf, (h.asked notes).2]
  exact List.drop_left

/-- Whatever desk the work is done at, all it does to the database is to ask queries, and every
query it asks satisfies `P`. -/
def Asks (P : Query → Prop) (w : Work σ α) : Prop :=
  ∀ d : Desk σ, ∃ qs, (w.runOn d).2.database = d.database.after qs ∧ ∀ q ∈ qs, P q

namespace Asks

variable {P Q : Query → Prop} {w : Work σ α}

theorem asked (h : Asks P w) (d : Desk σ) :
    ∃ qs, (w.runOn d).2.database.asked = d.database.asked ++ qs ∧ ∀ q ∈ qs, P q := by
  obtain ⟨qs, hqs, hP⟩ := h d
  exact ⟨qs, congrArg Database.asked hqs, hP⟩

theorem forall_queriesOf (h : Asks P w) (d : Desk σ) : ∀ q ∈ w.queriesOf d, P q := by
  obtain ⟨qs, hqs, hP⟩ := h.asked d
  simpa [queriesOf, hqs] using hP

theorem mono (h : Asks P w) (hPQ : ∀ q, P q → Q q) : Asks Q w := by
  intro d
  obtain ⟨qs, hqs, hP⟩ := h d
  exact ⟨qs, hqs, fun q hq => hPQ q (hP q hq)⟩

/-- Work that does the same thing on every database. -/
theorem of_does {r : Except Fault α} {qs : List Query} (h : ∀ db, Does w db qs r)
    (hP : ∀ q ∈ qs, P q) : Asks P w := by
  intro d
  obtain ⟨notes', hrun⟩ := h d.database d.notes
  exact ⟨qs, congrArg (fun run => run.2.database) hrun, hP⟩

/-- Work that leaves the database as it is. -/
theorem of_silent (h : ∀ d, (w.runOn d).2.database = d.database) : Asks P w := by
  intro d
  exact ⟨[], by rw [h, Database.after_nil], by simp⟩

theorem pure (a : α) : Asks P (Pure.pure a : Work σ α) := of_silent fun _ => rfl

theorem throw (fault : Fault) : Asks P (MonadExcept.throw fault : Work σ α) :=
  of_silent fun _ => rfl

theorem lift (x : Except Fault α) : Asks P (Work.lift x : Work σ α) :=
  of_silent fun _ => by rw [runOn_lift]

theorem note (f : σ → σ) : Asks P (Work.note f) := of_silent fun _ => rfl

theorem openSession : Asks P (Work.openSession : Work σ Unit) :=
  of_silent fun d => by rw [runOn_openSession]

theorem verify : Asks P (Work.verify : Work σ Unit) := of_silent fun d => by rw [runOn_verify]

theorem aside {ρ : Type} {w : Work ρ α} (h : Asks P w) (start : ρ) :
    Asks P (Work.aside w start : Work σ (Except Fault α × ρ)) := fun d => h ⟨d.database, start⟩

theorem ask {q : Query} (h : P q) : Asks P (Work.ask q : Work σ _) := by
  intro d
  exact ⟨[q], by rw [runOn_ask], by simpa using h⟩

theorem bind {k : α → Work σ β} (hw : Asks P w)
    (hk : ∀ d a, (w.runOn d).1 = .ok a → Asks P (k a)) : Asks P (w >>= k) := by
  intro d
  obtain ⟨qs, hqs, hq⟩ := hw d
  rcases h : w.runOn d with ⟨fault | a, d'⟩
  · rw [runOn_bind_error h]
    exact ⟨qs, by simpa [h] using hqs, hq⟩
  · obtain ⟨rs, hrs, hr⟩ := hk d a (by rw [h]) d'
    rw [runOn_bind_ok h, hrs]
    refine ⟨qs ++ rs, ?_, ?_⟩
    · rw [h] at hqs
      rw [hqs, Database.after_after]
    · simpa [or_imp, forall_and] using ⟨hq, hr⟩

theorem bind_lift {x : Except Fault α} {k : α → Work σ β} (hk : ∀ a, x = .ok a → Asks P (k a)) :
    Asks P (Work.lift x >>= k) :=
  (Asks.lift x).bind fun d a h => hk a (by rwa [runOn_lift] at h)

theorem forM {γ : Type} {f : γ → Work σ Unit} (xs : List γ) (h : ∀ x ∈ xs, Asks P (f x)) :
    Asks P (xs.forM f) := by
  induction xs with
  | nil => exact Asks.pure ()
  | cons x xs ih =>
    rw [List.forM_eq_forM, List.forM_cons]
    exact (h x (by simp)).bind fun _ _ _ => ih fun y hy => h y (by simp [hy])

theorem filterMapM {γ : Type} {f : γ → Work σ (Option α)} (xs : List γ)
    (h : ∀ x ∈ xs, Asks P (f x)) : Asks P (xs.filterMapM f) := by
  induction xs with
  | nil => exact Asks.pure []
  | cons x xs ih =>
    have ih := ih fun y hy => h y (by simp [hy])
    rw [List.filterMapM_cons]
    refine (h x (by simp)).bind fun _ found _ => ?_
    cases found with
    | none => exact ih
    | some a => exact ih.bind fun _ _ _ => Asks.pure _

theorem database_eq (h : Asks P w) (d : Desk σ) :
    (w.runOn d).2.database = d.database.after (w.queriesOf d) := by
  obtain ⟨qs, hqs, -⟩ := h d
  rw [queriesOf, hqs]
  exact congrArg d.database.after List.drop_left.symm

/-- The queries of two steps, one after the other. -/
theorem queriesOf_bind {k : α → Work σ β} {d d' : Desk σ} {a : α} (hw : Asks P w)
    (hk : Asks Q (k a)) (h : w.runOn d = (.ok a, d')) :
    (w >>= k).queriesOf d = w.queriesOf d ++ (k a).queriesOf d' := by
  have hfirst := hw.database_eq d
  rw [h] at hfirst
  have hsecond := hk.database_eq d'
  rw [hfirst, Database.after_after] at hsecond
  rw [queriesOf, runOn_bind_ok h, hsecond]
  exact List.drop_left

theorem mem_queriesOf_left {k : α → Work σ β} {d d' : Desk σ} {a : α} {q : Query}
    (hw : Asks P w) (hk : Asks Q (k a)) (h : w.runOn d = (.ok a, d')) (hq : q ∈ w.queriesOf d) :
    q ∈ (w >>= k).queriesOf d := by
  rw [hw.queriesOf_bind hk h]
  exact List.mem_append_left _ hq

theorem mem_queriesOf_right {k : α → Work σ β} {d d' : Desk σ} {a : α} {q : Query}
    (hw : Asks P w) (hk : Asks Q (k a)) (h : w.runOn d = (.ok a, d'))
    (hq : q ∈ (k a).queriesOf d') : q ∈ (w >>= k).queriesOf d := by
  rw [hw.queriesOf_bind hk h]
  exact List.mem_append_right _ hq

/-- A loop that ends well has asked what the step over any member of the list asks. -/
theorem mem_queriesOf_filterMapM {γ : Type} {f : γ → Work σ (Option α)} {xs : List γ} {x : γ}
    {q : Query} {d : Desk σ} {ys : List α} (hf : ∀ x ∈ xs, Asks P (f x)) (hx : x ∈ xs)
    (hq : ∀ d' found, ((f x).runOn d').1 = .ok found → q ∈ (f x).queriesOf d')
    (hok : ((xs.filterMapM f).runOn d).1 = .ok ys) : q ∈ (xs.filterMapM f).queriesOf d := by
  induction xs generalizing d ys with
  | nil => cases hx
  | cons y xs ih =>
    have hfirst := hf y List.mem_cons_self
    have hf := fun z hz => hf z (List.mem_cons_of_mem y hz)
    have hrest := filterMapM xs hf
    have hlast (a : α) := hrest.bind fun _ zs _ => Asks.pure (a :: zs)
    rw [List.filterMapM_cons] at hok ⊢
    obtain ⟨found, d₁, hy, hok⟩ := runOn_bind_inv hok
    rcases List.mem_cons.mp hx with rfl | hx
    · have hmem := hq d found (by rw [hy])
      cases found with
      | none => exact mem_queriesOf_left hfirst hrest hy hmem
      | some a => exact mem_queriesOf_left hfirst (hlast a) hy hmem
    · cases found with
      | none => exact mem_queriesOf_right hfirst hrest hy (ih hf hx hok)
      | some a =>
        apply mem_queriesOf_right hfirst (hlast a) hy
        obtain ⟨zs, d₂, hzs, -⟩ := runOn_bind_inv hok
        exact mem_queriesOf_left hrest (Asks.pure (P := P) (a :: zs)) hzs (ih hf hx (by rw [hzs]))

end Asks

end Work

end CodeAtlas
