import CodeAtlas.Chat.Index
import CodeAtlas.Proofs.WorkContract

/-! What renewing the vector indexes asks. A fault while the old indexes are dropped ends the dropping
and nothing else, and a fault while the new ones are made ends the renewal; none is passed on. -/
namespace CodeAtlas

/-- Of queries that would be answered from the `n`-th answer of a script on, those that are asked if
the first that ends in a fault is the last. -/
structure Database.UpToFault (script : Nat → Answer) (n : Nat) (queries asked : List Query) :
    Prop where
  isPrefix : asked <+: queries
  before_last : ∀ i, i + 1 < asked.length → (script (n + i)).isOk = true
  complete_or_fault : asked = queries ∨
    ∃ i, asked.length = i + 1 ∧ (script (n + i)).isOk = false

namespace Database.UpToFault

variable {script : Nat → Answer} {n : Nat} {q : Query} {queries asked : List Query}

theorem nil : UpToFault script n [] [] := ⟨List.prefix_rfl, by simp, .inl rfl⟩

theorem fault (h : (script n).isOk = false) : UpToFault script n (q :: queries) [q] where
  isPrefix := by simp
  before_last := by simp
  complete_or_fault := .inr ⟨0, rfl, h⟩

theorem cons (h : (script n).isOk = true)
    (hrest : UpToFault (fun i => script (1 + i)) n queries asked) :
    UpToFault script n (q :: queries) (q :: asked) where
  isPrefix := by simpa using hrest.isPrefix
  before_last := by
    intro i hi
    cases i with
    | zero => exact h
    | succ i =>
      have hstep := hrest.before_last i (by simpa using hi)
      rwa [show 1 + (n + i) = n + (i + 1) by omega] at hstep
  complete_or_fault := by
    obtain hall | ⟨i, hi, hfault⟩ := hrest.complete_or_fault
    · exact .inl (by rw [hall])
    · rw [show 1 + (n + i) = n + (i + 1) by omega] at hfault
      exact .inr ⟨i + 1, by simp [hi], hfault⟩

theorem not_length_lt {asked' : List Query} (h : UpToFault script n queries asked)
    (h' : UpToFault script n queries asked') : ¬ asked.length < asked'.length := by
  intro hlt
  have hle := h'.isPrefix.length_le
  obtain hall | ⟨i, hi, hfault⟩ := h.complete_or_fault
  · rw [hall] at hlt
    omega
  · have hok := h'.before_last i (by omega)
    rw [hfault] at hok
    cases hok

/-- What is asked is determined by the script. -/
theorem unique {asked' : List Query} (h : UpToFault script n queries asked)
    (h' : UpToFault script n queries asked') : asked = asked' := by
  have hlength : asked.length = asked'.length := by
    have hle := h.not_length_lt h'
    have hge := h'.not_length_lt h
    omega
  exact (List.prefix_of_prefix_length_le h.isPrefix h'.isPrefix (Nat.le_of_eq hlength)).eq_of_length
    hlength

theorem shift {k : Nat} (h : UpToFault (fun i => script (k + i)) n queries asked) :
    UpToFault script (k + n) queries asked := by
  obtain ⟨hstart, hbefore, hend⟩ := h
  simp only [← Nat.add_assoc] at hbefore hend
  exact ⟨hstart, hbefore, hend⟩

end Database.UpToFault

/-- The desk once the queries have been asked. -/
def Desk.after {σ : Type} (d : Desk σ) (qs : List Query) : Desk σ :=
  { d with database := d.database.after qs }

theorem Desk.after_after {σ : Type} (d : Desk σ) (qs rs : List Query) :
    (d.after qs).after rs = d.after (qs ++ rs) := by
  simp [Desk.after]

theorem Desk.answerAt_after {σ : Type} (d : Desk σ) (qs : List Query) :
    (d.after qs).database.answerAt = fun i => d.database.answerAt (qs.length + i) :=
  funext fun i => Database.answerAt_after qs i

namespace Chat.Index

variable {σ : Type} {d : Desk σ}

/-- The queries that drop the indexes that the rows name; a row may name none. -/
def dropQueries (rows : List Fields) : List Query :=
  ((rows.map fun row => row.getD "name" .null).filter Value.isPresent).map dropQuery

/-- The queries that make the indexes, if the first of them is answered as given. -/
def createQueries (answer : Answer) : List Query :=
  createFileIndex :: if answer.isOk then [createFunctionIndex] else []

theorem runOn_forgiving (w : Work σ Unit) (d : Desk σ) :
    (forgiving w).runOn d = (.ok (), (w.runOn d).2) := by
  rw [forgiving, Work.runOn_tryCatch]
  rcases w.runOn d with ⟨_ | _, d'⟩ <;> rfl

theorem runOn_dropRow (row : Fields) (d : Desk σ) : (dropRow row).runOn d =
    if (row.getD "name" .null).isPresent then
      ((d.database.answerAt 0).map fun _ => (), d.after [dropQuery (row.getD "name" .null)])
    else (.ok (), d) := by
  show Work.runOn (if _ then _ else _) d = _
  split
  · rw [Work.runOn_bind, Work.runOn_ask]
    cases d.database.answerAt 0 <;> rfl
  · rfl

/-- The rows are gone through up to the first index that cannot be dropped. -/
theorem runOn_forM_dropRow (rows : List Fields) (d : Desk σ) : ∃ drops,
    Database.UpToFault d.database.answerAt 0 (dropQueries rows) drops ∧
      ((rows.forM dropRow : Work σ Unit).runOn d).2 = d.after drops := by
  induction rows generalizing d with
  | nil => exact ⟨[], .nil, by simp [Desk.after]⟩
  | cons row rows ih =>
    rw [List.forM_eq_forM, List.forM_cons, Work.runOn_bind, runOn_dropRow]
    by_cases hname : (row.getD "name" .null).isPresent = true
    · have hqueries : dropQueries (row :: rows) =
          dropQuery (row.getD "name" .null) :: dropQueries rows := by
        simp [dropQueries, hname]
      rw [if_pos hname, hqueries]
      cases hanswer : d.database.answerAt 0 with
      | error fault => exact ⟨_, .fault (by rw [hanswer]; rfl), rfl⟩
      | ok found =>
        obtain ⟨drops, hdrops, hrun⟩ := ih (d.after [dropQuery (row.getD "name" .null)])
        refine ⟨dropQuery (row.getD "name" .null) :: drops, .cons (by rw [hanswer]; rfl) ?_, ?_⟩
        · rwa [Desk.answerAt_after] at hdrops
        · rwa [Desk.after_after] at hrun
    · have hqueries : dropQueries (row :: rows) = dropQueries rows := by
        simp [dropQueries, hname]
      rw [if_neg hname, hqueries]
      exact ih d

theorem runOn_dropAll (d : Desk σ) : ∃ drops,
    Database.UpToFault d.database.answerAt 1 (dropQueries (d.database.rowsAt 0)) drops ∧
      ((dropAll : Work σ Unit).runOn d).2 = d.after (showQuery :: drops) := by
  rw [dropAll, Work.runOn_bind, Work.runOn_ask, Database.rowsAt]
  cases hanswer : d.database.answerAt 0 with
  | error fault => exact ⟨[], .nil, rfl⟩
  | ok rows =>
    obtain ⟨drops, hdrops, hrun⟩ := runOn_forM_dropRow rows (d.after [showQuery])
    rw [Desk.answerAt_after] at hdrops
    rw [Desk.after_after] at hrun
    exact ⟨drops, hdrops.shift, hrun⟩

theorem runOn_create (d : Desk σ) : ((create : Work σ Unit).runOn d).2 =
    d.after (createQueries (d.database.answerAt 0)) := by
  rw [create, Work.runOn_bind, Work.runOn_ask]
  cases hanswer : d.database.answerAt 0 with
  | error fault => rfl
  | ok rows =>
    show (Work.runOn (Work.ask createFunctionIndex >>= _) (d.after [createFileIndex])).2 = _
    rw [Work.runOn_bind, Work.runOn_ask]
    have hdesk : (d.after [createFileIndex]).after [createFunctionIndex] =
        d.after (createQueries (.ok rows)) := Desk.after_after _ _ _
    cases (d.after [createFileIndex]).database.answerAt 0 <;> exact hdesk

theorem runOn_openSession (h : d.database.sessionFault = none) :
    (Work.openSession : Work σ Unit).runOn d = (.ok (), d) := by
  simp [Work.runOn_openSession, Database.openSession, h]

theorem runOn_renew (h : d.database.sessionFault = none) : ∃ drops,
    Database.UpToFault d.database.answerAt 1 (dropQueries (d.database.rowsAt 0)) drops ∧
      renew.runOn d = (.ok (), d.after
        (showQuery :: drops ++ createQueries (d.database.answerAt (drops.length + 1)))) := by
  obtain ⟨drops, hdrops, hrun⟩ := runOn_dropAll d
  refine ⟨drops, hdrops, ?_⟩
  rw [renew, runOn_forgiving, Work.runOn_bind_ok (runOn_openSession h),
    Work.runOn_bind_ok (runOn_forgiving _ _), runOn_create, hrun, Desk.answerAt_after,
    Desk.after_after]
  rfl

theorem runOn_renew_of_no_session {fault : Fault} (h : d.database.sessionFault = some fault) :
    renew.runOn d = (.ok (), d) := by
  have hopen : (Work.openSession : Work σ Unit).runOn d = (.error fault, d) := by
    simp [Work.runOn_openSession, Database.openSession, h]
  rw [renew, runOn_forgiving, Work.runOn_bind_error hopen]

/-- However it goes, renewing the indexes has a result, and all it does is to ask. -/
theorem exists_runOn_renew (d : Desk σ) : ∃ qs, renew.runOn d = (.ok (), d.after qs) := by
  cases hsession : d.database.sessionFault with
  | none =>
    obtain ⟨drops, -, hrun⟩ := runOn_renew hsession
    exact ⟨_, hrun⟩
  | some fault => exact ⟨[], by simp [runOn_renew_of_no_session hsession, Desk.after]⟩

theorem renew_ok (d : Desk σ) : (renew.runOn d).1 = .ok () := by
  obtain ⟨qs, hrun⟩ := exists_runOn_renew d
  rw [hrun]

theorem renew_leaves {τ : Type} {view : Desk σ → τ} (hview : Work.SeesNoQueries view) :
    (renew : Work σ Unit).Leaves view := by
  intro d
  obtain ⟨qs, hrun⟩ := exists_runOn_renew d
  rw [hrun]
  exact hview d qs

/-- Over a session that opens, the indexes that there are come first, then each that has a name is
dropped up to the first that cannot be, and then the new ones are made, the second only if the first
could be. Whatever is answered on the way, there is no fault. Without a session nothing is asked. -/
theorem renewal_reaches_creation (d : Desk σ) :
    (d.database.sessionFault = none → ∃ drops,
      Database.UpToFault d.database.answerAt 1 (dropQueries (d.database.rowsAt 0)) drops ∧
      renew.runOn d = (.ok (), d.after (showQuery :: drops ++ createFileIndex ::
        if (d.database.answerAt (drops.length + 1)).isOk then [createFunctionIndex] else []))) ∧
    (d.database.sessionFault ≠ none → renew.runOn d = (.ok (), d)) := by
  refine ⟨runOn_renew, fun h => ?_⟩
  obtain ⟨fault, hfault⟩ := Option.ne_none_iff_exists'.mp h
  exact runOn_renew_of_no_session hfault

/-- Three of the four indexes have a name, the second of them cannot be dropped, and the new ones can
be made. -/
def crowdedDesk : Desk Unit where
  database := { Database.barren with
    answers := [
      .ok [[("name", .str "file_index")], [("name", .str "")], [("name", .str "function_index")],
        [("name", .int 7)]],
      .ok [], .error (.service .databaseError "locked")] }
  notes := ()

theorem renewal_reaches_creation_sample :
    crowdedDesk.database.sessionFault = none ∧
    renew.runOn crowdedDesk = (.ok (), crowdedDesk.after [showQuery,
      dropQuery (.str "file_index"), dropQuery (.str "function_index"),
      createFileIndex, createFunctionIndex]) ∧
    Database.sessionFault { crowdedDesk.database with sessionFault := some .notUtf8 } ≠ none ∧
    renew.runOn { crowdedDesk with
        database := { crowdedDesk.database with sessionFault := some .notUtf8 } } =
      (.ok (), { crowdedDesk with
        database := { crowdedDesk.database with sessionFault := some .notUtf8 } }) := by
  obtain ⟨drops, hdrops, hrun⟩ := (renewal_reaches_creation crowdedDesk).1 rfl
  have hexpected : Database.UpToFault crowdedDesk.database.answerAt 1
      (dropQueries (crowdedDesk.database.rowsAt 0))
      [dropQuery (.str "file_index"), dropQuery (.str "function_index")] := by
    refine ⟨⟨[dropQuery (.int 7)], rfl⟩, ?_, .inr ⟨1, rfl, rfl⟩⟩
    intro i hi
    have hlt : i + 1 < 2 := hi
    obtain rfl : i = 0 := by omega
    rfl
  obtain rfl := hdrops.unique hexpected
  refine ⟨rfl, hrun, by simp, ?_⟩
  exact (renewal_reaches_creation _).2 (by simp)

end Chat.Index

end CodeAtlas
