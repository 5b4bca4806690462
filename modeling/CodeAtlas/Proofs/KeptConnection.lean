import CodeAtlas.Proofs.WorkContract

/-! Services that connect to the database when they first need it and keep the connection. A service
is given one input after another, each with its own reactions of the database. `Line.dial` says all
that dealing with an input can do to the connection, and `IsLazy.keepsOne` follows it through a whole
run. -/
namespace CodeAtlas

/-- How the database reacts while a job is done. -/
structure Script where
  connectFault : Option Fault := none
  verifyFault : Option Fault := none
  sessionFault : Option Fault := none
  answers : List Answer := []
  otherwise : Answer := .ok []

/-- The database at the start of a job, when it was asked nothing yet. -/
def Script.database (s : Script) : Database where
  connectFault := s.connectFault
  verifyFault := s.verifyFault
  sessionFault := s.sessionFault
  answers := s.answers
  otherwise := s.otherwise

namespace Database

/-- The database after an attempt to connect. -/
def dialled (db : Database) (c : Credentials) : Database :=
  { db with connects := db.connects ++ [c] }

theorem connect_refused {db : Database} {fault : Fault} (h : db.connectFault = some fault)
    (c : Credentials) : db.connect c = (.error fault, db.dialled c) := by
  simp [connect, dialled, h]

theorem connect_made {db : Database} (h : db.connectFault = none) (c : Credentials) :
    db.connect c = (.ok (), db.dialled c) := by
  simp [connect, dialled, h]

end Database

/-- What a job knows of the connection: how the database takes an attempt to connect, the attempts so
far and whether there is a connection. -/
structure Line where
  connectFault : Option Fault
  connects : List Credentials := []
  isConnected : Bool

namespace Line

/-- The connection at a desk whose notes tell whether there is one. -/
def ofDesk {σ : Type} (isConnected : σ → Bool) (d : Desk σ) : Line :=
  ⟨d.database.connectFault, d.database.connects, isConnected d.notes⟩

theorem ofDesk_seesNoQueries {σ : Type} (isConnected : σ → Bool) :
    Work.SeesNoQueries (ofDesk isConnected) := fun _ _ => rfl

/-- The connection after it was asked for, if it was: where there is one nothing happens, and
otherwise one attempt is made. -/
def dial (l : Line) : Option Credentials → Line
  | none => l
  | some c =>
    if l.isConnected then l
    else { l with connects := l.connects ++ [c], isConnected := l.connectFault.isNone }

@[simp] theorem dial_none (l : Line) : l.dial none = l := rfl

theorem dial_of_isConnected {l : Line} (h : l.isConnected = true) (c : Option Credentials) :
    l.dial c = l := by
  cases c <;> simp [dial, h]

theorem dial_of_not_isConnected {l : Line} (h : l.isConnected = false) (c : Credentials) :
    l.dial (some c) =
      { l with connects := l.connects ++ [c], isConnected := l.connectFault.isNone } := by
  simp [dial, h]

end Line

/-- Makes a connection, notes that there is one and tries it. -/
def opening {σ : Type} (mark : σ → σ) (c : Credentials) : Work σ Unit := do
  Work.connect c
  Work.note mark
  Work.verify

section
variable {σ : Type} {mark : σ → σ} {d : Desk σ}

theorem opening_refused {fault : Fault} (h : d.database.connectFault = some fault)
    (c : Credentials) :
    (opening mark c).runOn d = (.error fault, { d with database := d.database.dialled c }) := by
  apply Work.runOn_bind_error
  rw [Work.runOn_connect, Database.connect_refused h]

theorem opening_made (h : d.database.connectFault = none) (c : Credentials) :
    (opening mark c).runOn d = (d.database.verify, ⟨d.database.dialled c, mark d.notes⟩) := by
  have hconnect : (Work.connect c).runOn d =
      (.ok (), { d with database := d.database.dialled c }) := by
    rw [Work.runOn_connect, Database.connect_made h]
  rw [opening, Work.runOn_bind_ok hconnect, Work.runOn_bind_ok (Work.runOn_note _ _),
    Work.runOn_verify]
  rfl

theorem opening_database {c : Credentials} {d' : Desk σ}
    (h : (opening mark c).runOn d = (.ok (), d')) : d'.database = d.database.dialled c := by
  cases hfault : d.database.connectFault with
  | some fault =>
    rw [opening_refused hfault] at h
    cases h
  | none =>
    rw [opening_made hfault] at h
    rw [← (Prod.mk.inj h).2]

/-- The connection counts as made even if it then turns out not to work. -/
theorem opening_ends {isConnected : σ → Bool} (hmark : ∀ notes, isConnected (mark notes) = true)
    (h : isConnected d.notes = false) (c : Credentials) :
    (opening mark c).Ends d fun _ d' =>
      Line.ofDesk isConnected d' = (Line.ofDesk isConnected d).dial (some c) := by
  rw [Line.dial_of_not_isConnected h, Work.Ends]
  cases hfault : d.database.connectFault with
  | some fault =>
    rw [opening_refused hfault]
    simp [Line.ofDesk, Database.dialled, hfault, h]
  | none =>
    rw [opening_made hfault]
    simp [Line.ofDesk, Database.dialled, hfault, hmark]

end

/-- A service that is given one input after another and keeps its connection between them. -/
structure Keeper (ι : Type) where
  /-- How the database reacts to an input. -/
  script : ι → Script
  /-- What an input needs a connection with, if it needs one. -/
  wanted : ι → Option Credentials
  /-- Deals with an input when there is a connection or not: whether there is one afterwards, and the
  database. -/
  serve : ι → Bool → Bool × Database

/-- An input that is dealt with, and whether there is a connection before. -/
structure Turn (ι : Type) where
  input : ι
  before : Bool

namespace Keeper

variable {ι : Type} (k : Keeper ι)

/-- Whether there is a connection after a turn. -/
def after (t : Turn ι) : Bool := (k.serve t.input t.before).1

/-- The attempts to connect in a turn. -/
def connects (t : Turn ι) : List Credentials := (k.serve t.input t.before).2.connects

/-- The queries of a turn. -/
def asked (t : Turn ι) : List Query := (k.serve t.input t.before).2.asked

/-- The attempts of a turn that do not end in a fault. -/
def made (t : Turn ι) : List Credentials :=
  if (k.script t.input).connectFault.isNone then k.connects t else []

/-- The connection is made in this turn. -/
def Makes (t : Turn ι) : Prop := t.before = false ∧ k.after t = true

/-- The turns of a run over the inputs, each with the connection that the one before left. -/
def runFrom : Bool → List ι → List (Turn ι)
  | _, [] => []
  | isConnected, i :: inputs =>
    ⟨i, isConnected⟩ :: runFrom (k.after ⟨i, isConnected⟩) inputs

/-- A run of the service, which has no connection at first. -/
def run (inputs : List ι) : List (Turn ι) := k.runFrom false inputs

/-- All that a turn does to the connection is to dial where that is wanted. -/
def IsLazy : Prop := ∀ t : Turn ι,
  ⟨(k.serve t.input t.before).2.connectFault, k.connects t, k.after t⟩ =
    Line.dial ⟨(k.script t.input).connectFault, [], t.before⟩ (k.wanted t.input)

/-- A run with at most one connection. -/
structure KeepsOne (inputs : List ι) : Prop where
  /-- An attempt is made just where there is no connection and one is wanted, and then it is the only
  one of the turn. -/
  attempts : ∀ t ∈ k.run inputs,
    k.connects t = if t.before then [] else (k.wanted t.input).toList
  /-- There is a connection after a turn just if there was one before or the turn made it. -/
  after_iff : ∀ t ∈ k.run inputs, k.after t = true ↔ t.before = true ∨ k.made t ≠ []
  /-- At most one attempt of the run succeeds. -/
  made_once : ((k.run inputs).flatMap k.made).length ≤ 1
  /-- Once there is a connection it is kept and no other attempt is made. -/
  kept : ∀ past t future, k.run inputs = past ++ t :: future → k.after t = true →
    ∀ t' ∈ future, t'.before = true ∧ k.connects t' = [] ∧ k.after t' = true

variable {k}

/-- What comes after a turn of a run starts with the connection that the turn left. -/
theorem runFrom_split {b : Bool} {inputs : List ι} {past future : List (Turn ι)} {t : Turn ι}
    (h : k.runFrom b inputs = past ++ t :: future) :
    ∃ rest, future = k.runFrom (k.after t) rest := by
  induction inputs generalizing b past with
  | nil => simp [runFrom] at h
  | cons i inputs ih =>
    rw [runFrom] at h
    cases past with
    | nil =>
      obtain ⟨rfl, rfl⟩ := List.cons.inj h
      exact ⟨inputs, rfl⟩
    | cons _ past => exact ih (List.cons.inj h).2

theorem exists_makes_from {b : Bool} {inputs : List ι} {past future : List (Turn ι)} {t : Turn ι}
    (h : k.runFrom b inputs = past ++ t :: future) (hafter : k.after t = true) :
    b = true ∨ ∃ m ∈ past ++ [t], k.Makes m := by
  induction inputs generalizing b past with
  | nil => simp [runFrom] at h
  | cons i inputs ih =>
    rw [runFrom] at h
    cases b with
    | true => exact .inl rfl
    | false =>
      apply Or.inr
      cases past with
      | nil =>
        obtain ⟨rfl, -⟩ := List.cons.inj h
        exact ⟨_, by simp, rfl, hafter⟩
      | cons first past =>
        obtain ⟨rfl, hrest⟩ := List.cons.inj h
        rcases ih hrest with hfirst | ⟨m, hm, hmakes⟩
        · exact ⟨⟨i, false⟩, by simp, rfl, hfirst⟩
        · exact ⟨m, List.mem_cons_of_mem _ hm, hmakes⟩

/-- A connection that is there was made in this turn or before. -/
theorem exists_makes {inputs : List ι} {past future : List (Turn ι)} {t : Turn ι}
    (h : k.run inputs = past ++ t :: future) (hafter : k.after t = true) :
    ∃ m ∈ past ++ [t], k.Makes m := by
  rcases exists_makes_from h hafter with hfalse | hmakes
  · cases hfalse
  · exact hmakes

namespace IsLazy

variable (h : k.IsLazy)

include h

theorem of_before {t : Turn ι} (hbefore : t.before = true) :
    k.connects t = [] ∧ k.after t = true := by
  have hdial := h t
  rw [Line.dial_of_isConnected hbefore] at hdial
  simp only [Line.mk.injEq] at hdial
  exact ⟨hdial.2.1, hdial.2.2.trans hbefore⟩

theorem of_wanted_none {t : Turn ι} (hwanted : k.wanted t.input = none) :
    k.connects t = [] ∧ k.after t = t.before := by
  have hdial := h t
  rw [hwanted, Line.dial_none] at hdial
  simp only [Line.mk.injEq] at hdial
  exact hdial.2

theorem of_wanted_some {t : Turn ι} {c : Credentials} (hbefore : t.before = false)
    (hwanted : k.wanted t.input = some c) :
    k.connects t = [c] ∧ k.after t = (k.script t.input).connectFault.isNone := by
  have hdial := h t
  rw [hwanted, Line.dial_of_not_isConnected hbefore] at hdial
  simp only [Line.mk.injEq] at hdial
  exact hdial.2

theorem connects_eq (t : Turn ι) :
    k.connects t = if t.before then [] else (k.wanted t.input).toList := by
  cases hbefore : t.before with
  | true => simpa using (h.of_before hbefore).1
  | false =>
    cases hwanted : k.wanted t.input with
    | none => simpa using (h.of_wanted_none hwanted).1
    | some c => simpa using (h.of_wanted_some hbefore hwanted).1

/-- A turn adds to the connections just what it makes. -/
theorem length_made_add (t : Turn ι) :
    (k.made t).length + t.before.toNat = (k.after t).toNat := by
  unfold made
  cases hbefore : t.before with
  | true =>
    obtain ⟨hconnects, hafter⟩ := h.of_before hbefore
    simp [hconnects, hafter]
  | false =>
    cases hwanted : k.wanted t.input with
    | none =>
      obtain ⟨hconnects, hafter⟩ := h.of_wanted_none hwanted
      simp [hconnects, hafter, hbefore]
    | some c =>
      obtain ⟨hconnects, hafter⟩ := h.of_wanted_some hbefore hwanted
      cases hfault : (k.script t.input).connectFault <;> simp [hconnects, hafter, hfault]

theorem after_iff (t : Turn ι) : k.after t = true ↔ t.before = true ∨ k.made t ≠ [] := by
  have hmade := h.length_made_add t
  rw [← List.length_pos_iff]
  cases hbefore : t.before with
  | true => simp [(h.of_before hbefore).2]
  | false =>
    rw [hbefore, Bool.toNat_false, Nat.add_zero] at hmade
    cases hafter : k.after t <;> simp [hmade, hafter]

theorem length_made_le (b : Bool) (inputs : List ι) :
    ((k.runFrom b inputs).flatMap k.made).length + b.toNat ≤ 1 := by
  induction inputs generalizing b with
  | nil => simpa [runFrom] using Bool.toNat_le b
  | cons i inputs ih =>
    have hmade : (k.made ⟨i, b⟩).length + b.toNat = (k.after ⟨i, b⟩).toNat :=
      h.length_made_add ⟨i, b⟩
    have hrest := ih (k.after ⟨i, b⟩)
    rw [runFrom, List.flatMap_cons, List.length_append]
    omega

/-- From a connection on there is one before and after every turn. -/
theorem kept_from (inputs : List ι) : ∀ t ∈ k.runFrom true inputs,
    t.before = true ∧ k.connects t = [] ∧ k.after t = true := by
  induction inputs with
  | nil => simp [runFrom]
  | cons i inputs ih =>
    have hfirst : k.connects ⟨i, true⟩ = [] ∧ k.after ⟨i, true⟩ = true := h.of_before rfl
    rw [runFrom, hfirst.2, List.forall_mem_cons]
    exact ⟨⟨rfl, hfirst⟩, ih⟩

theorem keepsOne (inputs : List ι) : k.KeepsOne inputs where
  attempts t _ := h.connects_eq t
  after_iff t _ := h.after_iff t
  made_once := by simpa [run] using h.length_made_le false inputs
  kept past t future hrun hafter := by
    obtain ⟨rest, rfl⟩ := runFrom_split hrun
    rw [hafter]
    exact h.kept_from rest

/-- A run makes the connection in one turn. -/
theorem makes_unique {inputs : List ι} {m m' : Turn ι} (hm : m ∈ k.run inputs)
    (hm' : m' ∈ k.run inputs) (hmakes : k.Makes m) (hmakes' : k.Makes m') : m = m' := by
  -- The turns after one that makes the connection find it there, so they do not make it.
  have hlater (a b : Turn ι) (past future : List (Turn ι)) (ha : k.Makes a) (hb : k.Makes b)
      (hrun : k.run inputs = past ++ a :: future) : b ∉ future := by
    intro hmem
    have hbefore := ((h.keepsOne inputs).kept past a future hrun ha.2 b hmem).1
    rw [hb.1] at hbefore
    cases hbefore
  obtain ⟨past, future, hrun⟩ := List.append_of_mem hm
  rw [hrun] at hm'
  rcases List.mem_append.mp hm' with hpast | hfuture
  · obtain ⟨past₁, past₂, rfl⟩ := List.append_of_mem hpast
    rw [List.append_assoc, List.cons_append] at hrun
    exact absurd (by simp) (hlater m' m past₁ _ hmakes' hmakes hrun)
  · rcases List.mem_cons.mp hfuture with heq | hfuture
    · exact heq.symm
    · exact absurd hfuture (hlater m m' past future hmakes hmakes' hrun)

end IsLazy

end Keeper

end CodeAtlas
