import CodeAtlas.Proofs.ChatVisits

/-! The connection of the chat service counts as made before it is tried. Where trying it fails, it is
kept all the same and the indexes are never renewed; otherwise nothing is ever asked over a
connection that was not tried. -/
namespace CodeAtlas.Chat

/-- In this turn the connection is made and found to work, and then all that is left of connecting is
to renew the indexes. -/
def Checks (t : Turn Visit) : Prop :=
  t.before = false ∧ ∃ c d, t.input.wanted = some c ∧
    (opening Notes.connected c).runOn (t.input.desk t.before) = (.ok (), d) ∧
    (connect c).runOn (t.input.desk t.before) = (Index.renew : Job Unit).runOn d

section
variable {t : Turn Visit}

theorem checks_iff : Checks t ↔ keeper.Makes t ∧ t.input.script.verifyFault = none := by
  have hlazy := keeper_isLazy
  constructor
  · rintro ⟨hbefore, c, d, hwanted, hopening, -⟩
    obtain ⟨-, hafter⟩ := hlazy.of_wanted_some hbefore hwanted
    cases hconnect : t.input.script.connectFault with
    | some fault =>
      rw [opening_refused hconnect] at hopening
      cases hopening
    | none =>
      rw [opening_made hconnect] at hopening
      have hverify : (t.input.desk t.before).database.verify = .ok () :=
        congrArg Prod.fst hopening
      refine ⟨⟨hbefore, by rw [hafter]; simp [keeper, hconnect]⟩, ?_⟩
      cases hfault : t.input.script.verifyFault with
      | none => rfl
      | some fault => simp [Database.verify, Visit.desk, Script.database, hfault] at hverify
  · rintro ⟨⟨hbefore, hafter⟩, hverify⟩
    cases hwanted : t.input.wanted with
    | none =>
      rw [(hlazy.of_wanted_none hwanted).2, hbefore] at hafter
      cases hafter
    | some c =>
      rw [(hlazy.of_wanted_some hbefore hwanted).2, Option.isNone_iff_eq_none] at hafter
      have hworks : (t.input.desk t.before).database.verify = .ok () := by
        simp [Database.verify, Visit.desk, Script.database, hverify]
      have hopening : (opening Notes.connected c).runOn (t.input.desk t.before) = (.ok (), _) :=
        hworks ▸ opening_made hafter c
      exact ⟨hbefore, c, _, hwanted, hopening, connect_of_opening_ok hbefore hopening⟩

/-- A connection that cannot be made or does not work is all that comes of connecting. -/
theorem connect_fails {d : Desk Notes} (h : d.notes.isConnected = false)
    (hfault : d.database.connectFault = none → d.database.verifyFault ≠ none) (c : Credentials) :
    ((connect c).runOn d).1 ≠ .ok () ∧
      ((connect c).runOn d).2.database = d.database.dialled c := by
  cases hconnect : d.database.connectFault with
  | some fault =>
    rw [connect_of_opening_error h (opening_refused hconnect c)]
    simp
  | none =>
    obtain ⟨fault, hfault⟩ := Option.ne_none_iff_exists'.mp (hfault hconnect)
    have hverify : d.database.verify = .error fault := by simp [Database.verify, hfault]
    have hopening : (opening Notes.connected c).runOn d = (.error fault, _) :=
      hverify ▸ opening_made hconnect c
    rw [connect_of_opening_error h hopening]
    simp

theorem asked_eq {c : Credentials} (h : t.input.wanted = some c) :
    ∃ qs, keeper.asked t = ((connect c).runOn (t.input.desk t.before)).2.database.asked ++ qs ∧
      (∀ q ∈ qs, q ≠ Index.showQuery) ∧
      (qs ≠ [] → ((connect c).runOn (t.input.desk t.before)).1 = .ok ()) := by
  obtain ⟨qs, hqs, hother⟩ := (Visit.outcome_follows h t.before).queries
  exact ⟨qs, congrArg Database.asked hqs, hother⟩

theorem asked_of_wanted_none (h : t.input.wanted = none) : keeper.asked t = [] :=
  congrArg (fun d => d.database.asked) (Visit.outcome_of_wanted_none h t.before)

theorem asked_of_connect_fails {c : Credentials} (h : t.input.wanted = some c)
    (hbefore : t.before = false)
    (hfault : t.input.script.connectFault = none → t.input.script.verifyFault ≠ none) :
    keeper.asked t = [] := by
  obtain ⟨qs, hasked, -, hqs⟩ := asked_eq h
  obtain ⟨herror, hdatabase⟩ := connect_fails (d := t.input.desk t.before) hbefore hfault c
  cases qs with
  | nil =>
    rw [hasked, hdatabase]
    rfl
  | cons q qs => exact absurd (hqs (by simp)) herror

/-- Nothing is asked without a connection. -/
theorem asked_of_not_after (h : keeper.after t = false) : keeper.asked t = [] := by
  have hlazy := keeper_isLazy
  cases hwanted : t.input.wanted with
  | none => exact asked_of_wanted_none hwanted
  | some c =>
    cases hbefore : t.before with
    | true =>
      rw [(hlazy.of_before hbefore).2] at h
      cases h
    | false =>
      rw [(hlazy.of_wanted_some hbefore hwanted).2] at h
      apply asked_of_connect_fails hwanted hbefore
      intro hconnect
      simp [keeper, hconnect] at h

theorem showQuery_not_mem_of_before (h : t.before = true) :
    Index.showQuery ∉ keeper.asked t := by
  intro hmem
  cases hwanted : t.input.wanted with
  | none =>
    rw [asked_of_wanted_none hwanted] at hmem
    cases hmem
  | some c =>
    obtain ⟨qs, hasked, hother, -⟩ := asked_eq hwanted
    rw [hasked, connect_of_isConnected c h] at hmem
    exact hother _ hmem rfl

theorem checks_of_showQuery_mem (h : Index.showQuery ∈ keeper.asked t) : Checks t := by
  have hsome : keeper.asked t ≠ [] := List.ne_nil_of_mem h
  have hbefore : t.before = false := by
    cases hbefore : t.before with
    | false => rfl
    | true => exact absurd h (showQuery_not_mem_of_before hbefore)
  have hafter : keeper.after t = true := by
    cases hafter : keeper.after t with
    | false => exact absurd (asked_of_not_after hafter) hsome
    | true => rfl
  cases hwanted : t.input.wanted with
  | none => exact absurd (asked_of_wanted_none hwanted) hsome
  | some c =>
    refine checks_iff.mpr ⟨⟨hbefore, hafter⟩, ?_⟩
    cases hverify : t.input.script.verifyFault with
    | none => rfl
    | some fault =>
      have hfails := asked_of_connect_fails hwanted hbefore fun _ => by simp [hverify]
      exact absurd hfails hsome

/-- The indexes are asked for just in a turn that checks the connection and has a session. -/
theorem showQuery_mem_asked_iff :
    Index.showQuery ∈ keeper.asked t ↔ Checks t ∧ t.input.script.sessionFault = none := by
  constructor
  · intro hmem
    have hchecks := checks_of_showQuery_mem hmem
    refine ⟨hchecks, ?_⟩
    obtain ⟨-, c, d, hwanted, hopening, hconnect⟩ := hchecks
    obtain ⟨qs, hasked, hother, -⟩ := asked_eq hwanted
    cases hsession : t.input.script.sessionFault with
    | none => rfl
    | some fault =>
      have hdatabase := opening_database hopening
      have hno : d.database.sessionFault = some fault := by rw [hdatabase]; exact hsession
      rw [hasked, hconnect, Index.runOn_renew_of_no_session hno, hdatabase] at hmem
      exact absurd rfl (hother _ hmem)
  · rintro ⟨⟨-, c, d, hwanted, hopening, hconnect⟩, hsession⟩
    obtain ⟨qs, hasked, -⟩ := asked_eq hwanted
    rw [hasked, hconnect]
    apply List.mem_append_left
    have hopen : d.database.sessionFault = none := by rw [opening_database hopening]; exact hsession
    obtain ⟨drops, -, hrun⟩ := Index.runOn_renew hopen
    simp [hrun, Desk.after, Database.after]

end

/-- Whenever there is a connection after a turn, this turn or an earlier one has checked it, just
where the turn that makes the connection finds it to work; then nothing is asked over a connection
that was not checked either. Where that turn finds it not to work, no turn of the run checks it, and
the indexes are never asked for. -/
theorem connection_is_checked_iff (visits : List Visit) :
    ((∀ past t future, keeper.run visits = past ++ t :: future → keeper.after t = true →
        ∃ m ∈ past ++ [t], Checks m) ↔
      ∀ m ∈ keeper.run visits, keeper.Makes m → m.input.script.verifyFault = none) ∧
    ((∀ m ∈ keeper.run visits, keeper.Makes m → m.input.script.verifyFault = none) →
      ∀ past t future, keeper.run visits = past ++ t :: future → keeper.asked t ≠ [] →
        ∃ m ∈ past ++ [t], Checks m) ∧
    (∀ m ∈ keeper.run visits, keeper.Makes m → m.input.script.verifyFault ≠ none →
      ∀ t ∈ keeper.run visits, ¬ Checks t ∧ Index.showQuery ∉ keeper.asked t) ∧
    ∀ t ∈ keeper.run visits,
      Index.showQuery ∈ keeper.asked t ↔ Checks t ∧ t.input.script.sessionFault = none := by
  have hunique {m m' : Turn Visit} (hm : m ∈ keeper.run visits) (hm' : m' ∈ keeper.run visits)
      (hmakes : keeper.Makes m) (hmakes' : keeper.Makes m') : m = m' :=
    keeper_isLazy.makes_unique hm hm' hmakes hmakes'
  have hmem_run {past future : List (Turn Visit)} {t m : Turn Visit}
      (hrun : keeper.run visits = past ++ t :: future) (hm : m ∈ past ++ [t]) :
      m ∈ keeper.run visits := by
    rw [hrun, List.append_cons]
    exact List.mem_append_left future hm
  have hchecked (hworks : ∀ m ∈ keeper.run visits, keeper.Makes m →
      m.input.script.verifyFault = none) (past : List (Turn Visit)) (t : Turn Visit)
      (future : List (Turn Visit)) (hrun : keeper.run visits = past ++ t :: future)
      (hafter : keeper.after t = true) : ∃ m ∈ past ++ [t], Checks m := by
    obtain ⟨m, hm, hmakes⟩ := Keeper.exists_makes hrun hafter
    exact ⟨m, hm, checks_iff.mpr ⟨hmakes, hworks m (hmem_run hrun hm) hmakes⟩⟩
  refine ⟨⟨?_, hchecked⟩, ?_, ?_, fun t _ => showQuery_mem_asked_iff⟩
  · intro hinvariant m hm hmakes
    obtain ⟨past, future, hrun⟩ := List.append_of_mem hm
    obtain ⟨m', hm', hchecks⟩ := hinvariant past m future hrun hmakes.2
    obtain ⟨hmakes', hworks⟩ := checks_iff.mp hchecks
    rwa [hunique hm (hmem_run hrun hm') hmakes hmakes']
  · intro hworks past t future hrun hasked
    apply hchecked hworks past t future hrun
    cases hafter : keeper.after t with
    | false => exact absurd (asked_of_not_after hafter) hasked
    | true => rfl
  · intro m hm hmakes hfault t ht
    have hnot : ¬ Checks t := by
      intro hchecks
      obtain ⟨hmakes', hworks⟩ := checks_iff.mp hchecks
      rw [hunique hm ht hmakes hmakes'] at hfault
      exact hfault hworks
    exact ⟨hnot, fun hmem => hnot (checks_of_showQuery_mem hmem)⟩

/-- A request to clear the graph. -/
def clearVisit (script : Script) : Visit where
  credentials := ⟨"bolt://db", "neo", "pw"⟩
  assistant := ⟨.ok (.str "reply"), .ok [.list [.int 1]]⟩
  request := { method := "POST", target := ⟨clearPath, []⟩ }
  script := script

/-- A request for the health of the service, and then one to clear the graph. -/
def sampleVisits (verifyFault : Option Fault) : List Visit :=
  [healthVisit { verifyFault }, clearVisit {}]

theorem run_sampleVisits (verifyFault : Option Fault) :
    keeper.run (sampleVisits verifyFault) =
      [⟨healthVisit { verifyFault }, false⟩, ⟨clearVisit {}, true⟩] := by
  have hwanted : keeper.wanted (healthVisit { verifyFault }) =
      some ⟨"bolt://db", "neo", "pw"⟩ := rfl
  have hafter := (keeper_isLazy.of_wanted_some (t := ⟨healthVisit { verifyFault }, false⟩) rfl
    hwanted).2
  simp only [Keeper.run, sampleVisits, Keeper.runFrom, hafter]
  rfl

theorem connection_is_checked_iff_sample :
    (keeper.asked ⟨clearVisit {}, true⟩ ≠ [] ∧
      ∃ m ∈ keeper.run (sampleVisits none), Checks m) ∧
    keeper.Makes ⟨healthVisit { verifyFault := some unreachable }, false⟩ ∧
      ∀ t ∈ keeper.run (sampleVisits (some unreachable)), ¬ Checks t := by
  have hasked : keeper.asked ⟨clearVisit {}, true⟩ ≠ [] := by
    intro h
    exact absurd (congrArg List.length h) (by decide +kernel)
  have hmakes : keeper.Makes ⟨healthVisit { verifyFault := some unreachable }, false⟩ :=
    ⟨rfl, by decide +kernel⟩
  refine ⟨⟨hasked, ?_⟩, hmakes, ?_⟩
  · have h := (connection_is_checked_iff (sampleVisits none)).2.1
    rw [run_sampleVisits] at h ⊢
    exact h (by simp [healthVisit, clearVisit]) [⟨healthVisit {}, false⟩] ⟨clearVisit {}, true⟩ []
      rfl hasked
  · have h := (connection_is_checked_iff (sampleVisits (some unreachable))).2.2.1
    rw [run_sampleVisits] at h ⊢
    intro t ht
    exact (h _ (by simp) hmakes (by simp [healthVisit]) t ht).1

/-- A connection that was found not to work is kept, and the graph is cleared over it. -/
theorem unchecked_connection_is_kept :
    ((keeper.run (sampleVisits (some unreachable))).map fun t =>
      (t.before, (keeper.connects t).length, (keeper.asked t).length, keeper.after t)) =
      [(false, 1, 0, true), (true, 0, 2, true)] ∧
    ∀ t ∈ keeper.run (sampleVisits (some unreachable)), ¬ Checks t := by
  refine ⟨by decide +kernel, ?_⟩
  rw [run_sampleVisits]
  simp [checks_iff, Keeper.Makes, healthVisit]

end CodeAtlas.Chat
