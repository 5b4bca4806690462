import CodeAtlas.Proofs.BatchAccounts
import CodeAtlas.Proofs.PollCounts

/-! How far the last wait for the graph reaches. It sets the status and the message of one entry of the
board, and nothing else that is kept changes. Without an entry every way through it ends in the same
fault, since each of them sets one of the two. -/
namespace CodeAtlas

namespace Checkout

variable {repo : Value} {d : Desk Notes} {s : Surroundings}

namespace Board

theorem set_set (hrepo : repo.isHashable = true) (b : Board) (v w : Value) :
    (b.set repo v).set repo w = b.set repo w := by
  induction b with
  | nil => simp [Board.set, Value.sameKey_self hrepo]
  | cons entry rest ih =>
    obtain ⟨key, old⟩ := entry
    by_cases hkey : key.sameKey repo = true
    · simp [Board.set, hkey]
    · simp [Board.set, hkey, ih]

theorem set_of_get? {b : Board} {v : Value} (h : b.get? repo = some v) : b.set repo v = b := by
  induction b with
  | nil => cases h
  | cons entry rest ih =>
    obtain ⟨key, old⟩ := entry
    by_cases hkey : key.sameKey repo = true
    · have hold : old = v := by simpa [Board.get?, hkey] using h
      simp [Board.set, hkey, hold]
    · have hrest : Board.get? rest repo = some v := by simpa [Board.get?, hkey] using h
      simp [Board.set, hkey, ih hrest]

end Board

/-- The fields of an entry that a wait sets. -/
def waitKeys : List Text := ["status", "message"]

/-- An entry without what a wait sets. -/
def steadyEntry : Value → Value
  | .dict fields => .dict (Fields.beyond waitKeys fields)
  | v => v

/-- The board without what a wait for the repository sets. -/
def Board.steady (b : Board) (repo : Value) : Board :=
  match b.get? repo with
  | some entry => b.set repo (steadyEntry entry)
  | none => b

theorem Board.steady_set (hrepo : repo.isHashable = true) (b : Board) (v : Value) :
    (b.set repo v).steady repo = b.set repo (steadyEntry v) := by
  simp [Board.steady, Board.get?_set_self b hrepo, Board.set_set hrepo]

theorem Board.steady_of_get? {b : Board} {v : Value} (h : b.get? repo = some v) :
    b.steady repo = b.set repo (steadyEntry v) := by
  simp [Board.steady, h]

/-- A board that differs from another in nothing but what a wait sets. -/
theorem Board.eq_set_of_steady {b b' : Board} {fields after : Fields}
    (hsteady : b'.steady repo = b.steady repo) (h : b.get? repo = some (.dict fields))
    (h' : b'.get? repo = some (.dict after)) :
    b' = b.set repo (.dict after) ∧ Fields.AgreeBeyond waitKeys after fields := by
  have hrepo := Board.isHashable_of_get? h
  rw [Board.steady_of_get? h, Board.steady_of_get? h'] at hsteady
  constructor
  · have hset := congrArg (fun b => Board.set b repo (.dict after)) hsteady
    simpa [Board.set_set hrepo, Board.set_of_get? h'] using hset
  · have hget := congrArg (fun b => Board.get? b repo) hsteady
    simp only [Board.get?_set_self _ hrepo, steadyEntry, Option.some.injEq, Value.dict.injEq] at hget
    exact Fields.agreeBeyond_of_beyond_eq hget

/-- A repository without an entry has nothing that a wait could set. -/
theorem Board.eq_of_steady {b b' : Board} (hsteady : b'.steady repo = b.steady repo)
    (h : b.get? repo = none) : b' = b := by
  have hb : b.steady repo = b := by simp [Board.steady, h]
  rw [hb] at hsteady
  cases h' : b'.get? repo with
  | none => simpa [Board.steady, h'] using hsteady
  | some entry =>
    have hrepo := Board.isHashable_of_get? h'
    rw [← hsteady, Board.steady_of_get? h', Board.get?_set_self _ hrepo] at h
    cases h

/-- Everything that is kept, but for what a wait for the repository sets. -/
def steady (repo : Value) (d : Desk Notes) : Site × List Upload × List Post :=
  ({ d.notes.site with board := d.notes.site.board.steady repo },
    d.notes.log.uploads, d.notes.log.posts)

theorem board_of_steady {d' : Desk Notes} (h : steady repo d' = steady repo d) :
    d'.notes.site.board.steady repo = d.notes.site.board.steady repo :=
  congrArg (fun kept => kept.1.board) h

theorem site_of_steady {d' : Desk Notes} (h : steady repo d' = steady repo d) :
    d'.notes.site = { d.notes.site with board := d'.notes.site.board } :=
  congrArg (fun kept => { kept.1 with board := d'.notes.site.board }) h

theorem steady_seesNoQueries (repo : Value) : Work.SeesNoQueries (steady repo) := fun _ _ => rfl

theorem print_steady (line : Text) : (print line).Leaves (steady repo) := fun _ => rfl

theorem sleep_steady (seconds : Nat) : (sleep seconds).Leaves (steady repo) := fun _ => rfl

theorem connect_steady (c : Credentials) : (Work.connect c : Job Unit).Leaves (steady repo) := by
  intro d
  rw [Work.runOn_connect]
  rfl

theorem setField_steady {key : Text} (hkey : key ∈ waitKeys) (v : Value) :
    (setField repo key v).Leaves (steady repo) := by
  intro d
  rw [runOn_setField]
  cases hentry : changedEntry d.notes.site.board repo key v with
  | error fault => rfl
  | ok entry =>
    obtain ⟨fields, hrepo, hget, rfl⟩ := changedEntry_eq_ok hentry
    have hboard : (d.notes.site.board.set repo (.dict (Fields.set fields key v))).steady repo =
        d.notes.site.board.steady repo := by
      rw [Board.steady_set hrepo, Board.steady_of_get? hget, steadyEntry, steadyEntry,
        Fields.beyond_set hkey]
    simp [steady, withEntry, hboard]

theorem setMessage_steady (message : Text) : (setMessage repo message).Leaves (steady repo) :=
  setField_steady (by simp [waitKeys]) _

theorem setStatus_steady (status message : Text) :
    (setStatus repo status message).Leaves (steady repo) :=
  (setField_steady (by simp [waitKeys]) _).bind fun _ => setMessage_steady message

theorem noteWaiting_steady (n : Number) : (noteWaiting repo n).Leaves (steady repo) := by
  unfold noteWaiting
  split
  · exact (print_steady _).bind fun _ => setMessage_steady _
  · exact .pure _

theorem Verdict.steady {job : Job (Option Watch)} (h : Verdict repo job) :
    job.Leaves (steady repo) := by
  cases h with
  | refused fault => exact .throw fault
  | found line message =>
    exact (print_steady line).bind fun _ => (setStatus_steady _ message).bind fun _ => .pure _
  | waiting n w => exact (noteWaiting_steady n).bind fun _ => .pure _
  | stalled line n w =>
    exact (print_steady line).bind fun _ => (noteWaiting_steady n).bind fun _ => .pure _

theorem pollEnd_steady (w : Watch) : (pollEnd repo w).Leaves (steady repo) := by
  apply Work.Leaves.openSession.bind
  intro _
  apply (nodeCount_leaves (steady_seesNoQueries repo) _).bind
  intro count
  exact (print_steady _).bind fun _ => (judgeCount_verdict repo w count).steady

theorem tryEnd_steady (w : Watch) : (tryEnd repo w).Leaves (steady repo) := by
  apply (pollEnd_steady w).tryCatch
  intro fault
  exact (setMessage_steady _).bind fun _ => (print_steady _).bind fun _ => .pure _

/-- The last wait leaves alone what is not its own, however it ends. -/
theorem awaitEnd_steady (s : Surroundings) (repo : Value) :
    (awaitEnd s repo).Leaves (steady repo) := by
  apply Work.Leaves.tryCatch
  · split
    · exact setStatus_steady _ _
    · apply (connect_steady _).bind
      intro _
      apply (endSchedule.pollFrom_leaves tryEnd_steady (sleep_steady _) 0 {}).bind
      intro found
      split
      · exact (print_steady _).bind fun _ => setStatus_steady _ _
      · exact .pure _
  · intro fault
    exact (setStatus_steady _ _).bind fun _ => print_steady _

/-- The fault of looking for an entry that is not there. -/
def absence (repo : Value) : Fault :=
  if repo.isHashable then .missingKey repo else .notHashable repo.typeName

/-- The repository has no entry on the board. -/
def IsUnlisted (repo : Value) (d : Desk Notes) : Prop := d.notes.site.board.get? repo = none

theorem IsUnlisted.of_steady {d' : Desk Notes} (h : IsUnlisted repo d)
    (hsteady : steady repo d' = steady repo d) : d'.notes.site = d.notes.site := by
  rw [site_of_steady hsteady, Board.eq_of_steady (board_of_steady hsteady) h]

namespace IsUnlisted

section
variable (h : IsUnlisted repo d)

include h

theorem of_leaves {α : Type} {w : Job α} (hw : w.Leaves (Checkout.steady repo)) :
    w.Ends d fun _ d' => IsUnlisted repo d' := by
  apply (hw.ends d).mono
  intro _ d' hsteady
  rw [IsUnlisted, h.of_steady hsteady]
  exact h

/-- A first step that leaves the repository without an entry. -/
theorem bind {α β : Type} {w : Job α} {k : α → Job β} {Q : Except Fault β → Prop}
    (hw : w.Leaves (Checkout.steady repo))
    (hk : ∀ a d', IsUnlisted repo d' → (k a).Ends d' fun r _ => Q r)
    (herror : ∀ fault, Q (.error fault)) : (w >>= k).Ends d fun r _ => Q r :=
  (h.of_leaves hw).bind hk fun fault _ _ => herror fault

theorem setField (key : Text) (v : Value) :
    (Checkout.setField repo key v).runOn d = (.error (absence repo), d) := by
  have hget : d.notes.site.board.get? repo = none := h
  cases hrepo : repo.isHashable <;> simp [runOn_setField, changedEntry, absence, hrepo, hget]

theorem setStatus (status message : Text) :
    (Checkout.setStatus repo status message).runOn d = (.error (absence repo), d) :=
  Work.runOn_bind_error (h.setField _ _)

/-- A count that shows nodes cannot be put on the board. -/
theorem verdict {job : Job (Option Watch)} (hjob : Verdict repo job) :
    job.Ends d fun r _ => r ≠ .ok none := by
  have hfault (fault : Fault) : (.error fault : Except Fault (Option Watch)) ≠ .ok none := by simp
  have hgoesOn (w : Watch) (_ : Unit) (d' : Desk Notes) (_ : IsUnlisted repo d') :
      (pure (some w) : Job (Option Watch)).Ends d' fun r _ => r ≠ .ok none := by
    simp [Work.Ends]
  cases hjob with
  | refused fault => exact hfault fault
  | found line message =>
    apply h.bind (print_steady line) _ hfault
    intro _ d' h'
    exact .bind_of_error (h'.setStatus _ message) (hfault _)
  | waiting n w => exact h.bind (noteWaiting_steady n) (hgoesOn w) hfault
  | stalled line n w =>
    apply h.bind (print_steady line) _ hfault
    intro _ d' h'
    exact h'.bind (noteWaiting_steady n) (hgoesOn w) hfault

theorem pollEnd (w : Watch) : (Checkout.pollEnd repo w).Ends d fun r _ => r ≠ .ok none := by
  have hfault (fault : Fault) : (.error fault : Except Fault (Option Watch)) ≠ .ok none := by simp
  apply h.bind Work.Leaves.openSession _ hfault
  intro _ d₁ h₁
  apply h₁.bind (nodeCount_leaves (steady_seesNoQueries repo) _) _ hfault
  intro count d₂ h₂
  apply h₂.bind (print_steady _) _ hfault
  intro _ d₃ h₃
  exact h₃.verdict (judgeCount_verdict repo w count)

/-- No poll leaves nothing to go on with: neither what it finds nor a fault can be put on the board. -/
theorem tryEnd (w : Watch) : (Checkout.tryEnd repo w).Ends d fun next d' =>
    IsUnlisted repo d' ∧ next ≠ .ok none := by
  apply (h.of_leaves (tryEnd_steady w)).and
  have hpoll := (h.of_leaves (pollEnd_steady w)).and (h.pollEnd w)
  apply hpoll.tryCatch
  · intro next d' hnext
    exact hnext.2
  · intro fault d' hnext
    exact .bind_of_error (hnext.1.setField _ _) (by simp)

/-- The last wait ends in the missing entry, whichever way it goes. -/
theorem awaitEnd (s : Surroundings) :
    (Checkout.awaitEnd s repo).Ends d fun r _ => r = .error (absence repo) := by
  -- each way through the body ends in a fault, and putting that on the board is one more
  apply Work.Ends.tryCatch (Q := fun r d' => IsUnlisted repo d' ∧ r ≠ .ok ())
  · split
    · rw [Work.Ends, h.setStatus]
      exact ⟨h, by simp⟩
    · apply (h.of_leaves (connect_steady _)).bind
      · intro _ d₁ h₁
        have hpolls := endSchedule.pollFrom_never (fun w d' h' => IsUnlisted.tryEnd h' w)
          (fun _ h' => h') 0 {} h₁
        apply hpolls.bind
        · intro found d₂ h₂
          cases found with
          | true => exact absurd rfl h₂.2
          | false =>
            apply ((h₂.1).of_leaves (print_steady _)).bind
            · intro _ d₃ h₃
              rw [Work.Ends, h₃.setStatus]
              exact ⟨h₃, by simp⟩
            · intro fault d₃ h₃
              exact ⟨h₃, by simp⟩
        · intro fault d₂ h₂
          exact ⟨h₂.1, by simp⟩
      · intro fault d₁ h₁
        exact ⟨h₁, by simp⟩
  · intro _ d' hok
    exact absurd rfl hok.2
  · intro fault d' herror
    exact .bind_of_error (herror.1.setStatus _ _) rfl

end

end IsUnlisted

/-- Whatever the graph answers, the last wait has a result if the repository has an entry with fields.
All that it changes of what is kept are the status and the message there, and the status says whether
the graph could be reached. Without an entry it always ends in the same fault and changes nothing. -/
theorem last_wait_sets_status_alone (s : Surroundings) (repo : Value) (d : Desk Notes) :
    (∀ fields, d.notes.site.board.get? repo = some (.dict fields) →
      (awaitEnd s repo).Gives d fun _ d' => ∃ after : Fields,
        d'.notes.site =
          { d.notes.site with board := d.notes.site.board.set repo (.dict after) } ∧
        Fields.AgreeBeyond ["status", "message"] after fields ∧
        ((after.get? "status" = some (.str "partial") ∧ CanReachGraph s d.database) ∨
          (after.get? "status" = some (.str "error") ∧ ¬ CanReachGraph s d.database)) ∧
        d'.notes.log.uploads = d.notes.log.uploads ∧ d'.notes.log.posts = d.notes.log.posts) ∧
    (d.notes.site.board.get? repo = none →
      (awaitEnd s repo).Ends d fun r d' =>
        r = .error (if repo.isHashable then .missingKey repo else .notHashable repo.typeName) ∧
        d'.notes.site = d.notes.site) := by
  have hsteady := awaitEnd_steady s repo
  constructor
  · intro fields hget
    have haccount : (situation repo d).account = some (Account.ofFields fields) := by
      simp [situation, Board.account, hget]
    have hgives := awaitEnd_gives (s := s) (Board.isHashable_of_get? hget) haccount
    apply (hsteady.and_gives hgives).mono
    rintro _ d' ⟨hframe, hsituation⟩
    obtain ⟨after, hafter, haccount'⟩ := account_eq_some (congrArg Situation.account hsituation)
    obtain ⟨hboard, hagree⟩ := Board.eq_set_of_steady (board_of_steady hframe) hget hafter
    have hlog := congrArg Prod.snd hframe
    refine ⟨after, ?_, hagree, ?_, congrArg Prod.fst hlog, congrArg Prod.snd hlog⟩
    · rw [site_of_steady hframe, hboard]
    · have hstatus : Fields.get? after "status" =
          some (.str (finalStatus s d.database.connectFault)) :=
        (congrArg Account.status haccount').symm
      rw [hstatus]
      obtain ⟨h, hreach⟩ | ⟨h, hreach⟩ := finalStatus_eq s d.database
      · exact .inl ⟨by rw [h], hreach⟩
      · exact .inr ⟨by rw [h], hreach⟩
  · intro hget
    have hunlisted : IsUnlisted repo d := hget
    apply (hunlisted.awaitEnd s).and
    apply (hsteady.ends d).mono
    intro _ d' hframe
    exact hunlisted.of_steady hframe

/-- Two repositories on the board, and a graph that is busy at first. -/
def sharedDesk : Desk Notes where
  database := { Database.barren with
    answers := [.error (.service .databaseError "busy"), .ok [[("total_nodes", .int 7)]]] }
  notes := { site := { board := [
    (.str "q", .dict [("status", .str "complete")]),
    (.str "r", .dict [("message", .str "m"), ("total_files", .int 2)])] } }

theorem last_wait_sets_status_alone_sample :
    sharedDesk.notes.site.board.get? (.str "r") =
      some (.dict [("message", .str "m"), ("total_files", .int 2)]) ∧
    (awaitEnd graphSurroundings (.str "r")).Gives sharedDesk (fun _ d' => ∃ after : Fields,
      d'.notes.site.board =
        [(.str "q", .dict [("status", .str "complete")]), (.str "r", .dict after)] ∧
      after.get? "total_files" = some (.int 2) ∧
      after.get? "status" = some (.str "partial")) ∧
    sharedDesk.notes.site.board.get? (.str "s") = none ∧
    (awaitEnd graphSurroundings (.str "s")).Ends sharedDesk (fun r d' =>
      r = .error (.missingKey (.str "s")) ∧ d'.notes.site = sharedDesk.notes.site) := by
  have hreach : CanReachGraph graphSurroundings sharedDesk.database := by
    unfold CanReachGraph
    decide
  refine ⟨rfl, ?_, rfl, ?_⟩
  · apply ((last_wait_sets_status_alone graphSurroundings (.str "r") sharedDesk).1 _ rfl).mono
    rintro _ d' ⟨after, hsite, hagree, hstatus, -⟩
    refine ⟨after, ?_, hagree "total_files" (by decide), ?_⟩
    · rw [hsite]
      rfl
    · obtain ⟨h, -⟩ | ⟨-, h⟩ := hstatus
      · exact h
      · exact absurd hreach h
  · exact (last_wait_sets_status_alone graphSurroundings (.str "s") sharedDesk).2 rfl

end Checkout

end CodeAtlas
