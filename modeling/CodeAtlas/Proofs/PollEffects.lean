import CodeAtlas.Proofs.PollRuns

/-! What waiting for the graph does to the account of a repository. Waiting for a batch does nothing
to it, and the last wait settles the status, whatever the database answers. -/
namespace CodeAtlas.Checkout

variable {s : Surroundings} {repo : Value} {d : Desk Notes} {a : Account}

theorem nodeCount_leaves {τ : Type} {view : Desk Notes → τ} (hview : Work.SeesNoQueries view)
    (name : Text) : (nodeCount name).Leaves view := by
  refine (Work.Leaves.askOne hview _).bind fun row => ?_
  split
  · exact .pure _
  · exact .pure _
  · exact .lift _

section
variable (repo)

theorem pollBatch_leaves : (pollBatch repo).Leaves (situation repo) := by
  have hview := situation_seesNoQueries repo
  refine Work.Leaves.openSession.bind fun _ => ?_
  refine (nodeCount_leaves hview _).bind fun total => (print_leaves _).bind fun _ => ?_
  refine (Work.Leaves.lift _).bind fun isPositive => ?_
  split
  · exact (print_leaves _).bind fun _ => .pure _
  refine (Work.Leaves.askOne hview _).bind fun row => (Work.Leaves.lift _).bind fun count => ?_
  split
  · exact (print_leaves _).bind fun _ => .pure _
  refine (Work.Leaves.askOne hview _).bind fun row => (Work.Leaves.lift _).bind fun count => ?_
  split
  · exact (print_leaves _).bind fun _ => .pure _
  · exact .pure _

theorem tryBatch_leaves : (tryBatch repo).Leaves (situation repo) := by
  refine ((pollBatch_leaves repo).tryCatch fun fault => ?_).bind fun found => .pure _
  exact (print_leaves _).bind fun _ => .pure _

theorem awaitBatch_settles (files : Value) : Settles repo (awaitBatch s repo files) d := by
  unfold awaitBatch
  split
  · exact print_settles repo _
  next c _ =>
    refine Work.Gives.tryCatch (Work.Leaves.ends ?_ d) (fun _ _ h => h) fun fault d' h => ?_
    · refine (connect_leaves c).bind fun _ => (Work.Leaves.lift _).bind fun names => ?_
      refine (Work.Leaves.lift _).bind fun size => (print_leaves _).bind fun _ => ?_
      have hpolls := batchSchedule.pollFrom_leaves (fun _ => tryBatch_leaves repo) (sleep_leaves 1)
      refine (hpolls 0 ()).bind fun found => ?_
      split
      · exact print_leaves _
      · exact .pure _
    · exact (print_settles repo _).mono fun _ _ h' => h'.trans h

end

/-- The situation with another status on record. -/
def Situation.withStatus (S : Situation) (a : Account) (status : Text) : Situation :=
  { S with account := some { a with status := some (.str status) } }

/-- How a poll for the end may end: it says that it has found nodes and has put that on record, or
it has changed nothing. -/
def Polled (repo : Value) (a : Account) (S : Situation) (r : Except Fault (Option Watch))
    (d : Desk Notes) : Prop :=
  (r = .ok none ∧ situation repo d = S.withStatus a "partial") ∨
    (r ≠ .ok none ∧ situation repo d = S)

section
variable {S : Situation}

theorem polled_found (hrepo : repo.isHashable = true) (ha : S.account = some a)
    (hd : situation repo d = S) (message : Text) :
    (do setStatus repo "partial" message; return none : Job (Option Watch)).Ends d
      (Polled repo a S) := by
  subst hd
  obtain ⟨_, d', hrun, h⟩ := setStatus_gives hrepo ha "partial" message
  unfold Work.Ends
  rw [Work.runOn_bind_ok hrun]
  exact .inl ⟨rfl, h⟩

theorem Polled.error (fault : Fault) (hd : situation repo d = S) :
    Polled repo a S (.error fault) d := .inr ⟨by simp, hd⟩

theorem noteWaiting_leaves (n : Number) : (noteWaiting repo n).Leaves (situation repo) := by
  unfold noteWaiting
  split
  · exact (print_leaves _).bind fun _ => setMessage_leaves _
  · exact .pure _

/-- All that a poll for the end can make of a count. -/
inductive Verdict (repo : Value) : Job (Option Watch) → Prop where
  | refused (fault : Fault) : Verdict repo (throw fault)
  | found (line message : Text) : Verdict repo do
      print line
      setStatus repo "partial" message
      return none
  | waiting (n : Number) (w : Watch) : Verdict repo do
      noteWaiting repo n
      return some w
  | stalled (line : Text) (n : Number) (w : Watch) : Verdict repo do
      print line
      noteWaiting repo n
      return some w

theorem judgeCount_verdict (repo : Value) (w : Watch) (count : Value) :
    Verdict repo (judgeCount repo w count) := by
  unfold judgeCount
  split
  · exact .refused _
  next n _ =>
    split
    · exact .found _ _
    · dsimp only
      -- a stalled count is not positive, so nothing more comes of it than a line
      split
      · exact .stalled _ n _
      · exact .waiting n _

theorem pollEnd_ends (hrepo : repo.isHashable = true) (ha : S.account = some a)
    (hd : situation repo d = S) (w : Watch) : (pollEnd repo w).Ends d (Polled repo a S) := by
  have step {α : Type} {w : Job α} {k : α → Job (Option Watch)} {d : Desk Notes}
      (hw : w.Leaves (situation repo)) (hd : situation repo d = S)
      (hk : ∀ x d', situation repo d' = S → (k x).Ends d' (Polled repo a S)) :
      (w >>= k).Ends d (Polled repo a S) := by
    refine (hw.ends d).bind (fun x d' h => hk x d' (h.trans hd)) fun fault d' h => ?_
    exact .error fault (h.trans hd)
  refine step Work.Leaves.openSession hd fun _ d hd => ?_
  refine step (nodeCount_leaves (situation_seesNoQueries repo) _) hd fun count d hd => ?_
  refine step (print_leaves _) hd fun _ d hd => ?_
  have goOn (n : Number) (w : Watch) (d : Desk Notes) (hd : situation repo d = S) :
      (do noteWaiting repo n; return some w : Job (Option Watch)).Ends d (Polled repo a S) :=
    step (noteWaiting_leaves n) hd fun _ d hd => .inr ⟨by simp, hd⟩
  have hverdict := judgeCount_verdict repo w count
  generalize judgeCount repo w count = job at hverdict ⊢
  cases hverdict with
  | refused fault => exact .inr ⟨by simp, hd⟩
  | found line message => exact step (print_leaves _) hd fun _ d hd => polled_found hrepo ha hd _
  | waiting n w => exact goOn n w d hd
  | stalled line n w => exact step (print_leaves _) hd fun _ d hd => goOn n w d hd

theorem tryEnd_gives (hrepo : repo.isHashable = true) (ha : S.account = some a)
    (hd : situation repo d = S) (w : Watch) : (tryEnd repo w).Gives d fun next d' =>
      if next.isNone then situation repo d' = S.withStatus a "partial"
      else situation repo d' = S := by
  refine Work.Gives.tryCatch (pollEnd_ends hrepo ha hd w) ?_ ?_
  · rintro next d' (⟨hnext, h⟩ | ⟨hnext, h⟩)
    · cases hnext
      exact h
    · cases next with
      | none => exact absurd rfl hnext
      | some w' => exact h
  · rintro fault d' (⟨hnext, -⟩ | ⟨-, h⟩)
    · cases hnext
    · refine (setMessage_settles hrepo (h ▸ ha) _).bind fun _ d₁ h₁ => ?_
      refine (print_settles repo _).bind fun _ d₂ h₂ => Work.Gives.pure ?_
      exact h₂.trans (h₁.trans h)

end

/-- Whether the last wait gets as far as polling. -/
def Surroundings.canPoll (s : Surroundings) (connectFault : Option Fault) : Bool :=
  s.credentials?.isSome && connectFault.isNone

/-- The status that the last wait puts on record. -/
def finalStatus (s : Surroundings) (connectFault : Option Fault) : Text :=
  if s.canPoll connectFault then "partial" else "error"

theorem awaitEnd_gives (hrepo : repo.isHashable = true)
    (ha : (situation repo d).account = some a) :
    (awaitEnd s repo).Gives d fun _ d' => situation repo d' =
      (situation repo d).withStatus a (finalStatus s d.database.connectFault) := by
  unfold awaitEnd
  cases hc : s.credentials? with
  | none =>
    refine Work.Gives.tryCatch_ok ((setStatus_gives hrepo ha _ _).mono fun _ d' h => ?_) _
    rw [h, finalStatus, Surroundings.canPoll, hc]
    rfl
  | some c =>
    cases hfault : d.database.connectFault with
    | some fault =>
      have hend : finalStatus s (some fault) = "error" := by
        simp [finalStatus, Surroundings.canPoll]
      rw [hend]
      refine Work.Gives.tryCatch (connect_fails repo hfault c).bind_error (fun _ _ h => ?_)
        fun fault' d' h => ?_
      · cases h.1
      · have ha' : (situation repo d').account = some a := h.2 ▸ ha
        refine (setStatus_gives hrepo ha' _ _).bind fun _ d₁ h₁ => ?_
        refine (print_settles repo _).mono fun _ d₂ h₂ => ?_
        rw [h₂, h₁, h.2]
        rfl
    | none =>
      have hend : finalStatus s none = "partial" := by
        simp [finalStatus, Surroundings.canPoll, hc]
      rw [hend]
      refine Work.Gives.tryCatch_ok ?_ _
      refine (connect_settles repo hfault c).bind fun _ d₁ h₁ => ?_
      have hpolls := endSchedule.pollFrom_gives (fun w d hd => tryEnd_gives hrepo ha hd w)
        (fun _ hd => hd) 0 {} h₁
      refine hpolls.bind fun found d₂ h₂ => ?_
      cases found with
      | true => exact Work.Gives.pure h₂
      | false =>
        refine (print_settles repo _).bind fun _ d₃ h₃ => ?_
        have hd₃ : situation repo d₃ = situation repo d := h₃.trans h₂
        refine (setStatus_gives hrepo (hd₃ ▸ ha) _ _).mono fun _ d₄ h₄ => ?_
        rw [h₄, hd₃]
        rfl

end CodeAtlas.Checkout
