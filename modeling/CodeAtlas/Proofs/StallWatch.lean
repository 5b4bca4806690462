import CodeAtlas.Proofs.PollRuns
import CodeAtlas.Proofs.WorkAlike

/-! The watch for processing that has come to a halt. It only adds to what is printed: without it the
same polls are made with the same results, as it gets to see no count but those that are not
positive. -/
namespace CodeAtlas.Checkout

open Work (Alike Same)

variable {ω ω' α α' : Type}

/-- All of a desk but the lines printed. -/
def unprinted (d : Desk Notes) : Desk Notes :=
  { d with notes := { d.notes with log := { d.notes.log with printed := [] } } }

/-- Polls that both go on or both are the last. -/
def BothGoOn (next : Option ω) (next' : Option ω') : Prop := next.isSome = next'.isSome

theorem alike_of_commutes {job : Job α}
    (h : ∀ d, job.runOn (unprinted d) = ((job.runOn d).1, unprinted (job.runOn d).2)) :
    Alike unprinted Eq (Same Eq) job job := by
  intro d d' hd
  have hruns : ((job.runOn d).1, unprinted (job.runOn d).2) =
      ((job.runOn d').1, unprinted (job.runOn d').2) := by
    rw [← h, ← h, hd]
  obtain ⟨hresult, hdesk⟩ := Prod.mk.inj hruns
  rw [hresult]
  exact ⟨.of_eq _, hdesk⟩

theorem print_alike (line line' : Text) :
    Alike unprinted Eq (Same Eq) (print line) (print line') := fun _ _ hd => ⟨.ok rfl, hd⟩

theorem sleep_alike (seconds : Nat) : Alike unprinted Eq (Same Eq) (sleep seconds) (sleep seconds) :=
  alike_of_commutes fun _ => rfl

theorem connect_alike (c : Credentials) :
    Alike unprinted Eq (Same Eq) (Work.connect c : Job Unit) (Work.connect c) :=
  alike_of_commutes fun d => by
    rw [Work.runOn_connect, Work.runOn_connect]
    rfl

theorem openSession_alike :
    Alike unprinted Eq (Same Eq) (Work.openSession : Job Unit) Work.openSession :=
  alike_of_commutes fun d => by
    rw [Work.runOn_openSession, Work.runOn_openSession]
    rfl

theorem askOne_alike (q : Query) :
    Alike unprinted Eq (Same Eq) (Work.askOne q : Job _) (Work.askOne q) :=
  alike_of_commutes fun d => by
    rw [Work.runOn_askOne, Work.runOn_askOne]
    rfl

theorem nodeCount_alike (name : Text) :
    Alike unprinted Eq (Same Eq) (nodeCount name) (nodeCount name) := by
  apply (askOne_alike _).bind_same
  rintro row _ rfl
  rcases row with _ | _ | _
  · exact .pure rfl
  · exact .pure rfl
  · exact .lift _

theorem setField_alike (repo : Value) (key : Text) (v : Value) :
    Alike unprinted Eq (Same Eq) (setField repo key v) (setField repo key v) := by
  apply alike_of_commutes
  intro d
  rw [runOn_setField, runOn_setField]
  have hboard : (unprinted d).notes.site.board = d.notes.site.board := rfl
  rw [hboard]
  cases changedEntry d.notes.site.board repo key v with
  | ok entry => rfl
  | error fault => rfl

theorem setMessage_alike (repo : Value) (message : Text) :
    Alike unprinted Eq (Same Eq) (setMessage repo message) (setMessage repo message) :=
  setField_alike _ _ _

theorem setStatus_alike (repo : Value) (status message : Text) :
    Alike unprinted Eq (Same Eq) (setStatus repo status message) (setStatus repo status message) :=
  (setField_alike _ _ _).bind_same fun _ _ _ => setMessage_alike _ _

theorem noteWaiting_alike (repo : Value) (n : Number) :
    Alike unprinted Eq (Same Eq) (noteWaiting repo n) (noteWaiting repo n) := by
  unfold noteWaiting
  split
  · exact (print_alike _ _).bind_same fun _ _ _ => setMessage_alike _ _
  · exact .pure rfl

theorem queriesOf_alike {T : Except Fault α → Except Fault α' → Prop} {job : Job α} {job' : Job α'}
    (h : Alike unprinted Eq T job job') {d d' : Desk Notes} (hd : unprinted d = unprinted d') :
    job.queriesOf d = job'.queriesOf d' := by
  have hbefore := congrArg Desk.database hd
  have hafter := congrArg Desk.database (h d d' hd).2
  have hasked : (job.runOn d).2.database.asked = (job'.runOn d').2.database.asked :=
    congrArg Database.asked hafter
  have hlength : d.database.asked.length = d'.database.asked.length :=
    congrArg (fun db : Database => db.asked.length) hbefore
  rw [Work.queriesOf, Work.queriesOf, hasked, hlength]

section
variable {poll : ω → Job (Option ω)} {poll' : ω' → Job (Option ω')}
  (hpoll : ∀ w w', Alike unprinted Eq (Same BothGoOn) (poll w) (poll' w'))

include hpoll

/-- Polls that go on alike, whatever they watch, end alike on every schedule. -/
theorem Schedule.pollFrom_alike (s : Schedule) (elapsed : Nat) (w : ω) (w' : ω') :
    Alike unprinted Eq (Same Eq) (s.pollFrom poll elapsed w) (s.pollFrom poll' elapsed w') := by
  induction elapsed, w using pollFrom.induct s generalizing w' with
  | case1 elapsed w h ih =>
    rw [pollFrom, pollFrom, if_pos h, if_pos h]
    apply (hpoll w w').bind_same
    intro next next' hnext
    cases next with
    | none =>
      cases next' with
      | none => exact .pure rfl
      | some v' => cases hnext
    | some v =>
      cases next' with
      | none => cases hnext
      | some v' => exact (sleep_alike _).bind_same fun _ _ _ => ih v v'
  | case2 elapsed w h =>
    rw [pollFrom_of_le (by omega), pollFrom_of_le (by omega)]
    exact .pure rfl

theorem Polls.of_alike {pause : Nat} {polls : List (List Query)} {w : ω} {d d' : Desk Notes}
    (h : Polls poll pause polls w d d') (w' : ω') {e : Desk Notes} (he : unprinted d = unprinted e) :
    ∃ e', Polls poll' pause polls w' e e' := by
  induction h generalizing w' e with
  | none w d => exact ⟨e, .none w' e⟩
  | @last w d d' ends =>
    rw [queriesOf_alike (hpoll w w') he]
    obtain ⟨next', e', hrun, hnext, -⟩ := (hpoll w w').runOn_ok ends he
    cases next' with
    | none => exact ⟨e', .last hrun⟩
    | some v' => cases hnext
  | @more w v d d₁ d₂ rest goesOn rest_polls ih =>
    rw [queriesOf_alike (hpoll w w') he]
    obtain ⟨next', e₁, hrun, hnext, he₁⟩ := (hpoll w w').runOn_ok goesOn he
    cases next' with
    | none => cases hnext
    | some v' =>
      obtain ⟨e₂, hrest⟩ := ih v' ((sleep_alike pause) d₁ e₁ he₁).2
      exact ⟨e₂, .more hrun hrest⟩

end

/-- What a poll for the end of processing makes of the number of all nodes if nothing is watched. -/
def judgeUnwatched (repo : Value) (_ : Unit) (count : Value) : Job (Option Unit) := do
  match count.number? with
  | none => throw (.notOrdered count.typeName)
  | some n =>
    if n.isPositive then
      print ("Found " ++ count.display ++ " total nodes - considering processing successful")
      setStatus repo "partial" (foundMessage count)
      return none
    noteWaiting repo n
    return some ()

/-- The judgement with `exit` in place of the partial success for processing that has come to a halt. -/
def judgeCountOr (exit : Value → Job (Option Watch)) (repo : Value) (w : Watch) (count : Value) :
    Job (Option Watch) := do
  match count.number? with
  | none => throw (.notOrdered count.typeName)
  | some n =>
    if n.isPositive then
      print ("Found " ++ count.display ++ " total nodes - considering processing successful")
      setStatus repo "partial" (foundMessage count)
      return none
    let w := w.see n
    if 3 ≤ w.stalls then
      print ("Processing appears stalled at " ++ count.display ++ " nodes for " ++
        Text.natText w.stalls ++ " consecutive checks")
      if n.isPositive then
        return ← exit count
    noteWaiting repo n
    return some w

section
variable (judge : ω → Value → Job (Option ω))

/-- A poll for the end of processing with `judge` for what it makes of the number of all nodes. -/
def pollEndBy (w : ω) : Job (Option ω) := do
  Work.openSession
  let count ← nodeCount "total_nodes"
  print ("Found " ++ count.display ++ " total nodes in Neo4j")
  judge w count

def tryEndBy (repo : Value) (w : ω) : Job (Option ω) :=
  tryCatch (pollEndBy judge w) fun fault => do
    setMessage repo ("Error checking Neo4j: " ++ fault.message)
    print ("Error checking Neo4j: " ++ fault.message)
    return some w

def awaitEndBy (start : ω) (s : Surroundings) (repo : Value) : Job Unit :=
  tryCatch
    (match s.credentials? with
      | none => setStatus repo "error" "Neo4j connection details missing"
      | some c => do
        Work.connect c
        if !(← endSchedule.pollFrom (tryEndBy judge repo) 0 start) then
          print "Processing wait timed out, but continuing anyway"
          setStatus repo "partial"
            "Processing time limit reached. Some files may not be processed.")
    fun fault => do
      setStatus repo "error" ("Error during Neo4j processing: " ++ fault.message)
      print ("Error in Neo4j processing: " ++ fault.message)

end

theorem tryEnd_eq_by (repo : Value) : tryEnd repo = tryEndBy (judgeCount repo) repo := rfl

theorem awaitEnd_eq_by (s : Surroundings) (repo : Value) :
    awaitEnd s repo = awaitEndBy (judgeCount repo) {} s repo := rfl

/-- A count that gets past the first test is not positive, so the partial success is out of reach. -/
theorem judgeCountOr_eq (exit : Value → Job (Option Watch)) (repo : Value) :
    judgeCountOr exit repo = judgeCount repo := by
  funext w count
  unfold judgeCountOr judgeCount
  cases count.number? with
  | none => rfl
  | some n =>
    dsimp only
    split
    · rfl
    · rfl

theorem judgeCount_alike (repo : Value) (w : Watch) (count : Value) :
    Alike unprinted Eq (Same BothGoOn) (judgeCount repo w count)
      (judgeUnwatched repo () count) := by
  unfold judgeCount judgeUnwatched
  cases count.number? with
  | none => exact .throw _
  | some n =>
    dsimp only
    split
    · apply (print_alike _ _).bind_same
      intro _ _ _
      apply (setStatus_alike _ _ _).bind_same
      intro _ _ _
      exact .pure rfl
    · have hgoesOn (w : Watch) : Alike unprinted Eq (Same BothGoOn)
          (do noteWaiting repo n; return some w) (do noteWaiting repo n; return some ()) :=
        (noteWaiting_alike repo n).bind_same fun _ _ _ => .pure rfl
      split
      -- the line printed about the halt is not compared
      · exact fun d d' hd => hgoesOn _ _ d' hd
      · exact hgoesOn _

section
variable {judge : ω → Value → Job (Option ω)} {judge' : ω' → Value → Job (Option ω')}
  (hjudge : ∀ w w' count, Alike unprinted Eq (Same BothGoOn) (judge w count) (judge' w' count))

include hjudge

theorem tryEndBy_alike (repo : Value) (w : ω) (w' : ω') :
    Alike unprinted Eq (Same BothGoOn) (tryEndBy judge repo w) (tryEndBy judge' repo w') := by
  apply Alike.tryCatch
  · apply openSession_alike.bind_same
    intro _ _ _
    apply (nodeCount_alike _).bind_same
    rintro count _ rfl
    exact (print_alike _ _).bind_same fun _ _ _ => hjudge w w' count
  · intro fault
    apply (setMessage_alike _ _).bind_same
    intro _ _ _
    exact (print_alike _ _).bind_same fun _ _ _ => .pure rfl

theorem awaitEndBy_alike (start : ω) (start' : ω') (s : Surroundings) (repo : Value) :
    Alike unprinted Eq (Same Eq) (awaitEndBy judge start s repo)
      (awaitEndBy judge' start' s repo) := by
  apply Alike.tryCatch
  · cases s.credentials? with
    | none => exact setStatus_alike _ _ _
    | some c =>
      apply (connect_alike c).bind_same
      intro _ _ _
      apply (Schedule.pollFrom_alike (tryEndBy_alike hjudge repo) endSchedule 0 start start').bind_same
      rintro found _ rfl
      cases found with
      | true => exact .pure rfl
      | false => exact (print_alike _ _).bind_same fun _ _ _ => setStatus_alike _ _ _
  · intro fault
    exact (setStatus_alike _ _ _).bind_same fun _ _ _ => print_alike _ _

end

/-- The watch decides nothing. Without it the wait for the end makes the same polls with the same
queries, and it leaves the same board; only the lines printed may differ. The exit it has for a graph
with nodes can be put to any use, as it is never taken. -/
theorem stall_watch_is_inert (s : Surroundings) (repo : Value) (d : Desk Notes) :
    ((awaitEnd s repo).runOn d).1 = ((awaitEndBy (judgeUnwatched repo) () s repo).runOn d).1 ∧
    unprinted ((awaitEnd s repo).runOn d).2 =
      unprinted ((awaitEndBy (judgeUnwatched repo) () s repo).runOn d).2 ∧
    (∀ polls, (∃ d', Polls (tryEnd repo) 5 polls {} d d') ↔
      ∃ d', Polls (tryEndBy (judgeUnwatched repo) repo) 5 polls () d d') ∧
    ∀ exit, awaitEndBy (judgeCountOr exit repo) {} s repo = awaitEnd s repo := by
  rw [tryEnd_eq_by, awaitEnd_eq_by]
  have hjudge (w : Watch) (_ : Unit) (count : Value) := judgeCount_alike repo w count
  have hpoll := tryEndBy_alike hjudge repo
  obtain ⟨hresult, hdesk⟩ := awaitEndBy_alike hjudge {} () s repo d d rfl
  refine ⟨hresult.eq, hdesk, fun polls => ⟨?_, ?_⟩, fun exit => ?_⟩
  · rintro ⟨d', h⟩
    exact h.of_alike hpoll () rfl
  · rintro ⟨d', h⟩
    exact h.of_alike (fun w' w => (hpoll w w').symm fun _ _ hnext => Eq.symm hnext) {} rfl
  · rw [judgeCountOr_eq]

end CodeAtlas.Checkout
