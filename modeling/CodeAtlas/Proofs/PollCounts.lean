import CodeAtlas.Proofs.ExceptLaws
import CodeAtlas.Proofs.PollEffects

/-! How many polls are made while waiting for the graph. A poll asks its queries one by one and stops at
the first answer that counts something or is a fault, so the answers of the database alone say which
poll is the last: the first that finds something, and otherwise the last for which there is time. -/
namespace CodeAtlas.Checkout

open Database (countIn countsAny)

variable {repo : Value} {d : Desk Notes} {db : Database}

theorem print_does (line : Text) : (print line).Does db [] (.ok ()) := by
  unfold print record
  exact Work.Does.note _

theorem runOn_nodeCount (name : Text) : (nodeCount name).runOn d =
    (countIn name (d.database.answerAt 0),
      { d with database := d.database.after [countQuery name] }) := by
  have hask : (Work.askOne (countQuery name) : Job _).runOn d = _ := Work.runOn_askOne _ d
  unfold nodeCount countIn
  cases hanswer : d.database.answerAt 0 with
  | error fault =>
    rw [hanswer] at hask
    exact Work.runOn_bind_error hask
  | ok rows =>
    rw [hanswer] at hask
    rw [Work.runOn_bind_ok hask]
    rcases rows with _ | ⟨_ | ⟨field, row⟩, rest⟩
    · rfl
    · rfl
    · exact Work.runOn_lift _ _

theorem nodeCount_does (db : Database) (name : Text) :
    (nodeCount name).Does db [countQuery name] (countIn name (db.answerAt 0)) := fun notes =>
  ⟨notes, runOn_nodeCount name⟩

/-- A job that asks `q` first. If the answer is a fault the job ends in it, if the answer counts
something the job has found it, and otherwise the job goes on as `rest`. -/
inductive AsksFirst (name : Text) (q : Query) (rest job : Job Bool) (db : Database) : Prop where
  | fails {fault : Fault} (counts : countsAny name (db.answerAt 0) = .error fault)
      (does : job.Does db [q] (.error fault))
  | finds (counts : countsAny name (db.answerAt 0) = .ok true) (does : job.Does db [q] (.ok true))
  | goesOn (counts : countsAny name (db.answerAt 0) = .ok false)
      (does : ∀ qs r, rest.Does (db.after [q]) qs r → job.Does db (q :: qs) r)

theorem asksFirst_nodeCount {name : Text} {report : Value → Text} {rest : Job Bool}
    {k : Value → Bool → Job Bool} (hfound : ∀ total db, (k total true).Does db [] (.ok true))
    (hrest : ∀ total, k total false = rest) :
    AsksFirst name (countQuery name) rest (do
      let total ← nodeCount name
      print (report total)
      let found ← Work.lift total.isPositive
      k total found) db := by
  have hcount := nodeCount_does db name
  cases htotal : countIn name (db.answerAt 0) with
  | error fault =>
    rw [htotal] at hcount
    refine .fails ?_ hcount.bind_error
    rw [countsAny, htotal]
    rfl
  | ok total =>
    rw [htotal] at hcount
    have hany : countsAny name (db.answerAt 0) = total.isPositive := by
      rw [countsAny, htotal]
      rfl
    cases hpositive : total.isPositive with
    | error fault =>
      refine .fails (hany.trans hpositive) (hcount.bind_last ((print_does _).bind_silent ?_))
      rw [hpositive]
      exact (Work.Does.throw fault).bind_error
    | ok found =>
      cases found with
      | true =>
        refine .finds (hany.trans hpositive) (hcount.bind_last ((print_does _).bind_silent ?_))
        rw [hpositive]
        exact hfound total _
      | false =>
        refine .goesOn (hany.trans hpositive) fun qs r hqs => ?_
        have hnext : (do
            print (report total)
            let found ← Work.lift total.isPositive
            k total found : Job Bool).Does (db.after [countQuery name]) qs r := by
          refine (print_does _).bind_silent ?_
          rw [hpositive]
          rw [← hrest total] at hqs
          exact hqs
        exact hcount.bind hnext

theorem countsAny_count (rows : List Fields) : countsAny "count" (.ok rows) =
    (Value.positiveCount rows.head?).map Option.isSome := by
  rcases rows with _ | ⟨_ | ⟨field, row⟩, rest⟩
  · rfl
  · rfl
  · have hany : countsAny "count" (.ok ((field :: row) :: rest)) =
        (Value.dict (field :: row)).field "count" >>= Value.isPositive := rfl
    have hcount : Value.positiveCount (some (field :: row)) = (do
        let count ← (Value.dict (field :: row)).field "count"
        return if ← count.isPositive then some count else none) := rfl
    rw [hany, List.head?_cons, hcount]
    cases (Value.dict (field :: row)).field "count" with
    | error fault => rfl
    | ok count =>
      rcases hpositive : count.isPositive with _ | _ | _
      all_goals simp [bind, Except.bind, pure, Except.pure, Except.map, hpositive]

theorem asksFirst_positiveCount {q : Query} {k : Option Value → Job Bool}
    (hfound : ∀ count db, (k (some count)).Does db [] (.ok true)) :
    AsksFirst "count" q (k none) (do
      let row ← Work.askOne q
      let count ← Work.lift (Value.positiveCount row)
      k count) db := by
  have hask : (Work.askOne q : Job _).Does db [q] ((db.answerAt 0).map List.head?) := fun notes =>
    ⟨notes, Work.runOn_askOne q _⟩
  cases hanswer : db.answerAt 0 with
  | error fault =>
    rw [hanswer] at hask
    exact .fails (by rw [hanswer]; rfl) hask.bind_error
  | ok rows =>
    rw [hanswer] at hask
    have hany : countsAny "count" (db.answerAt 0) =
        (Value.positiveCount rows.head?).map Option.isSome := by
      rw [hanswer, countsAny_count]
    cases hcount : Value.positiveCount rows.head? with
    | error fault =>
      rw [hcount] at hany
      refine .fails hany (hask.bind_last ?_)
      rw [hcount]
      exact (Work.Does.throw fault).bind_error
    | ok count =>
      rw [hcount] at hany
      cases count with
      | some count =>
        refine .finds hany (hask.bind_last ?_)
        rw [hcount]
        exact hfound count _
      | none =>
        refine .goesOn hany fun qs r hqs => ?_
        have hnext : (do
            let count ← Work.lift (Value.positiveCount rows.head?)
            k count : Job Bool).Does (db.after [q]) qs r := by
          rw [hcount]
          exact hqs
        exact hask.bind hnext

/-- A job that asks the queries one by one for counts under the names, as the answers lead it. -/
def FollowsAnswers (names : List Text) (queries : List Query) (job : Job Bool) : Prop :=
  ∀ db, ∃ r, job.Does db (queries.take (Database.pollAt db.answerAt names 0).1) r ∧
    (r = .ok true ↔ (Database.pollAt db.answerAt names 0).2 = true)

theorem FollowsAnswers.nil : FollowsAnswers [] [] (pure false) := by
  intro db
  exact ⟨.ok false, .pure false, by simp [Database.pollAt]⟩

theorem FollowsAnswers.cons {names : List Text} {queries : List Query} {name : Text} {q : Query}
    {rest job : Job Bool} (hrest : FollowsAnswers names queries rest)
    (hjob : ∀ db, AsksFirst name q rest job db) :
    FollowsAnswers (name :: names) (q :: queries) job := by
  intro db
  cases hjob db with
  | @fails fault hcounts hdoes =>
    have hpoll : Database.pollAt db.answerAt (name :: names) 0 = (1, false) := by
      simp [Database.pollAt, hcounts]
    exact ⟨.error fault, by simpa [hpoll] using hdoes, by simp [hpoll]⟩
  | finds hcounts hdoes =>
    have hpoll : Database.pollAt db.answerAt (name :: names) 0 = (1, true) := by
      simp [Database.pollAt, hcounts]
    exact ⟨.ok true, by simpa [hpoll] using hdoes, by simp [hpoll]⟩
  | goesOn hcounts hdoes =>
    obtain ⟨r, hqs, hr⟩ := hrest (db.after [q])
    have hscript : (db.after [q]).answerAt = fun n => db.answerAt (1 + n) :=
      funext fun n => Database.answerAt_after [q] n
    have hpoll : Database.pollAt db.answerAt (name :: names) 0 =
        ((Database.pollAt (db.after [q]).answerAt names 0).1 + 1,
          (Database.pollAt (db.after [q]).answerAt names 0).2) := by
      simp [Database.pollAt, hcounts, hscript, Database.pollAt_shift]
    rw [hpoll]
    exact ⟨r, hdoes _ r hqs, hr⟩

/-- A job that needs a session before it asks. -/
theorem FollowsAnswers.of_session {names : List Text} {queries : List Query} {job : Job Bool}
    (h : FollowsAnswers names queries job) (db : Database) :
    ∃ r, (do Work.openSession; job : Job Bool).Does db
        (queries.take (db.sessionAt names 0).1) r ∧
      (r = .ok true ↔ db.Finds names 0) := by
  have hsession : (Work.openSession : Job Unit).Does db [] db.openSession := .openSession
  cases hfault : db.sessionFault with
  | some fault =>
    have hopen : db.openSession = .error fault := by simp [Database.openSession, hfault]
    have hpoll : db.sessionAt names 0 = (0, false) := by simp [Database.sessionAt, hfault]
    rw [hopen] at hsession
    refine ⟨.error fault, ?_, ?_⟩
    · rw [hpoll]
      exact hsession.bind_error
    · simp [Database.Finds, Database.queriesBefore, hpoll]
  | none =>
    have hopen : db.openSession = .ok () := by simp [Database.openSession, hfault]
    have hpoll : db.sessionAt names 0 = Database.pollAt db.answerAt names 0 := by
      simp [Database.sessionAt, hfault]
    rw [hopen] at hsession
    obtain ⟨r, hdoes, hr⟩ := h db
    refine ⟨r, ?_, ?_⟩
    · rw [hpoll]
      exact hsession.bind_silent hdoes
    · rw [Database.Finds, Database.queriesBefore, hpoll, hr]

def batchNames : List Text := ["node_count", "count", "count"]

def batchQueries (repo : Value) : List Query :=
  [countQuery "node_count", repositoryQuery repo, likelyFilesQuery]

/-- A poll for a batch asks its three queries as far as the answers lead it. -/
theorem pollBatch_does (repo : Value) (db : Database) :
    ∃ r, (pollBatch repo).Does db ((batchQueries repo).take (db.sessionAt batchNames 0).1) r ∧
      (r = .ok true ↔ db.Finds batchNames 0) := by
  have hend (line : Text) (db : Database) :
      (do print line; return true : Job Bool).Does db [] (.ok true) :=
    (print_does line).bind_silent (.pure true)
  unfold pollBatch batchNames batchQueries
  refine FollowsAnswers.of_session ?_ db
  refine FollowsAnswers.cons ?_ fun db =>
    asksFirst_nodeCount (fun total db => hend _ db) fun total => if_neg Bool.false_ne_true
  refine FollowsAnswers.cons ?_ fun db => asksFirst_positiveCount fun count db => hend _ db
  refine FollowsAnswers.cons ?_ fun db => asksFirst_positiveCount fun count db => hend _ db
  exact FollowsAnswers.nil

/-- A poll for a batch always has a result. -/
theorem tryBatch_reads (repo : Value) :
    ReadsCounts (fun _ => True) batchNames (batchQueries repo) fun _ : Unit => tryBatch repo := by
  intro _ d _
  obtain ⟨r, hdoes, hr⟩ := pollBatch_does repo d.database
  generalize (batchQueries repo).take _ = qs at hdoes ⊢
  unfold tryBatch
  refine Work.Gives.bind (Q := fun found d' => d'.database = d.database.after qs ∧
    (found = true ↔ d.database.Finds batchNames 0)) ?_ fun found d' h => ?_
  · refine Work.Gives.tryCatch hdoes.ends ?_ ?_
    · rintro found d' ⟨rfl, hdatabase⟩
      exact ⟨hdatabase, by simpa using hr⟩
    · rintro fault d' ⟨rfl, hdatabase⟩
      exact ⟨false, _, rfl, hdatabase, by simpa using hr⟩
  · refine Work.Gives.pure ⟨trivial, h.1, ?_⟩
    rw [← h.2]
    cases found with
    | true => simp
    | false => simp

def endNames : List Text := ["total_nodes"]

def endQueries : List Query := [countQuery "total_nodes"]

section
variable {a : Account}

/-- What shows of the work outside: the queries and the pauses. -/
def trace (d : Desk Notes) : Database × List Nap := (d.database, d.notes.log.naps)

theorem print_trace (line : Text) : (print line).Leaves trace := fun _ => rfl

theorem setField_trace (key : Text) (v : Value) : (setField repo key v).Leaves trace := by
  intro d
  rw [runOn_setField]
  split
  · rfl
  · rfl

theorem setMessage_trace (message : Text) : (setMessage repo message).Leaves trace :=
  setField_trace _ _

theorem setStatus_trace (status message : Text) : (setStatus repo status message).Leaves trace :=
  (setField_trace _ _).bind fun _ => setMessage_trace _

theorem noteWaiting_trace (n : Number) : (noteWaiting repo n).Leaves trace := by
  unfold noteWaiting
  split
  · exact (print_trace _).bind fun _ => setMessage_trace _
  · exact .pure _

/-- A poll with one query asks it and finds what its answer counts. -/
theorem sessionAt_single (name : Text) (h : db.sessionFault = none) :
    (db.sessionAt [name] 0).1 = 1 ∧
      (db.Finds [name] 0 ↔ countsAny name (db.answerAt 0) = .ok true) := by
  simp only [Database.Finds, Database.queriesBefore, Database.sessionAt, h, Database.pollAt]
  rcases countsAny name (db.answerAt 0) with _ | _ | _
  all_goals simp

/-- A poll for the end has found nodes if and only if their number is positive. -/
theorem judgeCount_ends (hrepo : repo.isHashable = true) (ha : (situation repo d).account = some a)
    (w : Watch) (count : Value) : (judgeCount repo w count).Ends d fun r d' =>
      trace d' = trace d ∧ (r = .ok none ↔ count.isPositive = .ok true) := by
  unfold judgeCount Value.isPositive
  cases count.number? with
  | none => exact ⟨rfl, by simp⟩
  | some n =>
    dsimp only
    split
    next hpositive =>
      have hstatus (d₁ : Desk Notes) (ha : (situation repo d₁).account = some a) :=
        (setStatus_trace _ _).and_gives (setStatus_gives hrepo ha "partial" (foundMessage count))
      refine .bind_of_ok rfl ((hstatus _ ?_).bind_ends fun _ d' hd' => ?_)
      · exact ha
      · exact ⟨hd'.1, by simp [hpositive]⟩
    next hpositive =>
      have goOn (w : Watch) (d₁ : Desk Notes) (hd₁ : trace d₁ = trace d) :
          (do noteWaiting repo n; return some w : Job (Option Watch)).Ends d₁ fun r d' =>
            trace d' = trace d ∧ r ≠ .ok none := by
        refine ((noteWaiting_trace n).ends d₁).bind (fun _ d' hd' => ?_) fun fault d' hd' => ?_
        · exact ⟨hd'.trans hd₁, by simp⟩
        · exact ⟨hd'.trans hd₁, by simp⟩
      suffices h : Work.Ends _ d fun r d' => trace d' = trace d ∧ r ≠ .ok none from
        h.mono fun r d' h => ⟨h.1, by simp [h.2, hpositive]⟩
      split
      · exact .bind_of_ok rfl (goOn _ _ rfl)
      · exact goOn _ _ rfl

/-- What a poll for the end makes of the answers: it has found nodes if and only if the answer counts
some. -/
theorem pollEnd_reads (hrepo : repo.isHashable = true) (ha : (situation repo d).account = some a)
    (w : Watch) : (pollEnd repo w).Ends d fun r d' =>
      d'.database = d.database.after (endQueries.take (d.database.sessionAt endNames 0).1) ∧
      (r = .ok none ↔ d.database.Finds endNames 0) := by
  have hsession : (Work.openSession : Job Unit).runOn d = _ := Work.runOn_openSession d
  have hcount : (nodeCount "total_nodes").runOn d = _ := runOn_nodeCount "total_nodes"
  unfold pollEnd
  cases hfault : d.database.sessionFault with
  | some fault =>
    have hopen : d.database.openSession = .error fault := by simp [Database.openSession, hfault]
    have hpoll : d.database.sessionAt endNames 0 = (0, false) := by
      simp [Database.sessionAt, hfault]
    rw [hopen] at hsession
    refine .bind_of_error hsession ?_
    simp [Database.Finds, Database.queriesBefore, hpoll]
  | none =>
    have hopen : d.database.openSession = .ok () := by simp [Database.openSession, hfault]
    obtain ⟨hasks, hfinds⟩ := sessionAt_single "total_nodes" hfault
    rw [hopen] at hsession
    refine .bind_of_ok hsession ?_
    unfold endNames endQueries
    rw [hasks, hfinds, countsAny]
    cases htotal : countIn "total_nodes" (d.database.answerAt 0) with
    | error fault =>
      rw [htotal] at hcount
      refine .bind_of_error hcount ⟨rfl, ?_⟩
      simp [bind, Except.bind]
    | ok count =>
      rw [htotal] at hcount
      refine .bind_of_ok hcount (.bind_of_ok rfl ?_)
      refine (judgeCount_ends (a := a) hrepo ?_ w count).mono fun r d' h => ⟨?_, h.2⟩
      · exact ha
      · exact congrArg Prod.fst h.1

/-- The repository has an entry with fields on the board. -/
def HasEntry (repo : Value) (d : Desk Notes) : Prop := (situation repo d).account.isSome = true

theorem isHashable_of_sameKey {key : Value} (h : key.sameKey repo = true) :
    repo.isHashable = true := by
  cases repo with
  | list items => simp [Value.sameKey, Value.number?] at h
  | dict fields => simp [Value.sameKey, Value.number?] at h
  | _ => rfl

theorem Board.isHashable_of_get? {b : Board} {entry : Value} (h : b.get? repo = some entry) :
    repo.isHashable = true := by
  obtain ⟨pair, hfind, -⟩ := Option.map_eq_some_iff.mp h
  have hkey := List.find?_some hfind
  exact isHashable_of_sameKey hkey

theorem isHashable_of_hasEntry (h : HasEntry repo d) : repo.isHashable = true := by
  obtain ⟨a, ha⟩ := Option.isSome_iff_exists.mp h
  obtain ⟨fields, hget, -⟩ := account_eq_some ha
  exact Board.isHashable_of_get? hget

theorem Polled.hasEntry {S : Situation} {r : Except Fault (Option Watch)}
    (h : Polled repo a S r d) (ha : S.account = some a) : HasEntry repo d := by
  rcases h with ⟨-, h⟩ | ⟨-, h⟩
  · rw [HasEntry, h]
    rfl
  · rw [HasEntry, h, ha]
    rfl

/-- A poll for the end always has a result as long as the repository has an entry. -/
theorem tryEnd_reads (repo : Value) :
    ReadsCounts (HasEntry repo) endNames endQueries (tryEnd repo) := by
  intro w d hd
  have hrepo := isHashable_of_hasEntry hd
  obtain ⟨a, ha⟩ := Option.isSome_iff_exists.mp hd
  have hpoll := (pollEnd_reads hrepo ha w).and (pollEnd_ends hrepo ha rfl w)
  refine Work.Gives.tryCatch hpoll ?_ ?_
  · rintro next d' ⟨⟨hdatabase, hnext⟩, hpolled⟩
    exact ⟨hpolled.hasEntry ha, hdatabase, by simpa using hnext⟩
  · rintro fault d' ⟨⟨hdatabase, hnext⟩, hpolled⟩
    obtain ⟨a', ha'⟩ := Option.isSome_iff_exists.mp (hpolled.hasEntry ha)
    have hmessage := (setMessage_trace ("Error checking Neo4j: " ++ fault.message)).and_gives
      (setMessage_settles hrepo ha' _)
    refine hmessage.bind fun _ d₁ h₁ => ?_
    have hentry : HasEntry repo d₁ := by
      rw [HasEntry, h₁.2, ha']
      rfl
    have hsame : d₁.database = d'.database := congrArg Prod.fst h₁.1
    exact ⟨some w, _, rfl, hentry, hsame.trans hdatabase, by simpa using hnext⟩

end

/-- The desk after connecting. -/
def connected (c : Credentials) (d : Desk Notes) : Desk Notes :=
  { d with database := (d.database.connect c).2 }

theorem runOn_connect_ok (h : d.database.connectFault = none) (c : Credentials) :
    (Work.connect c : Job Unit).runOn d = (.ok (), connected c d) := by
  rw [Work.runOn_connect]
  simp [Database.connect, connected, h]

/-- A job that comes down to the polls. It always has a result; before the polls it only connects, and
after them it neither asks nor pauses. -/
def MakesPolls {ω : Type} (job : Job Unit) (c : Credentials) (d : Desk Notes)
    (poll : ω → Job (Option ω)) (pause : Nat) (w : ω) (polls : List (List Query)) : Prop :=
  ∃ before after, trace before = trace (connected c d) ∧ before.notes.site = d.notes.site ∧
    Polls poll pause polls w before after ∧ job.Gives d fun _ d' => trace d' = trace after

section
variable {s : Surroundings} {c : Credentials} (hc : s.credentials? = some c)
  (hconnect : d.database.connectFault = none)

include hc hconnect

theorem awaitEnd_polls (hentry : HasEntry repo d) :
    ∃ polls, IsPollCount 24 (d.database.Finds endNames) polls.length ∧
      (∀ qs ∈ polls, qs <+: endQueries) ∧
      MakesPolls (awaitEnd s repo) c d (tryEnd repo) 5 {} polls := by
  have hentry₁ : HasEntry repo (connected c d) := hentry
  obtain ⟨found, d₂, hrun, polls, hentry₂, hpolls, hcount, hstarts⟩ :=
    endSchedule.pollFrom_polls (tryEnd_reads repo) rfl (fun _ h => h) 0 {} hentry₁
  refine ⟨polls, ?_, hstarts, connected c d, d₂, rfl, rfl, hpolls, ?_⟩
  · rwa [connected, Database.finds_connect] at hcount
  unfold awaitEnd
  rw [hc]
  refine Work.Gives.tryCatch_ok ?_ _
  refine .bind_of_ok (runOn_connect_ok hconnect c) (.bind_of_ok hrun ?_)
  cases found with
  | true => exact Work.Gives.pure rfl
  | false =>
    obtain ⟨a, ha⟩ := Option.isSome_iff_exists.mp hentry₂
    have hstatus (d₃ : Desk Notes) (ha : (situation repo d₃).account = some a) (message : Text) :=
      (setStatus_trace _ _).and_gives
        (setStatus_gives (isHashable_of_hasEntry hentry) ha "partial" message)
    refine .bind_of_ok rfl ((hstatus _ ?_ _).mono fun _ d' h => ?_)
    · exact ha
    · exact h.1

theorem awaitBatch_polls (paths : List Text) :
    ∃ polls, IsPollCount 15 (d.database.Finds batchNames) polls.length ∧
      (∀ qs ∈ polls, qs <+: batchQueries repo) ∧
      MakesPolls (awaitBatch s repo (.list (paths.map .str))) c d (fun _ => tryBatch repo) 1 ()
        polls := by
  obtain ⟨names, hnames⟩ : ∃ names, (paths.map Value.str).mapM lastPart = .ok names := by
    apply Except.exists_mapM
    intro file hfile
    obtain ⟨path, -, rfl⟩ := List.mem_map.mp hfile
    exact ⟨_, rfl⟩
  generalize hline : "Verifying batch of " ++ Text.natText (paths.map Value.str).length ++
    " files in Neo4j: " ++ (Value.list names).display = line
  obtain ⟨d₁, hprint, htrace, hsite⟩ : ∃ d₁, (print line).runOn (connected c d) = (.ok (), d₁) ∧
      trace d₁ = trace (connected c d) ∧ d₁.notes.site = d.notes.site := ⟨_, rfl, rfl, rfl⟩
  obtain ⟨found, d₂, hrun, polls, -, hpolls, hcount, hstarts⟩ :=
    batchSchedule.pollFrom_polls (d := d₁) (tryBatch_reads repo) rfl (fun _ h => h) 0 () trivial
  refine ⟨polls, ?_, hstarts, d₁, d₂, htrace, hsite, hpolls, ?_⟩
  · have hdatabase : d₁.database = (d.database.connect c).2 := congrArg Prod.fst htrace
    rwa [hdatabase, Database.finds_connect] at hcount
  unfold awaitBatch
  rw [hc]
  refine Work.Gives.tryCatch_ok (.bind_of_ok (runOn_connect_ok hconnect c) ?_) _
  refine .lift_bind hnames (.lift_bind rfl ?_)
  rw [hline]
  refine .bind_of_ok hprint (.bind_of_ok hrun ?_)
  cases found with
  | true => exact Work.Gives.pure rfl
  | false => exact ⟨(), _, rfl, rfl⟩

end

/-- Polling stops with the first poll that finds something, and no earlier than the time is up if none
does, whatever the database answers. The last wait makes at most 24 polls of one query each, and the
wait for a batch at most 15 of up to three queries each. -/
theorem polls_stop_at_first_find (s : Surroundings) (c : Credentials) (repo : Value)
    (paths : List Text) (d : Desk Notes) (hc : s.credentials? = some c)
    (hconnect : d.database.connectFault = none) :
    (HasEntry repo d → ∃ polls, IsPollCount 24 (d.database.Finds endNames) polls.length ∧
      (∀ qs ∈ polls, qs <+: endQueries) ∧
      MakesPolls (awaitEnd s repo) c d (tryEnd repo) 5 {} polls) ∧
    ∃ polls, IsPollCount 15 (d.database.Finds batchNames) polls.length ∧
      (∀ qs ∈ polls, qs <+: batchQueries repo) ∧
      MakesPolls (awaitBatch s repo (.list (paths.map .str))) c d (fun _ => tryBatch repo) 1 ()
        polls :=
  ⟨fun hentry => awaitEnd_polls hc hconnect hentry, awaitBatch_polls hc hconnect paths⟩

/-- The settings for a connection, and nothing else. -/
def graphSurroundings : Surroundings where
  settings := [("NEO4J_URI", "bolt://db"), ("NEO4J_USERNAME", "neo"), ("NEO4J_PASSWORD", "pw")]
  bucket := "b"

/-- A graph that fails, has no row, counts nothing and then counts three nodes. -/
def fillingDesk : Desk Notes where
  database := { Database.barren with
    answers := [.error (.service .databaseError "busy"), .ok [], .ok [[("total_nodes", .int 0)]],
      .ok [[("total_nodes", .int 3)]]] }
  notes := { site := { board := [(.str "r", .dict [("status", .str "processing")])] } }

theorem polls_stop_at_first_find_sample :
    graphSurroundings.credentials? = some ⟨"bolt://db", "neo", "pw"⟩ ∧
    fillingDesk.database.connectFault = none ∧ HasEntry (.str "r") fillingDesk ∧
    (∃ polls, polls.length = 4 ∧ MakesPolls (awaitEnd graphSurroundings (.str "r"))
      ⟨"bolt://db", "neo", "pw"⟩ fillingDesk (tryEnd (.str "r")) 5 {} polls) ∧
    ∃ polls, polls.length = 15 ∧
      MakesPolls (awaitBatch graphSurroundings (.str "r") (.list [.str "a.py"]))
        ⟨"bolt://db", "neo", "pw"⟩ fillingDesk (fun _ => tryBatch (.str "r")) 1 () polls := by
  have hentry : HasEntry (.str "r") fillingDesk := by
    unfold HasEntry
    decide
  obtain ⟨hend, polls', hcount', -, hpolls'⟩ := polls_stop_at_first_find graphSurroundings
    ⟨"bolt://db", "neo", "pw"⟩ (.str "r") ["a.py"] fillingDesk (by decide) rfl
  obtain ⟨polls, hcount, -, hpolls⟩ := hend hentry
  refine ⟨by decide, rfl, hentry, ⟨polls, ?_, hpolls⟩, polls', ?_, hpolls'⟩
  · refine hcount.eq_succ (i := 3) ?_ ?_ (by decide)
    · unfold Database.Finds
      decide +kernel
    · unfold Database.Finds
      decide +kernel
  · apply hcount'.eq_bound
    unfold Database.Finds
    decide +kernel

end CodeAtlas.Checkout
