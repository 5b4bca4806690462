import Mathlib.Data.List.Forall2
import CodeAtlas.Proofs.ChatVisits
import CodeAtlas.Proofs.WorkAlike

/-! What the database answers does not decide whether questions are answered. Two runs of the chat
service over the same requests, with databases that differ in their answers alone, go side by side:
they differ in nothing but the context that the graph gives for a question, and in the answers to
requests to clear the graph. -/
namespace CodeAtlas

/-- The database without its answers and without what it was asked. -/
def Database.still (db : Database) : Database :=
  { db with answers := [], otherwise := .ok [], asked := [] }

namespace Chat

/-- Prompts that differ in the context alone. -/
def PromptsAgree (p q : Text) : Prop := ∃ history question context context',
  p = prompt history question context ∧ q = prompt history question context'

/-- An answer without the context that it names. -/
def withoutContext (r : Http.Response) : Http.Response :=
  { r with document := r.document.map fun
      | .dict fields => .dict (fields.filter (·.1 != Text.ofString "context_used"))
      | v => v }

/-- What the two runs are compared by. -/
def still (d : Desk Notes) : Database × Notes := (d.database.still, d.notes)

theorem still_seesNoQueries : Work.SeesNoQueries still := fun _ _ => rfl

structure Agree (x y : Database × Notes) : Prop where
  database : x.1 = y.1
  isConnected : x.2.isConnected = y.2.isConnected
  embedded : x.2.embedded = y.2.embedded
  prompts : List.Forall₂ PromptsAgree x.2.prompts y.2.prompts

/-- Work that does the same in both runs, with results that are related by `S`. -/
abbrev Agrees {α : Type} (S : α → α → Prop) (w w' : Job α) : Prop :=
  Work.Alike still Agree (Work.Same S) w w'

theorem note_agrees {f f' : Notes → Notes}
    (h : ∀ x y, Agree x y → Agree (x.1, f x.2) (y.1, f' y.2)) :
    Agrees Eq (Work.note f) (Work.note f') := fun _ _ hd => ⟨.ok rfl, h _ _ hd⟩

theorem verify_agrees : Agrees Eq Work.verify Work.verify := by
  intro d d' hd
  have hverify := congrArg Database.verify hd.database
  change d.database.verify = d'.database.verify at hverify
  rw [Work.runOn_verify, Work.runOn_verify, hverify]
  exact ⟨.of_eq _, hd⟩

theorem openSession_agrees : Agrees Eq Work.openSession Work.openSession := by
  intro d d' hd
  have hopen := congrArg Database.openSession hd.database
  change d.database.openSession = d'.database.openSession at hopen
  rw [Work.runOn_openSession, Work.runOn_openSession, hopen]
  exact ⟨.of_eq _, hd⟩

theorem dial_agrees (c : Credentials) : Agrees Eq (Work.connect c) (Work.connect c) := by
  intro d d' hd
  have hfault := congrArg Database.connectFault hd.database
  change d.database.connectFault = d'.database.connectFault at hfault
  have hdialled : Agree (still { d with database := d.database.dialled c })
      (still { d' with database := d'.database.dialled c }) :=
    ⟨congrArg (·.dialled c) hd.database, hd.isConnected, hd.embedded, hd.prompts⟩
  rw [Work.runOn_connect, Work.runOn_connect]
  cases h : d.database.connectFault with
  | some fault =>
    rw [Database.connect_refused h, Database.connect_refused (hfault ▸ h)]
    exact ⟨.error fault, hdialled⟩
  | none =>
    rw [Database.connect_made h, Database.connect_made (hfault ▸ h)]
    exact ⟨.ok rfl, hdialled⟩

theorem opening_agrees (c : Credentials) :
    Agrees Eq (opening Notes.connected c) (opening Notes.connected c) := by
  apply (dial_agrees c).bind_same
  intro _ _ _
  apply Work.Alike.bind_same (S := Eq)
  · exact note_agrees fun x y h => ⟨h.database, rfl, h.embedded, h.prompts⟩
  · intro _ _ _
    exact verify_agrees

theorem renew_agrees : Agrees Eq Index.renew Index.renew := by
  intro d d' hd
  have hleaves (d : Desk Notes) := Index.renew_leaves still_seesNoQueries d
  rw [Index.renew_ok, Index.renew_ok, hleaves, hleaves]
  exact ⟨.ok rfl, hd⟩

theorem connect_agrees (c : Credentials) : Agrees Eq (connect c) (connect c) := by
  intro d d' hd
  have hsame : d.notes.isConnected = d'.notes.isConnected := hd.isConnected
  cases h : d.notes.isConnected with
  | true =>
    rw [connect_of_isConnected c h, connect_of_isConnected c (hsame ▸ h)]
    exact ⟨.ok rfl, hd⟩
  | false =>
    rw [connect_of_not_isConnected c h, connect_of_not_isConnected c (hsame ▸ h)]
    have hmake := (opening_agrees c).bind_same fun _ _ _ => renew_agrees
    exact hmake.tryCatch (fun fault => .throw _) d d' hd

theorem noteEmbedded_agrees (text : Value) : Agrees Eq (noteEmbedded text) (noteEmbedded text) :=
  note_agrees fun _ _ h => ⟨h.database, h.isConnected, by simp [h.embedded], h.prompts⟩

theorem embed_agrees (assistant : Assistant) (text : Value) :
    Agrees Eq (embed assistant text) (embed assistant text) := by
  change Agrees Eq (if _ then _ else _) (if _ then _ else _)
  split
  · exact .pure rfl
  · exact (noteEmbedded_agrees text).bind_same fun _ _ _ => .lift _

/-- A search may find other things and may break off, but it always leaves the rest as it was. -/
theorem search_agrees (embedding question : Value) (lines : List Text) :
    Agrees (fun _ _ => True) (Work.aside (Graph.Search.all embedding question) lines)
      (Work.aside (Graph.Search.all embedding question) lines) := by
  intro d d' hd
  have hasks := Graph.Search.all_asks embedding question
  have hleaves := Work.Leaves.aside still_seesNoQueries hasks lines
  rw [hleaves d, hleaves d', Work.runOn_aside, Work.runOn_aside]
  exact ⟨.ok trivial, hd⟩

/-- Answers that differ in the context alone. -/
def ResponsesAgree (r r' : Http.Response) : Prop := withoutContext r = withoutContext r'

theorem respond_agrees (assistant : Assistant) (embedding question history : Value) :
    Agrees ResponsesAgree (respond assistant embedding question history)
      (respond assistant embedding question history) := by
  apply openSession_agrees.bind_same
  intro _ _ _
  apply (search_agrees embedding question []).bind_same
  intro (_, lines) (_, lines') _
  apply (Work.Alike.lift _).bind_same
  rintro text _ rfl
  apply Work.Alike.bind_same (S := Eq)
  · apply note_agrees
    intro x y h
    have hprompt : PromptsAgree (prompt text question (Graph.Search.report lines))
        (prompt text question (Graph.Search.report lines')) := ⟨_, _, _, _, rfl, rfl⟩
    exact ⟨h.database, h.isConnected, h.embedded,
      List.rel_append h.prompts (.cons hprompt .nil)⟩
  · intro _ _ _
    apply (Work.Alike.lift _).bind_same
    rintro reply _ rfl
    exact .pure rfl

theorem chat_agrees (c : Credentials) (assistant : Assistant) (document : Value) :
    Agrees ResponsesAgree (chat c assistant document) (chat c assistant document) := by
  apply (Work.Alike.lift _).bind_same
  rintro fields _ rfl
  change Agrees _ (if _ then _ else _) (if _ then _ else _)
  split
  · exact .pure rfl
  · apply (connect_agrees c).bind_same
    intro _ _ _
    apply (Work.Alike.lift _).bind_same
    intro _ _ _
    apply (embed_agrees _ _).bind_same
    rintro embedding _ rfl
    split
    · exact .pure rfl
    · exact respond_agrees _ _ _ _

theorem health_agrees (c : Credentials) (assistant : Assistant) :
    Agrees ResponsesAgree (health c assistant) (health c assistant) := by
  apply Work.Alike.tryCatch
  · apply (connect_agrees c).bind_same
    intro _ _ _
    apply verify_agrees.bind_same
    intro _ _ _
    apply (noteEmbedded_agrees _).bind_same
    intro _ _ _
    cases assistant.embeddings <;> exact .pure rfl
  · intro fault
    exact .pure rfl

/-- Clearing the graph may end otherwise, but it leaves the same behind. -/
theorem clear_agrees (c : Credentials) :
    Work.Alike still Agree (fun _ _ => True) (clear c) (clear c) := by
  apply Work.Alike.tryCatch_leaves
  · apply (connect_agrees c).bind
    · intro _ _ _
      apply Work.Alike.of_leaves
      apply Work.Leaves.openSession.bind
      intro _
      apply (Work.Leaves.ask still_seesNoQueries _).bind
      intro _
      exact (Work.Leaves.ask still_seesNoQueries _).bind fun _ => .pure _
    · intro _
      trivial
  · intro fault
    split
    · exact .throw _
    · split <;> exact .pure _

theorem serve_agrees (c : Credentials) (assistant : Assistant) {path : Text}
    (hpath : path ≠ clearPath) (r : Http.Request) :
    Agrees ResponsesAgree (serve c assistant path r) (serve c assistant path r) := by
  unfold serve
  split
  · exact health_agrees c assistant
  · rw [if_neg (by simpa using hpath)]
    cases r.payload with
    | document v => exact chat_agrees c assistant v
    | malformed => exact .pure rfl
    | notJson => exact .pure rfl
    | failed fault => exact .throw fault

theorem serve_clear_agrees (c : Credentials) (assistant : Assistant) (r : Http.Request) :
    Work.Alike still Agree (fun _ _ => True) (serve c assistant clearPath r)
      (serve c assistant clearPath r) := clear_agrees c

namespace ResponsesAgree

theorem status_eq {r r' : Http.Response} (h : ResponsesAgree r r') : r.status = r'.status := by
  have hstatus := congrArg Http.Response.status h
  exact hstatus

theorem sentTo {r r' : Http.Response} (h : ResponsesAgree r r') (request : Http.Request) :
    ResponsesAgree (r.sentTo request) (r'.sentTo request) := by
  unfold Http.Response.sentTo
  split
  · have hstatus := h.status_eq
    simp [ResponsesAgree, withoutContext, hstatus]
  · exact h

theorem answerTo {x y : Except Fault Http.Response} (h : Work.Same ResponsesAgree x y) :
    ResponsesAgree (answerTo x) (answerTo y) := by
  cases h with
  | ok h => exact h
  | error fault => rfl

end ResponsesAgree

/-- Visits that differ in nothing but what the database answers. -/
structure SameButAnswers (v w : Visit) : Prop where
  credentials_eq : v.credentials = w.credentials
  assistant_eq : v.assistant = w.assistant
  request_eq : v.request = w.request
  connectFault_eq : v.script.connectFault = w.script.connectFault
  verifyFault_eq : v.script.verifyFault = w.script.verifyFault
  sessionFault_eq : v.script.sessionFault = w.script.sessionFault

/-- Turns of two runs that differ in nothing but the context of a question, and in the answer to a
request to clear the graph. -/
structure TurnsAgree (t t' : Turn Visit) : Prop where
  before_eq : t.before = t'.before
  after_eq : keeper.after t = keeper.after t'
  connects_eq : keeper.connects t = keeper.connects t'
  embedded_eq : (t.input.outcome t.before).2.notes.embedded =
    (t'.input.outcome t'.before).2.notes.embedded
  prompts_agree : List.Forall₂ PromptsAgree (t.input.outcome t.before).2.notes.prompts
    (t'.input.outcome t'.before).2.notes.prompts
  status_eq : t.input.path? ≠ some clearPath →
    (t.input.outcome t.before).1.status = (t'.input.outcome t'.before).1.status
  answer_agrees : t.input.path? ≠ some clearPath →
    ResponsesAgree (t.input.outcome t.before).1 (t'.input.outcome t'.before).1

section
variable {v w : Visit}

theorem SameButAnswers.desk_agree (h : SameButAnswers v w) (b : Bool) :
    Agree (still (v.desk b)) (still (w.desk b)) where
  database := by
    simp [still, Visit.desk, Script.database, Database.still, h.connectFault_eq, h.verifyFault_eq,
      h.sessionFault_eq]
  isConnected := rfl
  embedded := rfl
  prompts := .nil

theorem SameButAnswers.path_eq (h : SameButAnswers v w) : v.path? = w.path? := by
  rw [Visit.path?, Visit.path?, h.request_eq]

theorem SameButAnswers.job_eq (h : SameButAnswers v w) (path : Text) :
    v.job path = w.job path := by
  rw [Visit.job, Visit.job, h.credentials_eq, h.assistant_eq, h.request_eq]

theorem TurnsAgree.of_agree {b : Bool}
    (hdesk : Agree (still (v.outcome b).2) (still (w.outcome b).2))
    (hanswer : v.path? ≠ some clearPath → ResponsesAgree (v.outcome b).1 (w.outcome b).1) :
    TurnsAgree ⟨v, b⟩ ⟨w, b⟩ where
  before_eq := rfl
  after_eq := hdesk.isConnected
  connects_eq := by
    have hconnects := congrArg Database.connects hdesk.database
    exact hconnects
  embedded_eq := hdesk.embedded
  prompts_agree := hdesk.prompts
  status_eq h := (hanswer h).status_eq
  answer_agrees := hanswer

theorem outcome_idle_answer (h : SameButAnswers v w) (hpath : v.path? = none) (b : Bool) :
    (v.outcome b).1 = (w.outcome b).1 := by
  unfold Visit.path? at hpath
  unfold Visit.outcome handle
  rw [← h.request_eq]
  cases hdispatch : v.request.dispatch routes with
  | run path => simp [hdispatch] at hpath
  | _ => rfl

/-- The same request, met with other answers. -/
theorem turn_agrees (h : SameButAnswers v w) (b : Bool) : TurnsAgree ⟨v, b⟩ ⟨w, b⟩ := by
  have hdesk := h.desk_agree b
  cases hv : v.path? with
  | none =>
    have hw : w.path? = none := h.path_eq ▸ hv
    apply TurnsAgree.of_agree
    · rwa [Visit.outcome_idle hv, Visit.outcome_idle hw]
    · intro _
      rw [outcome_idle_answer h hv b]
      rfl
  | some path =>
    have hw : w.path? = some path := h.path_eq ▸ hv
    have houtcome := Visit.outcome_run hw b
    rw [← h.job_eq, ← h.request_eq] at houtcome
    by_cases hclear : path = clearPath
    · subst hclear
      obtain ⟨-, hleft⟩ := serve_clear_agrees v.credentials v.assistant v.request _ _ hdesk
      apply TurnsAgree.of_agree
      · rw [Visit.outcome_run hv, houtcome]
        exact hleft
      · intro hnot
        exact absurd hv hnot
    · obtain ⟨hresult, hleft⟩ :=
        serve_agrees v.credentials v.assistant hclear v.request _ _ hdesk
      apply TurnsAgree.of_agree
      · rw [Visit.outcome_run hv, houtcome]
        exact hleft
      · intro _
        rw [Visit.outcome_run hv, houtcome]
        exact (ResponsesAgree.answerTo hresult).sentTo v.request

theorem runFrom_agrees {vs ws : List Visit} (h : List.Forall₂ SameButAnswers vs ws) (b : Bool) :
    List.Forall₂ TurnsAgree (keeper.runFrom b vs) (keeper.runFrom b ws) := by
  induction h generalizing b with
  | nil => exact .nil
  | cons hfirst _ ih =>
    have hturn := turn_agrees hfirst b
    rw [Keeper.runFrom, Keeper.runFrom, hturn.after_eq]
    exact .cons hturn (ih _)

end

/-- What the database answers does not decide whether questions are answered: two runs over the same
requests, with databases that differ in their answers alone, agree turn by turn. -/
theorem answers_do_not_decide (vs ws : List Visit) (h : List.Forall₂ SameButAnswers vs ws) :
    List.Forall₂ TurnsAgree (keeper.run vs) (keeper.run ws) := runFrom_agrees h false

/-- A request with the question `abc`. -/
def questionVisit (script : Script) : Visit where
  credentials := ⟨"bolt://db", "neo", "pw"⟩
  assistant := ⟨.ok (.str "reply"), .ok [.list [.int 1]]⟩
  request := {
    method := "POST", target := ⟨chatPath, []⟩
    body := some ⟨"application/json", Text.encodeUtf8 "\x7b\"query\": \"abc\"\x7d"⟩ }
  script := script

/-- A database that finds a function near the question, once the indexes are renewed. -/
def findingScript : Script where
  answers := [.ok [], .ok [], .ok [],
    .ok [[("name", .str "f"), ("type", .str "Function"), ("filePath", .str "a.py")]]]

/-- A database that answers no query. -/
def faultyScript : Script where
  otherwise := .error (.service .databaseError "boom")

theorem answers_do_not_decide_sample :
    TurnsAgree ⟨questionVisit findingScript, false⟩ ⟨questionVisit faultyScript, false⟩ ∧
    ((questionVisit findingScript).outcome false).1.status = 200 ∧
    ((questionVisit findingScript).outcome false).2.notes.prompts ≠
      ((questionVisit faultyScript).outcome false).2.notes.prompts := by
  have hsame : SameButAnswers (questionVisit findingScript) (questionVisit faultyScript) :=
    ⟨rfl, rfl, rfl, rfl, rfl, rfl⟩
  have h := answers_do_not_decide [questionVisit findingScript] [questionVisit faultyScript]
    (.cons hsame .nil)
  exact ⟨(List.forall₂_cons.mp h).1, by decide +kernel, by decide +kernel⟩

end Chat

end CodeAtlas
