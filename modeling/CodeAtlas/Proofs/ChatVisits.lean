import CodeAtlas.Chat.Service
import CodeAtlas.Proofs.IndexRenewal
import CodeAtlas.Proofs.KeptConnection
import CodeAtlas.Proofs.SearchQueries

/-! Requests to the chat service, and what one of them does to the connection. -/
namespace CodeAtlas.Chat

/-- The question in a document, unless it holds nothing. -/
def questionIn (document : Value) : Option Value :=
  (document.asFields.toOption.map fun fields => fields.getD "query" .null).filter Value.isPresent

/-- The question that comes with a request. -/
def questionOf (r : Http.Request) : Option Value :=
  match r.payload with
  | .document v => questionIn v
  | _ => none

/-- A request, with the credentials, the models and the reactions of the database that it meets. -/
structure Visit where
  credentials : Credentials
  assistant : Assistant
  request : Http.Request
  script : Script

namespace Visit

/-- The path that a request is dispatched to. -/
def path? (v : Visit) : Option Text :=
  match v.request.dispatch routes with
  | .run path => some path
  | _ => none

/-- The answer to a request and the desk it leaves. -/
def outcome (v : Visit) (isConnected : Bool) : Http.Response × Desk Notes :=
  handle v.credentials v.assistant v.request isConnected v.script.database

/-- What a request needs a connection with: it does if it asks for the health of the service, has
the graph cleared or brings a question. -/
def wanted (v : Visit) : Option Credentials :=
  v.path?.bind fun path =>
    if path == healthPath || path == clearPath || (questionOf v.request).isSome then
      some v.credentials
    else none

end Visit

def keeper : Keeper Visit where
  script := Visit.script
  wanted := Visit.wanted
  serve v isConnected :=
    ((v.outcome isConnected).2.notes.isConnected, (v.outcome isConnected).2.database)

def Notes.connected (notes : Notes) : Notes := { notes with isConnected := true }

def line : Desk Notes → Line := Line.ofDesk Notes.isConnected

section
variable {d : Desk Notes} {c : Credentials}

theorem connect_of_isConnected (c : Credentials) (h : d.notes.isConnected = true) :
    (connect c).runOn d = (.ok (), d) := by
  rw [connect, Work.runOn_notes_bind, h]
  rfl

theorem connect_of_not_isConnected (c : Credentials) (h : d.notes.isConnected = false) :
    (connect c).runOn d = (tryCatch (opening Notes.connected c >>= fun _ => Index.renew)
      fun fault => throw (connectionFault fault) : Job Unit).runOn d := by
  simp only [opening, bind_assoc]
  rw [connect, Work.runOn_notes_bind, h]
  rfl

theorem connect_of_opening_error {fault : Fault} {d' : Desk Notes}
    (h : d.notes.isConnected = false)
    (hopening : (opening Notes.connected c).runOn d = (.error fault, d')) :
    (connect c).runOn d = (.error (connectionFault fault), d') := by
  rw [connect_of_not_isConnected c h, Work.runOn_tryCatch, Work.runOn_bind_error hopening]
  rfl

/-- Once the connection is made and found to work, all that is left is to renew the indexes. -/
theorem connect_of_opening_ok {d' : Desk Notes} (h : d.notes.isConnected = false)
    (hopening : (opening Notes.connected c).runOn d = (.ok (), d')) :
    (connect c).runOn d = (Index.renew : Job Unit).runOn d' := by
  have hok := Index.renew_ok d'
  rw [connect_of_not_isConnected c h, Work.runOn_tryCatch, Work.runOn_bind_ok hopening]
  rcases hrenew : (Index.renew : Job Unit).runOn d' with ⟨_ | _, d''⟩
  · rw [hrenew] at hok
    cases hok
  · rfl

theorem connect_ends (c : Credentials) :
    (connect c).Ends d fun _ d' => line d' = (line d).dial (some c) := by
  cases h : d.notes.isConnected with
  | true => rw [Line.dial_of_isConnected h, Work.Ends, connect_of_isConnected c h]
  | false =>
    rw [Work.Ends, connect_of_not_isConnected c h]
    apply Work.Ends.tryCatch_leaves (P := (· = _))
    · apply (opening_ends (fun _ => rfl) h c).bind_leaves (P := (· = _))
      intro _
      exact Index.renew_leaves (Line.ofDesk_seesNoQueries _)
    · intro fault
      exact .throw _

/-- Work that neither connects nor looks at the indexes. -/
structure Converses {α : Type} (w : Job α) : Prop where
  asks : w.Asks (· ≠ Index.showQuery)
  leaves : w.Leaves fun d => d.notes.isConnected

namespace Converses

variable {α β : Type} {w : Job α}

theorem bind {k : α → Job β} (hw : Converses w) (hk : ∀ a, Converses (k a)) :
    Converses (w >>= k) :=
  ⟨hw.asks.bind fun _ a _ => (hk a).asks, hw.leaves.bind fun a => (hk a).leaves⟩

theorem pure (a : α) : Converses (Pure.pure a : Job α) := ⟨.pure a, .pure a⟩

theorem lift (x : Except Fault α) : Converses (Work.lift x : Job α) := ⟨.lift x, .lift x⟩

theorem note {f : Notes → Notes} (h : ∀ notes, (f notes).isConnected = notes.isConnected) :
    Converses (Work.note f) := ⟨.note f, .note fun d => h d.notes⟩

theorem verify : Converses (Work.verify : Job Unit) := ⟨.verify, .verify⟩

theorem openSession : Converses (Work.openSession : Job Unit) := ⟨.openSession, .openSession⟩

theorem ask {q : Query} (h : q ≠ Index.showQuery) : Converses (Work.ask q : Job _) :=
  ⟨.ask h, .ask (fun _ _ => rfl) q⟩

theorem search (embedding question : Value) (lines : List Text) :
    Converses (Work.aside (Graph.Search.all embedding question) lines : Job _) := by
  have hasks : (Graph.Search.all embedding question).Asks (· ≠ Index.showQuery) := by
    apply (Graph.Search.all_asks embedding question).mono
    rintro q hq rfl
    cases hq.head_eq
  exact ⟨hasks.aside lines, .aside (fun _ _ => rfl) hasks lines⟩

end Converses

theorem noteEmbedded_converses (text : Value) : Converses (noteEmbedded text) :=
  .note fun _ => rfl

theorem embed_converses (assistant : Assistant) (text : Value) :
    Converses (embed assistant text) := by
  change Converses (if _ then _ else _)
  split
  · exact .pure _
  · exact (noteEmbedded_converses text).bind fun _ => .lift _

theorem respond_converses (assistant : Assistant) (embedding question history : Value) :
    Converses (respond assistant embedding question history) := by
  apply Converses.openSession.bind
  intro _
  apply (Converses.search embedding question []).bind
  intro (_, lines)
  apply (Converses.lift _).bind
  intro text
  apply Converses.bind
  · exact .note fun _ => rfl
  · intro _
    exact (Converses.lift _).bind fun reply => .pure _

/-- The desk `d'` is left as connecting at the desk `d` leaves it, but for queries that come after it
and are not about the indexes; there are none where connecting fails. -/
structure Follows (c : Credentials) (d d' : Desk Notes) : Prop where
  isConnected_eq : d'.notes.isConnected = ((connect c).runOn d).2.notes.isConnected
  queries : ∃ qs, d'.database = ((connect c).runOn d).2.database.after qs ∧
    (∀ q ∈ qs, q ≠ Index.showQuery) ∧ (qs ≠ [] → ((connect c).runOn d).1 = .ok ())

theorem Follows.line_eq {d' : Desk Notes} (h : Follows c d d') :
    line d' = (line d).dial (some c) := by
  obtain ⟨qs, hqs, -⟩ := h.queries
  rw [← connect_ends c]
  simp [line, Line.ofDesk, hqs, h.isConnected_eq, Database.after]

theorem follows_bind {α : Type} {k : Unit → Job α} (hk : Converses (k ())) :
    (connect c >>= k).Ends d fun _ d' => Follows c d d' := by
  unfold Work.Ends
  rw [Work.runOn_bind]
  rcases hconnect : (connect c).runOn d with ⟨fault | _, d'⟩
  · exact ⟨by rw [hconnect], [], by simp [hconnect]⟩
  · obtain ⟨qs, hqs, hother⟩ := hk.asks d'
    exact ⟨by rw [hconnect]; exact hk.leaves d', qs, by rw [hconnect]; exact hqs, hother,
      fun _ => by rw [hconnect]⟩

theorem follows_tryCatch {α : Type} {k : Unit → Job α} {handler : Fault → Job α}
    (hk : Converses (k ())) (hhandler : ∀ fault d, ((handler fault).runOn d).2 = d) :
    (tryCatch (connect c >>= k) handler).Ends d fun _ d' => Follows c d d' := by
  apply (follows_bind hk).tryCatch
  · intro _ _ h
    exact h
  · intro fault d' h
    rw [Work.Ends, hhandler]
    exact h

theorem health_follows (assistant : Assistant) :
    (health c assistant).Ends d fun _ d' => Follows c d d' := by
  apply follows_tryCatch
  · apply Converses.verify.bind
    intro _
    apply (noteEmbedded_converses _).bind
    intro _
    cases assistant.embeddings <;> exact .pure _
  · intro fault d
    rfl

theorem clear_follows : (clear c).Ends d fun _ d' => Follows c d d' := by
  apply follows_tryCatch
  · apply Converses.openSession.bind
    intro _
    apply (Converses.ask _).bind
    · intro _
      apply (Converses.ask _).bind
      · intro _
        exact .pure _
      · intro h
        exact absurd (congrArg Query.text h) (by decide +kernel)
    · intro h
      exact absurd (congrArg Query.text h) (by decide +kernel)
  · intro fault d
    split
    · rfl
    · split <;> rfl

theorem chat_idle (assistant : Assistant) {document : Value} (h : questionIn document = none) :
    ((chat c assistant document).runOn d).2 = d := by
  unfold chat
  cases hfields : document.asFields with
  | error fault => rfl
  | ok fields =>
    have hempty : (fields.getD "query" .null).isPresent = false := by
      simpa [questionIn, hfields, Except.toOption] using h
    change (Work.runOn (if _ then _ else _) d).2 = d
    rw [if_pos (by simp [hempty])]
    rfl

theorem chat_follows (assistant : Assistant) {document question : Value}
    (h : questionIn document = some question) :
    (chat c assistant document).Ends d fun _ d' => Follows c d d' := by
  unfold chat
  cases hfields : document.asFields with
  | error fault => simp [questionIn, hfields, Except.toOption] at h
  | ok fields =>
    have hpresent : (fields.getD "query" .null).isPresent = true := by
      simp [questionIn, hfields, Except.toOption, Option.filter_eq_some_iff] at h
      exact h.1 ▸ h.2
    change Work.Ends (if _ then _ else _) d _
    rw [if_neg (by simp [hpresent])]
    apply follows_bind
    apply (Converses.lift _).bind
    intro _
    apply (embed_converses _ _).bind
    intro embedding
    split
    · exact .pure _
    · exact respond_converses _ _ _ _

end

/-- What is answered to a request that was served. -/
def answerTo : Except Fault Http.Response → Http.Response
  | .ok response => response
  | .error fault => faultResponse fault

namespace Visit

variable {v : Visit}

/-- The desk at which a request is served. -/
def desk (v : Visit) (isConnected : Bool) : Desk Notes := ⟨v.script.database, { isConnected }⟩

/-- The work that serves a request which is dispatched to a path. -/
def job (v : Visit) (path : Text) : Job Http.Response :=
  serve v.credentials v.assistant path v.request

theorem outcome_run {path : Text} (h : v.path? = some path) (isConnected : Bool) :
    v.outcome isConnected =
      ((answerTo ((v.job path).runOn (v.desk isConnected)).1).sentTo v.request,
        ((v.job path).runOn (v.desk isConnected)).2) := by
  unfold path? at h
  unfold outcome handle
  split at h
  next path' hdispatch =>
    obtain rfl := Option.some.inj h
    simp only [hdispatch, job, desk]
    rcases (serve _ _ _ _).runOn _ with ⟨_ | response, d⟩ <;> rfl
  next => cases h

theorem outcome_idle (h : v.path? = none) (isConnected : Bool) :
    (v.outcome isConnected).2 = v.desk isConnected := by
  unfold path? at h
  unfold outcome handle
  split at h
  next => cases h
  next hdispatch =>
    cases hd : v.request.dispatch routes with
    | run path => exact absurd hd (hdispatch path)
    | _ => rfl

/-- A request that needs no connection leaves everything as it is. -/
theorem outcome_of_wanted_none (h : v.wanted = none) (isConnected : Bool) :
    (v.outcome isConnected).2 = v.desk isConnected := by
  cases hpath : v.path? with
  | none => exact outcome_idle hpath isConnected
  | some path =>
    rw [outcome_run hpath]
    simp only [wanted, hpath, Option.bind_some, ite_eq_right_iff, reduceCtorEq, imp_false,
      Bool.or_eq_true, not_or, Bool.not_eq_true, Option.isSome_eq_false_iff,
      Option.isNone_iff_eq_none] at h
    obtain ⟨⟨hhealth, hclear⟩, hquestion⟩ := h
    unfold job serve
    simp only [hhealth, hclear, Bool.false_eq_true, if_false]
    unfold questionOf at hquestion
    cases hpayload : v.request.payload with
    | document document =>
      rw [hpayload] at hquestion
      exact chat_idle _ hquestion
    | malformed => rfl
    | notJson => rfl
    | failed fault => rfl

/-- A request that needs a connection connects first of all. -/
theorem outcome_follows {c : Credentials} (h : v.wanted = some c) (isConnected : Bool) :
    Follows c (v.desk isConnected) (v.outcome isConnected).2 := by
  cases hpath : v.path? with
  | none => simp [wanted, hpath] at h
  | some path =>
    rw [outcome_run hpath]
    simp only [wanted, hpath, Option.bind_some, Option.ite_none_right_eq_some] at h
    obtain ⟨hneeds, hc⟩ := h
    obtain rfl := Option.some.inj hc
    unfold job serve
    cases hhealth : path == healthPath with
    | true => exact health_follows v.assistant
    | false =>
      cases hclear : path == clearPath with
      | true => exact clear_follows
      | false =>
        rw [hhealth, hclear, Bool.false_or, Bool.false_or] at hneeds
        obtain ⟨question, hquestion⟩ := Option.isSome_iff_exists.mp hneeds
        unfold questionOf at hquestion
        split at hquestion
        next document hpayload =>
          rw [hpayload]
          exact chat_follows v.assistant hquestion
        next => cases hquestion

end Visit

/-- Whether a connection is made depends on the request alone, and on there being none yet. -/
theorem keeper_isLazy : keeper.IsLazy := by
  intro t
  change line (t.input.outcome t.before).2 = (line (t.input.desk t.before)).dial t.input.wanted
  cases hwanted : t.input.wanted with
  | none => rw [Visit.outcome_of_wanted_none hwanted, Line.dial_none]
  | some c => exact (Visit.outcome_follows hwanted t.before).line_eq

def unreachable : Fault := .service .databaseUnavailable "down"

/-- A request for the health of the service. -/
def healthVisit (script : Script) : Visit where
  credentials := ⟨"bolt://db", "neo", "pw"⟩
  assistant := ⟨.ok (.str "reply"), .ok [.list [.int 1]]⟩
  request := { method := "GET", target := ⟨healthPath, []⟩ }
  script := script

end CodeAtlas.Chat
