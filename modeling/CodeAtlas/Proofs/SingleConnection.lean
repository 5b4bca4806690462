import CodeAtlas.Proofs.ChatVisits
import CodeAtlas.Proofs.IngestOrigin
import CodeAtlas.Proofs.ResultHandOff

/-! There is at most one connection to the database, both where documents are brought into the graph
and where questions are answered. -/
namespace CodeAtlas

namespace Graph.Intake

/-- An event, with the stored file that it is about, the settings for the database, the models and
the reactions of the database that it meets. -/
structure Delivery where
  assistant : Assistant
  file : StoredFile
  address : Value
  user : Value
  password : Value
  event : Value
  script : Script

/-- What a connection is made with, if every setting for it holds something. -/
def credentialsOf (address user password : Value) : Option Credentials :=
  if address.isPresent && user.isPresent && password.isPresent then
    some ⟨address.display, user.display, password.display⟩
  else none

namespace Delivery

def outcome (v : Delivery) (isConnected : Bool) : Outcome :=
  handle v.assistant v.file v.address v.user v.password v.event isConnected v.script.database

/-- What an event needs a connection with: it does if it is about a document. -/
def wanted (v : Delivery) : Option Credentials :=
  match documentFor v.file v.event with
  | .ok (some _) => credentialsOf v.address v.user v.password
  | _ => none

end Delivery

def keeper : Keeper Delivery where
  script := Delivery.script
  wanted := Delivery.wanted
  serve v isConnected := ((v.outcome isConnected).isConnected, (v.outcome isConnected).database)

def line : Desk Bool → Line := Line.ofDesk id

section
variable {d : Desk Bool}

theorem connect_of_isConnected (address user password : Value) (h : d.notes = true) :
    (connect address user password).runOn d = (.ok (), d) := by
  rw [connect, Work.runOn_notes_bind, h]
  rfl

theorem connect_of_credentials {address user password : Value} {c : Credentials}
    (hc : credentialsOf address user password = some c) (h : d.notes = false) :
    (connect address user password).runOn d = (opening (fun _ => true) c).runOn d := by
  unfold credentialsOf at hc
  split at hc
  next hpresent =>
    obtain rfl := Option.some.inj hc
    rw [connect, Work.runOn_notes_bind, h, hpresent]
    rfl
  next => cases hc

theorem connect_of_missing {address user password : Value}
    (hc : credentialsOf address user password = none) (h : d.notes = false) :
    (connect address user password).runOn d =
      (.error (.settingUnset "Neo4j credentials are not set in environment variables."), d) := by
  unfold credentialsOf at hc
  split at hc
  next => cases hc
  next hmissing =>
    rw [Bool.not_eq_true] at hmissing
    rw [connect, Work.runOn_notes_bind, h, hmissing]
    rfl

theorem connect_ends (address user password : Value) :
    (connect address user password).Ends d fun _ d' =>
      line d' = (line d).dial (credentialsOf address user password) := by
  rw [Work.Ends]
  cases h : d.notes with
  | true => rw [connect_of_isConnected _ _ _ h, Line.dial_of_isConnected h]
  | false =>
    cases hc : credentialsOf address user password with
    | none =>
      rw [connect_of_missing hc h]
      rfl
    | some c =>
      rw [connect_of_credentials hc h]
      exact opening_ends (fun _ => rfl) h c

theorem bringIn_ends (assistant : Assistant) (address user password document : Value) :
    (bringIn assistant address user password document).Ends d fun _ d' =>
      line d' = (line d).dial (credentialsOf address user password) := by
  apply (connect_ends address user password).bind_leaves (P := (· = _))
  intro _
  apply Work.Leaves.openSession.bind
  intro _
  have hingest := ingest_asks assistant document
  apply (Work.Leaves.aside (Line.ofDesk_seesNoQueries _) hingest {}).bind
  intro (result, _)
  exact .lift result

theorem process_of_none {file : StoredFile} {event : Value}
    (h : documentFor file event = .ok none) (assistant : Assistant) (address user password : Value) :
    process assistant file address user password event = pure () := by
  rw [process, h]
  rfl

theorem process_of_error {file : StoredFile} {event : Value} {fault : Fault}
    (h : documentFor file event = .error fault) (assistant : Assistant)
    (address user password : Value) :
    (process assistant file address user password event).runOn d = (.error fault, d) := by
  rw [process, h]
  rfl

end

/-- Whether a connection is made depends on the event, the stored file and the settings alone, and on
there being none yet. -/
theorem keeper_isLazy : keeper.IsLazy := by
  intro t
  change line (Work.runOn (process _ _ _ _ _ _) _).2 =
    (line ⟨t.input.script.database, t.before⟩).dial t.input.wanted
  unfold Delivery.wanted
  cases hdocument : documentFor t.input.file t.input.event with
  | error fault => rw [process_of_error hdocument, Line.dial_none]
  | ok found =>
    cases found with
    | none =>
      rw [process_of_none hdocument]
      rfl
    | some document =>
      rw [process_of_documentFor hdocument]
      exact bringIn_ends _ _ _ _ document

/-- Without a connection, and without the settings for one, nothing is done to the database. -/
theorem database_of_missing {t : Turn Delivery} (hbefore : t.before = false)
    (hmissing : credentialsOf t.input.address t.input.user t.input.password = none) :
    (t.input.outcome t.before).database = t.input.script.database := by
  change (Work.runOn (process _ _ _ _ _ _) ⟨t.input.script.database, t.before⟩).2.database = _
  cases hdocument : documentFor t.input.file t.input.event with
  | error fault => rw [process_of_error hdocument]
  | ok found =>
    cases found with
    | none =>
      rw [process_of_none hdocument]
      rfl
    | some document =>
      rw [process_of_documentFor hdocument, bringIn,
        Work.runOn_bind_error (connect_of_missing hmissing hbefore)]

end Graph.Intake

/-- Both services connect when they first need to, and keep the connection. An attempt is made only
where there is no connection and one is wanted, at most one in a turn; at most one attempt of a run
succeeds, and from then on there is a connection whatever comes. An event that finds no connection
and a setting for it missing neither connects nor asks anything. -/
theorem connection_is_made_once (deliveries : List Graph.Intake.Delivery)
    (visits : List Chat.Visit) :
    Graph.Intake.keeper.KeepsOne deliveries ∧ Chat.keeper.KeepsOne visits ∧
    ∀ t ∈ Graph.Intake.keeper.run deliveries, t.before = false →
      (t.input.address.isPresent = false ∨ t.input.user.isPresent = false ∨
        t.input.password.isPresent = false) →
      Graph.Intake.keeper.connects t = [] ∧ Graph.Intake.keeper.asked t = [] := by
  refine ⟨Graph.Intake.keeper_isLazy.keepsOne deliveries, Chat.keeper_isLazy.keepsOne visits, ?_⟩
  intro t _ hbefore hempty
  have hmissing :
      Graph.Intake.credentialsOf t.input.address t.input.user t.input.password = none := by
    rcases hempty with h | h | h <;> simp [Graph.Intake.credentialsOf, h]
  have hdatabase := Graph.Intake.database_of_missing hbefore hmissing
  exact ⟨congrArg Database.connects hdatabase, congrArg Database.asked hdatabase⟩

/-- An event about an empty document. -/
def sampleDelivery (address : Value) (script : Script) : Graph.Intake.Delivery where
  assistant := ⟨.ok (.str "reply"), .ok [.list [.int 1]]⟩
  file := ⟨true, .dict [], .ok [0x7B, 0x7D]⟩
  address := address
  user := .str "neo"
  password := .str "pw"
  event := .dict [("bucket", .str "b"), ("name", .str "a.json")]
  script := script

/-- No address, no answer from the database, a connection that then does not work, and at last another
address. -/
def sampleDeliveries : List Graph.Intake.Delivery :=
  [sampleDelivery (.str "") {}, sampleDelivery (.str "db") { connectFault := some Chat.unreachable },
    sampleDelivery (.str "db") { verifyFault := some Chat.unreachable },
    sampleDelivery (.str "other") { connectFault := some Chat.unreachable }]

def sampleVisits : List Chat.Visit :=
  [Chat.healthVisit { connectFault := some Chat.unreachable },
    Chat.healthVisit { verifyFault := some Chat.unreachable }, Chat.healthVisit {}]

theorem connection_is_made_once_sample :
    ((Graph.Intake.keeper.run sampleDeliveries).map fun t =>
      (t.before, (Graph.Intake.keeper.connects t).length,
        (Graph.Intake.keeper.made t).length, Graph.Intake.keeper.after t)) =
      [(false, 0, 0, false), (false, 1, 0, false), (false, 1, 1, true), (true, 0, 0, true)] ∧
    ((Chat.keeper.run sampleVisits).map fun t =>
      (t.before, (Chat.keeper.connects t).length, (Chat.keeper.made t).length, Chat.keeper.after t)) =
      [(false, 1, 0, false), (false, 1, 1, true), (true, 0, 0, true)] ∧
    ((Graph.Intake.keeper.run sampleDeliveries).flatMap Graph.Intake.keeper.made).length ≤ 1 ∧
    Graph.Intake.keeper.asked ⟨sampleDelivery (.str "") {}, false⟩ = [] := by
  have h := connection_is_made_once sampleDeliveries sampleVisits
  have hasked := (h.2.2 ⟨sampleDelivery (.str "") {}, false⟩ List.mem_cons_self rfl (.inl rfl)).2
  exact ⟨by decide +kernel, by decide +kernel, h.1.made_once, hasked⟩

end CodeAtlas
