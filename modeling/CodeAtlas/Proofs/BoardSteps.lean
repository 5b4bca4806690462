import CodeAtlas.Checkout.Site
import CodeAtlas.Proofs.FieldsLaws
import CodeAtlas.Proofs.WorkContract

/-! What the small steps of the checkout service do to what it keeps. Messages and the name of the
current file come and go; the `Situation` is all the rest. -/
namespace CodeAtlas

theorem Value.sameKey_self {v : Value} (h : v.isHashable = true) : v.sameKey v = true := by
  cases v with
  | null => rfl
  | bool b => simp [sameKey, number?, Number.sameValue]
  | int n => simp [sameKey, number?, Number.sameValue]
  | float x =>
    cases x with
    | nan => rfl
    | infinite negative => simp [sameKey, number?, Number.sameValue, Binary64.sameValue]
    | finite negative m e =>
      simp [sameKey, number?, Number.sameValue, Binary64.sameValue, Binary64.fraction?]
  | str s => simp [sameKey]
  | list items => cases h
  | dict fields => cases h

namespace Checkout

variable {repo : Value} {d : Desk Notes}

theorem Board.get?_set_self (b : Board) (h : repo.isHashable = true) (v : Value) :
    (b.set repo v).get? repo = some v := by
  have hself := Value.sameKey_self h
  induction b with
  | nil => simp [Board.set, Board.get?, hself]
  | cons entry rest ih =>
    obtain ⟨key, old⟩ := entry
    simp only [Board.set]
    split
    next hkey => simp [Board.get?, hkey]
    next hkey =>
      rw [← ih]
      simp [Board.get?, hkey]

/-- The fields of an entry that count what was done. -/
structure Account where
  total : Option Value
  processed : Option Value
  failed : Option Value
  status : Option Value

namespace Account

def ofFields (fields : Fields) : Account where
  total := fields.get? "total_files"
  processed := fields.get? "processed"
  failed := fields.get? "failed_files"
  status := fields.get? "status"

/-- The account after a field of its entry was set. -/
def set (a : Account) (key : Text) (v : Value) : Account where
  total := if "total_files" = key then some v else a.total
  processed := if "processed" = key then some v else a.processed
  failed := if "failed_files" = key then some v else a.failed
  status := if "status" = key then some v else a.status

theorem ofFields_set (fields : Fields) (key : Text) (v : Value) :
    ofFields (fields.set key v) = (ofFields fields).set key v := by
  simp [ofFields, set, Fields.get?_set]

@[simp] theorem set_processed (a : Account) (v : Value) :
    a.set "processed" v = { a with processed := some v } := rfl

@[simp] theorem set_failed (a : Account) (v : Value) :
    a.set "failed_files" v = { a with failed := some v } := rfl

@[simp] theorem set_status (a : Account) (v : Value) :
    a.set "status" v = { a with status := some v } := rfl

/-- A field that the account does not count. -/
def IsAside (key : Text) : Prop :=
  ∀ counted ∈ (["total_files", "processed", "failed_files", "status"] : List Text), counted ≠ key

theorem set_of_isAside {key : Text} (h : IsAside key) (a : Account) (v : Value) :
    a.set key v = a := by
  simp [IsAside] at h
  simp [set, h]

end Account

/-- The clones that are known and the folders that exist. -/
structure Stock where
  clones : List (Text × FolderId)
  disk : List (FolderId × Tree)
  made : Nat

def Site.stock (site : Site) : Stock := ⟨site.clones, site.disk, site.made⟩

/-- What is kept of the work for a repository, and how the database reacts to connecting. -/
structure Situation where
  account : Option Account
  uploads : List Upload
  stock : Stock
  connectFault : Option Fault

/-- The account of a repository, if it has an entry with fields. -/
def Board.account (b : Board) (repo : Value) : Option Account :=
  match b.get? repo with
  | some (.dict fields) => some (Account.ofFields fields)
  | _ => none

def situation (repo : Value) (d : Desk Notes) : Situation where
  account := d.notes.site.board.account repo
  uploads := d.notes.log.uploads
  stock := d.notes.site.stock
  connectFault := d.database.connectFault

theorem Board.account_set (b : Board) (h : repo.isHashable = true) (fields : Fields) :
    (b.set repo (.dict fields)).account repo = some (Account.ofFields fields) := by
  simp [Board.account, Board.get?_set_self b h]

@[simp] theorem runOn_site : site.runOn d = (.ok d.notes.site, d) := rfl

@[simp] theorem runOn_changeSite (f : Site → Site) : (changeSite f).runOn d =
    (.ok (), { d with notes := { d.notes with site := f d.notes.site } }) := rfl

/-- The desk with another entry for a repository. -/
def withEntry (repo entry : Value) (d : Desk Notes) : Desk Notes :=
  { d with notes := { d.notes with
      site := { d.notes.site with board := d.notes.site.board.set repo entry } } }

theorem situation_withEntry (h : repo.isHashable = true) (fields : Fields) (d : Desk Notes) :
    situation repo (withEntry repo (.dict fields) d) =
      { situation repo d with account := some (Account.ofFields fields) } := by
  simp [situation, withEntry, Board.account_set _ h, Site.stock]

theorem runOn_setProgress (h : repo.isHashable = true) (fields : Fields) :
    (setProgress repo fields).runOn d = (.ok (), withEntry repo (.dict fields) d) := by
  simp only [setProgress, putEntry, h]
  rfl

theorem setProgress_gives (h : repo.isHashable = true) (fields : Fields) :
    (setProgress repo fields).Gives d fun _ d' =>
      situation repo d' = { situation repo d with account := some (Account.ofFields fields) } :=
  ⟨(), _, runOn_setProgress h fields, situation_withEntry h fields d⟩

/-- The entry of a repository with one field set, where it has an entry with fields. -/
def changedEntry (b : Board) (repo : Value) (key : Text) (v : Value) : Except Fault Value :=
  if repo.isHashable then
    match b.get? repo with
    | some entry => entry.setField key v
    | none => .error (.missingKey repo)
  else .error (.notHashable repo.typeName)

theorem changedEntry_eq_ok {b : Board} {key : Text} {v entry : Value}
    (h : changedEntry b repo key v = .ok entry) : ∃ fields, repo.isHashable = true ∧
      b.get? repo = some (.dict fields) ∧ entry = .dict (Fields.set fields key v) := by
  unfold changedEntry at h
  split at h
  next hrepo =>
    split at h
    next old hget =>
      cases old with
      | dict fields =>
        cases h
        exact ⟨fields, hrepo, hget, rfl⟩
      | _ => cases h
    · cases h
  · cases h

theorem runOn_setField (key : Text) (v : Value) : (setField repo key v).runOn d =
    match changedEntry d.notes.site.board repo key v with
    | .ok entry => (.ok (), withEntry repo entry d)
    | .error fault => (.error fault, d) := by
  unfold setField changedEntry progress
  cases hhash : repo.isHashable with
  | false => simp
  | true =>
    cases hget : d.notes.site.board.get? repo with
    | none => simp [Work.runOn_bind, hget]
    | some entry =>
      cases hset : entry.setField key v with
      | error fault => simp [Work.runOn_bind, hget, hset]
      | ok new => simp [Work.runOn_bind, hget, hset, withEntry]

theorem account_eq_some {b : Board} {a : Account} (h : b.account repo = some a) :
    ∃ fields, b.get? repo = some (.dict fields) ∧ a = Account.ofFields fields := by
  unfold Board.account at h
  split at h
  next fields hget => exact ⟨fields, hget, (Option.some.inj h).symm⟩
  · cases h

theorem setField_gives (hrepo : repo.isHashable = true) {a : Account}
    (h : (situation repo d).account = some a) (key : Text) (v : Value) :
    (setField repo key v).Gives d fun _ d' =>
      situation repo d' = { situation repo d with account := some (a.set key v) } := by
  obtain ⟨fields, hget, rfl⟩ := account_eq_some h
  refine ⟨(), withEntry repo (.dict (Fields.set fields key v)) d, ?_, ?_⟩
  · rw [runOn_setField]
    simp [changedEntry, hrepo, hget, Value.setField]
  · rw [← Account.ofFields_set]
    exact situation_withEntry hrepo _ d

theorem setField_leaves {key : Text} (hkey : Account.IsAside key) (v : Value) :
    (setField repo key v).Leaves (situation repo) := by
  intro d
  rw [runOn_setField]
  cases hentry : changedEntry d.notes.site.board repo key v with
  | error fault => rfl
  | ok entry =>
    obtain ⟨fields, hrepo, hget, rfl⟩ := changedEntry_eq_ok hentry
    have haccount : (situation repo d).account = some (Account.ofFields fields) := by
      simp [situation, Board.account, hget]
    show situation repo (withEntry repo _ d) = _
    rw [situation_withEntry hrepo, Account.ofFields_set, Account.set_of_isAside hkey, ← haccount]

/-- The work has a result and leaves the situation of the repository as it was. -/
abbrev Settles {α : Type} (repo : Value) (w : Job α) (d : Desk Notes) : Prop :=
  w.Gives d fun _ d' => situation repo d' = situation repo d

theorem setField_settles (hrepo : repo.isHashable = true) {a : Account}
    (h : (situation repo d).account = some a) {key : Text} (hkey : Account.IsAside key)
    (v : Value) : Settles repo (setField repo key v) d := by
  refine (setField_gives hrepo h key v).mono fun _ d' h' => ?_
  rw [h', Account.set_of_isAside hkey, ← h]

theorem message_isAside : Account.IsAside "message" := by
  unfold Account.IsAside
  decide

theorem currentFile_isAside : Account.IsAside "current_file" := by
  unfold Account.IsAside
  decide

theorem setMessage_leaves (message : Text) : (setMessage repo message).Leaves (situation repo) :=
  setField_leaves message_isAside _

theorem setMessage_settles (hrepo : repo.isHashable = true) {a : Account}
    (h : (situation repo d).account = some a) (message : Text) :
    Settles repo (setMessage repo message) d := setField_settles hrepo h message_isAside _

theorem setStatus_gives (hrepo : repo.isHashable = true) {a : Account}
    (h : (situation repo d).account = some a) (status message : Text) :
    (setStatus repo status message).Gives d fun _ d' => situation repo d' =
      { situation repo d with account := some { a with status := some (.str status) } } := by
  refine (setField_gives hrepo h "status" (.str status)).bind fun _ d₁ h₁ => ?_
  refine (setMessage_settles hrepo (by rw [h₁]) message).mono fun _ d₂ h₂ => ?_
  rw [h₂, h₁, Account.set_status]

theorem print_settles (repo : Value) (s : Text) : Settles repo (print s) d := ⟨(), _, rfl, rfl⟩

theorem print_leaves (s : Text) : (print s).Leaves (situation repo) := fun _ => rfl

theorem sleep_settles (repo : Value) (seconds : Nat) : Settles repo (sleep seconds) d :=
  ⟨(), _, rfl, rfl⟩

theorem sleep_leaves (seconds : Nat) : (sleep seconds).Leaves (situation repo) := fun _ => rfl

theorem situation_seesNoQueries (repo : Value) : Work.SeesNoQueries (situation repo) :=
  fun _ _ => rfl

theorem connect_leaves (c : Credentials) :
    (Work.connect c : Job Unit).Leaves (situation repo) := fun d => by
  rw [Work.runOn_connect]
  cases h : d.database.connectFault <;> simp [Database.connect, h, situation]

theorem connect_settles (repo : Value) (h : d.database.connectFault = none) (c : Credentials) :
    Settles repo (Work.connect c : Job Unit) d :=
  ⟨(), ((Work.connect c : Job Unit).runOn d).2, by rw [Work.runOn_connect]; simp [Database.connect, h],
    connect_leaves c d⟩

theorem connect_fails (repo : Value) {fault : Fault} (h : d.database.connectFault = some fault)
    (c : Credentials) : (Work.connect c : Job Unit).Ends d fun r d' =>
      r = .error fault ∧ situation repo d' = situation repo d :=
  ⟨by rw [Work.runOn_connect]; simp [Database.connect, h], connect_leaves c d⟩

end Checkout

end CodeAtlas
