import CodeAtlas.Checkout.Poll
import CodeAtlas.Proofs.BoardSteps
import Mathlib.Order.Bounds.Basic
import Mathlib.Order.Nat

/-! Polling on a schedule. What one poll keeps, all the polls of a schedule keep; and if each poll
reads its result off the answers of the database, these say how many polls there are. -/
namespace CodeAtlas.Checkout

variable {ω : Type} {d : Desk Notes}

/-- The desk after a pause. -/
def napped (seconds : Nat) (d : Desk Notes) : Desk Notes := ((sleep seconds).runOn d).2

namespace Schedule

variable {s : Schedule} {poll : ω → Job (Option ω)} {elapsed : Nat} {w : ω}

theorem pollFrom_of_le (h : s.limit ≤ elapsed) : s.pollFrom poll elapsed w = pure false := by
  rw [pollFrom, if_neg (by omega)]

theorem runOn_pollFrom_none {d' : Desk Notes} (h : elapsed < s.limit)
    (hpoll : (poll w).runOn d = (.ok none, d')) :
    (s.pollFrom poll elapsed w).runOn d = (.ok true, d') := by
  rw [pollFrom, if_pos h, Work.runOn_bind_ok hpoll]
  rfl

theorem runOn_pollFrom_some {w' : ω} {d' : Desk Notes} (h : elapsed < s.limit)
    (hpoll : (poll w).runOn d = (.ok (some w'), d')) : (s.pollFrom poll elapsed w).runOn d =
      (s.pollFrom poll (elapsed + s.pause) w').runOn (napped s.pause d') := by
  rw [pollFrom, if_pos h, Work.runOn_bind_ok hpoll]
  rfl

theorem pollFrom_leaves {τ : Type} {view : Desk Notes → τ} (hpoll : ∀ w, (poll w).Leaves view)
    (hnap : (sleep s.pause).Leaves view) (elapsed : Nat) (w : ω) :
    (s.pollFrom poll elapsed w).Leaves view := by
  induction elapsed, w using pollFrom.induct s with
  | case1 elapsed w h ih =>
    rw [pollFrom, if_pos h]
    refine (hpoll w).bind fun next => ?_
    cases next with
    | none => exact .pure _
    | some w' => exact hnap.bind fun _ => ih w'
  | case2 elapsed w h =>
    rw [pollFrom_of_le (by omega)]
    exact .pure _

/-- What holds before each poll holds until one leaves nothing to go on with. -/
theorem pollFrom_gives {I Q : Desk Notes → Prop}
    (hpoll : ∀ w d, I d → (poll w).Gives d fun next d' => if next.isNone then Q d' else I d')
    (hnap : ∀ d, I d → I (napped s.pause d)) (elapsed : Nat) (w : ω) (hd : I d) :
    (s.pollFrom poll elapsed w).Gives d fun found d' => if found then Q d' else I d' := by
  induction elapsed, w using pollFrom.induct s generalizing d with
  | case1 elapsed w h ih =>
    obtain ⟨next, d', hrun, hnext⟩ := hpoll w d hd
    cases next with
    | none => exact ⟨true, d', runOn_pollFrom_none h hrun, hnext⟩
    | some w' =>
      obtain ⟨found, d'', hrest, hfound⟩ := ih w' (hnap d' hnext)
      exact ⟨found, d'', (runOn_pollFrom_some h hrun).trans hrest, hfound⟩
  | case2 elapsed w h =>
    rw [pollFrom_of_le (by omega)]
    exact Work.Gives.pure hd

/-- Polls none of which says that there is nothing to go on with. -/
theorem pollFrom_never {I : Desk Notes → Prop}
    (hpoll : ∀ w d, I d → (poll w).Ends d fun next d' => I d' ∧ next ≠ .ok none)
    (hnap : ∀ d, I d → I (napped s.pause d)) (elapsed : Nat) (w : ω) (hd : I d) :
    (s.pollFrom poll elapsed w).Ends d fun found d' => I d' ∧ found ≠ .ok true := by
  induction elapsed, w using pollFrom.induct s generalizing d with
  | case1 elapsed w h ih =>
    rw [pollFrom, if_pos h]
    apply (hpoll w d hd).bind
    · intro next d' hnext
      cases next with
      | none => exact absurd rfl hnext.2
      | some w' => exact .bind_of_ok rfl (ih w' (hnap d' hnext.1))
    · intro fault d' hfault
      exact ⟨hfault.1, by simp⟩
  | case2 elapsed w h =>
    rw [pollFrom_of_le (by omega)]
    exact ⟨hd, by simp⟩

/-- The number of polls for which there is time left. -/
def rounds (s : Schedule) (elapsed : Nat) : Nat := (s.limit - elapsed + s.pause - 1) / s.pause

theorem rounds_of_le (h : s.limit ≤ elapsed) : s.rounds elapsed = 0 := by
  have := s.pause_pos
  exact Nat.div_eq_of_lt (by omega)

theorem rounds_of_lt (h : elapsed < s.limit) :
    s.rounds elapsed = s.rounds (elapsed + s.pause) + 1 := by
  have hpos := s.pause_pos
  have hsum : s.limit - elapsed + s.pause - 1 = s.limit - elapsed - 1 + s.pause := by omega
  rw [rounds, hsum, Nat.add_div_right _ hpos]
  by_cases hlast : s.limit ≤ elapsed + s.pause
  · rw [rounds_of_le hlast, Nat.div_eq_of_lt (by omega)]
  · rw [rounds]
    congr 2
    omega

end Schedule

/-- The number of polls when at most `bound` are made and the first that finds something is the last:
with `i` polls before that one it is the lesser of `bound` and `i + 1`, and `bound` if there is none. -/
def IsPollCount (bound : Nat) (found : Nat → Prop) (n : Nat) : Prop :=
  (∃ i, IsLeast {i | found i} i ∧ n = min bound (i + 1)) ∨ (∀ i, ¬ found i) ∧ n = bound

namespace IsPollCount

variable {bound n : Nat} {found : Nat → Prop}

theorem zero (found : Nat → Prop) : IsPollCount 0 found 0 := by
  classical
  by_cases h : ∃ i, found i
  · exact .inl ⟨_, Nat.isLeast_find h, by simp⟩
  · exact .inr ⟨not_exists.mp h, rfl⟩

theorem first (h : found 0) : IsPollCount (bound + 1) found 1 :=
  .inl ⟨0, ⟨h, fun _ _ => Nat.zero_le _⟩, by omega⟩

theorem later (h : ¬ found 0) (hrest : IsPollCount bound (fun i => found (i + 1)) n) :
    IsPollCount (bound + 1) found (n + 1) := by
  obtain ⟨i, hi, rfl⟩ | ⟨hnone, rfl⟩ := hrest
  · refine .inl ⟨i + 1, ⟨hi.1, ?_⟩, by omega⟩
    intro j hj
    cases j with
    | zero => exact absurd hj h
    | succ j => exact Nat.succ_le_succ (hi.2 hj)
  · refine .inr ⟨fun i => ?_, rfl⟩
    cases i with
    | zero => exact h
    | succ i => exact hnone i

theorem eq_succ (h : IsPollCount bound found n) {i : Nat} (hi : found i)
    (hbefore : ∀ j < i, ¬ found j) (hbound : i < bound) : n = i + 1 := by
  have hleast : IsLeast {i | found i} i :=
    ⟨hi, fun j hj => Nat.le_of_not_lt fun hlt => hbefore j hlt hj⟩
  obtain ⟨k, hk, rfl⟩ | ⟨hnone, -⟩ := h
  · rw [hk.unique hleast]
    omega
  · exact absurd hi (hnone i)

theorem eq_bound (h : IsPollCount bound found n) (hnone : ∀ i < bound, ¬ found i) : n = bound := by
  obtain ⟨k, hk, rfl⟩ | ⟨-, rfl⟩ := h
  · have hlate : ¬ k < bound := fun hlt => hnone k hlt hk.1
    omega
  · rfl

end IsPollCount

/-- Polls made one after the other, given by the queries of each. After a poll that goes on there is a
pause, and a poll that leaves nothing to go on with is the last one. -/
inductive Polls (poll : ω → Job (Option ω)) (pause : Nat) :
    List (List Query) → ω → Desk Notes → Desk Notes → Prop where
  | none (w : ω) (d : Desk Notes) : Polls poll pause [] w d d
  | last {w : ω} {d d' : Desk Notes} (ends : (poll w).runOn d = (.ok none, d')) :
      Polls poll pause [(poll w).queriesOf d] w d d'
  | more {w w' : ω} {d d₁ d₂ : Desk Notes} {rest : List (List Query)}
      (goesOn : (poll w).runOn d = (.ok (some w'), d₁))
      (rest_polls : Polls poll pause rest w' (napped pause d₁) d₂) :
      Polls poll pause ((poll w).queriesOf d :: rest) w d d₂

end CodeAtlas.Checkout

namespace CodeAtlas.Database

/-- The count in the first row of an answer; an answer without a row, or with an empty one, counts
nothing. -/
def countIn (name : Text) (answer : Answer) : Except Fault Value := do
  match (← answer).head? with
  | none | some [] => return .int 0
  | some row => (Value.dict row).field name

/-- Whether an answer counts anything under the given name. -/
def countsAny (name : Text) (answer : Answer) : Except Fault Bool := do
  (← countIn name answer).isPositive

/-- What a poll comes to that asks for a count under each of the names and is answered from the `n`-th
answer of the script on: the number of its queries, and whether it finds something. The first answer
that counts something or is a fault is the last. -/
def pollAt (script : Nat → Answer) : List Text → Nat → Nat × Bool
  | [], _ => (0, false)
  | name :: names, n =>
    match countsAny name (script n) with
    | .error _ => (1, false)
    | .ok true => (1, true)
    | .ok false => ((pollAt script names (n + 1)).1 + 1, (pollAt script names (n + 1)).2)

/-- The same for a poll that needs a session first. -/
def sessionAt (db : Database) (names : List Text) (n : Nat) : Nat × Bool :=
  if db.sessionFault.isSome then (0, false) else pollAt db.answerAt names n

/-- The number of queries that `i` polls ask, if one that starts at the `n`-th answer comes to
`poll n`. -/
def queriesBefore (poll : Nat → Nat × Bool) : Nat → Nat
  | 0 => 0
  | i + 1 => queriesBefore poll i + (poll (queriesBefore poll i)).1

/-- The poll that comes after `i` others finds something. -/
def Finds (db : Database) (names : List Text) (i : Nat) : Prop :=
  (db.sessionAt names (queriesBefore (db.sessionAt names) i)).2 = true

variable {db : Database} {names : List Text}

theorem pollAt_shift (script : Nat → Answer) (k n : Nat) :
    pollAt (fun n => script (k + n)) names n = pollAt script names (k + n) := by
  induction names generalizing n with
  | nil => rfl
  | cons name names ih => simp only [pollAt, ih, Nat.add_assoc]

theorem sessionAt_after (qs : List Query) (n : Nat) :
    (db.after qs).sessionAt names n = db.sessionAt names (qs.length + n) := by
  have hscript : (db.after qs).answerAt = fun n => db.answerAt (qs.length + n) :=
    funext fun n => answerAt_after qs n
  rw [sessionAt, sessionAt, hscript, pollAt_shift]
  rfl

theorem pollAt_le (script : Nat → Answer) (n : Nat) :
    (pollAt script names n).1 ≤ names.length := by
  induction names generalizing n with
  | nil => exact Nat.le_refl 0
  | cons name names ih =>
    have hrest := ih (n + 1)
    simp only [pollAt, List.length_cons]
    rcases countsAny name (script n) with _ | _ | _
    · exact Nat.le_add_left 1 _
    · exact Nat.succ_le_succ hrest
    · exact Nat.le_add_left 1 _

theorem sessionAt_le (n : Nat) : (db.sessionAt names n).1 ≤ names.length := by
  rw [sessionAt]
  split
  · exact Nat.zero_le _
  · exact pollAt_le _ _

/-- Polls after the first one are those of the database once it has answered the first. -/
theorem queriesBefore_after {qs : List Query} (h : qs.length = (db.sessionAt names 0).1) (i : Nat) :
    qs.length + queriesBefore ((db.after qs).sessionAt names) i =
      queriesBefore (db.sessionAt names) (i + 1) := by
  induction i with
  | zero => simp [queriesBefore, h]
  | succ i ih => rw [queriesBefore, queriesBefore, ← ih, sessionAt_after, Nat.add_assoc]

theorem finds_after {qs : List Query} (h : qs.length = (db.sessionAt names 0).1) (i : Nat) :
    (db.after qs).Finds names i ↔ db.Finds names (i + 1) := by
  rw [Finds, Finds, sessionAt_after, queriesBefore_after h]

/-- What the polls find does not depend on the connections made so far. -/
theorem finds_connect (c : Credentials) : (db.connect c).2.Finds names = db.Finds names := by
  have hsession : (db.connect c).2.sessionAt names = db.sessionAt names := by
    unfold connect
    cases db.connectFault with
    | none => rfl
    | some fault => rfl
  unfold Finds
  rw [hsession]

end CodeAtlas.Database

namespace CodeAtlas.Checkout

variable {ω : Type} {d : Desk Notes}

/-- As long as `I` holds, a poll asks the queries one by one for counts under the names, up to the first
answer that counts something or is a fault; it always has a result, and it leaves nothing to go on with
if something was counted. -/
def ReadsCounts (I : Desk Notes → Prop) (names : List Text) (queries : List Query)
    (poll : ω → Job (Option ω)) : Prop :=
  ∀ w d, I d → (poll w).Gives d fun next d' => I d' ∧
    d'.database = d.database.after (queries.take (d.database.sessionAt names 0).1) ∧
    (next = none ↔ d.database.Finds names 0)

theorem queriesOf_eq_of_after {α : Type} {job : Job α} {r : Except Fault α} {d' : Desk Notes}
    {qs : List Query} (hrun : job.runOn d = (r, d')) (h : d'.database = d.database.after qs) :
    job.queriesOf d = qs := by
  rw [Work.queriesOf, hrun, h]
  exact List.drop_left

/-- The polls of a schedule, and how many they are by the answers of the database. -/
theorem Schedule.pollFrom_polls {s : Schedule} {I : Desk Notes → Prop} {names : List Text}
    {queries : List Query} {poll : ω → Job (Option ω)} (hreads : ReadsCounts I names queries poll)
    (hnames : names.length = queries.length) (hnap : ∀ d, I d → I (napped s.pause d))
    (elapsed : Nat) (w : ω) (hd : I d) :
    (s.pollFrom poll elapsed w).Gives d fun _ d' => ∃ polls, I d' ∧
      Polls poll s.pause polls w d d' ∧
      IsPollCount (s.rounds elapsed) (d.database.Finds names) polls.length ∧
      ∀ qs ∈ polls, qs <+: queries := by
  induction elapsed, w using pollFrom.induct s generalizing d with
  | case1 elapsed w h ih =>
    obtain ⟨next, d₁, hrun, hd₁, hdatabase, hnext⟩ := hreads w d hd
    have hqueries := queriesOf_eq_of_after hrun hdatabase
    have hstart : (poll w).queriesOf d <+: queries := hqueries ▸ List.take_prefix _ _
    rw [rounds_of_lt h]
    cases next with
    | none =>
      have hpolls : Polls poll s.pause _ w d d₁ := .last hrun
      refine ⟨true, d₁, runOn_pollFrom_none h hrun, _, hd₁, hpolls, ?_, ?_⟩
      · exact .first (hnext.mp rfl)
      · simpa using hstart
    | some w' =>
      obtain ⟨found, d₂, hrest, polls, hd₂, hpolls, hcount, hstarts⟩ := ih w' (hnap d₁ hd₁)
      -- the polls that follow are answered from where the first one stopped
      have hlength : (queries.take (d.database.sessionAt names 0).1).length =
          (d.database.sessionAt names 0).1 := by
        have hle : (d.database.sessionAt names 0).1 ≤ names.length := Database.sessionAt_le 0
        rw [List.length_take]
        omega
      have hfinds : (napped s.pause d₁).database.Finds names =
          fun i => d.database.Finds names (i + 1) := by
        funext i
        exact hdatabase ▸ propext (Database.finds_after hlength i)
      rw [hfinds] at hcount
      refine ⟨found, d₂, (runOn_pollFrom_some h hrun).trans hrest, _, hd₂, .more hrun hpolls, ?_, ?_⟩
      · exact .later (fun hfound => by cases hnext.mpr hfound) hcount
      · simpa using ⟨hstart, hstarts⟩
  | case2 elapsed w h =>
    have hover : s.limit ≤ elapsed := Nat.le_of_not_lt h
    rw [pollFrom_of_le hover, rounds_of_le hover]
    exact Work.Gives.pure ⟨[], hd, .none w d, .zero _, by simp⟩

end CodeAtlas.Checkout
