import CodeAtlas.Chat.Service
import CodeAtlas.Proofs.SearchQueries
import CodeAtlas.Proofs.SplitLaws
import CodeAtlas.Proofs.WorkContract

/-! A search that is broken off by the database is a beginning of the search that is not. Two
databases answer alike until the first of them fails; up to there the two searches go side by side,
and from there on only one of them goes on, which takes back nothing. -/
namespace CodeAtlas

namespace Database

/-- The databases answer the first `n` queries alike, and the next one ends in a fault of the
first. -/
structure FailsAfter (n : Nat) (db db' : Database) : Prop where
  alike : ∀ i < n, db.answerAt i = db'.answerAt i
  fails : ∃ fault, db.answerAt n = .error fault

theorem FailsAfter.after {n : Nat} {db db' : Database} (h : FailsAfter n db db')
    {qs : List Query} (hqs : qs.length ≤ n) :
    FailsAfter (n - qs.length) (db.after qs) (db'.after qs) := by
  constructor
  · intro i hi
    rw [answerAt_after, answerAt_after]
    exact h.alike _ (by omega)
  · rw [answerAt_after, Nat.add_sub_cancel' hqs]
    exact h.fails

end Database

namespace Graph.Search

variable {α : Type} {P : Query → Prop} {w : Search α} {n : Nat} {db db' : Database}
  {lines : List Text}

/-- How a search on `db` goes beside the same search on `db'`. -/
inductive BreaksOff (n : Nat) (db db' : Database) (lines : List Text) (w : Search α) : Prop where
  /-- Both come to the same end within `n` queries. -/
  | same (r : Except Fault α) (qs : List Query) (new : List Text) (hqs : qs.length ≤ n)
      (hrun : w.runOn ⟨db, lines⟩ = (r, ⟨db.after qs, lines ++ new⟩))
      (hrun' : w.runOn ⟨db', lines⟩ = (r, ⟨db'.after qs, lines ++ new⟩))
  /-- The first is broken off, and the other goes on. -/
  | broken (fault : Fault) (r : Except Fault α) (qs qs' : List Query) (new new' : List Text)
      (hrun : w.runOn ⟨db, lines⟩ = (.error fault, ⟨db.after qs, lines ++ new⟩))
      (hrun' : w.runOn ⟨db', lines⟩ = (r, ⟨db'.after (qs ++ qs'), lines ++ (new ++ new')⟩))

namespace Composed

/-- A search only adds to what was asked and to what was gathered. -/
theorem adds (hw : Composed P w) (db : Database) (lines : List Text) :
    ∃ r qs new, w.runOn ⟨db, lines⟩ = (r, ⟨db.after qs, lines ++ new⟩) := by
  induction hw generalizing db lines with
  | lift x => exact ⟨x, [], [], by simp⟩
  | gather line => exact ⟨.ok (), [], [line], by simp⟩
  | @ask q _ => exact ⟨db.answerAt 0, [q], [], by simp [Work.runOn_ask]⟩
  | bind _ _ ihw ihk =>
    obtain ⟨r, qs, new, hrun⟩ := ihw db lines
    cases r with
    | error fault => exact ⟨.error fault, qs, new, Work.runOn_bind_error hrun⟩
    | ok a =>
      obtain ⟨r', qs', new', hrun'⟩ := ihk a (db.after qs) (lines ++ new)
      refine ⟨r', qs ++ qs', new ++ new', ?_⟩
      rw [Work.runOn_bind_ok hrun, hrun']
      simp

theorem ask_breaksOff (h : db.FailsAfter n db') (q : Query) (lines : List Text) :
    BreaksOff n db db' lines (Work.ask q) := by
  cases n with
  | zero =>
    obtain ⟨fault, hfault⟩ := h.fails
    apply BreaksOff.broken fault (db'.answerAt 0) [q] [] [] []
    · simp [Work.runOn_ask, hfault]
    · simp [Work.runOn_ask]
  | succ n =>
    apply BreaksOff.same (db'.answerAt 0) [q] [] (by simp)
    · simp [Work.runOn_ask, h.alike 0 (Nat.succ_pos n)]
    · simp [Work.runOn_ask]

theorem bind_breaksOff {β : Type} {k : α → Search β} (hw : BreaksOff n db db' lines w)
    (hk : ∀ a qs new, qs.length ≤ n →
      BreaksOff (n - qs.length) (db.after qs) (db'.after qs) (lines ++ new) (k a))
    (hadds : ∀ a db lines, ∃ r qs new,
      (k a).runOn ⟨db, lines⟩ = (r, ⟨db.after qs, lines ++ new⟩)) :
    BreaksOff n db db' lines (w >>= k) := by
  cases hw with
  | same r qs new hqs hrun hrun' =>
    cases r with
    | error fault =>
      exact .same _ qs new hqs (Work.runOn_bind_error hrun) (Work.runOn_bind_error hrun')
    | ok a =>
      cases hk a qs new hqs with
      | same r₂ qs₂ new₂ hqs₂ hrun₂ hrun₂' =>
        apply BreaksOff.same r₂ (qs ++ qs₂) (new ++ new₂)
        · rw [List.length_append]
          omega
        · simp [Work.runOn_bind_ok hrun, hrun₂]
        · simp [Work.runOn_bind_ok hrun', hrun₂']
      | broken fault r₂ qs₂ qs₂' new₂ new₂' hrun₂ hrun₂' =>
        apply BreaksOff.broken fault r₂ (qs ++ qs₂) qs₂' (new ++ new₂) new₂'
        · simp [Work.runOn_bind_ok hrun, hrun₂]
        · simp [Work.runOn_bind_ok hrun', hrun₂']
  | broken fault r qs qs' new new' hrun hrun' =>
    cases r with
    | error fault' =>
      exact .broken fault _ qs qs' new new' (Work.runOn_bind_error hrun)
        (Work.runOn_bind_error hrun')
    | ok a =>
      -- The first search is over, and all the second one does from here on is to add.
      obtain ⟨r₂, qs₂, new₂, hrun₂⟩ := hadds a (db'.after (qs ++ qs')) (lines ++ (new ++ new'))
      apply BreaksOff.broken fault r₂ qs (qs' ++ qs₂) new (new' ++ new₂)
        (Work.runOn_bind_error hrun)
      simp [Work.runOn_bind_ok hrun', hrun₂]

theorem breaksOff (hw : Composed P w) (h : db.FailsAfter n db') (lines : List Text) :
    BreaksOff n db db' lines w := by
  induction hw generalizing n db db' lines with
  | lift x => exact .same x [] [] (Nat.zero_le n) (by simp) (by simp)
  | gather line =>
    exact .same (.ok ()) [] [line] (Nat.zero_le n) (by simp) (by simp)
  | ask _ => exact ask_breaksOff h _ lines
  | bind _ hk ihw ihk =>
    apply bind_breaksOff (ihw h lines)
    · intro a qs new hqs
      exact ihk a (h.after hqs) (lines ++ new)
    · intro a
      exact (hk a).adds

end Composed

/-- The text of what was gathered grows at its end, once there is anything. -/
theorem report_prefix {xs ys : List Text} (h : xs <+: ys) :
    report xs = "No specific context found in the graph." ∨ report xs <+: report ys := by
  cases xs with
  | nil => exact .inl rfl
  | cons x xs =>
    obtain ⟨more, rfl⟩ := h
    exact .inr (Text.intercalate_prefix _ (by simp) (List.prefix_append _ _))

end Graph.Search

namespace Graph

open Search (gathered report)

/-- A search whose database fails after it has answered `n` queries asks and gathers a beginning of
what it would have asked and gathered, and reports a beginning of what it would have reported unless
there is nothing to report yet. Whatever the database does, a request that makes the search gets the
report. -/
theorem broken_search_is_prefix (embedding question : Value) {n : Nat} {db db' : Database}
    (h : db.FailsAfter n db') (hasked : db.asked = db'.asked) :
    (retrieve embedding question db).2.asked <+: (retrieve embedding question db').2.asked ∧
    gathered embedding question db <+: gathered embedding question db' ∧
    (∀ (script : Database) (notes : Chat.Notes),
      (Work.aside (Search.all embedding question) [] : Chat.Job _).Gives ⟨script, notes⟩
        fun found d => found.2 = gathered embedding question script ∧
          (report found.2, d.database) = retrieve embedding question script ∧ d.notes = notes) ∧
    ((retrieve embedding question db).1 = "No specific context found in the graph." ∨
      (retrieve embedding question db).1 <+: (retrieve embedding question db').1) := by
  have hbegins : (retrieve embedding question db).2.asked <+:
      (retrieve embedding question db').2.asked ∧
        gathered embedding question db <+: gathered embedding question db' := by
    unfold retrieve gathered
    cases (Search.all_composed embedding question).breaksOff h [] with
    | same r qs new hqs hrun hrun' => simp [hrun, hrun', Database.after, hasked]
    | broken fault r qs qs' new new' hrun hrun' => simp [hrun, hrun', Database.after, hasked]
  refine ⟨hbegins.1, hbegins.2, fun script notes => ?_, Search.report_prefix hbegins.2⟩
  exact ⟨_, _, Work.runOn_aside _ _ _, rfl, rfl, rfl⟩

/-- A database that finds a function near a question and then answers as given. -/
def functionGraph (traversal : Answer) : Database :=
  { Database.barren with answers := [.ok [[("name", .str "f"), ("filePath", .str "a.py")]], .ok [],
      traversal] }

/-- The traversal from the function fails, or it finds another one. -/
theorem functionGraph_failsAfter : Database.FailsAfter 2
    (functionGraph (.error (.service .databaseError "boom")))
    (functionGraph (.ok [[("name", .str "g")]])) where
  alike i hi := by
    obtain rfl | rfl : i = 0 ∨ i = 1 := by omega
    · rfl
    · rfl
  fails := ⟨_, rfl⟩

theorem broken_search_is_prefix_sample :
    (gathered .null .null (functionGraph (.error (.service .databaseError "boom")))).length = 1 ∧
    (gathered .null .null (functionGraph (.ok [[("name", .str "g")]]))).length = 2 ∧
    (retrieve .null .null (functionGraph (.error (.service .databaseError "boom")))).1 <+:
      (retrieve .null .null (functionGraph (.ok [[("name", .str "g")]]))).1 := by
  obtain ⟨-, -, -, hnothing | hreport⟩ :=
    broken_search_is_prefix .null .null functionGraph_failsAfter rfl
  · exact absurd hnothing (by decide +kernel)
  · exact ⟨by decide +kernel, by decide +kernel, hreport⟩

end Graph

end CodeAtlas
