import CodeAtlas.Pattern

/-! What a pattern matches, apart from the search for it. The search with a continuation tries the
places where a match can end one after another; here they are listed in that order, and what each
form of pattern reads on its way to them is said. -/
namespace CodeAtlas

namespace Place

variable {p q r : Place} {s t : Text}

/-- Reading `s` leads from `p` to `q`. -/
structure Reads (p : Place) (s : Text) (q : Place) : Prop where
  after : p.after = s ++ q.after
  before : q.before = s.reverse ++ p.before

namespace Reads

theorem refl (p : Place) : p.Reads [] p := ⟨rfl, rfl⟩

theorem eq_of_nil (h : p.Reads [] q) : q = p := by
  obtain ⟨hafter, hbefore⟩ := h
  cases p
  cases q
  simp_all

theorem cons (x : CodePoint) (before after : Text) :
    Reads ⟨before, x :: after⟩ [x] ⟨x :: before, after⟩ := ⟨rfl, rfl⟩

theorem trans (h : p.Reads s q) (h' : q.Reads t r) : p.Reads (s ++ t) r where
  after := by rw [h.after, h'.after, List.append_assoc]
  before := by rw [h'.before, h.before, List.reverse_append, List.append_assoc]

theorem exists_of_append (h : p.Reads (s ++ t) r) : ∃ q, p.Reads s q ∧ q.Reads t r := by
  refine ⟨⟨s.reverse ++ p.before, t ++ r.after⟩, ⟨?_, rfl⟩, ⟨rfl, ?_⟩⟩
  · rw [h.after, List.append_assoc]
  · rw [h.before, List.reverse_append, List.append_assoc]

theorem of_cons {x y : CodePoint} {before after : Text}
    (h : Reads ⟨before, x :: after⟩ (y :: s) q) : x = y ∧ Reads ⟨x :: before, after⟩ s q := by
  obtain ⟨rfl, hafter⟩ : x = y ∧ after = s ++ q.after := by simpa using h.after
  exact ⟨rfl, hafter, by simp [h.before]⟩

theorem text_eq (h : p.Reads s q) : q.text = p.text := by
  rw [text, text, h.before, h.after]
  simp

theorem upTo_eq (h : p.Reads s q) : p.upTo q = s := by
  rw [upTo, offset, offset, h.before, h.after]
  simp

theorem offset_eq (h : p.Reads s q) : q.offset = p.offset + s.length := by
  rw [offset, offset, h.before, List.length_append, List.length_reverse, Nat.add_comm]

theorem unique (h : p.Reads s q) (h' : p.Reads t q) : s = t := by rw [← h.upTo_eq, h'.upTo_eq]

end Reads

end Place

namespace Pattern

variable {α : Type} {mode : Mode} {p q r : Place} {a b : Pattern} {c : CharClass} {least : Nat}
  {s : Text}

/-- The places where a run of at least `least` code points can end, the farthest first. -/
def runEnds (ok : CodePoint → Bool) : Nat → Text → Text → List Place
  | least, before, [] => if least = 0 then [⟨before, []⟩] else []
  | least, before, c :: cs =>
    (if ok c then runEnds ok (least - 1) (c :: before) cs else []) ++
      if least = 0 then [⟨before, c :: cs⟩] else []

/-- The places where a match that starts at a place can end, in the order in which they are
tried. -/
def ends (mode : Mode) : Pattern → Place → List Place
  | .empty, p => [p]
  | .one c, p =>
    match p.after with
    | [] => []
    | x :: rest => if c.holds mode.foldCase x then [⟨x :: p.before, rest⟩] else []
  | .seq a b, p => (a.ends mode p).flatMap (b.ends mode)
  | .alt a b, p => a.ends mode p ++ b.ends mode p
  | .run c least, p => runEnds (c.holds mode.foldCase) least p.before p.after
  | .shortRun c least, p => (runEnds (c.holds mode.foldCase) least p.before p.after).reverse
  | .lineStart, p => if atLineStart p then [p] else []
  | .ending, p => if atEnding mode p then [p] else []
  | .wordEdge, p => if atWordEdge p then [p] else []
  | .unless a, p => if (a.ends mode p).isEmpty then [p] else []

theorem findSome?_ite (cond : Prop) [Decidable cond] (k : Place → Option α) (p : Place) :
    (if cond then [p] else []).findSome? k = if cond then k p else none := by
  split
  · cases hk : k p <;> simp [hk]
  · rfl

theorem matchRun_eq (ok : CodePoint → Bool) (k : Place → Option α) (least : Nat)
    (before after : Text) :
    matchRun ok k least before after = (runEnds ok least before after).findSome? k := by
  induction after generalizing least before with
  | nil => rw [matchRun, runEnds, findSome?_ite]
  | cons c cs ih =>
    rw [matchRun, runEnds, List.findSome?_append, findSome?_ite, ih]
    by_cases hc : ok c = true
    · rw [if_pos hc, if_pos hc]
      cases (runEnds ok (least - 1) (c :: before) cs).findSome? k <;> rfl
    · rw [if_neg hc, if_neg hc]
      rfl

theorem matchShortRun_eq (ok : CodePoint → Bool) (k : Place → Option α) (least : Nat)
    (before after : Text) :
    matchShortRun ok k least before after =
      (runEnds ok least before after).reverse.findSome? k := by
  induction after generalizing least before with
  | nil =>
    have hone : (runEnds ok least before []).reverse = runEnds ok least before [] := by
      rw [runEnds]
      split <;> rfl
    rw [hone, matchShortRun, runEnds, findSome?_ite]
  | cons c cs ih =>
    have hhere : (if least = 0 then [Place.mk before (c :: cs)] else []).reverse =
        if least = 0 then [Place.mk before (c :: cs)] else [] := by split <;> rfl
    rw [matchShortRun, runEnds, List.reverse_append, hhere, List.findSome?_append, findSome?_ite,
      ih]
    by_cases hc : ok c = true
    · rw [if_pos hc, if_pos hc]
      cases (if least = 0 then k ⟨before, c :: cs⟩ else none) <;> rfl
    · rw [if_neg hc, if_neg hc]
      cases (if least = 0 then k ⟨before, c :: cs⟩ else none) <;> rfl

theorem findSome?_flatMap (f : Place → List Place) (k : Place → Option α) (ps : List Place) :
    (ps.flatMap f).findSome? k = ps.findSome? fun q => (f q).findSome? k := by
  induction ps with
  | nil => rfl
  | cons p ps ih =>
    rw [List.flatMap_cons, List.findSome?_append, List.findSome?_cons, ih]
    cases (f p).findSome? k <;> rfl

/-- A search gives what its continuation makes of the first end that it accepts. -/
theorem matchAt_eq (mode : Mode) (pattern : Pattern) (p : Place) (k : Place → Option α) :
    pattern.matchAt mode p k = (pattern.ends mode p).findSome? k := by
  induction pattern generalizing α p k with
  | empty => cases hk : k p <;> simp [matchAt, ends, hk]
  | one c =>
    obtain ⟨before, after⟩ := p
    cases after with
    | nil => rfl
    | cons x rest => exact (findSome?_ite ..).symm
  | seq a b iha ihb =>
    rw [matchAt, ends, iha, findSome?_flatMap]
    congr 1
    funext q
    exact ihb q k
  | alt a b iha ihb =>
    rw [matchAt, ends, List.findSome?_append, iha, ihb]
    cases (a.ends mode p).findSome? k <;> rfl
  | run c least => exact matchRun_eq ..
  | shortRun c least => exact matchShortRun_eq ..
  | lineStart | ending | wordEdge => rw [matchAt, ends, findSome?_ite]
  | «unless» a ih =>
    rw [matchAt, ends, ih, findSome?_ite]
    cases a.ends mode p <;> rfl

theorem isSome_matchAt_iff {pattern : Pattern} :
    (pattern.matchAt mode p some).isSome = true ↔ ∃ q, q ∈ pattern.ends mode p := by
  rw [matchAt_eq, List.findSome?_isSome_iff]
  simp

section Forms

theorem mem_ends_empty : q ∈ empty.ends mode p ↔ q = p := List.mem_singleton

theorem mem_ends_one :
    q ∈ (one c).ends mode p ↔ ∃ x, c.holds mode.foldCase x = true ∧ p.Reads [x] q := by
  obtain ⟨before, after⟩ := p
  constructor
  · intro h
    cases after with
    | nil => cases h
    | cons x rest =>
      rw [ends] at h
      dsimp only at h
      split at h
      next hx =>
        obtain rfl := List.mem_singleton.mp h
        exact ⟨x, hx, .cons x before rest⟩
      · cases h
  · rintro ⟨x, hx, hafter, hbefore⟩
    obtain ⟨qbefore, qafter⟩ := q
    obtain rfl : after = [x] ++ qafter := hafter
    obtain rfl : qbefore = [x].reverse ++ before := hbefore
    simp [ends, hx]

theorem mem_ends_seq :
    r ∈ (seq a b).ends mode p ↔ ∃ q, q ∈ a.ends mode p ∧ r ∈ b.ends mode q := List.mem_flatMap

theorem mem_ends_append :
    r ∈ (a ++ b).ends mode p ↔ ∃ q, q ∈ a.ends mode p ∧ r ∈ b.ends mode q := List.mem_flatMap

theorem mem_ends_alt :
    q ∈ (alt a b).ends mode p ↔ q ∈ a.ends mode p ∨ q ∈ b.ends mode p := List.mem_append

theorem mem_runEnds {ok : CodePoint → Bool} {before after : Text} :
    q ∈ runEnds ok least before after ↔
      ∃ s, (∀ x ∈ s, ok x = true) ∧ least ≤ s.length ∧ Place.Reads ⟨before, after⟩ s q := by
  -- reading one code point on leaves a run that is one shorter, from the next place
  induction after generalizing least before with
  | nil =>
    rw [runEnds]
    constructor
    · intro h
      split at h
      · obtain rfl := List.mem_singleton.mp h
        exact ⟨[], by simp, by omega, .refl _⟩
      · cases h
    · rintro ⟨s, -, hleast, hreads⟩
      obtain ⟨rfl, -⟩ : s = [] ∧ q.after = [] := by simpa using hreads.after
      have hzero : least = 0 := by simpa using hleast
      rw [if_pos hzero, hreads.eq_of_nil]
      simp
  | cons c cs ih =>
    rw [runEnds, List.mem_append]
    constructor
    · rintro (h | h)
      · split at h
        next hc =>
          obtain ⟨s, hs, hleast, hreads⟩ := ih.mp h
          refine ⟨c :: s, List.forall_mem_cons.mpr ⟨hc, hs⟩, ?_, (Place.Reads.cons ..).trans hreads⟩
          rw [List.length_cons]
          omega
        · cases h
      · split at h
        · obtain rfl := List.mem_singleton.mp h
          exact ⟨[], by simp, by omega, .refl _⟩
        · cases h
    · rintro ⟨s, hs, hleast, hreads⟩
      cases s with
      | nil =>
        have hzero : least = 0 := by simpa using hleast
        rw [hreads.eq_of_nil, if_pos hzero]
        exact .inr (List.mem_singleton_self _)
      | cons x s =>
        obtain ⟨rfl, hrest⟩ := hreads.of_cons
        obtain ⟨hc, hs⟩ := List.forall_mem_cons.mp hs
        rw [if_pos hc]
        refine .inl (ih.mpr ⟨s, hs, ?_, hrest⟩)
        rw [List.length_cons] at hleast
        omega

theorem mem_ends_run :
    q ∈ (run c least).ends mode p ↔ ∃ s, (∀ x ∈ s, c.holds mode.foldCase x = true) ∧
      least ≤ s.length ∧ p.Reads s q := mem_runEnds

theorem mem_ends_shortRun :
    q ∈ (shortRun c least).ends mode p ↔ ∃ s, (∀ x ∈ s, c.holds mode.foldCase x = true) ∧
      least ≤ s.length ∧ p.Reads s q := by
  rw [ends, List.mem_reverse]
  exact mem_runEnds

theorem mem_ite_singleton {cond : Prop} [Decidable cond] :
    q ∈ (if cond then [p] else []) ↔ cond ∧ q = p := by
  split <;> simp_all

theorem mem_ends_lineStart : q ∈ lineStart.ends mode p ↔ atLineStart p = true ∧ q = p :=
  mem_ite_singleton

theorem mem_ends_ending : q ∈ ending.ends mode p ↔ atEnding mode p = true ∧ q = p :=
  mem_ite_singleton

theorem mem_ends_wordEdge : q ∈ wordEdge.ends mode p ↔ atWordEdge p = true ∧ q = p :=
  mem_ite_singleton

theorem mem_ends_unless :
    q ∈ («unless» a).ends mode p ↔ (a.ends mode p).isEmpty = true ∧ q = p := mem_ite_singleton

/-- A text is matched by itself in every mode. -/
theorem mem_ends_text (h : p.Reads s q) : q ∈ (text s).ends mode p := by
  induction s generalizing p with
  | nil => exact mem_ends_empty.mpr h.eq_of_nil
  | cons x s ih =>
    obtain ⟨m, hx, hs⟩ := Place.Reads.exists_of_append (s := [x]) h
    exact mem_ends_seq.mpr ⟨m, mem_ends_one.mpr ⟨x, by simp [CharClass.holds], hx⟩, ih hs⟩

end Forms

/-- A match leads from its start to its end by reading. -/
theorem exists_reads {pattern : Pattern} (h : q ∈ pattern.ends mode p) : ∃ s, p.Reads s q := by
  induction pattern generalizing p q with
  | empty => exact ⟨[], mem_ends_empty.mp h ▸ .refl p⟩
  | one c =>
    obtain ⟨x, -, hreads⟩ := mem_ends_one.mp h
    exact ⟨_, hreads⟩
  | seq a b iha ihb =>
    obtain ⟨m, ha, hb⟩ := mem_ends_seq.mp h
    obtain ⟨s, hs⟩ := iha ha
    obtain ⟨t, ht⟩ := ihb hb
    exact ⟨s ++ t, hs.trans ht⟩
  | alt a b iha ihb =>
    rcases mem_ends_alt.mp h with h | h
    · exact iha h
    · exact ihb h
  | run c least =>
    obtain ⟨s, -, -, hreads⟩ := mem_ends_run.mp h
    exact ⟨s, hreads⟩
  | shortRun c least =>
    obtain ⟨s, -, -, hreads⟩ := mem_ends_shortRun.mp h
    exact ⟨s, hreads⟩
  | lineStart => exact ⟨[], (mem_ends_lineStart.mp h).2 ▸ .refl p⟩
  | ending => exact ⟨[], (mem_ends_ending.mp h).2 ▸ .refl p⟩
  | wordEdge => exact ⟨[], (mem_ends_wordEdge.mp h).2 ▸ .refl p⟩
  | «unless» a => exact ⟨[], (mem_ends_unless.mp h).2 ▸ .refl p⟩

/-- What a sequence reads is what its parts read. -/
theorem reads_of_mem_ends_seq (h : r ∈ (seq a b).ends mode p) (hreads : p.Reads s r) :
    ∃ q t u, (q ∈ a.ends mode p ∧ p.Reads t q) ∧ (r ∈ b.ends mode q ∧ q.Reads u r) ∧
      s = t ++ u := by
  obtain ⟨q, ha, hb⟩ := mem_ends_seq.mp h
  obtain ⟨t, ht⟩ := exists_reads ha
  obtain ⟨u, hu⟩ := exists_reads hb
  exact ⟨q, t, u, ⟨ha, ht⟩, ⟨hb, hu⟩, hreads.unique (ht.trans hu)⟩

theorem occursFrom_iff {pattern : Pattern} {before after : Text} :
    pattern.occursFrom mode before after = true ↔
      ∃ s p, Place.Reads ⟨before, after⟩ s p ∧ ∃ q, q ∈ pattern.ends mode p := by
  induction after generalizing before with
  | nil =>
    rw [occursFrom, isSome_matchAt_iff]
    constructor
    · intro h
      exact ⟨[], _, .refl _, h⟩
    · rintro ⟨s, p, hreads, h⟩
      obtain ⟨rfl, -⟩ : s = [] ∧ p.after = [] := by simpa using hreads.after
      rwa [hreads.eq_of_nil] at h
  | cons c cs ih =>
    rw [occursFrom, Bool.or_eq_true, isSome_matchAt_iff, ih]
    constructor
    · rintro (h | ⟨s, p, hreads, h⟩)
      · exact ⟨[], _, .refl _, h⟩
      · exact ⟨c :: s, p, (Place.Reads.cons ..).trans hreads, h⟩
    · rintro ⟨s, p, hreads, h⟩
      cases s with
      | nil =>
        rw [hreads.eq_of_nil] at h
        exact .inl h
      | cons x s =>
        obtain ⟨-, hreads⟩ := hreads.of_cons
        exact .inr ⟨s, p, hreads, h⟩

/-- A pattern occurs in a text if a match starts at one of its places. -/
theorem occursIn_iff {pattern : Pattern} {content : Text} :
    pattern.occursIn mode content = true ↔ ∃ p q, p.text = content ∧ q ∈ pattern.ends mode p := by
  rw [occursIn, occursFrom_iff]
  constructor
  · rintro ⟨s, p, hreads, q, hq⟩
    exact ⟨p, q, hreads.text_eq, hq⟩
  · rintro ⟨p, q, rfl, hq⟩
    exact ⟨p.before.reverse, p, ⟨rfl, by simp⟩, q, hq⟩

end Pattern

end CodeAtlas
