import Mathlib.Data.List.Nodup
import CodeAtlas.Proofs.CharLaws
import CodeAtlas.Proofs.HitPlaces
import CodeAtlas.Proofs.OutlineShape

/-! The calls among the functions of a file. A call is looked for in the whole file, and in three
languages the place where a function is defined looks like a call of it already: a blank, the name
and an opening bracket. So there every function is said to call every other one, whatever stands in
the bodies. -/
namespace CodeAtlas

section Pairs

variable {α β : Type} {xs : List α} {ys : List (α × Nat)} {k : Nat} {y : α × Nat}

/-- Each member with each of the members at the other positions. -/
def pairsApart (xs : List α) : List (α × α) :=
  xs.zipIdx.flatMap fun (x, i) => (xs.eraseIdx i).map fun y => (x, y)

theorem length_flatMap_of_forall {f : α → List β} {n : Nat} (h : ∀ x ∈ xs, (f x).length = n) :
    (xs.flatMap f).length = xs.length * n := by
  induction xs with
  | nil => simp
  | cons x xs ih =>
    obtain ⟨hx, hxs⟩ := List.forall_mem_cons.mp h
    rw [List.flatMap_cons, List.length_append, hx, ih hxs, List.length_cons, Nat.succ_mul,
      Nat.add_comm]

theorem length_pairsApart (xs : List α) :
    (pairsApart xs).length = xs.length * (xs.length - 1) := by
  rw [pairsApart, length_flatMap_of_forall (n := xs.length - 1), List.length_zipIdx]
  intro y hy
  rw [List.length_map, List.length_eraseIdx_of_lt (List.mem_zipIdx' hy).1]

theorem pairsApart_map (f : α → β) (xs : List α) :
    pairsApart (xs.map f) = (pairsApart xs).map fun (x, y) => (f x, f y) := by
  have herase (i : Nat) : (xs.map f).eraseIdx i = (xs.eraseIdx i).map f := by
    simp [List.eraseIdx_eq_take_drop_succ]
  simp only [pairsApart, List.zipIdx_map, List.flatMap_map, List.map_flatMap, herase,
    List.map_map]
  rfl

/-- Where no key occurs twice, the members with another key are those at the other positions. -/
theorem filter_key_ne (hkeys : (ys.map Prod.snd).Nodup) (hy : ys[k]? = some y) :
    ys.filter (fun z => z.2 != y.2) = ys.eraseIdx k := by
  induction ys generalizing k with
  | nil => simp at hy
  | cons z ys ih =>
    obtain ⟨hz, hkeys⟩ := List.nodup_cons.mp hkeys
    cases k with
    | zero =>
      obtain rfl : z = y := by simpa using hy
      rw [List.filter_cons_of_neg (by simp), List.eraseIdx_cons_zero, List.filter_eq_self]
      intro w hw
      have hne : w.2 ≠ z.2 := fun heq => hz (heq ▸ List.mem_map_of_mem hw)
      simpa using hne
    | succ k =>
      have hy : ys[k]? = some y := by simpa using hy
      have hne : z.2 ≠ y.2 := fun heq => hz (heq ▸ List.mem_map_of_mem (List.mem_of_getElem? hy))
      rw [List.filter_cons_of_pos (by simpa using hne), ih hkeys hy, List.eraseIdx_cons_succ]

theorem flatMap_key_ne (hkeys : (ys.map Prod.snd).Nodup) :
    (ys.flatMap fun y => (ys.filter fun z => z.2 != y.2).map fun z => (y.1, z.1)) =
      pairsApart (ys.map Prod.fst) := by
  rw [pairsApart_map, pairsApart, List.map_flatMap]
  conv_lhs => rw [← List.zipIdx_map_fst 0 ys, List.flatMap_map]
  apply List.flatMap_congr
  rintro ⟨y, k⟩ hy
  have hget : ys[k]? = some y := List.mk_mem_zipIdx_iff_getElem?.mp hy
  rw [List.zipIdx_map_fst, filter_key_ne hkeys hget, List.map_map]
  rfl

theorem flatMap_ite (p : α → Bool) (f : α → List β) (xs : List α) :
    (xs.flatMap fun x => if p x then f x else []) = (xs.filter p).flatMap f := by
  induction xs with
  | nil => rfl
  | cons x xs ih =>
    rw [List.flatMap_cons, ih]
    cases hx : p x <;> simp [hx]

end Pairs

namespace Pattern

variable {a b : Pattern}

/-- Every match ends right behind white space. -/
def EndsBlank (a : Pattern) : Prop :=
  ∀ ⦃mode : Mode⦄ ⦃p q : Place⦄, q ∈ a.ends mode p →
    ∃ c rest, q.before = c :: rest ∧ Text.isBlank c = true

theorem endsBlank_gap : gap.EndsBlank := by
  intro mode p q h
  obtain ⟨s, hs, hleast, hreads⟩ := mem_ends_run.mp h
  have hne : s.reverse ≠ [] := by
    intro hnil
    rw [List.reverse_eq_nil_iff.mp hnil] at hleast
    simp at hleast
  obtain ⟨c, rest, hrev⟩ := List.exists_cons_of_ne_nil hne
  refine ⟨c, rest ++ p.before, by rw [hreads.before, hrev]; rfl, hs c ?_⟩
  rw [← List.mem_reverse, hrev]
  exact List.mem_cons_self

theorem endsBlank_one : (one .blank).EndsBlank := by
  intro mode p q h
  obtain ⟨x, hx, hreads⟩ := mem_ends_one.mp h
  exact ⟨x, p.before, hreads.before, hx⟩

theorem EndsBlank.append (a : Pattern) (h : b.EndsBlank) : (a ++ b).EndsBlank := by
  intro mode p q hq
  obtain ⟨m, -, hq⟩ := mem_ends_append.mp hq
  exact h hq

/-- Every match of `b` begins with one of `a`. -/
def Begins (a b : Pattern) : Prop :=
  ∀ ⦃mode : Mode⦄ ⦃p q : Place⦄, q ∈ b.ends mode p → ∃ m, m ∈ a.ends mode p

namespace Begins

theorem refl (a : Pattern) : a.Begins a := fun _ _ q h => ⟨q, h⟩

theorem append (h : a.Begins b) (c : Pattern) : a.Begins (b ++ c) := by
  intro mode p q hq
  obtain ⟨m, hm, -⟩ := mem_ends_append.mp hq
  exact h hm

theorem behind (c : Pattern) (h : a.Begins b) : (c ++ a).Begins (c ++ b) := by
  intro mode p q hq
  obtain ⟨m, hm, hq⟩ := mem_ends_append.mp hq
  obtain ⟨e, he⟩ := h hq
  exact ⟨e, mem_ends_append.mpr ⟨m, hm, he⟩⟩

theorem bracketed (start avoid stop : CodePoint) :
    (char start).Begins (Outline.bracketed start avoid stop) :=
  ((refl _).append _).append _

end Begins

end Pattern

namespace Rule

open Pattern

variable {mode : Mode} {rule : Rule} {hit : Hit}

/-- A rule that finds a name between white space and an opening bracket. -/
structure IsCallLike (rule : Rule) : Prop where
  lead : rule.lead.EndsBlank
  name : rule.name = identifier
  tail : (blanks ++ char '(').Begins rule.tail

/-- What such a rule matches holds a call of the name that it finds. -/
theorem IsCallLike.occursIn_callOf (h : rule.IsCallLike) (hfits : rule.Fits mode hit) :
    (Outline.callOf hit.name).occursIn Outline.exactMode hit.start.text = true := by
  obtain ⟨blank, before, hbefore, hblank⟩ := h.lead hfits.lead
  obtain ⟨lead, hlead⟩ := exists_reads hfits.lead
  obtain ⟨m, hfirst, hrest⟩ := mem_ends_append.mp (h.name ▸ hfits.name)
  obtain ⟨x, hx, hreads⟩ := mem_ends_one.mp hfirst
  obtain ⟨s, -, -, hreads'⟩ := mem_ends_run.mp hrest
  -- the tail goes on from the name with blanks up to `b` and a bracket up to `e`
  obtain ⟨e, he⟩ := h.tail hfits.tail
  obtain ⟨b, hb, he⟩ := mem_ends_append.mp he
  obtain ⟨y, hy, hbracket⟩ := mem_ends_one.mp he
  obtain rfl := CharClass.holds_bracket hy
  have hedge : atWordEdge hit.nameStart = true := by
    simp [atWordEdge, hbefore, hreads.after, Text.isWordChar_of_isBlank hblank,
      CharClass.isWordChar_of_nameStart hx]
  have hname : hit.nameStart.Reads hit.name hit.nameStop := by
    have hwhole := hreads.trans hreads'
    rwa [Hit.name, hwhole.upTo_eq]
  have hword : hit.nameStop ∈ (wordEdge ++ text hit.name).ends Outline.exactMode hit.nameStart :=
    mem_ends_append.mpr ⟨_, mem_ends_wordEdge.mpr ⟨hedge, rfl⟩, mem_ends_text hname⟩
  refine occursIn_iff.mpr ⟨hit.nameStart, e, hlead.text_eq, mem_ends_append.mpr ⟨b, ?_, ?_⟩⟩
  · exact mem_ends_append.mpr ⟨_, hword, mem_ends_run.mpr (mem_ends_run.mp hb)⟩
  · exact mem_ends_one.mpr ⟨_, by decide, hbracket⟩

end Rule

namespace Outline

open Pattern

/-- The languages in which a definition of a function looks like a call of it. -/
def callLikeLanguages : List Language := [.python, .c, .java]

theorem isCallLike_of_mem_rulesFor {l : Language} {kind : Kind} {rule : Rule}
    (hl : l ∈ callLikeLanguages) (h : (kind, rule) ∈ rulesFor l) (hkind : kind.isCallable = true) :
    rule.IsCallLike := by
  have hopen := Begins.refl (blanks ++ char '(')
  have hparameters (avoid : CodePoint) :
      (blanks ++ char '(').Begins (blanks ++ bracketed '(' avoid ')') :=
    .behind _ (.bracketed ..)
  simp only [callLikeLanguages, List.mem_cons, List.not_mem_nil, or_false] at hl
  rcases hl with rfl | rfl | rfl <;>
    simp only [rulesFor, pythonRules, cRules, javaRules, List.mem_cons, List.not_mem_nil, or_false,
      Prod.mk.injEq] at h
  -- the rules of each language in their order; those for kinds that are not called drop out
  · rcases h with ⟨-, rfl⟩ | ⟨rfl, -⟩ | ⟨-, rfl⟩ | ⟨rfl, -⟩ | ⟨rfl, -⟩ | ⟨rfl, -⟩
    · exact ⟨endsBlank_gap.append _, rfl, hopen⟩
    · cases hkind
    · exact ⟨endsBlank_gap.append _, rfl, (hopen.append _).append _⟩
    all_goals cases hkind
  · rcases h with ⟨-, rfl⟩ | ⟨rfl, -⟩ | ⟨rfl, -⟩ | ⟨rfl, -⟩ | ⟨rfl, -⟩
    · exact ⟨endsBlank_gap.append _, rfl, (((hparameters _).append _).append _).append _⟩
    all_goals cases hkind
  · rcases h with ⟨-, rfl⟩ | ⟨rfl, -⟩ | ⟨rfl, -⟩ | ⟨rfl, -⟩ | ⟨rfl, -⟩
    · exact ⟨endsBlank_one.append _, rfl,
        ((((hparameters _).append _).append _).append _).append _⟩
    all_goals cases hkind

theorem kind_ne_paragraph {l : Language} (hl : l ∈ callLikeLanguages) {kind : Kind} {rule : Rule}
    (h : (kind, rule) ∈ rulesFor l) : kind ≠ .paragraph := by
  have hall : ∀ l ∈ callLikeLanguages, ∀ entry ∈ rulesFor l, entry.1 ≠ .paragraph := by decide
  exact hall l hl _ h

end Outline

/-- The relationship says that something calls something. -/
def Relationship.isCall (r : Relationship) : Bool := r.kind.text? == some (Text.ofString "calls")

/-- The entity is a function or a method. -/
def Entity.isRoutine (e : Entity) : Bool :=
  e.kind.text? == some (Text.ofString "function") || e.kind.text? == some (Text.ofString "method")

namespace Source

variable {src : Source} {f : Finding}

theorem isCalled_of_mem_findings (hl : src.language ∈ Outline.callLikeLanguages)
    (hf : f ∈ src.findings) (hkind : f.kind.isCallable = true) : src.isCalled f = true := by
  obtain ⟨rule, hrule, hhit, hname⟩ := exists_rule_of_mem_findings hf
  obtain ⟨htext, hfits⟩ := Rule.of_mem_hits hhit
  rw [isCalled, hname, ← htext]
  exact (Outline.isCallLike_of_mem_rulesFor hl hrule hkind).occursIn_callOf hfits

/-- The findings whose calls are looked for, with their positions among all findings. -/
def callables (src : Source) : List (Finding × Nat) :=
  src.findings.zipIdx.filter fun (f, _) => f.kind.isCallable

theorem callables_fst (src : Source) :
    src.callables.map Prod.fst = src.findings.filter fun f => f.kind.isCallable := by
  conv_rhs => rw [← List.zipIdx_map_fst 0 src.findings, List.filter_map]
  rfl

theorem nodup_callables_snd (src : Source) : (src.callables.map Prod.snd).Nodup := by
  have hall : (src.findings.zipIdx.map Prod.snd).Nodup := by
    rw [List.zipIdx_map_snd]
    exact List.nodup_range'
  exact hall.sublist (List.filter_sublist.map _)

theorem called_eq_callables (hl : src.language ∈ Outline.callLikeLanguages) :
    (src.findings.zipIdx.filter fun (f, _) => f.kind.isCallable && src.isCalled f) =
      src.callables := by
  apply List.filter_congr
  rintro ⟨f, i⟩ hf
  cases hkind : f.kind.isCallable with
  | false => simp [hkind]
  | true => simp [hkind, isCalled_of_mem_findings hl (mem_of_mem_zipIdx hf) hkind]

theorem filter_isCall_of_isLink (kind : Text) (hkind : kind ≠ "calls") {rs : List Relationship}
    (h : ∀ r ∈ rs, src.IsLink kind r) : rs.filter Relationship.isCall = [] := by
  apply List.filter_eq_nil_iff.mpr
  intro r hr
  rw [Relationship.isCall, (h r hr).kind]
  simpa [Value.text?] using hkind

/-- Among the relationships of findings, calls are what each callable is said to call. -/
theorem filter_isCall_links (hl : src.language ∈ Outline.callLikeLanguages) :
    (src.links src.findings).filter Relationship.isCall =
      src.callables.flatMap fun (f, i) => src.calls src.callables f i := by
  have hcalls (called : List (Finding × Nat)) (f : Finding) (i : Nat) :
      (src.calls called f i).filter Relationship.isCall = src.calls called f i := by
    apply List.filter_eq_self.mpr
    intro r hr
    obtain ⟨g, -, rfl⟩ := List.mem_map.mp hr
    rfl
  -- what a callable uses and what a class extends are links of other kinds
  rw [callables, ← flatMap_ite, links, List.filter_flatMap, called_eq_callables hl]
  apply List.flatMap_congr
  rintro ⟨f, i⟩ hf
  have hmem := mem_of_mem_zipIdx hf
  dsimp only
  split
  next hcallable =>
    rw [List.filter_append, hcalls, filter_isCall_of_isLink "uses" (by decide),
      List.append_nil]
    · rfl
    · intro r hr
      refine uses_isLink hmem hcallable (fun g hg => ?_) hr
      obtain ⟨hg, hkind⟩ := List.mem_filter.mp hg
      exact ⟨hg, eq_of_beq hkind⟩
  · split
    next hclass =>
      apply filter_isCall_of_isLink "inherits" (by decide)
      intro r hr
      exact parents_isLink hmem (eq_of_beq hclass) hr
    · rfl

theorem filter_isCall_scan (src : Source) : src.scan.relationships.filter Relationship.isCall =
    (src.links src.findings).filter Relationship.isCall := by
  have hmemberships :
      (src.findings.map (Finding.membership src)).filter Relationship.isCall = [] := by
    apply List.filter_eq_nil_iff.mpr
    intro r hr
    obtain ⟨f, -, rfl⟩ := List.mem_map.mp hr
    cases himport : f.kind.isImport <;>
      simp [Relationship.isCall, Finding.membership, himport, Value.text?] <;> decide
  change (_ ++ _ : List Relationship).filter _ = _
  rw [List.filter_append, hmemberships, List.nil_append]

theorem filter_isRoutine_scan (hl : src.language ∈ Outline.callLikeLanguages) :
    src.scan.entities.filter Entity.isRoutine =
      (src.findings.filter fun f => f.kind.isCallable).map (Finding.entity src) := by
  have hfile : ¬ src.fileEntity.isRoutine = true := by
    simp only [Entity.isRoutine, fileEntity, Value.text?]
    decide
  change (src.fileEntity :: src.findings.map (Finding.entity src)).filter _ = _
  rw [List.filter_cons_of_neg hfile, List.filter_map]
  congr 1
  apply List.filter_congr
  intro f hf
  obtain ⟨rule, hrule, -⟩ := exists_rule_of_mem_findings hf
  have hparagraph := Outline.kind_ne_paragraph hl hrule
  simp only [Function.comp, Entity.isRoutine, entity_kind, Value.text?]
  revert hparagraph
  cases f.kind <;> decide

/-- In these languages the calls of a file are one for each ordered pair of different functions or
methods, in the order of the pairs. -/
theorem calls_join_all_routines (src : Source) {l : Language}
    (hl : l ∈ [Language.python, .c, .java]) (hlabel : src.label = .str l.label) :
    (src.scan.relationships.filter Relationship.isCall).map (fun r => (r.source, r.target)) =
      (pairsApart (src.scan.entities.filter Entity.isRoutine)).map
        (fun (e, e') => (e.name, e'.name)) ∧
    (src.scan.relationships.filter Relationship.isCall).length =
      (src.scan.entities.filter Entity.isRoutine).length *
        ((src.scan.entities.filter Entity.isRoutine).length - 1) := by
  have hlanguage : src.language ∈ Outline.callLikeLanguages := language_of_label hlabel ▸ hl
  have hpairs : (src.scan.relationships.filter Relationship.isCall).map
      (fun r => (r.source, r.target)) =
      (pairsApart (src.scan.entities.filter Entity.isRoutine)).map
        (fun (e, e') => (e.name, e'.name)) := by
    rw [filter_isCall_scan, filter_isCall_links hlanguage, filter_isRoutine_scan hlanguage,
      pairsApart_map, ← callables_fst, ← flatMap_key_ne src.nodup_callables_snd]
    simp only [calls, List.map_flatMap, List.map_map, Function.comp_def, entity_name]
  refine ⟨hpairs, ?_⟩
  have hlength := congrArg List.length hpairs
  rwa [List.length_map, List.length_map, length_pairsApart] at hlength

/-- A method, which is found as a function too, and a function. -/
def twoRoutines : Source := ⟨"a.py", .str "python", "def f(self): pass\ndef g(): pass"⟩

theorem calls_join_all_routines_sample :
    twoRoutines.label = .str Language.python.label ∧
    (twoRoutines.scan.entities.filter Entity.isRoutine).length = 3 ∧
    (twoRoutines.scan.relationships.filter Relationship.isCall).length = 6 := by
  have hthree : (twoRoutines.scan.entities.filter Entity.isRoutine).length = 3 := by decide +kernel
  obtain ⟨-, hlength⟩ := calls_join_all_routines twoRoutines (l := .python) (by decide) rfl
  exact ⟨rfl, hthree, by rw [hlength, hthree]⟩

end Source

end CodeAtlas
