import CodeAtlas.Language

/-! What decides the language of a file whose name bears the signs of one language alone. The name
reaches two points by itself, but so do two signs in the content, and the first language with two
points is taken. So a content can turn the answer into any language that is considered before the
one that the name speaks for, and into no other. -/
namespace CodeAtlas.Language

/-- The number of signs of a language in a name. -/
def pathSigns (path : Text) (l : Language) : Nat := l.signs.countP (·.occursIn pathMode path)

/-- The number of signs of a language in a content. -/
def contentSigns (content : Text) (l : Language) : Nat :=
  l.signs.countP (·.occursIn contentMode content)

/-- The languages that are considered before the given one. -/
def before (l : Language) : List Language := known.takeWhile (· != l)

/-- The name bears a sign of the language, and none of any other. -/
structure IsNamed (l : Language) (path : Text) : Prop where
  isKnown : l ∈ known
  sign : ∃ sign ∈ l.signs, sign.occursIn pathMode path = true
  alone : ∀ other ∈ known, other ≠ l → ∀ sign ∈ other.signs, sign.occursIn pathMode path = false

variable {l o : Language} {path content : Text}

theorem score_eq (path content : Text) (l : Language) :
    l.score path content = 2 * l.pathSigns path + l.contentSigns content := by
  unfold score pathSigns contentSigns
  induction l.signs with
  | nil => rfl
  | cons sign signs ih =>
    rw [List.foldr_cons, ih, List.countP_cons, List.countP_cons, signScore]
    split <;> split <;> omega

theorem known_eq (h : l ∈ known) : ∃ rest, known = l.before ++ l :: rest := by
  have hfound : (known.dropWhile (· != l)).head? = some l := by
    revert l
    decide
  obtain ⟨rest, hrest⟩ := List.head?_eq_some_iff.mp hfound
  exact ⟨rest, by rw [before, ← hrest, List.takeWhile_append_dropWhile]⟩

theorem mem_known_of_mem_before (h : o ∈ l.before) : o ∈ known :=
  (List.takeWhile_prefix _).subset h

theorem ne_of_mem_before (h : o ∈ l.before) : o ≠ l := by
  simpa using List.all_eq_true.mp List.all_takeWhile o h

namespace IsNamed

theorem two_le_score (h : IsNamed l path) (content : Text) : 2 ≤ l.score path content := by
  obtain ⟨sign, hmem, hoccurs⟩ := h.sign
  have hpos : 0 < l.pathSigns path := List.countP_pos_iff.mpr ⟨sign, hmem, hoccurs⟩
  rw [score_eq]
  omega

theorem score_of_mem_before (h : IsNamed l path) (ho : o ∈ l.before) (content : Text) :
    o.score path content = o.contentSigns content := by
  have hnone : o.pathSigns path = 0 := by
    apply List.countP_eq_zero.mpr
    intro sign hsign
    simp [h.alone o (mem_known_of_mem_before ho) (ne_of_mem_before ho) sign hsign]
  simp [score_eq, hnone]

/-- The content decides among the languages considered before, and the name among the others. -/
theorem detect_eq (h : IsNamed l path) (content : Text) :
    detect path content = (l.before.find? fun o => 2 ≤ o.contentSigns content).getD l := by
  obtain ⟨rest, hknown⟩ := known_eq h.isKnown
  have hbefore : l.before.find? (fun o => 2 ≤ o.score path content) =
      l.before.find? (fun o => 2 ≤ o.contentSigns content) := by
    rw [← List.head?_filter, ← List.head?_filter]
    congr 1
    apply List.filter_congr
    intro o ho
    rw [h.score_of_mem_before ho]
  have hl := h.two_le_score content
  rw [detect, hknown, List.find?_append, hbefore, List.find?_cons_of_pos (by simpa using hl)]
  cases l.before.find? (fun o => 2 ≤ o.contentSigns content) <;> rfl

theorem detect_eq_iff (h : IsNamed l path) (content : Text) :
    detect path content = l ↔ ∀ o ∈ l.before, o.contentSigns content < 2 := by
  rw [h.detect_eq]
  cases hfind : l.before.find? (fun o => 2 ≤ o.contentSigns content) with
  | none =>
    have hnone := List.find?_eq_none.mp hfind
    simpa using hnone
  | some found =>
    have hmem := List.mem_of_find?_eq_some hfind
    have hsigns := List.find?_some hfind
    constructor
    · intro heq
      exact absurd heq (ne_of_mem_before hmem)
    · intro hfew
      have := hfew found hmem
      simp at hsigns
      omega

end IsNamed

/-- A content with two signs of a language, and with at most one of each considered before it. -/
def decoy : Language → Text
  | .cobol => ".cob\n.cbl"
  | .jcl => "//SYSOUT.jcl"
  | .sas => "run;.sas"
  | .rpg => ".rpg\n.rpgle"
  | .flink => ".flk\n.flink"
  | .fortran => ".f\n.for"
  | .pli => "END;.pli"
  | .assembly => ".asm\n.bss"
  | .c => ".c\n.h"
  | .cpp => ".cc\n.cpp"
  | .python => "def .py"
  | .java => "import java.java"
  | .javascript => "let .js"
  | .typescript => ".ts\n.tsx"
  | .csharp => "namespace .cs"
  | .go => "func .go"
  | .ruby => "require .rb"
  | .php => "<?php.php"
  | .unknown => ""

theorem find?_decoy (h : o ∈ known) :
    known.find? (fun p => 2 ≤ p.contentSigns o.decoy) = some o := by
  revert o
  decide +kernel

theorem find?_before_decoy (hl : l ∈ known) (ho : o ∈ l.before) :
    l.before.find? (fun p => 2 ≤ p.contentSigns o.decoy) = some o := by
  obtain ⟨rest, hknown⟩ := known_eq hl
  have hfirst := find?_decoy (mem_known_of_mem_before ho)
  have hsigns := List.find?_some hfirst
  rw [hknown, List.find?_append] at hfirst
  cases hfind : l.before.find? (fun p => 2 ≤ p.contentSigns o.decoy) with
  | none => exact absurd hsigns (List.find?_eq_none.mp hfind o ho)
  | some found =>
    rw [hfind] at hfirst
    simpa using hfirst

/-- The language that a name speaks for is found just where no language considered before it has two
signs in the content. Over all contents the answers are that language and every one considered
before it, so the name alone decides for the first language and for no other. -/
theorem name_decides_iff (h : IsNamed l path) :
    (∀ content, detect path content = l ↔ ∀ o ∈ l.before, o.contentSigns content < 2) ∧
    (∀ content, detect path content =
      (l.before.find? fun o => 2 ≤ o.contentSigns content).getD l) ∧
    (∀ o, (∃ content, detect path content = o) ↔ o = l ∨ o ∈ l.before) ∧
    ((∀ content, detect path content = l) ↔ l = .cobol) := by
  have hdecoy {o : Language} (ho : o ∈ l.before) : detect path o.decoy = o := by
    rw [h.detect_eq, find?_before_decoy h.isKnown ho]
    rfl
  refine ⟨h.detect_eq_iff, h.detect_eq, fun o => ⟨?_, ?_⟩, ?_, ?_⟩
  · rintro ⟨content, rfl⟩
    rw [h.detect_eq]
    cases hfind : l.before.find? (fun o => 2 ≤ o.contentSigns content) with
    | none => exact .inl rfl
    | some found => exact .inr (List.mem_of_find?_eq_some hfind)
  · rintro (rfl | ho)
    · refine ⟨[], (h.detect_eq_iff []).mpr fun o ho => ?_⟩
      have hempty : ∀ o ∈ known, o.contentSigns [] < 2 := by decide +kernel
      exact hempty o (mem_known_of_mem_before ho)
    · exact ⟨o.decoy, hdecoy ho⟩
  · intro hall
    have hfirst : ∀ l ∈ known, l = .cobol ∨ Language.cobol ∈ l.before := by decide
    rcases hfirst l h.isKnown with hl | ho
    · exact hl
    · exact absurd ((hdecoy ho).symm.trans (hall _)) (ne_of_mem_before ho)
  · rintro rfl content
    exact (h.detect_eq_iff content).mpr (by simp [before, known])

theorem java_isNamed : IsNamed .java "A.java" where
  isKnown := by decide
  sign := ⟨extension "java", by decide, by decide +kernel⟩
  alone := by decide +kernel

theorem name_decides_iff_java :
    IsNamed .java "A.java" ∧ detect "A.java" ".ts\n.tsx" = .java ∧
      ∃ content, detect "A.java" content = .c := by
  obtain ⟨hiff, -, hanswers, -⟩ := name_decides_iff java_isNamed
  exact ⟨java_isNamed, (hiff _).mpr (by decide +kernel), (hanswers .c).mpr (.inr (by decide))⟩

/-- A class that imports another is taken for a script, though the name of its file speaks for one
language alone. -/
theorem java_class_mistaken :
    IsNamed .java "A.java" ∧ detect "A.java" "import b.B;\nclass A" = .python :=
  ⟨java_isNamed, by decide +kernel⟩

end CodeAtlas.Language
