import CodeAtlas.Proofs.DeclaredLines
import CodeAtlas.Proofs.OutlineShape

/-! The lines that an outline by rules reports. A match is read inside the file, so the lines from its
start to its end are lines of the file; and the matches of one rule follow one another without
overlapping, so the definitions of one kind are listed in the order of their lines. -/
namespace CodeAtlas

namespace Place

variable {p q r : Place} {s t : Text}

/-- Of two readings from one place, the longer one goes on where the shorter one ended. -/
theorem Reads.exists_rest (hq : p.Reads s q) (hr : p.Reads t r) (hlength : s.length ≤ t.length) :
    ∃ u, q.Reads u r := by
  have hsame : s ++ q.after = t ++ r.after := hq.after.symm.trans hr.after
  obtain ⟨u, rfl⟩ : s <+: t :=
    List.prefix_of_prefix_length_le (List.prefix_append s q.after)
      (hsame ▸ List.prefix_append t r.after) hlength
  refine ⟨u, ?_, ?_⟩
  · rw [List.append_assoc] at hsame
    exact List.append_cancel_left hsame
  · rw [hr.before, hq.before, List.reverse_append, List.append_assoc]

theorem Reads.line_le (h : p.Reads s q) : p.line ≤ q.line := by
  rw [h.line_eq]
  exact Nat.le_add_right _ _

theorem line_le_lineBreaks (p : Place) : p.line ≤ Text.lineBreaks p.text + 1 := by
  simp only [line, text, Text.lineBreaks, List.count_append, List.count_reverse]
  omega

end Place

namespace Rule

variable {mode : Mode} {rule : Rule}

/-- The first of two hits ends before the second starts, or just there. -/
def Precedes (first second : Hit) : Prop := ∃ s, first.stop.Reads s second.start

/-- What is skipped after a hit is the rest of it. -/
theorem precedes_of_mem_hitsFrom {before cs : Text} {c : CodePoint} {first second : Hit}
    (hfirst : rule.matchAt mode ⟨before, c :: cs⟩ = some first)
    (hsecond : second ∈
      rule.hitsFrom mode (first.stop.offset - before.length - 1) (c :: before) cs) :
    Precedes first second := by
  obtain ⟨hstart, hfits⟩ := fits_of_matchAt hfirst
  obtain ⟨s, p, hskip, hreads, hmatch⟩ := exists_matchAt_of_mem_hitsFrom hsecond
  obtain ⟨rfl, -⟩ := fits_of_matchAt hmatch
  have hfirstReads : Place.Reads ⟨before, c :: cs⟩ first.text first.stop := hstart ▸ hfits.reads
  have hsecondReads : Place.Reads ⟨before, c :: cs⟩ ([c] ++ s) second.start :=
    (Place.Reads.cons c before cs).trans hreads
  apply hfirstReads.exists_rest hsecondReads
  have hoffset : first.stop.offset = before.length + first.text.length := hfirstReads.offset_eq
  rw [List.length_append, List.length_singleton]
  omega

theorem pairwise_hitsFrom (skip : Nat) (before after : Text) :
    (rule.hitsFrom mode skip before after).Pairwise Precedes := by
  induction after generalizing skip before with
  | nil =>
    rw [hitsFrom]
    exact .nil
  | cons c cs ih =>
    cases skip with
    | succ skip => exact ih skip (c :: before)
    | zero =>
      rw [hitsFrom]
      split
      next hit hhit =>
        apply List.Pairwise.cons _ (ih _ _)
        intro second hsecond
        exact precedes_of_mem_hitsFrom hhit hsecond
      · exact ih 0 (c :: before)

/-- The hits of a rule do not overlap and stand in their order in the text. -/
theorem pairwise_hits (text : Text) : (rule.hits mode text).Pairwise Precedes :=
  pairwise_hitsFrom 0 [] text

end Rule

theorem Kind.label_injective {k l : Kind} (h : k.label = l.label) : k = l := by
  revert h
  cases k <;> cases l <;> decide

theorem Outline.nodup_kinds (l : Language) : ((rulesFor l).map Prod.fst).Nodup := by
  cases l <;> decide

namespace Source

variable {src : Source} {f : Finding}

/-- Findings of one kind stand in their order in the text. -/
theorem pairwise_findings (src : Source) :
    src.findings.Pairwise fun f g => f.kind = g.kind → Rule.Precedes f.hit g.hit := by
  apply List.pairwise_flatMap.mpr
  constructor
  · rintro ⟨kind, rule⟩ -
    apply List.Pairwise.filter
    apply List.pairwise_map.mpr
    apply (Rule.pairwise_hits src.content).imp
    intro h h' hbefore _
    exact hbefore
  · apply (List.pairwise_map.mp (Outline.nodup_kinds src.language)).imp
    rintro ⟨kind, rule⟩ ⟨kind', rule'⟩ hne f hf g hg hsame
    obtain ⟨_, -, rfl⟩ := List.mem_map.mp (List.mem_filter.mp hf).1
    obtain ⟨_, -, rfl⟩ := List.mem_map.mp (List.mem_filter.mp hg).1
    exact absurd hsame hne

/-- A finding takes the lines from its own to the one on which its match ends, and no line behind the
last of the file. -/
theorem lines_of_mem_findings (hf : f ∈ src.findings) :
    1 ≤ f.line ∧ 1 ≤ f.lineSpan ∧ f.line + f.lineSpan = f.hit.stop.line + 1 ∧
      f.hit.stop.line ≤ src.lineCount := by
  obtain ⟨rule, -, hhit, -⟩ := exists_rule_of_mem_findings hf
  obtain ⟨htext, hfits⟩ := Rule.of_mem_hits hhit
  have hstop : f.hit.stop.line = f.line + Text.lineBreaks f.hit.text := hfits.reads.line_eq
  have hlast := f.hit.stop.line_le_lineBreaks
  rw [hfits.reads.text_eq, htext] at hlast
  refine ⟨Nat.le_add_left 1 _, Nat.le_add_left 1 _, ?_, hlast⟩
  rw [hstop, Finding.lineSpan]
  omega

theorem entity_kind_eq_import : (f.entity src).kind = .str "import" ↔ f.kind.isImport = true := by
  rw [entity_kind]
  cases himport : f.kind.isImport with
  | true => simp
  | false =>
    have hne := Kind.label_ne_import himport
    simpa using hne

/-- Definitions that are said to be of one kind were found by one rule. -/
theorem kind_eq_of_entity_kind {g : Finding} (hsame : (f.entity src).kind = (g.entity src).kind)
    (hno : (f.entity src).kind ≠ .str "import") : f.kind = g.kind := by
  have hf : f.kind.isImport = false := by simpa [entity_kind_eq_import] using hno
  have hg : g.kind.isImport = false := by simpa [hsame, entity_kind_eq_import] using hno
  apply Kind.label_injective
  simpa [entity_kind, hf, hg] using hsame

end Source

namespace Entity

/-- The line on which the entity is said to begin. -/
def BeginsOn (e : Entity) (line : Int) : Prop :=
  e.properties.field "line_number" = .ok (.int line)

/-- The number of lines that the entity is said to take. -/
def Takes (e : Entity) (length : Int) : Prop :=
  e.properties.field "code_length" = .ok (.int length)

end Entity

namespace Source

variable {src : Source} {f : Finding}

theorem takes_of_not_import (h : (f.entity src).kind ≠ .str "import") :
    (f.entity src).Takes f.lineSpan := by
  rw [Finding.entity, if_neg (mt entity_kind_eq_import.mpr h)]
  rfl

/-- All lines that an outline reports are lines of the file, from the first to the last of each
definition; and among the definitions of one kind none begins before an earlier one has ended, except
on the same line. -/
theorem spans_lie_in_file (src : Source) :
    ∃ file members, ∃ count : Int, src.scan.entities = file :: members ∧
      file.kind = .str "source_file" ∧ (∀ e ∈ members, e.kind ≠ .str "source_file") ∧
      file.properties.field "line_count" = .ok (.int count) ∧
      count = Text.lineBreaks src.content + 1 ∧
      (∀ e ∈ members, e.kind = .str "import" → ∃ line, e.BeginsOn line ∧ 1 ≤ line ∧ line ≤ count) ∧
      (∀ e ∈ members, e.kind ≠ .str "import" → ∃ line length, e.BeginsOn line ∧ e.Takes length ∧
        1 ≤ line ∧ 1 ≤ length ∧ line + length - 1 ≤ count) ∧
      members.Pairwise fun e e' => e.kind = e'.kind → e.kind ≠ .str "import" →
        ∃ line length line', e.BeginsOn line ∧ e.Takes length ∧ e'.BeginsOn line' ∧
          line ≤ line' ∧ line + length - 1 ≤ line' := by
  refine ⟨src.fileEntity, src.findings.map (Finding.entity src), src.lineCount, rfl, rfl, ?_, rfl,
    rfl, ?_, ?_, ?_⟩
  · intro e he
    obtain ⟨f, -, rfl⟩ := List.mem_map.mp he
    exact entity_kind_ne_sourceFile f
  · intro e he _
    obtain ⟨f, hf, rfl⟩ := List.mem_map.mp he
    obtain ⟨hline, hspan, hstop, hlast⟩ := lines_of_mem_findings hf
    exact ⟨f.line, field_line_number src f, by omega, by omega⟩
  · intro e he hno
    obtain ⟨f, hf, rfl⟩ := List.mem_map.mp he
    obtain ⟨hline, hspan, hstop, hlast⟩ := lines_of_mem_findings hf
    exact ⟨f.line, f.lineSpan, field_line_number src f, takes_of_not_import hno, by omega, by omega,
      by omega⟩
  · apply List.pairwise_map.mpr
    apply (pairwise_findings src).imp_of_mem
    intro f g hf _ hbefore hsame hno
    obtain ⟨s, hreads⟩ := hbefore (kind_eq_of_entity_kind hsame hno)
    obtain ⟨hline, hspan, hstop, -⟩ := lines_of_mem_findings hf
    have hnext : f.hit.stop.line ≤ g.line := hreads.line_le
    exact ⟨f.line, f.lineSpan, g.line, field_line_number src f, takes_of_not_import hno,
      field_line_number src g, by omega, by omega⟩

/-- A function may take all lines up to the last. -/
example : (findings ⟨"a.py", .str "python", "import os\ndef\nf("⟩).map (fun f =>
    (f.kind, f.line, f.lineSpan)) = [(.function, 2, 2), (.importClause, 1, 1)] := by
  decide +kernel

end Source

end CodeAtlas
