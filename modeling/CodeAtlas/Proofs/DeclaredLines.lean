import Mathlib.Data.List.TakeWhile
import CodeAtlas.Proofs.CharLaws
import CodeAtlas.Proofs.HitPlaces
import CodeAtlas.Proofs.ValueParts

/-! The line that is reported for a finding. It is the line on which the match starts, and some
rules let a match start with white space. Where that holds line breaks, the line that is reported
stands before the line of the declaration. -/
namespace CodeAtlas

namespace Place

variable {p q : Place} {s : Text}

/-- The place that is reached by passing over `s`. -/
def skip (s : Text) (p : Place) : Place := ⟨s.reverse ++ p.before, p.after.drop s.length⟩

theorem Reads.eq_skip (h : p.Reads s q) : q = p.skip s := by
  obtain ⟨before, after⟩ := q
  rw [skip, h.after, List.drop_left]
  exact congrArg (Place.mk · after) h.before

theorem Reads.line_eq (h : p.Reads s q) : q.line = p.line + Text.lineBreaks s := by
  simp only [line, Text.lineBreaks, h.before, List.count_append, List.count_reverse]
  omega

end Place

namespace Hit

/-- The white space with which a hit begins. -/
def margin (h : Hit) : Text := h.text.takeWhile Text.isBlank

/-- The place of the first character of a hit that is no white space. -/
def inkStart (h : Hit) : Place := h.start.skip h.margin

end Hit

namespace Pattern

variable {mode : Mode} {pattern a b : Pattern} {p q : Place} {s t : Text}

/-- Whether every match reads something that is no white space. -/
def hasInk (mode : Mode) : Pattern → Bool
  | .one c => c.isInk mode.foldCase
  | .run c least | .shortRun c least => 0 < least && c.isInk mode.foldCase
  | .seq a b => b.hasInk mode || a.hasInk mode
  | .alt a b => a.hasInk mode && b.hasInk mode
  | .empty | .lineStart | .ending | .wordEdge | .unless _ => false

theorem exists_ink_of_forall {c : CharClass} (hink : c.isInk mode.foldCase = true)
    (hs : ∀ x ∈ s, c.holds mode.foldCase x = true) (hlength : 0 < s.length) :
    ∃ x ∈ s, Text.isBlank x = false := by
  obtain ⟨x, hx⟩ := List.exists_mem_of_length_pos hlength
  exact ⟨x, hx, CharClass.isBlank_of_holds hink (hs x hx)⟩

theorem exists_ink (hink : pattern.hasInk mode = true) (h : q ∈ pattern.ends mode p)
    (hreads : p.Reads s q) : ∃ x ∈ s, Text.isBlank x = false := by
  induction pattern generalizing p q s with
  | one c =>
    obtain ⟨x, hx, hone⟩ := mem_ends_one.mp h
    obtain rfl := hreads.unique hone
    exact exists_ink_of_forall hink (by simpa using hx) (by simp)
  | run c least =>
    obtain ⟨t, ht, hleast, hrun⟩ := mem_ends_run.mp h
    obtain rfl := hreads.unique hrun
    obtain ⟨hpos, hink⟩ := Bool.and_eq_true_iff.mp hink
    exact exists_ink_of_forall hink ht (Nat.lt_of_lt_of_le (of_decide_eq_true hpos) hleast)
  | shortRun c least =>
    obtain ⟨t, ht, hleast, hrun⟩ := mem_ends_shortRun.mp h
    obtain rfl := hreads.unique hrun
    obtain ⟨hpos, hink⟩ := Bool.and_eq_true_iff.mp hink
    exact exists_ink_of_forall hink ht (Nat.lt_of_lt_of_le (of_decide_eq_true hpos) hleast)
  | seq a b iha ihb =>
    obtain ⟨m, t, u, ⟨ha, ht⟩, ⟨hb, hu⟩, rfl⟩ := reads_of_mem_ends_seq h hreads
    rcases Bool.or_eq_true_iff.mp hink with hink | hink
    · obtain ⟨x, hx, hblank⟩ := ihb hink hb hu
      exact ⟨x, List.mem_append_right _ hx, hblank⟩
    · obtain ⟨x, hx, hblank⟩ := iha hink ha ht
      exact ⟨x, List.mem_append_left _ hx, hblank⟩
  | alt a b iha ihb =>
    obtain ⟨hinka, hinkb⟩ := Bool.and_eq_true_iff.mp hink
    rcases mem_ends_alt.mp h with h | h
    · exact iha hinka h hreads
    · exact ihb hinkb h hreads
  | empty | lineStart | ending | wordEdge => cases hink
  | «unless» a => cases hink

/-- Whether there is never a line break in the white space with which a match begins. -/
def staysOnLine (mode : Mode) : Pattern → Bool
  | .one c | .run c _ | .shortRun c _ => !c.holds mode.foldCase '\n'
  | .seq a b => a.staysOnLine mode && (a.hasInk mode || b.staysOnLine mode)
  | .alt a b => a.staysOnLine mode && b.staysOnLine mode
  | .empty | .lineStart | .ending | .wordEdge | .unless _ => true

/-- There is no line break in the white space with which the text begins. -/
def IsOnLine (s : Text) : Prop := CodePoint.ofChar '\n' ∉ s.takeWhile Text.isBlank

theorem isOnLine_nil : IsOnLine [] := by simp [IsOnLine]

theorem isOnLine_of_forall {c : CharClass} (hbreak : (!c.holds mode.foldCase '\n') = true)
    (hs : ∀ x ∈ s, c.holds mode.foldCase x = true) : IsOnLine s := by
  intro hmem
  have hholds := hs _ ((List.takeWhile_prefix _).subset hmem)
  rw [hholds] at hbreak
  cases hbreak

/-- Where the first part is white space alone, both parts have to be on their line. -/
theorem IsOnLine.append (hs : IsOnLine s)
    (h : (∃ x ∈ s, Text.isBlank x = false) ∨ IsOnLine t) : IsOnLine (s ++ t) := by
  rw [IsOnLine, List.takeWhile_append]
  split
  next hall =>
    have hwhole : s.takeWhile Text.isBlank = s := (List.takeWhile_prefix _).eq_of_length hall
    rcases h with ⟨x, hx, hblank⟩ | ht
    · have hno := List.takeWhile_eq_self_iff.mp hwhole x hx
      rw [hblank] at hno
      cases hno
    · rw [IsOnLine, hwhole] at hs
      simpa using ⟨hs, ht⟩
  · exact hs

theorem isOnLine_of_staysOnLine (hstays : pattern.staysOnLine mode = true)
    (h : q ∈ pattern.ends mode p) (hreads : p.Reads s q) : IsOnLine s := by
  induction pattern generalizing p q s with
  | one c =>
    obtain ⟨x, hx, hone⟩ := mem_ends_one.mp h
    obtain rfl := hreads.unique hone
    exact isOnLine_of_forall hstays (by simpa using hx)
  | run c least =>
    obtain ⟨t, ht, -, hrun⟩ := mem_ends_run.mp h
    obtain rfl := hreads.unique hrun
    exact isOnLine_of_forall hstays ht
  | shortRun c least =>
    obtain ⟨t, ht, -, hrun⟩ := mem_ends_shortRun.mp h
    obtain rfl := hreads.unique hrun
    exact isOnLine_of_forall hstays ht
  | seq a b iha ihb =>
    obtain ⟨m, t, u, ⟨ha, ht⟩, ⟨hb, hu⟩, rfl⟩ := reads_of_mem_ends_seq h hreads
    obtain ⟨hstaysa, hrest⟩ := Bool.and_eq_true_iff.mp hstays
    apply (iha hstaysa ha ht).append
    rcases Bool.or_eq_true_iff.mp hrest with hink | hstaysb
    · exact .inl (exists_ink hink ha ht)
    · exact .inr (ihb hstaysb hb hu)
  | alt a b iha ihb =>
    obtain ⟨hstaysa, hstaysb⟩ := Bool.and_eq_true_iff.mp hstays
    rcases mem_ends_alt.mp h with h | h
    · exact iha hstaysa h hreads
    · exact ihb hstaysb h hreads
  | empty =>
    obtain rfl := mem_ends_empty.mp h
    exact hreads.unique (.refl _) ▸ isOnLine_nil
  | lineStart | ending | wordEdge =>
    obtain ⟨-, rfl⟩ := mem_ite_singleton.mp h
    exact hreads.unique (.refl _) ▸ isOnLine_nil
  | «unless» a =>
    obtain ⟨-, rfl⟩ := mem_ends_unless.mp h
    exact hreads.unique (.refl _) ▸ isOnLine_nil

end Pattern

namespace Rule

variable {mode : Mode} {rule : Rule} {hit : Hit}

/-- The rule as one pattern. -/
def whole (rule : Rule) : Pattern := .seq rule.lead (.seq rule.name rule.tail)

theorem Fits.whole (h : rule.Fits mode hit) : hit.stop ∈ rule.whole.ends mode hit.start :=
  Pattern.mem_ends_seq.mpr ⟨_, h.lead, Pattern.mem_ends_seq.mpr ⟨_, h.name, h.tail⟩⟩

theorem Fits.reads (h : rule.Fits mode hit) : hit.start.Reads hit.text hit.stop := by
  obtain ⟨s, hreads⟩ := Pattern.exists_reads h.whole
  rwa [Hit.text, hreads.upTo_eq]

/-- A match with something that is no white space goes from its margin to that. -/
theorem Fits.inkStart (h : rule.Fits mode hit) (hink : rule.whole.hasInk mode = true) :
    hit.start.Reads hit.margin hit.inkStart ∧
      ∃ c rest, hit.inkStart.Reads (c :: rest) hit.stop ∧ Text.isBlank c = false := by
  have hreads := h.reads
  obtain ⟨x, hx, hblank⟩ := Pattern.exists_ink hink h.whole hreads
  rw [← List.takeWhile_append_dropWhile (p := Text.isBlank) (l := hit.text)] at hreads
  obtain ⟨q, hmargin, hrest⟩ := hreads.exists_of_append
  obtain rfl := hmargin.eq_skip
  cases hdrop : hit.text.dropWhile Text.isBlank with
  | nil =>
    have hall := List.dropWhile_eq_nil_iff.mp hdrop x hx
    rw [hblank] at hall
    cases hall
  | cons c rest =>
    rw [hdrop] at hrest
    refine ⟨hmargin, c, rest, hrest, ?_⟩
    have hhead := List.head?_dropWhile_not Text.isBlank hit.text
    simpa [hdrop] using hhead

end Rule

namespace Outline

/-- The kinds of findings in a language whose match can begin with a line break. -/
def crookedKinds : Language → List Kind
  | .cobol => [.variable, .businessRule]
  | .c => [.function, .variable]
  | .cpp => [.function, .method, .variable]
  | .java => [.function, .variable]
  | _ => []

variable {l : Language} {kind : Kind} {rule : Rule}

theorem hasInk_of_mem_rulesFor (h : (kind, rule) ∈ rulesFor l) :
    rule.whole.hasInk (modeFor l) = true := by
  have hall : ∀ entry ∈ rulesFor l, entry.2.whole.hasInk (modeFor l) = true := by
    cases l <;> decide +kernel
  exact hall _ h

theorem staysOnLine_of_mem_rulesFor (h : (kind, rule) ∈ rulesFor l)
    (hkind : kind ∉ crookedKinds l) : rule.whole.staysOnLine (modeFor l) = true := by
  have hall : ∀ entry ∈ rulesFor l, entry.1 ∉ crookedKinds l →
      entry.2.whole.staysOnLine (modeFor l) = true := by
    cases l <;> decide +kernel
  exact hall _ h hkind

end Outline

namespace Source

variable {src : Source} {f : Finding}

theorem field_line_number (src : Source) (f : Finding) :
    (f.entity src).properties.field "line_number" = .ok (.int f.line) := by
  unfold Finding.entity
  split <;> rfl

/-- The line of the declaration is as far behind the line that is reported as there are line breaks
in the margin. -/
theorem inkStart_of_mem_findings (hf : f ∈ src.findings) :
    (∃ c rest, f.hit.inkStart.Reads (c :: rest) f.hit.stop ∧ Text.isBlank c = false) ∧
      f.hit.inkStart.line = f.line + Text.lineBreaks f.hit.margin := by
  obtain ⟨rule, hrule, hhit, -⟩ := exists_rule_of_mem_findings hf
  obtain ⟨-, hfits⟩ := Rule.of_mem_hits hhit
  obtain ⟨hmargin, hink⟩ := hfits.inkStart (Outline.hasInk_of_mem_rulesFor hrule)
  exact ⟨hink, hmargin.line_eq⟩

theorem lineBreaks_margin_of_mem_findings (hf : f ∈ src.findings)
    (hkind : f.kind ∉ Outline.crookedKinds src.language) : Text.lineBreaks f.hit.margin = 0 := by
  obtain ⟨rule, hrule, hhit, -⟩ := exists_rule_of_mem_findings hf
  obtain ⟨-, hfits⟩ := Rule.of_mem_hits hhit
  have hstays := Outline.staysOnLine_of_mem_rulesFor hrule hkind
  exact List.count_eq_zero.mpr (Pattern.isOnLine_of_staysOnLine hstays hfits.whole hfits.reads)

/-- A content in which every rule that can go wrong does so. -/
def crooked (l : Language) : Source :=
  ⟨"", .str l.label, "\n01 A PIC\n\nIF B THEN\nint f() \x7b\nint A::g() \x7b\nint a;\n"⟩

theorem exists_crooked {l : Language} {kind : Kind} (h : kind ∈ Outline.crookedKinds l) :
    ∃ f ∈ (crooked l).findings, f.kind = kind ∧ f.line ≠ f.hit.inkStart.line := by
  have hall : ∀ kind ∈ Outline.crookedKinds l,
      ∃ f ∈ (crooked l).findings, f.kind = kind ∧ f.line ≠ f.hit.inkStart.line := by
    cases l <;> decide +kernel
  exact hall kind h

/-- The line that is reported is that of the start of the match. It is the line of the first
character that is no white space just where there is no line break before that character in the
match. The rules for most kinds make sure of that in every file; for the others there is a file
where it fails. -/
theorem line_is_declared_iff (hf : f ∈ src.findings) :
    (f.entity src).properties.field "line_number" = .ok (.int f.line) ∧
    (∃ c rest, f.hit.inkStart.Reads (c :: rest) f.hit.stop ∧ Text.isBlank c = false) ∧
    f.hit.inkStart.line = f.line + Text.lineBreaks f.hit.margin ∧
    (f.line = f.hit.inkStart.line ↔ CodePoint.ofChar '\n' ∉ f.hit.margin) ∧
    ((∀ (other : Source) (g : Finding), other.language = src.language → g ∈ other.findings →
        g.kind = f.kind → g.line = g.hit.inkStart.line) ↔
      f.kind ∉ Outline.crookedKinds src.language) := by
  obtain ⟨hink, hline⟩ := inkStart_of_mem_findings hf
  refine ⟨field_line_number src f, hink, hline, ?_, ?_, ?_⟩
  · rw [hline, ← List.count_eq_zero, ← Text.lineBreaks]
    omega
  · intro hall hcrooked
    obtain ⟨g, hg, hkind, hoff⟩ := exists_crooked hcrooked
    exact hoff (hall _ g (language_of_label rfl) hg hkind)
  · intro hstraight other g hlanguage hg hkind
    obtain ⟨-, hline⟩ := inkStart_of_mem_findings hg
    rw [← hlanguage, ← hkind] at hstraight
    rw [hline, lineBreaks_margin_of_mem_findings hg hstraight]
    omega

/-- A function on the second line. -/
def secondLine : Source := ⟨"a.c", .str "c", "int a;\nint f() \x7b\n\x7d"⟩

theorem line_is_declared_iff_sample :
    ∃ f ∈ secondLine.findings, f.name = "f" ∧ f.hit.inkStart.line = f.line + 1 ∧
      ¬ ∀ (other : Source) (g : Finding), other.language = secondLine.language →
        g ∈ other.findings → g.kind = f.kind → g.line = g.hit.inkStart.line := by
  have hmargin : ∃ f ∈ secondLine.findings, f.name = "f" ∧
      Text.lineBreaks f.hit.margin = 1 ∧ f.kind ∈ Outline.crookedKinds secondLine.language := by
    decide +kernel
  obtain ⟨f, hf, hname, hone, hkind⟩ := hmargin
  obtain ⟨-, -, hline, -, hkinds⟩ := line_is_declared_iff hf
  exact ⟨f, hf, hname, by rw [hline, hone], fun hall => hkinds.mp hall hkind⟩

/-- The function on the second line is reported on the first. -/
theorem declaration_off_line :
    ∃ f ∈ secondLine.findings, f.name = "f" ∧
      (f.entity secondLine).properties.field "line_number" = .ok (.int 1) ∧
      f.hit.inkStart.line = 2 := by
  have hfound : ∃ f ∈ secondLine.findings, f.name = "f" ∧ f.line = 1 ∧ f.hit.inkStart.line = 2 := by
    decide +kernel
  obtain ⟨f, hf, hname, hone, htwo⟩ := hfound
  exact ⟨f, hf, hname, by rw [field_line_number, hone]; rfl, htwo⟩

end Source

end CodeAtlas
