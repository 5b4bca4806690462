import CodeAtlas.Proofs.Utf8Laws
import CodeAtlas.Proofs.WrittenTokens

/-! Written documents read back. A document is written in ASCII, so that its bytes read
back as its text, and reading that gives the value it was written from. -/
namespace CodeAtlas

namespace Json

namespace State

variable {limit room : Nat} {stack : List Frame} {s s' : State}

/-- The state after a run over the tokens. -/
def run (limit : Nat) (s : State) (ts : List Token) : Except Fault State :=
  ts.foldlM (step limit) s

theorem run_nil : run limit s [] = .ok s := rfl

theorem run_cons {token : Token} {ts : List Token} (h : s.step limit token = .ok s') :
    run limit s (token :: ts) = run limit s' ts := by
  simp [run, h, bind, Except.bind]

theorem run_append {ts us : List Token} (h : run limit s ts = .ok s') :
    run limit s (ts ++ us) = run limit s' us := by
  unfold run at h ⊢
  rw [List.foldlM_append, h]
  rfl

/-- The value can be read wherever a value is expected below containers that leave room for it. -/
def Takes (limit room : Nat) (v : Value) : Prop :=
  ∀ stack phase, room + List.length stack ≤ limit → phase = .value ∨ phase = .item →
    run limit ⟨stack, phase⟩ (tokensOf v) = .ok ⟨stack, .after v⟩

theorem step_open {phase : Phase} (hphase : phase = .value ∨ phase = .item) {token : Token}
    (htoken : token ≠ .closeList) :
    step limit ⟨stack, phase⟩ token = openValue limit stack token := by
  rcases hphase with rfl | rfl
  · rfl
  · cases token with
    | closeList => exact absurd rfl htoken
    | _ => rfl

theorem takes_scalar {v : Value} (h : tokensOf v = [.scalar v]) : Takes limit room v := by
  intro stack phase _ hphase
  rw [h, run_cons (step_open hphase (by simp))]
  rfl

theorem run_items {items : List Value} (hitems : ∀ v ∈ items, Takes limit room v)
    (hroom : room + (stack.length + 1) ≤ limit) (hsome : items ≠ []) (past : List Value)
    {phase : Phase} (hphase : phase = .value ∨ phase = .item) :
    run limit ⟨.list past :: stack, phase⟩
        (List.intercalate [.comma] (tokensOfItems items) ++ [.closeList]) =
      .ok ⟨stack, .after (.list (past.reverse ++ items))⟩ := by
  induction items generalizing past phase with
  | nil => exact absurd rfl hsome
  | cons v vs ih =>
    have hv := hitems v (by simp) (.list past :: stack) phase hroom hphase
    cases vs with
    | nil =>
      have hlast : step limit ⟨.list past :: stack, .after v⟩ .closeList =
          .ok ⟨stack, .after (.list (v :: past).reverse)⟩ := rfl
      simp only [tokensOfItems, List.intercalate_singleton]
      rw [run_append hv, run_cons hlast, run_nil, List.reverse_cons]
    | cons w vs =>
      have hcomma : step limit ⟨.list past :: stack, .after v⟩ .comma =
          .ok ⟨.list (v :: past) :: stack, .value⟩ := rfl
      have hrest := ih (fun w hw => hitems w (by simp [hw])) (by simp) (v :: past) (.inl rfl)
      simp only [tokensOfItems, List.intercalate_cons_cons, List.append_assoc,
        List.cons_append, List.nil_append] at hrest ⊢
      rw [run_append hv, run_cons hcomma, hrest, List.reverse_cons, List.append_assoc,
        List.singleton_append]

theorem run_fields {fields : Fields} (hfields : ∀ field ∈ fields, Takes limit room field.2)
    (hroom : room + (stack.length + 1) ≤ limit) (hsome : fields ≠ [])
    (past : List (Text × Value)) {phase : Phase}
    (hphase : phase = .key past ∨ phase = .field ∧ past = []) :
    run limit ⟨stack, phase⟩
        (List.intercalate [.comma] (tokensOfFields fields) ++ [.closeDict]) =
      .ok ⟨stack, .after (.dict (Fields.ofPairs (past.reverse ++ fields)))⟩ := by
  induction fields generalizing past phase with
  | nil => exact absurd rfl hsome
  | cons field rest ih =>
    obtain ⟨key, v⟩ := field
    have hkey : step limit ⟨stack, phase⟩ (.text key) = .ok ⟨stack, .colon past key⟩ := by
      rcases hphase with rfl | ⟨rfl, rfl⟩ <;> rfl
    have hcolon : step limit ⟨stack, .colon past key⟩ .colon =
        .ok ⟨.entry past key :: stack, .value⟩ := rfl
    have hv := hfields (key, v) (by simp) (.entry past key :: stack) .value hroom (.inl rfl)
    cases rest with
    | nil =>
      have hlast : step limit ⟨.entry past key :: stack, .after v⟩ .closeDict =
          .ok ⟨stack, .after (.dict (Fields.ofPairs ((key, v) :: past).reverse))⟩ := rfl
      simp only [tokensOfFields, List.intercalate_singleton, List.cons_append]
      rw [run_cons hkey, run_cons hcolon, run_append hv, run_cons hlast, run_nil,
        List.reverse_cons]
    | cons field rest =>
      have hcomma : step limit ⟨.entry past key :: stack, .after v⟩ .comma =
          .ok ⟨stack, .key ((key, v) :: past)⟩ := rfl
      have hrest := ih (fun field hfield => hfields field (by simp [hfield])) (by simp)
        ((key, v) :: past) (.inl rfl)
      simp only [tokensOfFields, List.intercalate_cons_cons, List.append_assoc,
        List.cons_append, List.nil_append] at hrest ⊢
      rw [run_cons hkey, run_cons hcolon, run_append hv, run_cons hcomma, hrest,
        List.reverse_cons, List.append_assoc, List.singleton_append]

/-- A legible value is read from its tokens. -/
theorem takes_of_isLegible {v : Value} (h : v.IsLegible room) : Takes limit room v := by
  induction h with
  | null => exact takes_scalar rfl
  | bool => exact takes_scalar rfl
  | int => exact takes_scalar rfl
  | float => exact takes_scalar rfl
  | str _ s =>
    intro stack phase _ hphase
    rw [tokensOf, run_cons (step_open hphase (by simp))]
    rfl
  | @list room items _ ih =>
    intro stack phase hroom hphase
    have hopen : step limit ⟨stack, phase⟩ .openList = .ok ⟨.list [] :: stack, .item⟩ := by
      rw [step_open hphase (by simp), openValue, enter, if_pos (by omega)]
    rw [tokensOf, run_cons hopen]
    by_cases hsome : items = []
    · subst hsome
      rfl
    · exact run_items ih (by omega) hsome [] (.inr rfl)
  | @dict room fields hkeys _ ih =>
    intro stack phase hroom hphase
    have hopen : step limit ⟨stack, phase⟩ .openDict = .ok ⟨stack, .field⟩ := by
      rw [step_open hphase (by simp), openValue, enter, if_pos (by omega)]
    rw [tokensOf, run_cons hopen]
    by_cases hsome : fields = []
    · subst hsome
      rfl
    · rw [run_fields ih (by omega) hsome [] (.inr ⟨rfl, rfl⟩), List.reverse_nil, List.nil_append,
        Fields.ofPairs_of_isDistinct hkeys]

end State

/-- Reading gives back what was written, in every layout. -/
theorem readWithin_writeWith {v : Value} {limit : Nat} (hlegible : v.IsLegible limit)
    (hplain : v.isPlain = true) (layout : Layout) :
    readWithin limit (writeWith layout v) = .ok v := by
  have hstops : Stops [] := fun c hc => by simp at hc
  have hlexes := written_writeWith hlegible hplain layout [] hstops
  rw [List.append_nil] at hlexes
  have hrun : State.run limit State.start (tokensOf v) = .ok ⟨[], .after v⟩ :=
    State.takes_of_isLegible hlegible [] .value (Nat.le_refl _) (.inl rfl)
  unfold State.run at hrun
  rw [readWithin, hlexes.tokens_eq, hrun]
  rfl

end Json

namespace Text

/-- All code points are in ASCII. -/
def IsAscii (s : Text) : Prop := ∀ c ∈ s, c.val < 0x80

instance (s : Text) : Decidable s.IsAscii := inferInstanceAs (Decidable (∀ c ∈ s, c.val < 0x80))

section
variable {s t : Text}

theorem isAscii_append : IsAscii (s ++ t) ↔ IsAscii s ∧ IsAscii t := List.forall_mem_append

theorem isAscii_intercalate {sep : Text} {parts : List Text} (hsep : IsAscii sep)
    (h : ∀ part ∈ parts, IsAscii part) : IsAscii (intercalate sep parts) := by
  induction parts with
  | nil => exact fun c hc => by simp [intercalate] at hc
  | cons part parts ih =>
    cases parts with
    | nil => simpa [intercalate] using h part (by simp)
    | cons next parts =>
      rw [intercalate, List.intercalate_cons_cons, isAscii_append, isAscii_append]
      exact ⟨⟨h part (by simp), hsep⟩, ih fun part hpart => h part (by simp [hpart])⟩

theorem isAscii_hexText {n : Nat} (h : n < 0x10000) : IsAscii (hexText 4 n) := by
  have hdigit : ∀ k < 16, (hexDigit k).val < 0x80 := by decide
  rw [hexText_four h]
  simp only [IsAscii, List.forall_mem_cons, List.not_mem_nil, false_implies, implies_true, and_true]
  exact ⟨hdigit _ (by omega), hdigit _ (by omega), hdigit _ (by omega), hdigit _ (by omega)⟩

theorem isAscii_natText (n : Nat) : IsAscii (natText n) := by
  intro c hc
  have hdigit := isDigit_of_mem_natText hc
  simp only [CodePoint.isDigit, Bool.and_eq_true, decide_eq_true_eq] at hdigit
  omega

theorem isAscii_intText (n : Int) : IsAscii (intText n) := by
  unfold intText
  split
  · rw [isAscii_append]
    exact ⟨by decide, isAscii_natText _⟩
  · exact isAscii_natText _

end

end Text

namespace Json

theorem isAscii_unitEscape {n : Nat} (h : n < 0x10000) : Text.IsAscii (unitEscape n) := by
  rw [unitEscape, Text.isAscii_append]
  exact ⟨by decide, Text.isAscii_hexText h⟩

theorem Escape.isAscii {c : CodePoint} {w : Text} (h : Escape c w) : w.IsAscii := by
  cases h with
  | self _ hmost =>
    intro d hd
    rw [List.mem_singleton.mp hd]
    omega
  | @letter letter hletter _ =>
    have hall : ∀ entry ∈ escapes, entry.1.val < 0x80 := by decide
    obtain ⟨before, after, hsplit, _⟩ := List.lookup_eq_some_iff.mp hletter
    have hmem : (letter, c) ∈ escapes := by simp [hsplit]
    have hslash : (CodePoint.ofChar '\\').val < 0x80 := by decide
    exact List.forall_mem_cons.mpr ⟨hslash, List.forall_mem_singleton.mpr (hall _ hmem)⟩
  | unit h => exact isAscii_unitEscape h
  | pair h =>
    have hlt := c.isLt
    rw [Text.isAscii_append]
    exact ⟨isAscii_unitEscape (by omega), isAscii_unitEscape (by omega)⟩

theorem isAscii_writeText (s : Text) : (writeText s).IsAscii := by
  rw [writeText, Text.isAscii_append, Text.isAscii_append]
  have hquote : Text.IsAscii "\"" := by decide
  refine ⟨⟨hquote, fun c hc => ?_⟩, hquote⟩
  obtain ⟨d, _, hd⟩ := List.mem_flatMap.mp hc
  exact (escape_escapePoint d).isAscii c hd

theorem isAscii_lineBreak (depth : Nat) : (Layout.lineBreak depth).IsAscii := by
  rw [Layout.lineBreak, Text.isAscii_append]
  refine ⟨by decide, fun c hc => ?_⟩
  rw [List.eq_of_mem_replicate hc]
  decide

theorem isAscii_wrap (layout : Layout) {start stop : Text} {items : List Text}
    (hstart : start.IsAscii) (hstop : stop.IsAscii) (h : ∀ item ∈ items, item.IsAscii) :
    (layout.wrap start stop items).IsAscii := by
  have hcomma : Text.IsAscii "," := by decide
  unfold Layout.wrap
  split
  · exact Text.isAscii_append.mpr ⟨hstart, hstop⟩
  · cases layout with
    | line =>
      have hsep : Text.IsAscii ", " := by decide
      simp only [Text.isAscii_append]
      exact ⟨⟨hstart, Text.isAscii_intercalate hsep h⟩, hstop⟩
    | indented depth =>
      have hbreak := isAscii_lineBreak
      have hsep := Text.isAscii_append.mpr ⟨hcomma, hbreak (depth + 2)⟩
      simp only [Text.isAscii_append]
      exact ⟨⟨⟨⟨hstart, hbreak _⟩, Text.isAscii_intercalate hsep h⟩, hbreak _⟩, hstop⟩

mutual
/-- Every document without floating point numbers is written in ASCII. -/
theorem isAscii_writeWith (layout : Layout) : ∀ {v : Value}, v.isPlain = true →
    (writeWith layout v).IsAscii
  | .null, _ => by rw [writeWith]; decide
  | .bool b, _ => by cases b <;> (rw [writeWith]; decide)
  | .int n, _ => Text.isAscii_intText n
  | .str s, _ => isAscii_writeText s
  | .list items, h =>
    isAscii_wrap layout (by decide) (by decide)
      (isAscii_writeItems layout.inner h)
  | .dict fields, h =>
    isAscii_wrap layout (by decide) (by decide)
      (isAscii_writeFields layout.inner h)

theorem isAscii_writeItems (layout : Layout) : ∀ {items : List Value},
    Value.arePlain items = true → ∀ item ∈ writeItems layout items, item.IsAscii
  | [], _ => by simp [writeItems]
  | v :: vs, h => by
    rw [Value.arePlain, Bool.and_eq_true] at h
    exact List.forall_mem_cons.mpr ⟨isAscii_writeWith layout h.1, isAscii_writeItems layout h.2⟩

theorem isAscii_writeFields (layout : Layout) : ∀ {fields : Fields},
    Value.havePlain fields = true → ∀ item ∈ writeFields layout fields, item.IsAscii
  | [], _ => by simp [writeFields]
  | (key, v) :: rest, h => by
    rw [Value.havePlain, Bool.and_eq_true, Bool.and_eq_true] at h
    have hcolon : Text.IsAscii ": " := by decide
    have hfield := Text.isAscii_append.mpr
      ⟨Text.isAscii_append.mpr ⟨isAscii_writeText key, hcolon⟩, isAscii_writeWith layout h.1.2⟩
    exact List.forall_mem_cons.mpr ⟨hfield, isAscii_writeFields layout h.2⟩
end

end Json

end CodeAtlas
