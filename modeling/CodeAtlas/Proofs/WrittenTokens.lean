import CodeAtlas.Json.Writer
import CodeAtlas.Proofs.CharLaws
import CodeAtlas.Proofs.ReadLegible

/-! The tokens of a written document. A document is written as the tokens of its value with blanks
between some of them, in every layout, and taking the text apart gives these tokens again. -/
namespace CodeAtlas

/-- No half stands alone in the text. -/
def Text.isWhole (s : Text) : Bool := s.all fun c => !c.isHalf

namespace Json

/-- The ways to write a code point. -/
inductive Escape (c : CodePoint) : Text → Prop where
  | self (hleast : 0x20 ≤ c.val) (hmost : c.val < 0x7F) (hquote : c ≠ '"') (hslash : c ≠ '\\') :
      Escape c [c]
  | letter {letter : CodePoint} (hletter : escapes.lookup letter = some c) (hu : letter ≠ 'u') :
      Escape c [CodePoint.ofChar '\\', letter]
  | unit (h : c.val < 0x10000) : Escape c (unitEscape c.val)
  | pair (h : 0x10000 ≤ c.val) :
      Escape c (unitEscape (0xD800 + (c.val - 0x10000) / 0x400) ++
        unitEscape (0xDC00 + (c.val - 0x10000) % 0x400))

theorem escape_escapePoint (c : CodePoint) : Escape c (escapePoint c) := by
  unfold escapePoint
  simp only [beq_iff_eq, Bool.and_eq_true, decide_eq_true_eq]
  split_ifs with hquote hslash hbreak hreturn htab hback hfeed hprintable hplane
  · exact hquote ▸ .letter rfl (by decide)
  · exact hslash ▸ .letter rfl (by decide)
  · exact hbreak ▸ .letter rfl (by decide)
  · exact hreturn ▸ .letter rfl (by decide)
  · exact htab ▸ .letter rfl (by decide)
  · exact hback ▸ .letter rfl (by decide)
  · exact hfeed ▸ .letter rfl (by decide)
  · exact .self hprintable.1 hprintable.2 hquote hslash
  · exact .unit hplane
  · exact .pair (Nat.le_of_not_lt hplane)

section
variable {c : CodePoint} {w : Text}

theorem scanText_unitEscape {n : Nat} (h : n < 0x10000) (t : Text) :
    scanText (unitEscape n ++ t) = (scanText t).map fun (glyphs, rest) =>
      (.numbered (.ofNat n) :: glyphs, rest) := by
  obtain ⟨a, b, c, d, htext, hcode⟩ := Text.hexCode?_hexText h
  rw [CodePoint.ofNat?_of_lt (by omega)] at hcode
  have hshape : unitEscape n ++ t =
      CodePoint.ofChar '\\' :: CodePoint.ofChar 'u' :: a :: b :: c :: d :: t := by
    rw [unitEscape, htext]
    rfl
  rw [hshape, scanText.eq_def]
  dsimp only
  rw [if_neg (by decide), if_pos (by decide), if_pos (by decide), hcode]
  cases scanText t <;> rfl

theorem scanText_letter {letter : CodePoint} (hletter : escapes.lookup letter = some c)
    (hu : letter ≠ 'u') (t : Text) :
    scanText (CodePoint.ofChar '\\' :: letter :: t) = (scanText t).map fun (glyphs, rest) =>
      (.plain c :: glyphs, rest) := by
  rw [scanText.eq_def]
  dsimp only
  rw [if_neg (by decide), if_pos (by decide), if_neg (by simpa using hu), hletter]
  cases scanText t <;> rfl

theorem scanText_self (hleast : 0x20 ≤ c.val) (hquote : c ≠ '"') (hslash : c ≠ '\\') (t : Text) :
    scanText (c :: t) = (scanText t).map fun (glyphs, rest) => (.plain c :: glyphs, rest) := by
  rw [scanText.eq_def]
  dsimp only
  rw [if_neg (by simpa using hquote), if_neg (by simpa using hslash),
    if_neg (Nat.not_lt_of_le hleast)]
  cases scanText t <;> rfl

/-- What is written by number and is not the first half of a pair stands for itself. -/
theorem spelled_numbered (h : c.isHighHalf = false) (glyphs : List Glyph) :
    spelled (.numbered c :: glyphs) = c :: spelled glyphs := by
  cases glyphs with
  | nil => rfl
  | cons glyph rest =>
    cases glyph with
    | plain d => rfl
    | numbered d => simp [spelled, h]

/-- The two halves of a character beyond the first plane stand for it. -/
theorem spelled_pair (h : 0x10000 ≤ c.val) (glyphs : List Glyph) :
    spelled (.numbered (.ofNat (0xD800 + (c.val - 0x10000) / 0x400)) ::
      .numbered (.ofNat (0xDC00 + (c.val - 0x10000) % 0x400)) :: glyphs) = c :: spelled glyphs := by
  have hc := c.isLt
  have hhigh := CodePoint.val_ofNat (show 0xD800 + (c.val - 0x10000) / 0x400 < 0x110000 by omega)
  have hlow := CodePoint.val_ofNat (show 0xDC00 + (c.val - 0x10000) % 0x400 < 0x110000 by omega)
  have hhalves : ((CodePoint.ofNat (0xD800 + (c.val - 0x10000) / 0x400)).isHighHalf &&
      (CodePoint.ofNat (0xDC00 + (c.val - 0x10000) % 0x400)).isLowHalf) = true := by
    simp only [CodePoint.isHighHalf, CodePoint.isLowHalf, hhigh, hlow, Bool.and_eq_true,
      decide_eq_true_eq]
    omega
  have hsum : 0x10000 + (0xD800 + (c.val - 0x10000) / 0x400 - 0xD800) * 0x400 +
      (0xDC00 + (c.val - 0x10000) % 0x400 - 0xDC00) = c.val := by omega
  rw [spelled, if_pos hhalves, CodePoint.ofHalves, hhigh, hlow, hsum, CodePoint.ofNat_val]

theorem Escape.spells (hc : c.isHalf = false) (h : Escape c w) : ∃ glyphs,
    (∀ t, scanText (w ++ t) = (scanText t).map fun (more, rest) => (glyphs ++ more, rest)) ∧
      ∀ more, spelled (glyphs ++ more) = c :: spelled more := by
  cases h with
  | self hleast _ hquote hslash =>
    exact ⟨[.plain c], fun t => scanText_self hleast hquote hslash t, fun more => rfl⟩
  | letter hletter hu =>
    exact ⟨[.plain c], fun t => scanText_letter hletter hu t, fun more => rfl⟩
  | unit h =>
    have hhigh : c.isHighHalf = false := by
      simp only [CodePoint.isHalf, CodePoint.isHighHalf, Bool.and_eq_false_iff,
        decide_eq_false_iff_not] at hc ⊢
      omega
    refine ⟨[.numbered c], fun t => ?_, fun more => spelled_numbered hhigh more⟩
    rw [scanText_unitEscape h, CodePoint.ofNat_val]
    rfl
  | pair h =>
    have hlt := c.isLt
    refine ⟨[.numbered (.ofNat (0xD800 + (c.val - 0x10000) / 0x400)),
      .numbered (.ofNat (0xDC00 + (c.val - 0x10000) % 0x400))], fun t => ?_,
      fun more => spelled_pair h more⟩
    rw [List.append_assoc, scanText_unitEscape (by omega), scanText_unitEscape (by omega)]
    cases scanText t <;> rfl

/-- A written text reads back, whatever stands behind it. -/
theorem scanText_written {s : Text} (hs : s.isWhole = true) (rest : Text) :
    ∃ glyphs, scanText (s.flatMap escapePoint ++ CodePoint.ofChar '"' :: rest) =
      some (glyphs, rest) ∧ spelled glyphs = s := by
  induction s with
  | nil =>
    refine ⟨[], ?_, rfl⟩
    rw [List.flatMap_nil, List.nil_append, scanText.eq_def]
    rfl
  | cons c s ih =>
    simp only [Text.isWhole, List.all_cons, Bool.and_eq_true, Bool.not_eq_true'] at hs
    obtain ⟨more, hscan, hmore⟩ := ih hs.2
    obtain ⟨glyphs, hglyphs, hspelled⟩ := (escape_escapePoint c).spells hs.1
    refine ⟨glyphs ++ more, ?_, by rw [hspelled, hmore]⟩
    rw [List.flatMap_cons, List.append_assoc, hglyphs, hscan]
    rfl

theorem scanToken_writeText {s : Text} (hs : s.isWhole = true) (rest : Text) :
    scanToken (writeText s ++ rest) = some (.text s, rest) := by
  obtain ⟨glyphs, hscan, hspelled⟩ := scanText_written hs rest
  have hshape : writeText s ++ rest =
      CodePoint.ofChar '"' :: (s.flatMap escapePoint ++ CodePoint.ofChar '"' :: rest) := by
    simp [writeText, Text.ofString, Text.ofChars]
  have hscanToken (t : Text) : scanToken (CodePoint.ofChar '"' :: t) =
      (scanText t).map fun (glyphs, rest) => (.text (spelled glyphs), rest) := rfl
  rw [hshape, hscanToken, hscan, ← hspelled]
  rfl

end

/-- What may stand behind a value. -/
def isStop (c : CodePoint) : Bool := c == ',' || c == ']' || c == '\x7d' || c == '\n'

/-- Nothing follows, or something that cannot belong to a number. -/
def Stops (rest : Text) : Prop := ∀ c, rest.head? = some c → isStop c = true

section
variable {rest : Text} {n : Nat}

theorem isStop_iff {c : CodePoint} : isStop c = true ↔
    c = CodePoint.ofChar ',' ∨ c = CodePoint.ofChar ']' ∨ c = CodePoint.ofChar '\x7d' ∨
      c = CodePoint.ofChar '\n' := by
  simp [isStop, or_assoc]

/-- A number ends at what may stand behind a value. -/
theorem Stops.ends_number (h : Stops rest) :
    (∀ c, rest.head? = some c → c.isDigit = false) ∧ fractionPart rest = ([], rest) ∧
      exponentPart rest = (none, rest) := by
  cases rest with
  | nil => exact ⟨fun c hc => by simp at hc, rfl, rfl⟩
  | cons c rest =>
    have hdigit (hc : c.isDigit = false) (d : CodePoint) (hd : (c :: rest).head? = some d) :
        d.isDigit = false := Option.some.inj hd ▸ hc
    rcases isStop_iff.mp (h c rfl) with rfl | rfl | rfl | rfl <;>
      exact ⟨hdigit (by decide), rfl, rfl⟩

theorem digitSpan_append {digits : Text} (hdigits : ∀ c ∈ digits, c.isDigit = true)
    (hrest : ∀ c, rest.head? = some c → c.isDigit = false) :
    digitSpan (digits ++ rest) = (digits, rest) := by
  have hnone : rest.takeWhile CodePoint.isDigit = [] ∧ rest.dropWhile CodePoint.isDigit = rest := by
    cases rest with
    | nil => simp
    | cons c rest => simp [hrest c rfl]
  rw [digitSpan, List.takeWhile_append_of_pos hdigits, List.dropWhile_append_of_pos hdigits,
    hnone.1, hnone.2, List.append_nil]

theorem wholePart_natText (hrest : ∀ c, rest.head? = some c → c.isDigit = false) :
    wholePart (Text.natText n ++ rest) = (Text.natText n, rest) := by
  rcases Nat.eq_zero_or_pos n with rfl | hn
  · rfl
  · have hspan : digitSpan (Text.natText n ++ rest) = (Text.natText n, rest) :=
      digitSpan_append (fun c hc => Text.isDigit_of_mem_natText hc) hrest
    cases hdigits : Text.natText n with
    | nil => exact absurd hdigits (Text.natText_ne_nil n)
    | cons c digits =>
      have hhead := Text.head?_natText hn
      rw [hdigits] at hhead hspan
      have hzero : (c == CodePoint.ofChar '0') = false := by simpa using hhead
      rw [List.cons_append, wholePart, hzero]
      exact hspan

theorem scanNumber_natText (hrest : Stops rest) (hshort : n < 10 ^ Text.digitLimit)
    (negative : Bool) :
    scanNumber negative (Text.natText n ++ rest) =
      some (.scalar (.int (if negative then -(n : Int) else n)), rest) := by
  obtain ⟨hdigit, hfraction, hexponent⟩ := hrest.ends_number
  have hlength : ¬ Text.digitLimit < (Text.natText n).length :=
    Nat.not_lt_of_le ((Text.length_natText_le_iff (by decide)).mpr hshort)
  have hsome : (Text.natText n).isEmpty = false := by
    rw [List.isEmpty_eq_false_iff]
    exact Text.natText_ne_nil n
  simp only [scanNumber, wholePart_natText hdigit, hsome, hfraction, hexponent, hlength,
    Text.digitsValue_natText, List.isEmpty_nil, Option.isNone_none, Bool.and_self, if_true,
    if_false, Bool.false_eq_true]

/-- The text starts with a digit, or with one behind a minus sign. -/
def opensNumber : Text → Bool
  | [] => false
  | c :: s => c.isDigit || (c == '-' && s.head?.any CodePoint.isDigit)

theorem opensNumber_fixed : ∀ fixed ∈ fixedTokens, ∀ s, opensNumber (fixed.1 ++ s) = false := by
  intro fixed hfixed s
  simp only [fixedTokens, List.mem_cons, List.not_mem_nil, or_false] at hfixed
  rcases hfixed with rfl | rfl | rfl | rfl | rfl | rfl | rfl | rfl | rfl | rfl | rfl | rfl <;> rfl

theorem find?_fixedTokens {s : Text} (h : opensNumber s = true) :
    (fixedTokens.find? fun (written, _) => Text.startsWith written s) = none := by
  rw [List.find?_eq_none]
  intro fixed hfixed hstarts
  obtain ⟨t, rfl⟩ := List.isPrefixOf_iff_prefix.mp hstarts
  rw [opensNumber_fixed fixed hfixed t] at h
  cases h

theorem scanToken_digit {c : CodePoint} (hc : c.isDigit = true) (s : Text) :
    scanToken (c :: s) = scanNumber false (c :: s) := by
  have hother {d : CodePoint} (hd : d.isDigit = false) : (d == c) = false := by
    apply beq_false_of_ne
    rintro rfl
    rw [hd] at hc
    cases hc
  have hstart {d : CodePoint} (hd : d.isDigit = false) : Text.startsWith [d] (c :: s) = false := by
    simp [Text.startsWith, List.isPrefixOf, hother hd]
  rw [scanToken, find?_fixedTokens (by simp [opensNumber, hc])]
  have hquote : Text.startsWith "\"" (c :: s) = false := hstart (by decide)
  have hminus : Text.startsWith "-" (c :: s) = false := hstart (by decide)
  simp only [hquote, hminus, Bool.false_eq_true, if_false]

theorem scanToken_minus {c : CodePoint} (hc : c.isDigit = true) (s : Text) :
    scanToken (CodePoint.ofChar '-' :: c :: s) = scanNumber true (c :: s) := by
  rw [scanToken, find?_fixedTokens (by simp [opensNumber, hc])]
  rfl

theorem scanToken_intText {n : Int} (hrest : Stops rest)
    (hshort : n.natAbs < 10 ^ Text.digitLimit) :
    scanToken (Text.intText n ++ rest) = some (.scalar (.int n), rest) := by
  have hnumber (negative : Bool) := scanNumber_natText hrest hshort negative
  obtain ⟨c, digits, hdigits⟩ := List.exists_cons_of_ne_nil (Text.natText_ne_nil n.natAbs)
  have hc : c.isDigit = true := Text.isDigit_of_mem_natText (hdigits ▸ List.mem_cons_self)
  rw [hdigits] at hnumber
  unfold Text.intText
  rw [hdigits]
  split
  next hn =>
    change scanToken (CodePoint.ofChar '-' :: c :: (digits ++ rest)) = _
    have hvalue : -(n.natAbs : Int) = n := by omega
    rw [scanToken_minus hc, ← List.cons_append, hnumber, if_pos rfl, hvalue]
  next hn =>
    have hvalue : (n.natAbs : Int) = n := by omega
    rw [List.cons_append, scanToken_digit hc, ← List.cons_append, hnumber,
      if_neg Bool.false_ne_true, hvalue]

end

/-- Taking the text apart up to the place where `rest` stands gives the tokens. -/
inductive Lexes : Text → List Token → Text → Prop where
  | done (rest : Text) : Lexes rest [] rest
  | space {c : CodePoint} {s rest : Text} {ts : List Token} (hspace : isSpace c = true)
      (h : Lexes s ts rest) : Lexes (c :: s) ts rest
  | token {c : CodePoint} {s after rest : Text} {token : Token} {ts : List Token}
      (hspace : isSpace c = false) (hscan : scanToken (c :: s) = some (token, after))
      (hshort : after.length ≤ s.length) (h : Lexes after ts rest) :
      Lexes (c :: s) (token :: ts) rest

namespace Lexes

variable {s middle rest : Text} {ts us : List Token}

theorem append (h : Lexes s ts middle) (hmiddle : Lexes middle us rest) :
    Lexes s (ts ++ us) rest := by
  induction h with
  | done => exact hmiddle
  | space hspace _ ih => exact .space hspace (ih hmiddle)
  | token hspace hscan hshort _ ih => exact .token hspace hscan hshort (ih hmiddle)

theorem blank {gap : Text} (hgap : ∀ c ∈ gap, isSpace c = true) : Lexes (gap ++ rest) [] rest := by
  induction gap with
  | nil => exact .done rest
  | cons c gap ih => exact .space (hgap c (by simp)) (ih fun d hd => hgap d (by simp [hd]))

theorem one {c : CodePoint} {token : Token} (hspace : isSpace c = false)
    (hscan : scanToken (c :: s ++ rest) = some (token, rest)) :
    Lexes (c :: s ++ rest) [token] rest :=
  .token hspace hscan (by simp) (.done rest)

/-- The fuel that the length of a text gives is never used up. -/
theorem tokensWithin_eq (h : Lexes s ts rest) {fuel : Nat} (hfuel : s.length ≤ fuel) :
    ∃ left, rest.length ≤ left ∧ tokensWithin fuel s = ts ++ tokensWithin left rest := by
  induction h generalizing fuel with
  | done => exact ⟨fuel, hfuel, rfl⟩
  | @space c s rest ts hspace _ ih =>
    obtain ⟨fuel, rfl⟩ := Nat.exists_eq_add_of_lt hfuel
    obtain ⟨left, hleft, htokens⟩ := ih (show s.length ≤ s.length + fuel by omega)
    exact ⟨left, hleft, by simpa [tokensWithin, hspace] using htokens⟩
  | @token c s after rest token ts hspace hscan hshort _ ih =>
    obtain ⟨fuel, rfl⟩ := Nat.exists_eq_add_of_lt hfuel
    obtain ⟨left, hleft, htokens⟩ := ih (show after.length ≤ s.length + fuel by omega)
    exact ⟨left, hleft, by simp [tokensWithin, hspace, hscan, htokens]⟩

theorem tokens_eq (h : Lexes s ts []) : tokens s = ts := by
  obtain ⟨left, -, htokens⟩ := h.tokensWithin_eq (Nat.le_refl s.length)
  rw [tokens, htokens]
  cases left <;> simp [tokensWithin]

end Lexes

/-- The text is written as these tokens, whatever may stand behind it. -/
def Written (w : Text) (ts : List Token) : Prop := ∀ rest, Stops rest → Lexes (w ++ rest) ts rest

section
variable {w gap : Text} {ts : List Token} {ws : List Text} {tss : List (List Token)}

/-- Items with commas between them, and blanks after the commas. -/
theorem written_intercalate (hgap : ∀ c ∈ gap, isSpace c = true)
    (h : List.Forall₂ Written ws tss) :
    Written (Text.intercalate (CodePoint.ofChar ',' :: gap) ws)
      (List.intercalate [.comma] tss) := by
  induction h with
  | nil => exact fun rest _ => .done rest
  | @cons w ts ws tss hw hws ih =>
    cases hws with
    | nil => simpa [Text.intercalate] using hw
    | @cons w' ts' ws tss hw' hws =>
      intro rest hrest
      rw [Text.intercalate, List.intercalate_cons_cons, List.intercalate_cons_cons]
      have hcomma (t : Text) : Lexes (CodePoint.ofChar ',' :: t) [.comma] t :=
        .token rfl rfl (Nat.le_refl _) (.done t)
      have hbehind := ((hcomma _).append (.blank hgap)).append (ih rest hrest)
      have hstops : Stops (CodePoint.ofChar ',' ::
          (gap ++ (Text.intercalate (CodePoint.ofChar ',' :: gap) (w' :: ws) ++ rest))) := by
        intro c hc
        exact Option.some.inj hc ▸ rfl
      have hall := (hw _ hstops).append hbehind
      simpa [Text.intercalate] using hall

/-- Something written between two brackets, with blanks behind the first and before the second. -/
theorem written_between {first last : CodePoint} {opening closing : Token} {gap' : Text}
    (hfirst : isSpace first = false ∧ ∀ t, scanToken (first :: t) = some (opening, t))
    (hlast : isSpace last = false ∧ ∀ t, scanToken (last :: t) = some (closing, t))
    (hgap : ∀ c ∈ gap, isSpace c = true) (hgap' : ∀ c ∈ gap', isSpace c = true)
    (hstop : Stops (gap' ++ [last])) (h : Written w ts) :
    Written (first :: (gap ++ w ++ gap' ++ [last])) (opening :: (ts ++ [closing])) := by
  intro rest _
  have hopen (t : Text) : Lexes (first :: t) [opening] t :=
    .token hfirst.1 (hfirst.2 t) (Nat.le_refl _) (.done t)
  have hclose : Lexes (last :: rest) [closing] rest :=
    .token hlast.1 (hlast.2 rest) (Nat.le_refl _) (.done rest)
  have hstops : Stops (gap' ++ last :: rest) := by
    intro c hc
    apply hstop c
    cases gap' <;> simpa using hc
  have hinner := ((Lexes.blank hgap).append (h _ hstops)).append ((Lexes.blank hgap').append hclose)
  have hall := (hopen _).append hinner
  simpa using hall

theorem isSpace_of_mem_lineBreak {depth : Nat} {c : CodePoint} (h : c ∈ Layout.lineBreak depth) :
    isSpace c = true := by
  rcases List.mem_append.mp h with h | h
  · obtain rfl := List.mem_singleton.mp h
    rfl
  · rw [List.eq_of_mem_replicate h]
    rfl

theorem written_wrap (layout : Layout) {first last : CodePoint} {opening closing : Token}
    (hfirst : isSpace first = false ∧ ∀ t, scanToken (first :: t) = some (opening, t))
    (hlast : isSpace last = false ∧ ∀ t, scanToken (last :: t) = some (closing, t))
    (hstop : isStop last = true) (h : List.Forall₂ Written ws tss) :
    Written (layout.wrap [first] [last] ws)
      (opening :: (List.intercalate [.comma] tss ++ [closing])) := by
  have hnone : ∀ c ∈ ([] : Text), isSpace c = true := by simp
  have hstops : Stops ([] ++ [last]) := by
    intro c hc
    exact Option.some.inj hc ▸ hstop
  unfold Layout.wrap
  split
  next hempty =>
    obtain rfl := List.isEmpty_iff.mp hempty
    cases h
    have hnothing : Written [] [] := fun rest _ => .done rest
    exact written_between hfirst hlast hnone hnone hstops hnothing
  · cases layout with
    | line =>
      have hblank : ∀ c ∈ Text.ofString " ", isSpace c = true := by decide
      have hcomma : CodePoint.ofChar ',' :: Text.ofString " " = Text.ofString ", " := rfl
      have hall := written_between hfirst hlast hnone hnone hstops (written_intercalate hblank h)
      simpa [hcomma] using hall
    | indented depth =>
      have hblank (depth : Nat) : ∀ c ∈ Layout.lineBreak depth, isSpace c = true :=
        fun c hc => isSpace_of_mem_lineBreak hc
      have hbreak : Stops (Layout.lineBreak depth ++ [last]) := by
        intro c hc
        exact Option.some.inj hc ▸ rfl
      have hall := written_between hfirst hlast (hblank (depth + 2)) (hblank depth) hbreak
        (written_intercalate (hblank (depth + 2)) h)
      have hcomma : CodePoint.ofChar ',' :: Layout.lineBreak (depth + 2) =
          Text.ofString "," ++ Layout.lineBreak (depth + 2) := rfl
      simpa [hcomma] using hall

end

mutual
/-- The tokens as which a value is written. -/
def tokensOf : Value → List Token
  | .str s => [.text s]
  | .list items => .openList :: (List.intercalate [.comma] (tokensOfItems items) ++ [.closeList])
  | .dict fields => .openDict :: (List.intercalate [.comma] (tokensOfFields fields) ++ [.closeDict])
  | v => [.scalar v]

def tokensOfItems : List Value → List (List Token)
  | [] => []
  | v :: vs => tokensOf v :: tokensOfItems vs

def tokensOfFields : List (Text × Value) → List (List Token)
  | [] => []
  | (key, v) :: rest => (.text key :: .colon :: tokensOf v) :: tokensOfFields rest
end

theorem writeText_written {s : Text} (hs : s.isWhole = true) (rest : Text) :
    Lexes (writeText s ++ rest) [.text s] rest := by
  have hshape : writeText s =
      CodePoint.ofChar '"' :: (s.flatMap escapePoint ++ [CodePoint.ofChar '"']) := rfl
  have hscan := scanToken_writeText hs rest
  rw [hshape] at hscan ⊢
  exact .one rfl hscan

theorem isSpace_of_isDigit {c : CodePoint} (hc : c.isDigit = true) : isSpace c = false := by
  rw [Bool.eq_false_iff]
  intro hspace
  simp only [isSpace, Bool.or_eq_true, beq_iff_eq] at hspace
  rcases hspace with ((rfl | rfl) | rfl) | rfl <;> exact absurd hc (by decide)

theorem exists_intText (n : Int) : ∃ c s, Text.intText n = c :: s ∧ isSpace c = false := by
  unfold Text.intText
  split
  · exact ⟨_, _, rfl, rfl⟩
  · obtain ⟨c, digits, hdigits⟩ := List.exists_cons_of_ne_nil (Text.natText_ne_nil n.natAbs)
    have hc : c.isDigit = true := Text.isDigit_of_mem_natText (hdigits ▸ List.mem_cons_self)
    exact ⟨c, digits, hdigits, isSpace_of_isDigit hc⟩

theorem written_intText {n : Int} (hshort : n.natAbs < 10 ^ Text.digitLimit) :
    Written (Text.intText n) [.scalar (.int n)] := by
  intro rest hrest
  obtain ⟨c, s, hshape, hspace⟩ := exists_intText n
  have hscan := scanToken_intText hrest hshort
  rw [hshape] at hscan ⊢
  exact .one hspace hscan

end Json

namespace Value

mutual
/-- There are no floating point numbers in the value, and no half stands alone in its texts. -/
def isPlain : Value → Bool
  | .null | .bool _ | .int _ => true
  | .float _ => false
  | .str s => s.isWhole
  | .list items => arePlain items
  | .dict fields => havePlain fields

def arePlain : List Value → Bool
  | [] => true
  | v :: vs => isPlain v && arePlain vs

def havePlain : List (Text × Value) → Bool
  | [] => true
  | (key, v) :: rest => key.isWhole && isPlain v && havePlain rest
end

end Value

namespace Json

section
variable {layout : Layout}

theorem written_items {items : List Value} (hplain : Value.arePlain items = true)
    (h : ∀ v ∈ items, v.isPlain = true → Written (writeWith layout v) (tokensOf v)) :
    List.Forall₂ Written (writeItems layout items) (tokensOfItems items) := by
  induction items with
  | nil => exact .nil
  | cons v vs ih =>
    rw [Value.arePlain, Bool.and_eq_true] at hplain
    exact .cons (h v (by simp) hplain.1) (ih hplain.2 fun w hw => h w (by simp [hw]))

theorem written_field {key : Text} {v : Value} (hkey : key.isWhole = true)
    (h : Written (writeWith layout v) (tokensOf v)) :
    Written (writeText key ++ ": " ++ writeWith layout v) (.text key :: .colon :: tokensOf v) := by
  intro rest hrest
  have hcolon (t : Text) : Lexes (Text.ofString ": " ++ t) [.colon] t :=
    .token rfl rfl (by simp [Text.ofString, Text.ofChars]) (.space rfl (.done t))
  have hall := ((writeText_written hkey _).append (hcolon _)).append (h rest hrest)
  simpa using hall

theorem written_fields {fields : Fields} (hplain : Value.havePlain fields = true)
    (h : ∀ field ∈ fields, field.2.isPlain = true →
      Written (writeWith layout field.2) (tokensOf field.2)) :
    List.Forall₂ Written (writeFields layout fields) (tokensOfFields fields) := by
  induction fields with
  | nil => exact .nil
  | cons field fields ih =>
    obtain ⟨key, v⟩ := field
    rw [Value.havePlain, Bool.and_eq_true, Bool.and_eq_true] at hplain
    obtain ⟨⟨hkey, hv⟩, hfields⟩ := hplain
    exact .cons (written_field hkey (h (key, v) (by simp) hv))
      (ih hfields fun field hfield => h field (by simp [hfield]))

end

/-- In every layout, a plain value that is legible is written as its tokens. -/
theorem written_writeWith {v : Value} {room : Nat} (hlegible : v.IsLegible room)
    (hplain : v.isPlain = true) (layout : Layout) : Written (writeWith layout v) (tokensOf v) := by
  induction hlegible generalizing layout with
  | null => exact fun rest _ => .one rfl rfl
  | bool _ b => cases b <;> exact fun rest _ => .one rfl rfl
  | int _ hshort => exact written_intText hshort
  | float => cases hplain
  | str _ s => exact fun rest _ => writeText_written hplain rest
  | list _ ih =>
    exact written_wrap layout ⟨rfl, fun _ => rfl⟩ ⟨rfl, fun _ => rfl⟩ rfl
      (written_items hplain fun v hv hplain => ih v hv hplain layout.inner)
  | dict _ _ ih =>
    exact written_wrap layout ⟨rfl, fun _ => rfl⟩ ⟨rfl, fun _ => rfl⟩ rfl
      (written_fields hplain fun field hfield hplain => ih field hfield hplain layout.inner)

end Json

end CodeAtlas
