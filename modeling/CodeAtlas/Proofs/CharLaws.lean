import CodeAtlas.Pattern.CharClass

/-! Laws of code points and their classes. White space is a short list of code points, none of which
belongs to a word; and a class that is made of ASCII alone holds, when case is disregarded, at
most four code points beyond ASCII. What a class of either kind holds can so be checked one by
one. -/
namespace CodeAtlas

namespace CodePoint

variable {n : Nat}

theorem ofNat?_of_lt (h : n < 0x110000) : ofNat? n = some (ofNat n) := by
  simp [ofNat, ofNat?, h]

theorem val_ofNat (h : n < 0x110000) : (ofNat n).val = n := by
  simp [ofNat, ofNat?, h]

theorem ofNat_val (c : CodePoint) : ofNat c.val = c := by
  simp [ofNat, ofNat?, c.isLt]

theorem mem_map_ofNat {c : CodePoint} {ns : List Nat} (h : c.val ∈ ns) : c ∈ ns.map ofNat :=
  List.mem_map.mpr ⟨c.val, h, ofNat_val c⟩

end CodePoint

namespace Text

variable {c : CodePoint}

/-- All white space. -/
def spaces : List CodePoint :=
  [0x9, 0xA, 0xB, 0xC, 0xD, 0x1C, 0x1D, 0x1E, 0x1F, 0x20, 0x85, 0xA0, 0x1680, 0x2000, 0x2001,
    0x2002, 0x2003, 0x2004, 0x2005, 0x2006, 0x2007, 0x2008, 0x2009, 0x200A, 0x2028, 0x2029,
    0x202F, 0x205F, 0x3000].map CodePoint.ofNat

theorem mem_spaces (h : isBlank c = true) : c ∈ spaces := by
  apply CodePoint.mem_map_ofNat
  simp only [isBlank, within, blankEdges] at h
  simp only [List.mem_cons, List.not_mem_nil, or_false]
  -- the bisection comes down to nested comparisons with the edges
  simp [bisect] at h
  repeat' split at h
  all_goals omega

theorem isWordChar_of_isBlank (h : isBlank c = true) : isWordChar c = false := by
  have hall : ∀ c ∈ spaces, isWordChar c = false := by decide +kernel
  exact hall c (mem_spaces h)

end Text

namespace CharClass

variable {foldCase : Bool} {k : CharClass} {c : CodePoint}

/-- Whether no white space belongs to the class. -/
def isInk (foldCase : Bool) (k : CharClass) : Bool := Text.spaces.all fun c => !k.holds foldCase c

theorem isBlank_of_holds (hink : k.isInk foldCase = true) (h : k.holds foldCase c = true) :
    Text.isBlank c = false := by
  cases hblank : Text.isBlank c with
  | false => rfl
  | true =>
    have hno := List.all_eq_true.mp hink c (Text.mem_spaces hblank)
    rw [h] at hno
    cases hno

/-- The code points that are compared as ASCII when case is disregarded. -/
def asciiLike : List CodePoint :=
  (List.range 0x80 ++ [0x130, 0x131, 0x17F, 0x212A]).map CodePoint.ofNat

theorem mem_asciiLike_of_lt (h : c.val < 0x80) : c ∈ asciiLike :=
  CodePoint.mem_map_ofNat (List.mem_append_left _ (List.mem_range.mpr h))

theorem mem_asciiLike_of_folded (h : (folded c).val < 0x80) : c ∈ asciiLike := by
  unfold folded at h
  split at h
  next hlt => exact mem_asciiLike_of_lt hlt
  · apply CodePoint.mem_map_ofNat
    apply List.mem_append_right
    simp only [beq_iff_eq, Bool.or_eq_true] at h
    simp only [List.mem_cons, List.not_mem_nil, or_false]
    repeat' split at h
    all_goals omega

/-- Whether the class is made of ASCII alone. -/
def isAscii : CharClass → Bool
  | .char x => x.val < 0x80
  | .range _ last => last.val < 0x80
  | .either a b => a.isAscii && b.isAscii
  | _ => false

theorem folded_lt (h : c.val < 0x80) : (folded c).val < 0x80 := by
  rw [folded, if_pos h, CodePoint.toLower]
  split
  next hupper =>
    simp only [CodePoint.isUpper, Bool.and_eq_true, decide_eq_true_eq] at hupper
    show c.val + 0x20 < 0x80
    omega
  · exact h

theorem lt_of_toUpper_lt (h : c.toUpper.val < 0x80) : c.val < 0x80 := by
  rw [CodePoint.toUpper] at h
  split at h
  next hlower =>
    simp only [CodePoint.isLower, Bool.and_eq_true, decide_eq_true_eq] at hlower
    omega
  · exact h

theorem mem_asciiLike (hascii : k.isAscii = true) (h : k.holds foldCase c = true) :
    c ∈ asciiLike := by
  induction k with
  | char x =>
    have hx : x.val < 0x80 := of_decide_eq_true hascii
    simp only [holds, Bool.or_eq_true, Bool.and_eq_true, beq_iff_eq] at h
    rcases h with rfl | ⟨-, hfold⟩
    · exact mem_asciiLike_of_lt hx
    · exact mem_asciiLike_of_folded (hfold ▸ folded_lt hx)
  | range first last =>
    have hlast : last.val < 0x80 := of_decide_eq_true hascii
    simp only [holds, Bool.or_eq_true, Bool.and_eq_true, decide_eq_true_eq] at h
    rcases h with h | ⟨-, h | h⟩
    · exact mem_asciiLike_of_lt (Nat.lt_of_le_of_lt h.2 hlast)
    · exact mem_asciiLike_of_folded (Nat.lt_of_le_of_lt h.2 hlast)
    · exact mem_asciiLike_of_folded (lt_of_toUpper_lt (Nat.lt_of_le_of_lt h.2 hlast))
  | either a b iha ihb =>
    obtain ⟨ha, hb⟩ := Bool.and_eq_true_iff.mp hascii
    rcases Bool.or_eq_true_iff.mp h with h | h
    · exact iha ha h
    · exact ihb hb h
  | word | digit | blank | everything => cases hascii
  | except a => cases hascii

/-- What an identifier starts with belongs to a word, whether case is regarded or not. -/
theorem isWordChar_of_nameStart (h : nameStart.holds foldCase c = true) :
    Text.isWordChar c = true := by
  have hall : ∀ foldCase : Bool, ∀ c ∈ asciiLike, nameStart.holds foldCase c = true →
      Text.isWordChar c = true := by decide +kernel
  exact hall foldCase c (mem_asciiLike (by decide) h) h

theorem holds_bracket (h : (char '(').holds foldCase c = true) : c = '(' := by
  have hall : ∀ foldCase : Bool, ∀ c ∈ asciiLike, (char '(').holds foldCase c = true → c = '(' := by
    decide +kernel
  exact hall foldCase c (mem_asciiLike (by decide) h) h

end CharClass

end CodeAtlas
