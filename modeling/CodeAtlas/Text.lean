/-! Texts. A text is a list of code points, so it can also hold the halves of surrogate pairs that
stand alone, which are no characters. -/
namespace CodeAtlas

structure CodePoint where
  val : Nat
  isLt : val < 0x110000
deriving DecidableEq, Repr

namespace CodePoint

theorem toNat_lt (c : Char) : c.toNat < 0x110000 := by
  have h := c.valid
  simp only [UInt32.isValidChar, Nat.isValidChar] at h
  simp only [Char.toNat]
  omega

def ofChar (c : Char) : CodePoint := ⟨c.toNat, toNat_lt c⟩

instance : Coe Char CodePoint := ⟨ofChar⟩

instance : Inhabited CodePoint := ⟨' '⟩

def ofNat? (n : Nat) : Option CodePoint := if h : n < 0x110000 then some ⟨n, h⟩ else none

/-- The code point with the given number, or the replacement character. -/
def ofNat (n : Nat) : CodePoint := (ofNat? n).getD ⟨0xFFFD, by decide⟩

instance : LT CodePoint := ⟨fun c d => c.val < d.val⟩

instance : LE CodePoint := ⟨fun c d => c.val ≤ d.val⟩

instance (c d : CodePoint) : Decidable (c < d) := Nat.decLt c.val d.val

instance (c d : CodePoint) : Decidable (c ≤ d) := Nat.decLe c.val d.val

def isDigit (c : CodePoint) : Bool := 0x30 ≤ c.val && c.val ≤ 0x39

def isLower (c : CodePoint) : Bool := 0x61 ≤ c.val && c.val ≤ 0x7A

def isUpper (c : CodePoint) : Bool := 0x41 ≤ c.val && c.val ≤ 0x5A

def isLetter (c : CodePoint) : Bool := c.isLower || c.isUpper

def toLower (c : CodePoint) : CodePoint :=
  if h : c.isUpper then ⟨c.val + 0x20, by simp [isUpper] at h; omega⟩ else c

def toUpper (c : CodePoint) : CodePoint :=
  if c.isLower then ⟨c.val - 0x20, Nat.lt_of_le_of_lt (Nat.sub_le ..) c.isLt⟩ else c

/-- The first half of a pair that stands for one character beyond the first plane. -/
def isHighHalf (c : CodePoint) : Bool := 0xD800 ≤ c.val && c.val < 0xDC00

/-- The second half of such a pair. -/
def isLowHalf (c : CodePoint) : Bool := 0xDC00 ≤ c.val && c.val < 0xE000

/-- A code point that is no character. -/
def isHalf (c : CodePoint) : Bool := 0xD800 ≤ c.val && c.val < 0xE000

def ofHalves (high low : CodePoint) : CodePoint :=
  ofNat (0x10000 + (high.val - 0xD800) * 0x400 + (low.val - 0xDC00))

end CodePoint

abbrev Text := List CodePoint

namespace Text

def ofChars (cs : List Char) : Text := cs.map CodePoint.ofChar

def ofString (s : String) : Text := ofChars s.toList

instance : Coe String Text := ⟨ofString⟩

def join (parts : List Text) : Text := parts.flatten

def intercalate (sep : Text) (parts : List Text) : Text := List.intercalate sep parts

def lineBreaks (s : Text) : Nat := List.count (CodePoint.ofChar '\n') s

/-- The characters of a text; each half that stands alone becomes a null character. -/
protected def toString (s : Text) : String := String.ofList (s.map fun c => Char.ofNat c.val)

/-! A set of code points can be written as the increasing list of code points at which membership
changes: a code point belongs to it when the number of edges at or below it is odd. -/

/-- Number of edges at or below `x`, by bisection between `lo` and `hi`. -/
def bisect (edges : Array Nat) (x : Nat) : Nat → Nat → Nat → Nat
  | 0, lo, _ => lo
  | steps + 1, lo, hi =>
    if lo < hi then
      let mid := (lo + hi) / 2
      if edges.getD mid 0 ≤ x then bisect edges x steps (mid + 1) hi
      else bisect edges x steps lo mid
    else lo

def within (edges : Array Nat) (c : CodePoint) : Bool :=
  bisect edges c.val edges.size 0 edges.size % 2 == 1

end Text

end CodeAtlas
