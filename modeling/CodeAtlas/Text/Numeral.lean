import CodeAtlas.Text.Cut

/-! Whole numbers: their decimal digits, and reading one from free text. -/
namespace CodeAtlas.Text

/-- The zeros of the scripts that have decimal digits; nine digits follow each of them. -/
def zeros : List Nat := [
  0x30, 0x660, 0x6F0, 0x7C0, 0x966, 0x9E6, 0xA66, 0xAE6, 0xB66, 0xBE6, 0xC66, 0xCE6, 0xD66, 0xDE6,
  0xE50, 0xED0, 0xF20, 0x1040, 0x1090, 0x17E0, 0x1810, 0x1946, 0x19D0, 0x1A80, 0x1A90, 0x1B50,
  0x1BB0, 0x1C40, 0x1C50, 0xA620, 0xA8D0, 0xA900, 0xA9D0, 0xA9F0, 0xAA50, 0xABF0, 0xFF10, 0x104A0,
  0x10D30, 0x11066, 0x110F0, 0x11136, 0x111D0, 0x112F0, 0x11450, 0x114D0, 0x11650, 0x116C0,
  0x11730, 0x118E0, 0x11950, 0x11C50, 0x11D50, 0x11DA0, 0x16A60, 0x16AC0, 0x16B50, 0x1D7CE,
  0x1D7D8, 0x1D7E2, 0x1D7EC, 0x1D7F6, 0x1E140, 0x1E2F0, 0x1E950, 0x1FBF0]

def digitValue? (c : CodePoint) : Option Nat :=
  if c.val < 0x80 then if c.isDigit then some (c.val - 0x30) else none
  else (zeros.find? fun z => z ≤ c.val && c.val < z + 10).map (c.val - ·)

def isDigit (c : CodePoint) : Bool := (digitValue? c).isSome

def natText (n : Nat) : Text := ofChars (Nat.toDigits 10 n)

def intText (n : Int) : Text := if n < 0 then "-" ++ natText n.natAbs else natText n.natAbs

def hexValue? (c : CodePoint) : Option Nat :=
  if c.isDigit then some (c.val - 0x30)
  else if 0x61 ≤ c.val && c.val ≤ 0x66 then some (c.val - 0x57)
  else if 0x41 ≤ c.val && c.val ≤ 0x46 then some (c.val - 0x37)
  else none

def hexText (width n : Nat) : Text :=
  let digits := Nat.toDigits 16 n
  ofChars (List.replicate (width - digits.length) '0' ++ digits)

/-- Blanks allowed around a number: white space without the information separators. -/
def isOuterBlank (c : CodePoint) : Bool := isBlank c && !(0x1C ≤ c.val && c.val ≤ 0x1F)

def isWellSpaced : Text → Bool
  | [] => true
  | c :: cs => (c != '_' || cs.head?.any fun d : CodePoint => d != '_') && isWellSpaced cs

def ofDigits (ds : List Nat) : Nat := ds.foldl (fun n d => 10 * n + d) 0

/-- Most digits that are read as a number. -/
def digitLimit : Nat := 4300

/-- What reading a whole number from a text comes to. -/
inductive IntReading where
  | int (n : Int)
  | tooLong (digits : Nat)
  | malformed

/-- Reads digits, with single underscores allowed between two of them. Their number is looked at
before what follows them. -/
def readDigits (isNegative : Bool) (s : Text) : IntReading :=
  let run := s.takeWhile fun c => isDigit c || c == '_'
  let digits := run.filterMap digitValue?
  if run.head? == some '_' || !isWellSpaced run then .malformed
  else if digitLimit < digits.length then .tooLong digits.length
  else if digits.isEmpty || run.length < s.length then .malformed
  else .int (if isNegative then -(ofDigits digits : Int) else ofDigits digits)

def readInt (s : Text) : IntReading :=
  match trimWhile isOuterBlank s with
  | [] => .malformed
  | c :: cs =>
    if c == '-' then readDigits true cs
    else if c == '+' then readDigits false cs
    else readDigits false (c :: cs)

end CodeAtlas.Text
