import CodeAtlas.Text.Cut
import CodeAtlas.Text.Numeral
import CodeAtlas.Text.WordChar

/-! Classes of code points, with and without regard to case. -/
namespace CodeAtlas

inductive CharClass where
  | char (c : CodePoint)
  | range (first last : CodePoint)
  | word
  | digit
  | blank
  | everything
  | either (a b : CharClass)
  | except (a : CharClass)
deriving DecidableEq, Repr

namespace CharClass

/-- The lower-case letter a code point is compared as when case is disregarded. Beside the letters of
ASCII, the Kelvin sign counts as `k`, the long s as `s`, and the dotted capital and the dotless
small i as `i`. -/
def folded (c : CodePoint) : CodePoint :=
  if c.val < 0x80 then c.toLower
  else if c.val == 0x212A then 'k'
  else if c.val == 0x17F then 's'
  else if c.val == 0x130 || c.val == 0x131 then 'i'
  else c

def holds (foldCase : Bool) : CharClass → CodePoint → Bool
  | .char x, c => x == c || (foldCase && folded x == folded c)
  | .range first last, c =>
    let inside (c : CodePoint) : Bool := first ≤ c && c ≤ last
    inside c || (foldCase && (inside (folded c) || inside (folded c).toUpper))
  | .word, c => Text.isWordChar c
  | .digit, c => Text.isDigit c
  | .blank, c => Text.isBlank c
  | .everything, _ => true
  | .either a b, c => a.holds foldCase c || b.holds foldCase c
  | .except a, c => !a.holds foldCase c

def oneOf (cs : List CodePoint) : CharClass :=
  cs.foldr (fun c k => .either (.char c) k) (.except .everything)

def noneOf (cs : List CodePoint) : CharClass := .except (oneOf cs)

def inLine : CharClass := .except (.char '\n')

def nameStart : CharClass := .either (.range 'a' 'z') (.either (.range 'A' 'Z') (.char '_'))

def namePart : CharClass := .either nameStart (.range '0' '9')

end CharClass

end CodeAtlas
