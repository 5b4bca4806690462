import CodeAtlas.Text

/-! Cutting texts: at a separator, at white space, and paths at their slashes and dots. -/
namespace CodeAtlas

namespace Text

/-- The pieces between the occurrences of `sep`; there is always at least one. -/
def split (sep : CodePoint) : Text → List Text
  | [] => [[]]
  | c :: cs =>
    if c == sep then [] :: split sep cs
    else match split sep cs with
      | [] => [[c]]
      | piece :: rest => (c :: piece) :: rest

def lines (s : Text) : List Text := split '\n' s

def startsWith (start s : Text) : Bool := start.isPrefixOf s

def endsWith (ending s : Text) : Bool := ending.isSuffixOf s

def splitFirst (sep : CodePoint) (s : Text) : Text × Text :=
  (s.takeWhile (· != sep), (s.dropWhile (· != sep)).drop 1)

/-- Leaves out every occurrence of `part`, from left to right; `skip` code points still belong to
the occurrence met last. -/
def withoutFrom (part : Text) : Nat → Text → Text
  | _, [] => []
  | skip + 1, _ :: cs => withoutFrom part skip cs
  | 0, c :: cs =>
    if part.isPrefixOf (c :: cs) then withoutFrom part (part.length - 1) cs
    else c :: withoutFrom part 0 cs

def without (part s : Text) : Text := withoutFrom part 0 s

/-- The part of a list from index `start` to before index `stop`, where a negative `stop` counts
from the end. -/
def slice {α : Type} (xs : List α) (start : Nat) (stop : Int) : List α :=
  let last := if stop < 0 then (stop + xs.length).toNat else stop.toNat
  (xs.take last).drop start

def blankEdges : Array Nat := #[
  0x85, 0x86, 0xA0, 0xA1, 0x1680, 0x1681, 0x2000, 0x200B, 0x2028, 0x202A, 0x202F, 0x2030, 0x205F,
  0x2060, 0x3000, 0x3001]

/-- White space of every script, with the four information separators. -/
def isBlank (c : CodePoint) : Bool :=
  if c.val < 0x80 then
    c.val == 0x20 || (0x9 ≤ c.val && c.val ≤ 0xD) || (0x1C ≤ c.val && c.val ≤ 0x1F)
  else within blankEdges c

def trimWhile (p : CodePoint → Bool) (s : Text) : Text :=
  ((s.dropWhile p).reverse.dropWhile p).reverse

def trim (s : Text) : Text := trimWhile isBlank s

/-- The maximal stretches without white space; `word` is the stretch being read, reversed. -/
def wordsFrom : Text → Text → List Text
  | word, [] => if word.isEmpty then [] else [word.reverse]
  | word, c :: cs =>
    if isBlank c then
      if word.isEmpty then wordsFrom [] cs else word.reverse :: wordsFrom [] cs
    else wordsFrom (c :: word) cs

def words (s : Text) : List Text := wordsFrom [] s

end Text

namespace Path

def baseName (path : Text) : Text :=
  (path.reverse.takeWhile fun c : CodePoint => c != '/').reverse

/-- A path without its last extension, and the extension with its dot. Dots at the start of the last
component do not begin an extension. -/
def splitExtension (path : Text) : Text × Text :=
  let base := baseName path
  let rest := base.dropWhile fun c : CodePoint => c == '.'
  if rest.contains '.' then
    let suffix := "." ++ (rest.reverse.takeWhile fun c : CodePoint => c != '.').reverse
    (path.take (path.length - suffix.length), suffix)
  else (path, "")

def withoutExtension (path : Text) : Text := (splitExtension path).1

def extension (path : Text) : Text := (splitExtension path).2

end Path

end CodeAtlas
