import CodeAtlas.Text.CaseTable

/-! Lower case, and a capital first letter, for every script. A text is mapped code point by code
point, except that a capital sigma at the end of a word becomes the final sigma. -/
namespace CodeAtlas.Text

def shifted? (rows : Array (Nat × Nat × Nat × Int)) (n : Nat) : Option CodePoint :=
  (rows.find? fun (first, last, step, _) => first ≤ n && n ≤ last && (n - first) % step == 0).map
    fun (_, _, _, shift) => .ofNat ((n : Int) + shift).toNat

def lowerForm (c : CodePoint) : Text :=
  if c.val < 0x80 then [c.toLower]
  else if c.val == 0x130 then ['i', .ofNat 0x307]
  else [(shifted? lowerRows c.val).getD c]

def titleForm (c : CodePoint) : Text :=
  if c.val < 0x80 then [c.toUpper]
  else match titleTexts.lookup c.val with
    | some form => form.map .ofNat
    | none => [(shifted? titleRows c.val).getD c]

/-- Whether the nearest code point that counts is a letter with case. -/
def nextIsCased (s : Text) : Bool :=
  (s.dropWhile (within passedOverEdges)).head?.any (within casedEdges)

/-- Lower case of a text, where `before` holds what stands in front of it, nearest first. -/
def lowerFrom : Text → Text → Text
  | _, [] => []
  | before, c :: cs =>
    let form :=
      if c.val == 0x3A3 then
        [.ofNat (if nextIsCased before && !nextIsCased cs then 0x3C2 else 0x3C3)]
      else lowerForm c
    form ++ lowerFrom (c :: before) cs

def lower (s : Text) : Text := lowerFrom [] s

def capitalize : Text → Text
  | [] => []
  | c :: cs => titleForm c ++ lowerFrom [c] cs

/-- The letters from `A` to `Z`, and underscores, in the upper-case form of a code point. -/
def upperLettersOf (c : CodePoint) : Text :=
  if c.isLetter then [c.toUpper]
  else if c == '_' then [c]
  else (upperLetters.lookup c.val).getD []

end CodeAtlas.Text
