import CodeAtlas.Text.Utf8

/-! Telling the encoding of a document by its first bytes, and decoding it. A document starts with
two characters of ASCII, so the zero bytes among the first four tell wide units and their order. -/
namespace CodeAtlas.Text

inductive ByteOrder where
  | big
  | little
deriving DecidableEq, Repr

inductive Encoding where
  | utf8
  /-- UTF-8 after a byte order mark. -/
  | utf8Marked
  | utf16 (order : ByteOrder)
  | utf32 (order : ByteOrder)
deriving DecidableEq, Repr

def Encoding.detect : List Byte → Encoding
  | 0xEF :: 0xBB :: 0xBF :: _ => .utf8Marked
  | [b₀, b₁] => if b₀ == 0 then .utf16 .big else if b₁ == 0 then .utf16 .little else .utf8
  | b₀ :: b₁ :: b₂ :: b₃ :: _ =>
    if b₀ == 0 then if b₁ == 0 then .utf32 .big else .utf16 .big
    else if b₁ == 0 then if b₂ == 0 && b₃ == 0 then .utf32 .little else .utf16 .little
    else .utf8
  | _ => .utf8

/-- Two halves side by side make one character; a half that stands alone stays. -/
def joinHalves : Text → Text
  | [] => []
  | [c] => [c]
  | c :: d :: rest =>
    if c.isHighHalf && d.isLowHalf then .ofHalves c d :: joinHalves rest
    else c :: joinHalves (d :: rest)

def units16? (order : ByteOrder) : List Byte → Option Text
  | [] => some []
  | [_] => none
  | a :: b :: rest =>
    let (high, low) := match order with
      | .big => (a, b)
      | .little => (b, a)
    (units16? order rest).map (.ofNat (high.toNat * 0x100 + low.toNat) :: ·)

def units32? (order : ByteOrder) : List Byte → Option Text
  | [] => some []
  | a :: b :: c :: d :: rest => do
    let (p, q, r, s) := match order with
      | .big => (a, b, c, d)
      | .little => (d, c, b, a)
    let unit ← CodePoint.ofNat?
      (((p.toNat * 0x100 + q.toNat) * 0x100 + r.toNat) * 0x100 + s.toNat)
    return unit :: (← units32? order rest)
  | _ => none

def Encoding.decode? (bs : List Byte) : Encoding → Option Text
  | .utf8 => decodeUtf8? bs
  | .utf8Marked => decodeUtf8? (bs.drop 3)
  | .utf16 order => (units16? order bs).map joinHalves
  | .utf32 order => units32? order bs

def decodeDocument? (bs : List Byte) : Option Text := (Encoding.detect bs).decode? bs

end CodeAtlas.Text
