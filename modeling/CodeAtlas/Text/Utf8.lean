import CodeAtlas.Text

/-! Texts as bytes: UTF-8, and the one-byte code in which every byte is the character of that
number. -/
namespace CodeAtlas.Text

abbrev Byte := UInt8

def continuation? (b : Byte) : Option Nat :=
  if 0x80 ≤ b.toNat && b.toNat < 0xC0 then some (b.toNat - 0x80) else none

/-- The low bits of a leading byte that lies from `least` to below `limit`. -/
def lead? (least limit : Nat) (b : Byte) : Option Nat :=
  if least ≤ b.toNat && b.toNat < limit then some (b.toNat - least) else none

/-- The character numbered `code`, unless a shorter form exists or no character has the number. -/
def charFrom? (least code : Nat) : Option CodePoint :=
  if least ≤ code && !(0xD800 ≤ code && code < 0xE000) then CodePoint.ofNat? code else none

def oneByte? (b₀ : Byte) : Option CodePoint := (lead? 0 0x80 b₀).bind (charFrom? 0)

def twoBytes? (b₀ b₁ : Byte) : Option CodePoint := do
  charFrom? 0x80 ((← lead? 0xC0 0xE0 b₀) * 0x40 + (← continuation? b₁))

def threeBytes? (b₀ b₁ b₂ : Byte) : Option CodePoint := do
  charFrom? 0x800
    ((← lead? 0xE0 0xF0 b₀) * 0x1000 + (← continuation? b₁) * 0x40 + (← continuation? b₂))

def fourBytes? (b₀ b₁ b₂ b₃ : Byte) : Option CodePoint := do
  charFrom? 0x10000
    ((← lead? 0xF0 0xF8 b₀) * 0x40000 + (← continuation? b₁) * 0x1000 +
      (← continuation? b₂) * 0x40 + (← continuation? b₃))

/-- The character that starts with the byte `b`, in its shortest form, and the number of bytes that
belong to it after `b`. -/
def charAt? (b : Byte) (bs : List Byte) : Option (CodePoint × Nat) :=
  match oneByte? b, bs with
  | some c, _ => some (c, 0)
  | none, [] => none
  | none, b₁ :: bs =>
    match twoBytes? b b₁, bs with
    | some c, _ => some (c, 1)
    | none, [] => none
    | none, b₂ :: bs =>
      match threeBytes? b b₁ b₂, bs with
      | some c, _ => some (c, 2)
      | none, [] => none
      | none, b₃ :: _ => (fourBytes? b b₁ b₂ b₃).map (·, 3)

/-- Strict UTF-8; `skip` bytes still belong to the character met last. -/
def decodeUtf8From? : Nat → List Byte → Option Text
  | _, [] => some []
  | skip + 1, _ :: bs => decodeUtf8From? skip bs
  | 0, b :: bs =>
    match charAt? b bs with
    | some (c, more) => (decodeUtf8From? more bs).map (c :: ·)
    | none => none

def decodeUtf8? (bs : List Byte) : Option Text := decodeUtf8From? 0 bs

/-- Whether the bytes from `b` on go on to some character. If any bytes complete them, then bytes that
are all least or all greatest do. -/
def canGoOn (b : Byte) (bs : List Byte) : Bool :=
  ([0x80, 0xBF] : List Byte).any fun last => (charAt? b (bs ++ List.replicate 3 last)).isSome

/-- The number of bytes that are stray together with the stray byte `b` before them: as many as still
could go on to a character. -/
def strayAfter (b : Byte) (bs : List Byte) : Nat :=
  ([2, 1].find? fun n => n ≤ bs.length && canGoOn b (bs.take n)).getD 0

/-- UTF-8 in which a byte that belongs to no character is read as `stray` says, together with a
number of bytes after it. -/
def decodeUtf8With (stray : Byte → List Byte → Text × Nat) : Nat → List Byte → Text
  | _, [] => []
  | skip + 1, _ :: bs => decodeUtf8With stray skip bs
  | 0, b :: bs =>
    match charAt? b bs with
    | some (c, more) => c :: decodeUtf8With stray more bs
    | none =>
      let (s, more) := stray b bs
      s ++ decodeUtf8With stray more bs

def decodeUtf8Replacing (bs : List Byte) : Text :=
  decodeUtf8With (fun b bs => ([.ofNat 0xFFFD], strayAfter b bs)) 0 bs

def decodeLatin1 (bs : List Byte) : Text := bs.map fun b => .ofNat b.toNat

def encodePoint (c : CodePoint) : List Byte :=
  let n := c.val
  if n < 0x80 then [n.toUInt8]
  else if n < 0x800 then [(0xC0 + n / 0x40).toUInt8, (0x80 + n % 0x40).toUInt8]
  else if n < 0x10000 then
    [(0xE0 + n / 0x1000).toUInt8, (0x80 + n / 0x40 % 0x40).toUInt8, (0x80 + n % 0x40).toUInt8]
  else
    [(0xF0 + n / 0x40000).toUInt8, (0x80 + n / 0x1000 % 0x40).toUInt8,
      (0x80 + n / 0x40 % 0x40).toUInt8, (0x80 + n % 0x40).toUInt8]

/-- The UTF-8 form of a text. Only a text without halves that stand alone reads back strictly. -/
def encodeUtf8 (s : Text) : List Byte := s.flatMap encodePoint

/-- The halves that stand at the first place with any, and the number of code points before them. -/
def firstHalves (s : Text) : Nat × Text :=
  let before := s.takeWhile (!·.isHalf)
  (before.length, (s.drop before.length).takeWhile (·.isHalf))

end CodeAtlas.Text
