import CodeAtlas.Fault
import CodeAtlas.Text.Utf8

/-! Texts as bytes. A text leaves the program in strict UTF-8. Bytes of unknown encoding, such as
those of a source file, are read by codecs that are tried one after another, and bytes that none of
them reads are taken as UTF-8 with replacement characters. -/
namespace CodeAtlas

/-- The UTF-8 form of a text, which only texts without halves that stand alone have. -/
def utf8Bytes (s : Text) : Except Fault (List Text.Byte) :=
  match Text.firstHalves s with
  | (_, []) => .ok (Text.encodeUtf8 s)
  | (start, halves) => .error (.loneHalves start halves)

namespace Text

inductive Codec where
  | utf8
  /-- Every byte is the character of that number. -/
  | latin1
  /-- The same, but for the bytes from 0x80 to 0x9F. -/
  | windows1252
deriving DecidableEq, Repr

/-- The numbers of the characters that the bytes from 0x80 to 0x9F stand for in Windows-1252; zero
is put for the bytes that stand for none. -/
def windows1252Signs : List Nat :=
  [0x20AC, 0, 0x201A, 0x0192, 0x201E, 0x2026, 0x2020, 0x2021, 0x02C6, 0x2030, 0x0160, 0x2039,
    0x0152, 0, 0x017D, 0, 0, 0x2018, 0x2019, 0x201C, 0x201D, 0x2022, 0x2013, 0x2014, 0x02DC, 0x2122, 0x0161,
    0x203A, 0x0153, 0, 0x017E, 0x0178]

def windows1252Point? (b : Byte) : Option CodePoint :=
  if 0x80 ≤ b.toNat && b.toNat < 0xA0 then
    (windows1252Signs[b.toNat - 0x80]?.filter (· != 0)).map .ofNat
  else some (.ofNat b.toNat)

namespace Codec

/-- The text that the bytes are in the codec, if they are all of it. -/
def decode? (bs : List Byte) : Codec → Option Text
  | .utf8 => decodeUtf8? bs
  | .latin1 => some (decodeLatin1 bs)
  | .windows1252 => bs.mapM windows1252Point?

end Codec

/-- How bytes of unknown encoding were read. -/
structure Reading where
  /-- The codecs that were tried, in order. -/
  tried : List Codec
  /-- The codec that read the bytes; none if stray bytes were replaced. -/
  codec : Option Codec
  text : Text
deriving DecidableEq, Repr

def readBy (bs : List Byte) : List Codec → Reading
  | [] => ⟨[], none, decodeUtf8Replacing bs⟩
  | codec :: rest =>
    match codec.decode? bs with
    | some text => ⟨[codec], some codec, text⟩
    | none =>
      let later := readBy bs rest
      { later with tried := codec :: later.tried }

def readSource (bs : List Byte) : Reading := readBy bs [.utf8, .latin1, .windows1252]

def decodeSource (bs : List Byte) : Text := (readSource bs).text

end Text

end CodeAtlas
