/-
# Crosslink.Digest.Sha256 — fingerprints of texts

SHA-256 of the UTF-8 bytes of a text, written as 64 lower-case hexadecimal
digits. A message is padded to whole blocks of sixteen big-endian words; each
block is expanded to sixty-four words, which drive one round each on a state of
eight words.
-/
import Crosslink.Text.Hex

namespace Crosslink.Digest

open Crosslink.Text

def rotateRight (x n : UInt32) : UInt32 := (x >>> n) ||| (x <<< (32 - n))

/-- One word per round. -/
def roundWords : List UInt32 :=
  [0x428a2f98, 0x71374491, 0xb5c0fbcf, 0xe9b5dba5, 0x3956c25b, 0x59f111f1,
   0x923f82a4, 0xab1c5ed5, 0xd807aa98, 0x12835b01, 0x243185be, 0x550c7dc3,
   0x72be5d74, 0x80deb1fe, 0x9bdc06a7, 0xc19bf174, 0xe49b69c1, 0xefbe4786,
   0x0fc19dc6, 0x240ca1cc, 0x2de92c6f, 0x4a7484aa, 0x5cb0a9dc, 0x76f988da,
   0x983e5152, 0xa831c66d, 0xb00327c8, 0xbf597fc7, 0xc6e00bf3, 0xd5a79147,
   0x06ca6351, 0x14292967, 0x27b70a85, 0x2e1b2138, 0x4d2c6dfc, 0x53380d13,
   0x650a7354, 0x766a0abb, 0x81c2c92e, 0x92722c85, 0xa2bfe8a1, 0xa81a664b,
   0xc24b8b70, 0xc76c51a3, 0xd192e819, 0xd6990624, 0xf40e3585, 0x106aa070,
   0x19a4c116, 0x1e376c08, 0x2748774c, 0x34b0bcb5, 0x391c0cb3, 0x4ed8aa4a,
   0x5b9cca4f, 0x682e6ff3, 0x748f82ee, 0x78a5636f, 0x84c87814, 0x8cc70208,
   0x90befffa, 0xa4506ceb, 0xbef9a3f7, 0xc67178f2]

structure Chain where
  a : UInt32
  b : UInt32
  c : UInt32
  d : UInt32
  e : UInt32
  f : UInt32
  g : UInt32
  h : UInt32

def Chain.initial : Chain :=
  ⟨0x6a09e667, 0xbb67ae85, 0x3c6ef372, 0xa54ff53a, 0x510e527f, 0x9b05688c, 0x1f83d9ab, 0x5be0cd19⟩

def Chain.add (s t : Chain) : Chain :=
  ⟨s.a + t.a, s.b + t.b, s.c + t.c, s.d + t.d, s.e + t.e, s.f + t.f, s.g + t.g, s.h + t.h⟩

/-- One round with its round word and its schedule word. -/
def Chain.round (s : Chain) (words : UInt32 × UInt32) : Chain :=
  let sum1 := rotateRight s.e 6 ^^^ rotateRight s.e 11 ^^^ rotateRight s.e 25
  let choice := (s.e &&& s.f) ^^^ (~~~s.e &&& s.g)
  let t1 := s.h + sum1 + choice + words.1 + words.2
  let sum0 := rotateRight s.a 2 ^^^ rotateRight s.a 13 ^^^ rotateRight s.a 22
  let majority := (s.a &&& s.b) ^^^ (s.a &&& s.c) ^^^ (s.b &&& s.c)
  ⟨t1 + (sum0 + majority), s.a, s.b, s.c, s.d + t1, s.e, s.f, s.g⟩

/-- `n` more schedule words in front of those computed so far, latest first. -/
def extendSchedule : Nat → List UInt32 → List UInt32
  | 0, recent => recent
  | n + 1, recent =>
    let x := recent.getD 14 0
    let y := recent.getD 1 0
    let low := rotateRight x 7 ^^^ rotateRight x 18 ^^^ (x >>> 3)
    let high := rotateRight y 17 ^^^ rotateRight y 19 ^^^ (y >>> 10)
    extendSchedule n ((recent.getD 15 0 + low + recent.getD 6 0 + high) :: recent)

/-- Absorbs one block of sixteen words. -/
def Chain.absorb (s : Chain) (block : List UInt32) : Chain :=
  let schedule := (extendSchedule 48 block.reverse).reverse
  s.add ((roundWords.zip schedule).foldl Chain.round s)

def Chain.absorbBlocks : Nat → Chain → List UInt32 → Chain
  | 0, s, _ => s
  | n + 1, s, words => absorbBlocks n (s.absorb (words.take 16)) (words.drop 16)

/-- Bytes as big-endian words. -/
def toWords : List UInt8 → List UInt32
  | a :: b :: c :: d :: rest =>
    ((a.toUInt32 <<< 24) ||| (b.toUInt32 <<< 16) ||| (c.toUInt32 <<< 8) ||| d.toUInt32) ::
      toWords rest
  | _ => []

/-- The message, a one bit, zeros up to eight bytes before the end of a block,
and the length of the message in bits. -/
def padded (message : List UInt8) : List UInt8 :=
  let size := message.length
  let zeros := (119 - size % 64) % 64
  let lengthBytes := [56, 48, 40, 32, 24, 16, 8, 0].map fun shift =>
    UInt8.ofNat ((8 * size) >>> shift)
  message ++ 0x80 :: List.replicate zeros 0 ++ lengthBytes

/-- A word as eight hexadecimal digits. -/
def hexWord (w : UInt32) : List Char :=
  [28, 24, 20, 16, 12, 8, 4, 0].map fun shift => hexDigit ((w.toNat >>> shift) % 16)

/-- The SHA-256 digest of bytes, in hexadecimal. -/
def sha256Hex (message : List UInt8) : List Char :=
  let words := toWords (padded message)
  let s := Chain.absorbBlocks (words.length / 16) .initial words
  hexWord s.a ++ hexWord s.b ++ hexWord s.c ++ hexWord s.d ++
    hexWord s.e ++ hexWord s.f ++ hexWord s.g ++ hexWord s.h

/-- The fingerprint of a text. -/
def fingerprint (text : String) : String :=
  String.ofList (sha256Hex text.toUTF8.data.toList)

end Crosslink.Digest
