/-!
# SHA-256

The hash of a list of bytes. A message is padded to whole blocks of sixty-four bytes; each block is
expanded to sixty-four words, which are mixed one by one into a state of eight words.
-/

namespace Printworks.Sha256

/-- The state of eight words. -/
structure State where
  a : UInt32
  b : UInt32
  c : UInt32
  d : UInt32
  e : UInt32
  f : UInt32
  g : UInt32
  h : UInt32
  deriving DecidableEq, Inhabited

/-- The state before the first block: the first bits of the fractions of the square roots of the
first eight primes. -/
def State.initial : State :=
  ⟨0x6a09e667, 0xbb67ae85, 0x3c6ef372, 0xa54ff53a, 0x510e527f, 0x9b05688c,
    0x1f83d9ab, 0x5be0cd19⟩

/-- One word for each round: the first bits of the fractions of the cube roots of the first
sixty-four primes. -/
def roundWords : List UInt32 := [
    0x428a2f98, 0x71374491, 0xb5c0fbcf, 0xe9b5dba5, 0x3956c25b, 0x59f111f1,
    0x923f82a4, 0xab1c5ed5, 0xd807aa98, 0x12835b01, 0x243185be, 0x550c7dc3,
    0x72be5d74, 0x80deb1fe, 0x9bdc06a7, 0xc19bf174, 0xe49b69c1, 0xefbe4786,
    0x0fc19dc6, 0x240ca1cc, 0x2de92c6f, 0x4a7484aa, 0x5cb0a9dc, 0x76f988da,
    0x983e5152, 0xa831c66d, 0xb00327c8, 0xbf597fc7, 0xc6e00bf3, 0xd5a79147,
    0x06ca6351, 0x14292967, 0x27b70a85, 0x2e1b2138, 0x4d2c6dfc, 0x53380d13,
    0x650a7354, 0x766a0abb, 0x81c2c92e, 0x92722c85, 0xa2bfe8a1, 0xa81a664b,
    0xc24b8b70, 0xc76c51a3, 0xd192e819, 0xd6990624, 0xf40e3585, 0x106aa070,
    0x19a4c116, 0x1e376c08, 0x2748774c, 0x34b0bcb5, 0x391c0cb3, 0x4ed8aa4a,
    0x5b9cca4f, 0x682e6ff3, 0x748f82ee, 0x78a5636f, 0x84c87814, 0x8cc70208,
    0x90befffa, 0xa4506ceb, 0xbef9a3f7, 0xc67178f2]

/-- Rotate a word to the right by less than its size. -/
def rotate (x : UInt32) (n : UInt32) : UInt32 := (x >>> n) ||| (x <<< (32 - n))

/-- Mix one word of the message into the state. -/
def State.round (s : State) (roundWord word : UInt32) : State :=
  let sum1 := rotate s.e 6 ^^^ rotate s.e 11 ^^^ rotate s.e 25
  let choice := (s.e &&& s.f) ^^^ (~~~s.e &&& s.g)
  let t1 := s.h + sum1 + choice + roundWord + word
  let sum0 := rotate s.a 2 ^^^ rotate s.a 13 ^^^ rotate s.a 22
  let majority := (s.a &&& s.b) ^^^ (s.a &&& s.c) ^^^ (s.b &&& s.c)
  ⟨t1 + sum0 + majority, s.a, s.b, s.c, s.d + t1, s.e, s.f, s.g⟩

/-- Add two states word by word. -/
def State.add (s t : State) : State :=
  ⟨s.a + t.a, s.b + t.b, s.c + t.c, s.d + t.d, s.e + t.e, s.f + t.f, s.g + t.g, s.h + t.h⟩

def State.words (s : State) : List UInt32 := [s.a, s.b, s.c, s.d, s.e, s.f, s.g, s.h]

/-- The next word of a schedule whose words are listed from the last one back. -/
def nextWord (last : List UInt32) : UInt32 :=
  let w2 := last.getD 1 0
  let w7 := last.getD 6 0
  let w15 := last.getD 14 0
  let w16 := last.getD 15 0
  let sum0 := rotate w15 7 ^^^ rotate w15 18 ^^^ (w15 >>> 3)
  let sum1 := rotate w2 17 ^^^ rotate w2 19 ^^^ (w2 >>> 10)
  w16 + sum0 + w7 + sum1

/-- Add as many words as given to a schedule that is listed from the last word back. -/
def extend (more : Nat) (last : List UInt32) : List UInt32 :=
  match more with
  | 0 => last
  | more + 1 => extend more (nextWord last :: last)

/-- The sixty-four words that a block of sixteen is expanded to. -/
def schedule (block : List UInt32) : List UInt32 := (extend 48 block.reverse).reverse

/-- Mix a block of sixteen words into the state. -/
def State.block (s : State) (block : List UInt32) : State :=
  s.add ((roundWords.zip (schedule block)).foldl (fun s (k, w) => s.round k w) s)

/-- The bytes of a number in a given number of places, the highest one first. -/
def bytesOf (places n : Nat) : List UInt8 :=
  match places with
  | 0 => []
  | places + 1 => bytesOf places (n / 256) ++ [UInt8.ofNat n]

/-- The message with its padding: one bit, zeros, and the length of the message in bits, up to whole
blocks. -/
def padded (message : List UInt8) : List UInt8 :=
  let zeros := (119 - message.length % 64) % 64
  message ++ 0x80 :: (List.replicate zeros 0 ++ bytesOf 8 (8 * message.length))

/-- Words of four bytes, the highest byte first. A rest of less than four bytes is left out. -/
def wordsOf (bytes : List UInt8) : List UInt32 :=
  match bytes with
  | a :: b :: c :: d :: rest =>
    ((a.toUInt32 <<< 24) ||| (b.toUInt32 <<< 16) ||| (c.toUInt32 <<< 8) ||| d.toUInt32) ::
      wordsOf rest
  | _ => []

/-- Mix as many blocks of sixteen words as given into the state. -/
def State.blocks (s : State) (count : Nat) (words : List UInt32) : State :=
  match count with
  | 0 => s
  | count + 1 => (s.block (words.take 16)).blocks count (words.drop 16)

def digest (message : List UInt8) : List UInt8 :=
  let words := wordsOf (padded message)
  (State.initial.blocks (words.length / 16) words).words.flatMap (fun w => bytesOf 4 w.toNat)

/-- The hash of a text in UTF-8, as hexadecimal digits. -/
def hexDigest (s : String) : String :=
  let digits := (digest s.toUTF8.toList).flatMap (fun byte =>
    [Nat.digitChar (byte.toNat / 16), Nat.digitChar (byte.toNat % 16)])
  String.ofList digits

end Printworks.Sha256
