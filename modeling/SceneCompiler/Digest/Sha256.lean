/-!
# Content addresses

SHA-256 of a byte sequence, as 64 small hexadecimal digits.
-/

namespace SceneCompiler.Sha256

/-! ### Words -/

/-- The round constants: fractions of the cube roots of the first 64 primes. -/
def roundConstants : List UInt32 := [
  0x428a2f98, 0x71374491, 0xb5c0fbcf, 0xe9b5dba5, 0x3956c25b, 0x59f111f1, 0x923f82a4, 0xab1c5ed5,
  0xd807aa98, 0x12835b01, 0x243185be, 0x550c7dc3, 0x72be5d74, 0x80deb1fe, 0x9bdc06a7, 0xc19bf174,
  0xe49b69c1, 0xefbe4786, 0x0fc19dc6, 0x240ca1cc, 0x2de92c6f, 0x4a7484aa, 0x5cb0a9dc, 0x76f988da,
  0x983e5152, 0xa831c66d, 0xb00327c8, 0xbf597fc7, 0xc6e00bf3, 0xd5a79147, 0x06ca6351, 0x14292967,
  0x27b70a85, 0x2e1b2138, 0x4d2c6dfc, 0x53380d13, 0x650a7354, 0x766a0abb, 0x81c2c92e, 0x92722c85,
  0xa2bfe8a1, 0xa81a664b, 0xc24b8b70, 0xc76c51a3, 0xd192e819, 0xd6990624, 0xf40e3585, 0x106aa070,
  0x19a4c116, 0x1e376c08, 0x2748774c, 0x34b0bcb5, 0x391c0cb3, 0x4ed8aa4a, 0x5b9cca4f, 0x682e6ff3,
  0x748f82ee, 0x78a5636f, 0x84c87814, 0x8cc70208, 0x90befffa, 0xa4506ceb, 0xbef9a3f7, 0xc67178f2]

def rotate (x n : UInt32) : UInt32 :=
  (x >>> n) ||| (x <<< (32 - n))

/-- The word of four bytes at an offset, the highest first. -/
def wordAt (data : ByteArray) (offset : Nat) : UInt32 :=
  let byte (i : Nat) : UInt32 := (data[offset + i]?.getD 0).toUInt32
  (byte 0 <<< 24) ||| (byte 1 <<< 16) ||| (byte 2 <<< 8) ||| byte 3

/-! ### Padding -/

/-- The bytes followed by a single one bit, zeros, and the count of bits, to full blocks of 64
bytes. -/
def pad (data : ByteArray) : ByteArray :=
  let zeros := (119 - data.size % 64) % 64
  let length := UInt64.ofNat (8 * data.size)
  let shifts : List UInt64 := [56, 48, 40, 32, 24, 16, 8, 0]
  let one : UInt8 := 0x80
  let tail := one :: List.replicate zeros 0 ++ shifts.map fun shift => (length >>> shift).toUInt8
  tail.foldl ByteArray.push data

/-! ### Compression -/

/-- The eight words of the state. -/
structure State where
  a : UInt32
  b : UInt32
  c : UInt32
  d : UInt32
  e : UInt32
  f : UInt32
  g : UInt32
  h : UInt32

/-- The first state: fractions of the square roots of the first eight primes. -/
def State.initial : State :=
  ⟨0x6a09e667, 0xbb67ae85, 0x3c6ef372, 0xa54ff53a, 0x510e527f, 0x9b05688c, 0x1f83d9ab, 0x5be0cd19⟩

/-- The words of a block and the 48 words made from them. -/
def schedule (data : ByteArray) (offset : Nat) : Array UInt32 :=
  let block := (Array.range 16).map fun i => wordAt data (offset + 4 * i)
  (List.range 48).foldl (fun words i =>
    let x := words.getD (i + 1) 0
    let y := words.getD (i + 14) 0
    let mixX := rotate x 7 ^^^ rotate x 18 ^^^ (x >>> 3)
    let mixY := rotate y 17 ^^^ rotate y 19 ^^^ (y >>> 10)
    words.push (words.getD i 0 + mixX + words.getD (i + 9) 0 + mixY)) block

/-- One round, with the sum of its constant and its word. -/
def State.round (s : State) (input : UInt32) : State :=
  let mixE := rotate s.e 6 ^^^ rotate s.e 11 ^^^ rotate s.e 25
  let choice := (s.e &&& s.f) ^^^ ((~~~ s.e) &&& s.g)
  let t := s.h + mixE + choice + input
  let mixA := rotate s.a 2 ^^^ rotate s.a 13 ^^^ rotate s.a 22
  let majority := (s.a &&& s.b) ^^^ (s.a &&& s.c) ^^^ (s.b &&& s.c)
  ⟨t + (mixA + majority), s.a, s.b, s.c, s.d + t, s.e, s.f, s.g⟩

def State.add (s t : State) : State :=
  ⟨s.a + t.a, s.b + t.b, s.c + t.c, s.d + t.d, s.e + t.e, s.f + t.f, s.g + t.g, s.h + t.h⟩

def compress (data : ByteArray) (s : State) (offset : Nat) : State :=
  let words := schedule data offset
  s.add ((roundConstants.zip words.toList).foldl (fun s (k, w) => s.round (k + w)) s)

/-! ### The digest -/

def wordText (x : UInt32) : List Char :=
  let shifts : List UInt32 := [28, 24, 20, 16, 12, 8, 4, 0]
  shifts.map fun shift => Nat.digitChar ((x >>> shift) &&& 15).toNat

def hexDigest (data : ByteArray) : String :=
  let padded := pad data
  let s := (List.range (padded.size / 64)).foldl (fun s i => compress padded s (64 * i)) .initial
  String.ofList ([s.a, s.b, s.c, s.d, s.e, s.f, s.g, s.h].flatMap wordText)

end SceneCompiler.Sha256
