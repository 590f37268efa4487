import SceneCompiler.Json.Reader
/-!
# Bytes as hexadecimal digits

Two digits for each byte. Writing gives small letters, and reading takes letters of either case.
-/

namespace SceneCompiler.Hex

def digitsOf (b : UInt8) : List Char :=
  [b.toNat / 16, b.toNat % 16].flatMap (Nat.toDigits 16)

def encode (data : List UInt8) : List Char :=
  data.flatMap digitsOf

def decode? : List Char → Option (List UInt8)
  | [] => some []
  | [_] => none
  | a :: b :: s => do
    let high ← Json.hexValue? a
    let low ← Json.hexValue? b
    return UInt8.ofNat (16 * high + low) :: (← decode? s)

end SceneCompiler.Hex
