/-!
# Bytes in text

Base 64 with padding: three bytes make four characters.
-/

namespace SceneCompiler.Base64

def digit (n : Nat) : Char :=
  if n < 26 then Char.ofNat (65 + n)
  else if n < 52 then Char.ofNat (71 + n)
  else if n < 62 then Char.ofNat (n - 4)
  else if n = 62 then '+'
  else '/'

/-- The four characters of up to three bytes; missing bytes give padding. -/
def group (a : UInt8) (b c : Option UInt8) : List Char :=
  let bits := (a.toNat * 256 + (b.getD 0).toNat) * 256 + (c.getD 0).toNat
  [digit (bits / 0x40000), digit (bits / 0x1000 % 64),
    if b.isSome then digit (bits / 0x40 % 64) else '=',
    if c.isSome then digit (bits % 64) else '=']

def encodeOnto (text : String) : List UInt8 → String
  | [] => text
  | [a] => text ++ String.ofList (group a none none)
  | [a, b] => text ++ String.ofList (group a (some b) none)
  | a :: b :: c :: rest => encodeOnto (text ++ String.ofList (group a (some b) (some c))) rest

def encode (data : ByteArray) : String :=
  encodeOnto "" data.data.toList

end SceneCompiler.Base64
