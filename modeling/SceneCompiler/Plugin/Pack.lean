import SceneCompiler.Json.Basic
import SceneCompiler.Number.Exact
/-!
# Packed values

The MessagePack form of values: a marker byte that tells type and size, then the contents. Writing
picks the shortest form of a size or a whole number; reading takes every form.
-/

namespace SceneCompiler

/-- A packed value. Texts that are no valid UTF-8 are read as bytes. -/
inductive Pack where
  | nil
  | bool (b : Bool)
  /-- A natural number, with the count of bytes that it takes behind its marker when it is read. -/
  | unsigned (width n : Nat)
  | signed (n : Int)
  | float (x : Float)
  | str (s : String)
  | bytes (data : List UInt8)
  | arr (items : List Pack)
  | map (entries : List (Pack × Pack))
  /-- A value of a type that is not described here. -/
  | extension

namespace Pack

/-! ### Numbers -/

/-- A natural number in a count of bytes, the highest first. -/
def bigEndian : Nat → Nat → List UInt8
  | 0, _ => []
  | width + 1, n => UInt8.ofNat (n / Nat.pow 256 width) :: bigEndian width (n % Nat.pow 256 width)

/-- The natural number in some bytes, the highest first. -/
def ofBigEndian (data : List UInt8) : Nat :=
  data.foldl (fun n b => 256 * n + b.toNat) 0

/-- The number in two's complement. -/
def toSigned (width n : Nat) : Int :=
  if 2 * n < Nat.pow 256 width then n else (n : Int) - (Nat.pow 256 width : Nat)

/-- A marker and a number of the given width. -/
def marked (marker : UInt8) (width n : Nat) : List UInt8 :=
  marker :: bigEndian width n

/-! ### Writing -/

/-- A whole number that is not negative. -/
def writeUnsigned (n : Nat) : List UInt8 :=
  if n < 0x80 then [UInt8.ofNat n]
  else if n < 0x100 then marked 0xcc 1 n
  else if n < 0x10000 then marked 0xcd 2 n
  else if n < 0x100000000 then marked 0xce 4 n
  else marked 0xcf 8 n

def writeSigned (n : Int) : List UInt8 :=
  if 0 ≤ n then writeUnsigned n.toNat
  else if -0x20 ≤ n then [UInt8.ofNat (n + 256).toNat]
  else if -0x80 ≤ n then marked 0xd0 1 (n + 0x100).toNat
  else if -0x8000 ≤ n then marked 0xd1 2 (n + 0x10000).toNat
  else if -0x80000000 ≤ n then marked 0xd2 4 (n + 0x100000000).toNat
  else marked 0xd3 8 (n + 0x10000000000000000).toNat

def textHeader (size : Nat) : List UInt8 :=
  if size < 0x20 then [UInt8.ofNat (0xa0 + size)]
  else if size < 0x100 then marked 0xd9 1 size
  else if size < 0x10000 then marked 0xda 2 size
  else marked 0xdb 4 size

def bytesHeader (size : Nat) : List UInt8 :=
  if size < 0x100 then marked 0xc4 1 size
  else if size < 0x10000 then marked 0xc5 2 size
  else marked 0xc6 4 size

def arrayHeader (size : Nat) : List UInt8 :=
  if size < 0x10 then [UInt8.ofNat (0x90 + size)]
  else if size < 0x10000 then marked 0xdc 2 size
  else marked 0xdd 4 size

def mapHeader (size : Nat) : List UInt8 :=
  if size < 0x10 then [UInt8.ofNat (0x80 + size)]
  else if size < 0x10000 then marked 0xde 2 size
  else marked 0xdf 4 size

mutual

def write : Pack → List UInt8
  | nil => [0xc0]
  | bool b => [if b then 0xc3 else 0xc2]
  | unsigned _ n => writeUnsigned n
  | signed n => writeSigned n
  | float x => marked 0xcb 8 x.toBits.toNat
  | str s => textHeader s.utf8ByteSize ++ s.toUTF8.data.toList
  | bytes data => bytesHeader data.length ++ data
  | arr items => arrayHeader items.length ++ writeItems items
  | map entries => mapHeader entries.length ++ writeEntries entries
  | extension => [0xd4, 0, 0]

def writeItems : List Pack → List UInt8
  | [] => []
  | p :: rest => write p ++ writeItems rest

def writeEntries : List (Pack × Pack) → List UInt8
  | [] => []
  | (k, v) :: rest => write k ++ (write v ++ writeEntries rest)

end

/-! ### Reading -/

/-- Splits off a count of bytes, if there are as many. -/
def takeExactly? (count : Nat) (data : List UInt8) : Option (List UInt8 × List UInt8) :=
  let (taken, rest) := data.splitAt count
  if taken.length = count then some (taken, rest) else none

def readNat? (width : Nat) (data : List UInt8) : Option (Nat × List UInt8) :=
  (takeExactly? width data).map fun (taken, rest) => (ofBigEndian taken, rest)

def textOf? (data : List UInt8) : Option String :=
  String.fromUTF8? (ByteArray.mk data.toArray)

def readText? (size : Nat) (data : List UInt8) : Option (Pack × List UInt8) :=
  (takeExactly? size data).map fun (taken, rest) =>
    match textOf? taken with
    | some s => (str s, rest)
    | none => (bytes taken, rest)

/-- What a marker announces. -/
inductive Header where
  | value (p : Pack)
  | unsigned (width : Nat)
  | signed (width : Nat)
  | single
  | double
  | text (size : Nat)
  | bytes (size : Nat)
  | array (size : Nat)
  | map (size : Nat)
  | extension (size : Nat)

/-- Reads what a marker announces, with the size behind it. -/
def readHeader? (marker : UInt8) (data : List UInt8) : Option (Header × List UInt8) :=
  let n := marker.toNat
  let sized (width : Nat) (header : Nat → Header) :=
    (readNat? width data).map fun (size, rest) => (header size, rest)
  if n < 0x80 then some (.value (.unsigned 0 n), data)
  else if n < 0x90 then some (.map (n - 0x80), data)
  else if n < 0xa0 then some (.array (n - 0x90), data)
  else if n < 0xc0 then some (.text (n - 0xa0), data)
  else if 0xe0 ≤ n then some (.value (.signed ((n : Int) - 256)), data)
  else match n with
    | 0xc0 => some (.value .nil, data)
    | 0xc2 => some (.value (.bool false), data)
    | 0xc3 => some (.value (.bool true), data)
    | 0xc4 => sized 1 .bytes
    | 0xc5 => sized 2 .bytes
    | 0xc6 => sized 4 .bytes
    | 0xc7 => sized 1 .extension
    | 0xc8 => sized 2 .extension
    | 0xc9 => sized 4 .extension
    | 0xca => some (.single, data)
    | 0xcb => some (.double, data)
    | 0xcc => some (.unsigned 1, data)
    | 0xcd => some (.unsigned 2, data)
    | 0xce => some (.unsigned 4, data)
    | 0xcf => some (.unsigned 8, data)
    | 0xd0 => some (.signed 1, data)
    | 0xd1 => some (.signed 2, data)
    | 0xd2 => some (.signed 4, data)
    | 0xd3 => some (.signed 8, data)
    | 0xd4 => some (.extension 1, data)
    | 0xd5 => some (.extension 2, data)
    | 0xd6 => some (.extension 4, data)
    | 0xd7 => some (.extension 8, data)
    | 0xd8 => some (.extension 16, data)
    | 0xd9 => sized 1 .text
    | 0xda => sized 2 .text
    | 0xdb => sized 4 .text
    | 0xdc => sized 2 .array
    | 0xdd => sized 4 .array
    | 0xde => sized 2 .map
    | 0xdf => sized 4 .map
    | _ => none

mutual

/-- Reads one value. `fuel` bounds the steps, `depth` the nesting still allowed. -/
def read? (fuel depth : Nat) (data : List UInt8) : Option (Pack × List UInt8) :=
  match fuel with
  | 0 => none
  | fuel + 1 =>
    match data with
    | [] => none
    | marker :: data =>
      match readHeader? marker data with
      | none => none
      | some (.value p, data) => some (p, data)
      | some (.unsigned width, data) =>
        (readNat? width data).map fun (n, rest) => (unsigned width n, rest)
      | some (.signed width, data) =>
        (readNat? width data).map fun (n, rest) => (signed (toSigned width n), rest)
      | some (.single, data) =>
        (readNat? 4 data).map fun (n, rest) =>
          (float (widen (Float32.ofBits (UInt32.ofNat n))), rest)
      | some (.double, data) =>
        (readNat? 8 data).map fun (n, rest) => (float (Float.ofBits (UInt64.ofNat n)), rest)
      | some (.text size, data) => readText? size data
      | some (.bytes size, data) =>
        (takeExactly? size data).map fun (taken, rest) => (bytes taken, rest)
      | some (.extension size, data) =>
        (takeExactly? (size + 1) data).map fun (_, rest) => (extension, rest)
      | some (.array size, data) =>
        if depth = 0 then none
        else (readItems? fuel (depth - 1) size data).map fun (items, rest) => (arr items, rest)
      | some (.map size, data) =>
        if depth = 0 then none
        else
          (readEntries? fuel (depth - 1) size data).map fun (entries, rest) => (map entries, rest)

def readItems? (fuel depth count : Nat) (data : List UInt8) : Option (List Pack × List UInt8) :=
  match fuel with
  | 0 => none
  | fuel + 1 =>
    match count with
    | 0 => some ([], data)
    | count + 1 =>
      match read? fuel depth data with
      | none => none
      | some (p, data) =>
        (readItems? fuel depth count data).map fun (items, rest) => (p :: items, rest)

def readEntries? (fuel depth count : Nat) (data : List UInt8) :
    Option (List (Pack × Pack) × List UInt8) :=
  match fuel with
  | 0 => none
  | fuel + 1 =>
    match count with
    | 0 => some ([], data)
    | count + 1 =>
      match read? fuel depth data with
      | none => none
      | some (k, data) =>
        match read? fuel depth data with
        | none => none
        | some (v, data) =>
          (readEntries? fuel depth count data).map fun (entries, rest) => ((k, v) :: entries, rest)

end

def nestingLimit : Nat := 1023

/-- Reads the value at the start of some bytes; what comes after it is ignored. -/
def readStart? (data : List UInt8) : Option Pack :=
  (read? (2 * data.length + 2) nestingLimit data).map (·.1)

/-! ### JSON values -/

mutual

def ofJson : Json → Pack
  | .null => nil
  | .bool b => bool b
  | .int n => signed n
  | .float x => float x
  | .str s => str s
  | .arr items => arr (ofJsonItems items)
  | .obj members => map (ofJsonMembers members)

def ofJsonItems : List Json → List Pack
  | [] => []
  | j :: rest => ofJson j :: ofJsonItems rest

/-- The packed forms of the members of an object. -/
def ofJsonMembers : List (String × Json) → List (Pack × Pack)
  | [] => []
  | (k, j) :: rest => (str k, ofJson j) :: ofJsonMembers rest

end

/-- A text, also as bytes. -/
def text? : Pack → Option String
  | str s => some s
  | bytes data => textOf? data
  | _ => none

/-- Only keys after the first one may come as bytes. -/
def firstKeyIsText : List (Pack × Pack) → Bool
  | [] => true
  | (str _, _) :: _ => true
  | _ => false

mutual

/-- The JSON value of a packed one, if it has one: the keys of maps are texts, and there are no
bytes. Numbers that are not finite become null. -/
def toJson? : Pack → Option Json
  | nil => some .null
  | bool b => some (.bool b)
  | unsigned _ n => some (.int n)
  | signed n => some (.int n)
  | float x => some (if x.isFinite then .float x else .null)
  | str s => some (.str s)
  | arr items => (toJsonItems? items).map .arr
  | map entries => if firstKeyIsText entries then (toJsonMembers? entries).map .obj else none
  | bytes _ => none
  | extension => none

def toJsonItems? : List Pack → Option (List Json)
  | [] => some []
  | p :: rest => do return (← toJson? p) :: (← toJsonItems? rest)

/-- The members of an object for the keys and values of a map. -/
def toJsonMembers? : List (Pack × Pack) → Option (List (String × Json))
  | [] => some []
  | (k, v) :: rest => do
    let key ← text? k
    return (key, ← toJson? v) :: (← toJsonMembers? rest)

end

end Pack

end SceneCompiler
