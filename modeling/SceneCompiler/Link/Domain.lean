import SceneCompiler.Link.Label
import SceneCompiler.Text.Class
/-!
# Domains of links

The host that a link leads to, in the form in which hosts are compared. A link without a scheme is
read as a web address. Links without a host, and addresses that no browser would open, have no
domain.
-/

namespace SceneCompiler.Link

/-! ### Parts of an address -/

/-- Characters that do not count at the ends of an address. -/
def isPadding (c : Char) : Bool :=
  c ≤ ' '

def isSkippedChar (c : Char) : Bool :=
  c == '\t' || c == '\n' || c == '\r'

def significant (s : List Char) : List Char :=
  (dropWhileEnd isPadding (s.dropWhile isPadding)).filter fun c => !isSkippedChar c

def isSchemeChar (c : Char) : Bool :=
  c.isAlphanum || c == '+' || c == '-' || c == '.'

/-- The scheme in small letters, and what comes after its colon. -/
def readScheme? (s : List Char) : Option (List Char × List Char) :=
  let scheme := s.takeWhile isSchemeChar
  match s.dropWhile isSchemeChar with
  | ':' :: rest =>
    if scheme.head?.any Char.isAlpha then some (scheme.map Char.toLower, rest) else none
  | _ => none

def isSlash (c : Char) : Bool :=
  c == '/' || c == '\\'

/-- Characters that end a host. In some schemes backslashes count as slashes. -/
def endsHost (backslash : Bool) (c : Char) : Bool :=
  c == '/' || c == '?' || c == '#' || (backslash && c == '\\')

/-- What comes after the last `@`. -/
def dropUser (s : List Char) : List Char :=
  (s.reverse.takeWhile (· ≠ '@')).reverse

/-- Splits before the first colon that is not between brackets. -/
def splitPort (bracketed : Bool) : List Char → List Char × List Char
  | [] => ([], [])
  | c :: s =>
    if c = ':' ∧ !bracketed then ([], c :: s)
    else
      let (host, rest) := splitPort (c = '[' || (bracketed && c ≠ ']')) s
      (c :: host, rest)

/-- A colon with a number of 16 bits, or without one, or nothing. -/
def isPort : List Char → Bool
  | [] => true
  | ':' :: s =>
    let digits := s.takeWhile (· ≠ '\\')
    digits.all Char.isDigit && digitsValue digits < UInt16.size
  | _ => false

/-- The host in the authority of an address; the user and the port are left out. -/
def hostOfAuthority? (authority : List Char) : Option (List Char) :=
  let (host, port) := splitPort false (dropUser authority)
  if isPort port then some host else none

/-! ### Hosts -/

/-- Bytes from a text in which `%` and two digits stand for a byte. -/
def percentDecode : List UInt8 → List UInt8
  | 37 :: a :: b :: s =>
    match Json.hexValue? (Char.ofNat a.toNat), Json.hexValue? (Char.ofNat b.toNat) with
    | some high, some low => UInt8.ofNat (16 * high + low) :: percentDecode s
    | _, _ => 37 :: percentDecode (a :: b :: s)
  | c :: s => c :: percentDecode s
  | [] => []

def textOfBytes? (bytes : List UInt8) : Option (List Char) :=
  (String.fromUTF8? (ByteArray.mk bytes.toArray)).map String.toList

def bracketHost? (s : List Char) : Option (List Char) :=
  if s.getLast? = some ']' then (readAddress128? s.dropLast).map writeAddress128 else none

/-- The host of an address on the web: a numeric address, or a name. -/
def webHost? : List Char → Option (List Char)
  | '[' :: s => bracketHost? s
  | s => do
    let name ← nameText? (← textOfBytes? (percentDecode (String.ofList s).toUTF8.data.toList))
    if endsInNumber name then (readAddress32? name).map writeAddress32 else some name

/-- The bytes of a character as `%` and two digits each. -/
def percentEncode (c : Char) : List Char :=
  (String.singleton c).toUTF8.data.toList.flatMap fun b =>
    '%' :: [b.toNat / 16, b.toNat % 16].flatMap fun d => (Nat.toDigits 16 d).map Char.toUpper

/-- The host of an address in a scheme of its own, which keeps its case. -/
def opaqueHost? : List Char → Option (List Char)
  | [] => none
  | '[' :: s => bracketHost? s
  | s =>
    if s.any fun c => "\x00\t\n\r #/:<>?@[\\]^|".toList.contains c then none
    else some (s.flatMap fun c =>
      if c < ' ' || '\x7f' ≤ c then percentEncode c else [c])

/-! ### Schemes -/

/-- The host after the colon of a scheme of the web, with any count of slashes in front of it. -/
def hostOnWeb? (s : List Char) : Option (List Char) :=
  (hostOfAuthority? ((s.dropWhile isSlash).takeWhile fun c => !endsHost true c)).bind webHost?

/-- A letter with a colon or a bar behind it. -/
def isDrive : List Char → Bool
  | [letter, mark] => letter.isAlpha && (mark == ':' || mark == '|')
  | _ => false

/-- Dots that are written as `%2e`, in plain. -/
def plainDots : List Char → List Char
  | '%' :: '2' :: c :: s =>
    if c.toLower = 'e' then '.' :: plainDots s else '%' :: '2' :: plainDots (c :: s)
  | c :: s => c :: plainDots s
  | [] => []

/-- Whether a path leads to a drive. `above` are the folders that the path has entered, the last one
first; two dots leave a folder, but not one that is named like a drive. -/
def leadsToDrive (above : List (List Char)) : List (List Char) → Bool
  | [] => false
  | step :: rest =>
    if plainDots step = ['.'] then leadsToDrive above rest
    else if plainDots step = ['.', '.'] then
      leadsToDrive (if above.head?.any isDrive then above else above.drop 1) rest
    else (above.isEmpty && isDrive step) || leadsToDrive (step :: above) rest

/-- The host after two slashes in the address of a file. Drives and this computer are no hosts, and
no host has a path that leads to a drive. -/
def hostOfFile? : List Char → Option (List Char)
  | a :: b :: s => do
    let written := s.takeWhile fun c => !endsHost true c
    let path := (s.drop written.length).takeWhile fun c => c ≠ '?' && c ≠ '#'
    let steps := splitAtChar '/' ((path.drop 1).map fun c => if c = '\\' then '/' else c)
    if !(isSlash a && isSlash b) || isDrive written || leadsToDrive [] steps then none
    let host ← webHost? written
    if host = "localhost".toList then none
    return host
  | _ => none

/-- The host after two slashes in any other scheme. -/
def hostElsewhere? : List Char → Option (List Char)
  | '/' :: '/' :: s => (hostOfAuthority? (s.takeWhile fun c => !endsHost false c)).bind opaqueHost?
  | _ => none

/-- The host of an address after the colon of its scheme. -/
def hostIn? (scheme : List Char) (s : List Char) : Option (List Char) :=
  if ["http", "https", "ws", "wss", "ftp"].any (·.toList = scheme) then hostOnWeb? s
  else if scheme = "file".toList then hostOfFile? s
  else hostElsewhere? s

end SceneCompiler.Link

namespace SceneCompiler

open Link

def linkDomain (link : String) : Option String := do
  let text := trimChars link.toList
  let (scheme, rest) ←
    readScheme? (significant text) <|> readScheme? (significant ("https://".toList ++ text))
  return String.ofList (← hostIn? scheme rest)

end SceneCompiler
