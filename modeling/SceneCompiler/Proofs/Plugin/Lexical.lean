import Mathlib
import SceneCompiler.Json.Reader
import SceneCompiler.Plugin.Source
/-!
# Lexical elements of plugin sources

Plugins are written in ECMAScript. Its lexical grammar is written down here apart from the mask: a
source is a list of elements, each with its text. What an element may be depends on the elements
before it in one way only: a closing brace ends the innermost open brace, and if that one opened an
expression inside a template, then the template goes on. Which slashes are divisions is left to the
list, where a division and a regular expression are different elements.

* `Element`, `Element.text`, `Element.Valid`: single elements, by the productions of the grammar.
* `Lexed`: lists of elements that follow each other in a source.
-/

namespace SceneCompiler.Script

/-! ## Characters -/

/-- The letters of identifiers: the Unicode properties `ID_Start` and `ID_Continue`. Only their
ASCII part is fixed, and that they have no white space. -/
structure Alphabet where
  start : Char → Bool
  part : Char → Bool
  part_of_start : ∀ c, start c = true → part c = true
  start_ascii : ∀ c : Char, c.toNat < 128 → start c = c.isAlpha
  part_ascii : ∀ c : Char, c.toNat < 128 → part c = (c.isAlphanum || c == '_')
  part_not_white : ∀ c, part c = true → isWhite c = false

namespace Alphabet

/-- `IdentifierStartChar` -/
def identStart (A : Alphabet) (c : Char) : Bool :=
  A.start c || c == '$' || c == '_'

/-- `IdentifierPartChar`, with the two joiners -/
def identPart (A : Alphabet) (c : Char) : Bool :=
  A.part c || c == '$' || c == '\u200c' || c == '\u200d'

/-- The alphabet without letters of other scripts. -/
def ascii : Alphabet where
  start := Char.isAlpha
  part c := c.isAlphanum || c == '_'
  part_of_start c h := by simp [Char.isAlphanum, h]
  start_ascii _ _ := rfl
  part_ascii _ _ := rfl
  part_not_white c h := by
    rw [Bool.or_eq_true, beq_iff_eq] at h
    rcases h with h | rfl
    · exact not_isWhite_of_isAlphanum h
    · decide

end Alphabet

/-- `WhiteSpace` -/
def whiteSpace : List Char :=
  ['\t', '\x0b', '\x0c', ' ', '\u00a0', '\u1680', '\u2000', '\u2001', '\u2002', '\u2003', '\u2004',
    '\u2005', '\u2006', '\u2007', '\u2008', '\u2009', '\u200a', '\u202f', '\u205f', '\u3000',
    '\ufeff']

/-- `LineTerminator` -/
def lineTerminators : List Char :=
  ['\n', '\r', '\u2028', '\u2029']

/-! ## Identifiers -/

/-- A character of an identifier, as itself or as `UnicodeEscapeSequence`. -/
inductive IdentifierPart where
  | char (c : Char)
  /-- A backslash, `u`, and four hexadecimal digits. -/
  | escape (digits : List Char)
  /-- A backslash, `u`, and hexadecimal digits in braces. -/
  | braced (digits : List Char)
deriving DecidableEq, Repr

namespace IdentifierPart

def text : IdentifierPart → List Char
  | char c => [c]
  | escape digits => '\\' :: 'u' :: digits
  | braced digits => '\\' :: 'u' :: '\x7b' :: digits ++ ['\x7d']

/-- The character with the code point that the digits write. -/
def charOfHex (digits : List Char) : Char :=
  Char.ofNat (digits.foldl (fun n c => 16 * n + (Json.hexValue? c).getD 0) 0)

/-- The character that is meant. -/
def value : IdentifierPart → Char
  | char c => c
  | escape digits | braced digits => charOfHex digits

/-- Escapes are made of hexadecimal digits. -/
def Written : IdentifierPart → Prop
  | char _ => True
  | escape digits => digits.length = 4 ∧ ∀ c ∈ digits, (Json.hexValue? c).isSome
  | braced digits => digits ≠ [] ∧ ∀ c ∈ digits, (Json.hexValue? c).isSome

end IdentifierPart

/-- `IdentifierName` -/
structure IsIdentifier (A : Alphabet) (parts : List IdentifierPart) : Prop where
  start : ∃ p ∈ parts.head?, A.identStart p.value = true
  part : ∀ p ∈ parts, A.identPart p.value = true
  written : ∀ p ∈ parts, p.Written

/-- `StringValue` of an identifier: the name without escapes. -/
def identifierName (parts : List IdentifierPart) : List Char :=
  parts.map IdentifierPart.value

/-- An identifier without escapes. -/
def plainWord (word : String) : List IdentifierPart :=
  word.toList.map .char

theorem isIdentifier_plainWord {A : Alphabet} {word : String}
    (hstart : word.toList.head?.any A.identStart = true)
    (hpart : word.toList.all A.identPart = true) : IsIdentifier A (plainWord word) where
  start := by
    obtain ⟨c, hc, hcstart⟩ := (Option.any_eq_true _ _).mp hstart
    exact ⟨.char c, by simp [plainWord, hc], hcstart⟩
  part := by
    intro p hp
    obtain ⟨c, hc, rfl⟩ := List.mem_map.mp hp
    exact List.all_eq_true.mp hpart c hc
  written := by
    intro p hp
    obtain ⟨c, -, rfl⟩ := List.mem_map.mp hp
    trivial

/-! ## Numbers -/

/-- Digits of some base, with single underscores between them. -/
inductive Digits (isDigit : Char → Bool) : List Char → Prop where
  | one {c : Char} : isDigit c = true → Digits isDigit [c]
  | cons {c : Char} {s : List Char} : isDigit c = true → Digits isDigit s → Digits isDigit (c :: s)
  | separated {c : Char} {s : List Char} :
      isDigit c = true → Digits isDigit s → Digits isDigit (c :: '_' :: s)

/-- `ExponentPart` -/
inductive Exponent : List Char → Prop where
  | mk {mark : Char} {sign digits : List Char} : mark ∈ ['e', 'E'] → sign ∈ [[], ['+'], ['-']] →
      Digits Char.isDigit digits → Exponent (mark :: sign ++ digits)

/-- The digits of a number after its prefix. -/
def isRadixDigit (mark c : Char) : Bool :=
  if mark == 'x' || mark == 'X' then (Json.hexValue? c).isSome
  else if mark == 'o' || mark == 'O' then '0' ≤ c && c ≤ '7'
  else c == '0' || c == '1'

/-- `NumericLiteral`, also those with leading zeros that strict code does not have -/
inductive NumericLiteral : List Char → Prop where
  /-- `17`, `17n` -/
  | integer {whole big : List Char} : Digits Char.isDigit whole → big ∈ [[], ['n']] →
      NumericLiteral (whole ++ big)
  /-- `17e3` -/
  | scaled {whole exponent : List Char} : Digits Char.isDigit whole → Exponent exponent →
      NumericLiteral (whole ++ exponent)
  /-- `17.`, `17.e3`, `17.5`, `17.5e3` -/
  | decimal {whole fraction exponent : List Char} : Digits Char.isDigit whole →
      (fraction = [] ∨ Digits Char.isDigit fraction) → (exponent = [] ∨ Exponent exponent) →
      NumericLiteral (whole ++ '.' :: fraction ++ exponent)
  /-- `.5`, `.5e3` -/
  | fraction {fraction exponent : List Char} : Digits Char.isDigit fraction →
      (exponent = [] ∨ Exponent exponent) → NumericLiteral ('.' :: fraction ++ exponent)
  /-- `0x1F`, `0b11n` -/
  | radix {mark : Char} {digits big : List Char} : mark ∈ ['x', 'X', 'o', 'O', 'b', 'B'] →
      Digits (isRadixDigit mark) digits → big ∈ [[], ['n']] →
      NumericLiteral ('0' :: mark :: digits ++ big)

/-! ### Their characters -/

section Characters

variable {c : Char} {text : List Char}

theorem isAlphanum_of_hexValue? (h : (Json.hexValue? c).isSome) : c.isAlphanum = true := by
  rw [isAlphanum_iff]
  unfold Json.hexValue? at h
  split at h
  · next hdigit =>
    exact isAlphanum_iff.mp (by simp [Char.isAlphanum, hdigit])
  split at h
  · next hlower =>
    have : 97 ≤ c.toNat ∧ c.toNat ≤ 102 := hlower
    omega
  split at h
  · next hupper =>
    have : 65 ≤ c.toNat ∧ c.toNat ≤ 70 := hupper
    omega
  · cases h

theorem isAlphanum_of_isRadixDigit {mark : Char} (h : isRadixDigit mark c = true) :
    c.isAlphanum = true := by
  unfold isRadixDigit at h
  split at h
  · exact isAlphanum_of_hexValue? h
  split at h
  · have : 48 ≤ c.toNat ∧ c.toNat ≤ 55 := by
      rw [Bool.and_eq_true, decide_eq_true_eq, decide_eq_true_eq] at h
      exact h
    exact isAlphanum_iff.mpr (by omega)
  · rw [Bool.or_eq_true, beq_iff_eq, beq_iff_eq] at h
    rcases h with rfl | rfl <;> rfl

/-- Characters of numbers. -/
def IsNumeral (c : Char) : Prop :=
  c.isAlphanum = true ∨ c ∈ ['_', '.', '+', '-']

theorem Digits.forall_mem {isDigit : Char → Bool} (h : Digits isDigit text) {p : Char → Prop}
    (hdigit : ∀ c, isDigit c = true → p c) (hseparator : p '_') : ∀ c ∈ text, p c := by
  induction h with
  | one hc => simpa using hdigit _ hc
  | cons hc _ ih => exact List.forall_mem_cons.mpr ⟨hdigit _ hc, ih⟩
  | separated hc _ ih =>
    exact List.forall_mem_cons.mpr ⟨hdigit _ hc, List.forall_mem_cons.mpr ⟨hseparator, ih⟩⟩

theorem Digits.isNumeral {isDigit : Char → Bool} (h : Digits isDigit text)
    (hdigit : ∀ c, isDigit c = true → c.isAlphanum = true) : ∀ c ∈ text, IsNumeral c :=
  h.forall_mem (fun c hc => .inl (hdigit c hc)) (.inr (by simp))

theorem decimal_isNumeral (h : Digits Char.isDigit text) : ∀ c ∈ text, IsNumeral c :=
  h.isNumeral fun c hc => by simp [Char.isAlphanum, hc]

theorem Exponent.isNumeral (h : Exponent text) : ∀ c ∈ text, IsNumeral c := by
  obtain @⟨mark, sign, digits, hmark, hsign, hdigits⟩ := h
  have hmark : IsNumeral mark := by
    have : ∀ c ∈ ['e', 'E'], IsNumeral c := by simp [IsNumeral]
    exact this mark hmark
  have hsign : ∀ c ∈ sign, IsNumeral c := by
    have : ∀ s ∈ [[], ['+'], ['-']], ∀ c ∈ s, IsNumeral c := by simp [IsNumeral]
    exact this sign hsign
  rw [List.forall_mem_append]
  exact ⟨List.forall_mem_cons.mpr ⟨hmark, hsign⟩, decimal_isNumeral hdigits⟩

theorem NumericLiteral.isNumeral (h : NumericLiteral text) : ∀ c ∈ text, IsNumeral c := by
  have hpoint : IsNumeral '.' := .inr (by simp)
  have hzero : IsNumeral '0' := .inl rfl
  have hbig : ∀ s ∈ [[], ['n']], ∀ c ∈ s, IsNumeral c := by simp [IsNumeral]
  have hprefix : ∀ c ∈ ['x', 'X', 'o', 'O', 'b', 'B'], IsNumeral c := by simp [IsNumeral]
  have hdecimal := @decimal_isNumeral
  have hexponent := @Exponent.isNumeral
  cases h with
  | integer hwhole hbig' =>
    exact List.forall_mem_append.mpr ⟨hdecimal hwhole, hbig _ hbig'⟩
  | scaled hwhole hexp => exact List.forall_mem_append.mpr ⟨hdecimal hwhole, hexponent hexp⟩
  | decimal hwhole hfraction hexp =>
    grind
  | fraction hfraction hexp => grind
  | radix hmark hdigits hbig' =>
    have := hdigits.isNumeral fun _ => isAlphanum_of_isRadixDigit
    grind

theorem Digits.exists_cons {isDigit : Char → Bool} (h : Digits isDigit text) :
    ∃ c s, text = c :: s ∧ isDigit c = true := by
  cases h with
  | one hc | cons hc _ | separated hc _ => exact ⟨_, _, rfl, hc⟩

theorem Digits.exists_concat {isDigit : Char → Bool} (h : Digits isDigit text) :
    ∃ s c, text = s ++ [c] ∧ isDigit c = true := by
  induction h with
  | @one c hc => exact ⟨[], c, rfl, hc⟩
  | @cons c _ _ _ ih =>
    obtain ⟨s, d, rfl, hd⟩ := ih
    exact ⟨c :: s, d, rfl, hd⟩
  | @separated c _ _ _ ih =>
    obtain ⟨s, d, rfl, hd⟩ := ih
    exact ⟨c :: '_' :: s, d, rfl, hd⟩

/-- A number starts with a digit or a point. -/
theorem NumericLiteral.exists_cons (h : NumericLiteral text) :
    ∃ c s, text = c :: s ∧ (c.isDigit = true ∨ c = '.') := by
  cases h with
  | integer hwhole _ | scaled hwhole _ | decimal hwhole _ _ =>
    obtain ⟨c, s, rfl, hc⟩ := hwhole.exists_cons
    exact ⟨c, _, rfl, .inl hc⟩
  | fraction _ _ => exact ⟨'.', _, rfl, .inr rfl⟩
  | radix _ _ _ => exact ⟨'0', _, rfl, .inl rfl⟩

end Characters

/-! ## Strings, templates, regular expressions -/

/-- `DoubleStringCharacters` and `SingleStringCharacters`. An escape counts as the backslash and one
character, the others of a longer one stand for themselves. -/
inductive StringChars (quote : Char) : List Char → Prop where
  | nil : StringChars quote []
  | char {c : Char} {s : List Char} : c ≠ quote → c ≠ '\\' → c ≠ '\n' → c ≠ '\r' →
      StringChars quote s → StringChars quote (c :: s)
  | escape {c : Char} {s : List Char} : StringChars quote s → StringChars quote ('\\' :: c :: s)
  /-- `LineContinuation` with a line end of two characters -/
  | continuation {s : List Char} :
      StringChars quote s → StringChars quote ('\\' :: '\r' :: '\n' :: s)

/-- `TemplateCharacters` -/
inductive TemplateChars : List Char → Prop where
  | nil : TemplateChars []
  | char {c : Char} {s : List Char} : c ≠ '\x60' → c ≠ '\\' → (c = '$' → s.head? ≠ some '\x7b') →
      TemplateChars s → TemplateChars (c :: s)
  | escape {c : Char} {s : List Char} : TemplateChars s → TemplateChars ('\\' :: c :: s)

/-- `RegularExpressionClassChars` -/
inductive ClassChars : List Char → Prop where
  | nil : ClassChars []
  | char {c : Char} {s : List Char} : c ∉ lineTerminators → c ≠ ']' → c ≠ '\\' →
      ClassChars s → ClassChars (c :: s)
  | escape {c : Char} {s : List Char} : c ∉ lineTerminators →
      ClassChars s → ClassChars ('\\' :: c :: s)

/-- `RegularExpressionChars` -/
inductive RegexChars : List Char → Prop where
  | nil : RegexChars []
  | char {c : Char} {s : List Char} : c ∉ lineTerminators → c ≠ '\\' → c ≠ '/' → c ≠ '[' →
      RegexChars s → RegexChars (c :: s)
  | escape {c : Char} {s : List Char} : c ∉ lineTerminators →
      RegexChars s → RegexChars ('\\' :: c :: s)
  | bracketed {k s : List Char} : ClassChars k → RegexChars s → RegexChars ('[' :: k ++ ']' :: s)

/-! ## Elements -/

/-- `Punctuator`, `DivPunctuator`, `RightBracePunctuator` -/
def punctuators : List String :=
  ["\x7b", "\x7d", "(", ")", "[", "]", ".", "...", ";", ",", "<", ">", "<=", ">=", "==", "!=",
    "===", "!==", "+", "-", "*", "%", "**", "++", "--", "<<", ">>", ">>>", "&", "|", "^", "!", "~",
    "&&", "||", "??", "?", "?.", ":", "=", "+=", "-=", "*=", "%=", "**=", "<<=", ">>=", ">>>=",
    "&=", "|=", "^=", "&&=", "||=", "??=", "=>", "/", "/="]

inductive Element where
  | white (c : Char)
  | terminator (c : Char)
  | lineComment (body : List Char)
  | blockComment (body : List Char)
  | identifier (parts : List IdentifierPart)
  | number (literal : List Char)
  | string (quote : Char) (body : List Char)
  | regex (body flags : List Char)
  | punctuator (mark : String)
  /-- `Template` and `TemplateSubstitutionTail`, by piece: see `templateStart`, `templateEnd`. -/
  | template (resumes : Bool) (body : List Char) (opens : Bool)
deriving DecidableEq, Repr

/-- What a closing brace may close. -/
inductive Open where
  | brace
  /-- An expression inside a template. -/
  | expression
deriving DecidableEq, Repr

/-- A piece of a template starts with a backtick, or with the brace that closes an expression. -/
def templateStart (resumes : Bool) : Char :=
  if resumes then '\x7d' else '\x60'

/-- It ends with a backtick, or opens an expression. -/
def templateEnd (opens : Bool) : List Char :=
  if opens then ['$', '\x7b'] else ['\x60']

namespace Element

def text : Element → List Char
  | white c | terminator c => [c]
  | lineComment body => '/' :: '/' :: body
  | blockComment body => '/' :: '*' :: body ++ ['*', '/']
  | identifier parts => parts.flatMap IdentifierPart.text
  | number literal => literal
  | string quote body => quote :: body ++ [quote]
  | regex body flags => '/' :: body ++ '/' :: flags
  | punctuator mark => mark.toList
  | template resumes body opens =>
    templateStart resumes :: body ++ templateEnd opens

def Valid (A : Alphabet) : Element → Prop
  | white c => c ∈ whiteSpace
  | terminator c => c ∈ lineTerminators
  | lineComment body => ∀ c ∈ body, c ∉ lineTerminators
  | blockComment body => ¬ ['*', '/'] <:+: body
  | identifier parts => IsIdentifier A parts
  | number literal => NumericLiteral literal
  | string quote body => quote ∈ ['"', '\''] ∧ StringChars quote body
  | regex body flags => RegexChars body ∧ body ≠ [] ∧ body.head? ≠ some '*' ∧
      ∀ c ∈ flags, A.identPart c = true
  | punctuator mark => mark ∈ punctuators
  | template _ body _ => TemplateChars body

/-- What is open after the element, the innermost first. -/
def nest (stack : List Open) : Element → List Open
  | punctuator mark =>
    if mark = "\x7b" then .brace :: stack else if mark = "\x7d" then stack.tail else stack
  | template resumes _ opens =>
    (if opens then [.expression] else []) ++ (if resumes then stack.tail else stack)
  | _ => stack

/-- A closing brace resumes a template exactly if it closes an expression inside of it. A brace that
closes nothing is an element like others. -/
def Fits (stack : List Open) : Element → Prop
  | punctuator mark => mark = "\x7d" → stack.head? ≠ some .expression
  | template resumes _ _ => resumes = true → stack.head? = some .expression
  | _ => True

/-- The element ends before the next character: a longer one is not possible. -/
def Ends (A : Alphabet) (next : Option Char) : Element → Prop
  | lineComment _ => ∀ c ∈ next, c ∈ lineTerminators
  | identifier _ => ∀ c ∈ next, A.identPart c = false ∧ c ≠ '\\'
  | number _ => ∀ c ∈ next, A.identStart c = false ∧ c.isDigit = false ∧ c ≠ '\\'
  | regex _ _ => ∀ c ∈ next, A.identPart c = false
  | punctuator mark => mark = "/" → ∀ c ∈ next, c ≠ '/' ∧ c ≠ '*'
  | _ => True

/-- White space, line ends and comments come between tokens. -/
def isTrivia : Element → Bool
  | white _ | terminator _ | lineComment _ | blockComment _ => true
  | _ => false

end Element

/-- The text of a list of elements. -/
def sourceText (es : List Element) : List Char :=
  es.flatMap Element.text

/-- The elements follow each other in a source, with some braces open before. -/
inductive Lexed (A : Alphabet) : List Open → List Element → Prop where
  | nil {stack : List Open} : Lexed A stack []
  | cons {stack : List Open} {e : Element} {es : List Element} : e.Valid A → e.Fits stack →
      e.Ends A (sourceText es).head? → Lexed A (e.nest stack) es → Lexed A stack (e :: es)

theorem lexed_cons {A : Alphabet} {stack : List Open} {e : Element} {es : List Element} :
    Lexed A stack (e :: es) ↔ e.Valid A ∧ e.Fits stack ∧ e.Ends A (sourceText es).head? ∧
      Lexed A (e.nest stack) es := by
  constructor
  · rintro ⟨⟩
    exact ⟨‹_›, ‹_›, ‹_›, ‹_›⟩
  · rintro ⟨hvalid, hfits, hends, hes⟩
    exact .cons hvalid hfits hends hes

/-- The last token of a list: the last element that is neither white space nor a comment. -/
def lastToken? (es : List Element) : Option Element :=
  es.reverse.find? (!·.isTrivia)

end SceneCompiler.Script
