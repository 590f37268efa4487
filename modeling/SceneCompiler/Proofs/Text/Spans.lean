import Mathlib
import SceneCompiler.Text.Class
/-!
# Rows of characters

A scanner takes a row of characters of one class from the front of a text, and trimming takes the
white space off both ends. Places in a text are counted in bytes.

* `takeWhile_behind`, `dropWhile_behind`: a row ends at a character that is not of the class.
* `trimChars_of_ends`, `trimChars_idem`: which texts are their own trimmed forms.
* `takeWhile_append_trimChars`: what trimming takes off.
* `utf8Length_append`, `utf8ByteSize_ofList`: lengths in bytes.
-/

namespace SceneCompiler

/-! ## Rows of one class -/

section Rows

variable {p q : Char → Bool} {s x y : List Char} {d : Char}

/-- The first character of a text that is not of a class. -/
theorem exists_first_not (h : ¬ ∀ c ∈ s, p c = true) :
    ∃ before c after, s = before ++ c :: after ∧ (∀ d ∈ before, p d = true) ∧ p c = false := by
  have hsplit := List.takeWhile_append_dropWhile (p := p) (l := s)
  have hfirst := List.head?_dropWhile_not p s
  cases hdrop : s.dropWhile p with
  | nil => exact absurd (List.dropWhile_eq_nil_iff.mp hdrop) h
  | cons c after =>
    rw [hdrop] at hsplit hfirst
    exact ⟨s.takeWhile p, c, after, hsplit.symm, fun d hd => List.mem_takeWhile_imp hd,
      by simpa using hfirst⟩

/-- Rows of characters end at a character that is none of them. -/
theorem takeWhile_behind (hd : p d = false) : (x ++ d :: y).takeWhile p = x.takeWhile p := by
  induction x with
  | nil => exact List.takeWhile_cons_of_neg (by simp [hd])
  | cons c x ih => rw [List.cons_append, List.takeWhile_cons, List.takeWhile_cons, ih]

theorem dropWhile_behind (hd : p d = false) :
    (x ++ d :: y).dropWhile p = x.dropWhile p ++ d :: y := by
  induction x with
  | nil => exact List.dropWhile_cons_of_neg (by simp [hd])
  | cons c x ih =>
    rw [List.cons_append, List.dropWhile_cons, List.dropWhile_cons, ih]
    split <;> rfl

/-- A row of a class goes with the row of a larger class. -/
theorem dropWhile_dropWhile (h : ∀ c, p c = true → q c = true) (s : List Char) :
    (s.dropWhile p).dropWhile q = s.dropWhile q := by
  induction s with
  | nil => rfl
  | cons c s ih =>
    cases hp : p c with
    | true => rw [List.dropWhile_cons_of_pos hp, ih, List.dropWhile_cons_of_pos (h c hp)]
    | false => rw [List.dropWhile_cons_of_neg (by simp [hp])]

theorem dropWhile_of_head? (h : s.head?.all (fun c => !p c) = true) : s.dropWhile p = s := by
  cases s with
  | nil => rfl
  | cons c s => exact List.dropWhile_cons_of_neg (by simpa using h)

/-- A row that is whole: it ends with the text or at a character that is not of the class. -/
theorem takeWhile_append_of_head? (hx : ∀ c ∈ x, p c = true)
    (hy : y.head?.all (fun c => !p c) = true) : (x ++ y).takeWhile p = x := by
  rw [List.takeWhile_append_of_pos hx]
  cases y with
  | nil => simp
  | cons c y => rw [List.takeWhile_cons_of_neg (by simpa using hy), List.append_nil]

theorem dropWhile_append_of_head? (hx : ∀ c ∈ x, p c = true)
    (hy : y.head?.all (fun c => !p c) = true) : (x ++ y).dropWhile p = y := by
  rw [List.dropWhile_append_of_pos hx, dropWhile_of_head? hy]

end Rows

/-! ## White space at the ends -/

section Trimming

variable {s : List Char}

theorem isWhite_of_isBlank {c : Char} (h : isBlank c = true) : isWhite c = true := by
  simp only [isBlank, Bool.or_eq_true, beq_iff_eq] at h
  rcases h with rfl | rfl <;> decide

theorem trimChars_eq_rdropWhile (s : List Char) :
    trimChars s = (s.dropWhile isWhite).rdropWhile isWhite :=
  rfl

/-- A text with no white space at its ends is its own trimmed form. -/
theorem trimChars_of_ends (hfirst : s.head?.all (fun c => !isWhite c) = true)
    (hlast : s.getLast?.all (fun c => !isWhite c) = true) : trimChars s = s := by
  unfold trimChars dropWhileEnd
  rw [dropWhile_of_head? hfirst, dropWhile_of_head? (by rwa [List.head?_reverse]),
    List.reverse_reverse]

theorem trimChars_of_not_white (h : ∀ c ∈ s, isWhite c = false) : trimChars s = s := by
  have hend : ∀ o : Option Char, (∀ c ∈ o, c ∈ s) → o.all (fun c => !isWhite c) = true := by
    intro o ho
    cases o with
    | none => rfl
    | some c => simpa using h c (ho c rfl)
  exact trimChars_of_ends (hend _ fun _ => List.mem_of_mem_head?)
    (hend _ fun _ => List.mem_of_getLast?)

theorem trimChars_idem (s : List Char) : trimChars (trimChars s) = trimChars s := by
  refine trimChars_of_ends ?_ ?_
  · -- The trimmed form starts where the text without its first white space starts.
    obtain ⟨rest, hrest⟩ := List.rdropWhile_prefix isWhite (s.dropWhile isWhite)
    have hhead := List.head?_dropWhile_not isWhite s
    rw [trimChars_eq_rdropWhile]
    cases htrim : (s.dropWhile isWhite).rdropWhile isWhite with
    | nil => rfl
    | cons c t =>
      rw [htrim] at hrest
      rw [← hrest] at hhead
      simpa using hhead
  · rw [trimChars_eq_rdropWhile]
    by_cases hne : (s.dropWhile isWhite).rdropWhile isWhite = []
    · rw [hne]
      rfl
    · rw [List.getLast?_eq_some_getLast hne]
      simpa using List.rdropWhile_last_not isWhite _ hne

/-- Only white space is taken off. -/
theorem takeWhile_append_trimChars (s : List Char) :
    s.takeWhile isWhite ++ (trimChars s ++ (s.dropWhile isWhite).rtakeWhile isWhite) = s := by
  rw [trimChars_eq_rdropWhile, List.rdropWhile_append_rtakeWhile, List.takeWhile_append_dropWhile]

theorem trimChars_dropWhile_isBlank (s : List Char) :
    trimChars (s.dropWhile isBlank) = trimChars s := by
  unfold trimChars
  rw [dropWhile_dropWhile fun _ => isWhite_of_isBlank]

end Trimming

/-! ## Fixed ends -/

theorem stripStart?_eq_some_iff {start s rest : List Char} :
    stripStart? start s = some rest ↔ s = start ++ rest := by
  induction start generalizing s with
  | nil => simp [stripStart?, eq_comm]
  | cons c start ih =>
    cases s with
    | nil => simp [stripStart?]
    | cons d s =>
      by_cases hc : c = d
      · simp [stripStart?, hc, ih]
      · simp [stripStart?, hc, Ne.symm hc]

theorem stripEnd?_append (s ending : List Char) : stripEnd? ending (s ++ ending) = some s := by
  unfold stripEnd?
  rw [stripStart?_eq_some_iff.mpr List.reverse_append, Option.map_some, List.reverse_reverse]

/-! ## Lengths in bytes -/

theorem utf8Length_eq_utf8Len (s : List Char) : utf8Length s = String.utf8Len s := by
  induction s with
  | nil => rfl
  | cons c s ih =>
    show c.utf8Size + utf8Length s = String.utf8Len s + c.utf8Size
    rw [ih, Nat.add_comm]

theorem utf8Length_append (s t : List Char) :
    utf8Length (s ++ t) = utf8Length s + utf8Length t := by
  rw [utf8Length_eq_utf8Len, utf8Length_eq_utf8Len, utf8Length_eq_utf8Len, String.utf8Len_append]

theorem utf8ByteSize_ofList (s : List Char) : (String.ofList s).utf8ByteSize = utf8Length s := by
  rw [String.utf8ByteSize_ofList, utf8Length_eq_utf8Len]

theorem utf8Length_pos {s : List Char} (h : s ≠ []) : 0 < utf8Length s := by
  obtain ⟨c, t, rfl⟩ := List.exists_cons_of_ne_nil h
  exact Nat.lt_of_lt_of_le c.utf8Size_pos (Nat.le_add_right _ _)

end SceneCompiler
