import Mathlib
import SceneCompiler.Number.Decimal
/-!
# Decimal texts

A decimal text is a sign, digits, and digits after a point when there are any. It denotes a number,
and the same number has many texts: zeros may stand in front of the digits and behind the fraction,
and zero may have a sign. A text without any of these is the shortest one of its number.

* `DecimalText`: the texts with what they denote.
* `DecimalText.length_le_of_minimal`: no text of the same number is shorter than a minimal one.
* `isMinimal_ofThousandths`: the text that is made of a count of thousandths is minimal.
-/

namespace SceneCompiler

variable {c : Char} {s t : List Char}

/-! ## Definitions -/

/-- A decimal text without an exponent: a sign, digits, and digits after a point when there are
any. -/
structure DecimalText where
  negative : Bool
  whole : List Char
  fraction : List Char
  whole_ne_nil : whole ≠ []
  isDigit_whole : ∀ c ∈ whole, c.isDigit = true
  isDigit_fraction : ∀ c ∈ fraction, c.isDigit = true

namespace DecimalText

/-- The characters of the text. -/
def text (d : DecimalText) : List Char :=
  (if d.negative then ['-'] else []) ++
    (d.whole ++ if d.fraction = [] then [] else '.' :: d.fraction)

/-- The digits as one number. -/
def units (d : DecimalText) : ℕ :=
  digitsValue (d.whole ++ d.fraction)

/-- The number that the text denotes. -/
def value (d : DecimalText) : ℚ :=
  (if d.negative then -1 else 1) * (d.units / 10 ^ d.fraction.length)

/-- Nothing can be left out: the digits do not start with a needless zero, the fraction does not end
in one, and zero has no sign. -/
structure IsMinimal (d : DecimalText) : Prop where
  whole : ∃ n, d.whole = decimalDigits n
  fraction : d.fraction.getLast? ≠ some '0'
  sign : d.negative = true → d.units ≠ 0

end DecimalText

/-! ## Digits -/

theorem digitsValue_append : digitsValue (s ++ t) = 10 ^ t.length * digitsValue s + digitsValue t :=
  (Nat.ofDigitChars_append 0).trans Nat.ofDigitChars_eq_ofDigitChars_zero

theorem digitsValue_replicate_zero (n : ℕ) : digitsValue (List.replicate n '0') = 0 :=
  Nat.ofDigitChars_replicate_zero

theorem digitsValue_decimalDigits (n : ℕ) : digitsValue (decimalDigits n) = n :=
  Nat.ofDigitChars_ten_toDigits

theorem decimalDigits_ne_nil (n : ℕ) : decimalDigits n ≠ [] :=
  Nat.toDigits_ne_nil

theorem isDigit_of_mem_decimalDigits {n : ℕ} (h : c ∈ decimalDigits n) : c.isDigit = true :=
  Nat.isDigit_of_mem_toDigits (by decide) (by decide) h

theorem digitValue_lt (h : c.isDigit = true) : digitValue c < 10 := by
  simp only [Char.isDigit, Bool.and_eq_true, decide_eq_true_eq] at h
  obtain ⟨-, hle⟩ := h
  have hle' : c.toNat ≤ 57 := hle
  have hzero : '0'.toNat = 48 := rfl
  unfold digitValue
  omega

/-- The digit zero is the only one that counts nothing. -/
theorem digitValue_ne_zero (h : c.isDigit = true) (hc : c ≠ '0') : digitValue c ≠ 0 := by
  simp only [Char.isDigit, Bool.and_eq_true, decide_eq_true_eq] at h
  have hge : 48 ≤ c.toNat := h.1
  have hne : c.toNat ≠ '0'.toNat := fun heq => hc (Char.toNat_inj.mp heq)
  have hzero : '0'.toNat = 48 := rfl
  unfold digitValue
  omega

theorem digitsValue_concat (s : List Char) (c : Char) :
    digitsValue (s ++ [c]) = 10 * digitsValue s + digitValue c := by
  simp [digitsValue]

/-- As many digits as there are stay below the power of ten. -/
theorem digitsValue_lt (h : ∀ c ∈ s, c.isDigit = true) : digitsValue s < 10 ^ s.length := by
  induction s using List.reverseRecOn with
  | nil => simp [digitsValue]
  | append_singleton s c ih =>
    have hs := ih fun d hd => h d (List.mem_append_left _ hd)
    have hc := digitValue_lt (h c (List.mem_append_right _ (List.mem_singleton.mpr rfl)))
    rw [digitsValue_concat, List.length_append, List.length_singleton, pow_succ]
    omega

/-- Digits that end in another one than zero are no multiple of ten. -/
theorem digitsValue_mod_ten_ne_zero (h : ∀ c ∈ t, c.isDigit = true) (ht : t ≠ [])
    (hlast : t.getLast? ≠ some '0') : digitsValue (s ++ t) % 10 ≠ 0 := by
  obtain ⟨t, c, rfl⟩ := (List.eq_nil_or_concat' t).resolve_left ht
  have hc : c ≠ '0' := by simpa using hlast
  have hdigit : c.isDigit = true := h c (by simp)
  have hlt := digitValue_lt hdigit
  have hne := digitValue_ne_zero hdigit hc
  rw [← List.append_assoc, digitsValue_concat]
  omega

/-! ## The shortest text -/

/-- The magnitude of a number with a sign. -/
theorem abs_signed {v : ℚ} (negative : Bool) (hv : 0 ≤ v) :
    |(if negative then -1 else 1) * v| = v := by
  split
  · rw [neg_one_mul, abs_neg, abs_of_nonneg hv]
  · rw [one_mul, abs_of_nonneg hv]

namespace DecimalText

variable {d d' : DecimalText}

theorem units_eq (d : DecimalText) :
    d.units = 10 ^ d.fraction.length * digitsValue d.whole + digitsValue d.fraction :=
  digitsValue_append

theorem length_text (d : DecimalText) :
    d.text.length = (if d.negative then 1 else 0) + d.whole.length
      + if d.fraction = [] then 0 else d.fraction.length + 1 := by
  unfold text
  split <;> split <;> simp <;> omega

theorem abs_value (d : DecimalText) : |d.value| = d.units / 10 ^ d.fraction.length :=
  abs_signed _ (by positivity)

/-- Texts of the same number have the same digits, up to zeros at the end. -/
theorem units_mul_of_value_eq (h : d'.value = d.value) :
    d.units * 10 ^ d'.fraction.length = d'.units * 10 ^ d.fraction.length := by
  have habs : |d'.value| = |d.value| := by rw [h]
  rw [abs_value, abs_value, div_eq_div_iff (by positivity) (by positivity)] at habs
  exact_mod_cast habs.symm

/-- A fraction that does not end in zero is the shortest one. -/
theorem IsMinimal.length_fraction_le (hd : d.IsMinimal) (h : d'.value = d.value) :
    d.fraction.length ≤ d'.fraction.length := by
  by_contra hlt
  obtain ⟨k, hk⟩ : ∃ k, d.fraction.length = d'.fraction.length + (k + 1) :=
    ⟨d.fraction.length - d'.fraction.length - 1, by omega⟩
  have hunits := units_mul_of_value_eq h
  have hten : d.units = d'.units * 10 ^ k * 10 := by
    refine Nat.eq_of_mul_eq_mul_right (Nat.pow_pos (n := d'.fraction.length) (Nat.succ_pos 9)) ?_
    rw [hunits, hk]
    ring
  have hne : d.fraction ≠ [] := by
    rintro hnil
    simp [hnil] at hk
  refine digitsValue_mod_ten_ne_zero (s := d.whole) d.isDigit_fraction hne hd.fraction ?_
  change d.units % 10 = 0
  rw [hten, Nat.mul_mod_left]

/-- Digits that do not start with a needless zero are the shortest. -/
theorem IsMinimal.length_whole_le (hd : d.IsMinimal) (h : d'.value = d.value) :
    d.whole.length ≤ d'.whole.length := by
  obtain ⟨n, hn⟩ := hd.whole
  have hunits := units_mul_of_value_eq h
  have hbound : d'.units < 10 ^ (d'.whole.length + d'.fraction.length) := by
    rw [← List.length_append]
    exact digitsValue_lt fun c hc =>
      (List.mem_append.mp hc).elim (d'.isDigit_whole c) (d'.isDigit_fraction c)
  have hleast : 10 ^ d.fraction.length * n ≤ d.units := by
    rw [units_eq, hn, digitsValue_decimalDigits]
    omega
  rw [hn]
  refine (Nat.length_toDigits_le_iff (by decide) ?_).mpr ?_
  · exact List.length_pos_iff.mpr d'.whole_ne_nil
  · -- Both sides of the bound, times the places of both texts.
    have hscaled : n * 10 ^ (d.fraction.length + d'.fraction.length)
        < 10 ^ d'.whole.length * 10 ^ (d.fraction.length + d'.fraction.length) :=
      calc n * 10 ^ (d.fraction.length + d'.fraction.length)
          = 10 ^ d.fraction.length * n * 10 ^ d'.fraction.length := by ring
        _ ≤ d.units * 10 ^ d'.fraction.length := Nat.mul_le_mul_right _ hleast
        _ = d'.units * 10 ^ d.fraction.length := hunits
        _ < 10 ^ (d'.whole.length + d'.fraction.length) * 10 ^ d.fraction.length :=
          Nat.mul_lt_mul_of_pos_right hbound (by positivity)
        _ = 10 ^ d'.whole.length * 10 ^ (d.fraction.length + d'.fraction.length) := by ring
    exact Nat.lt_of_mul_lt_mul_right hscaled

/-- The sign of a number other than zero has to be written. -/
theorem IsMinimal.negative_of_negative (hd : d.IsMinimal) (h : d'.value = d.value)
    (hneg : d.negative = true) : d'.negative = true := by
  have hpos : (0 : ℚ) < d.units / 10 ^ d.fraction.length := by
    have := Nat.pos_of_ne_zero (hd.sign hneg)
    positivity
  have hnonneg : (0 : ℚ) ≤ d'.units / 10 ^ d'.fraction.length := by positivity
  by_contra hsign
  simp only [value, hneg, hsign, if_true, if_false] at h
  linarith

/-- No text of the same number is shorter than a minimal one. -/
theorem length_le_of_minimal (hd : d.IsMinimal) (h : d'.value = d.value) :
    d.text.length ≤ d'.text.length := by
  have hfraction := hd.length_fraction_le h
  have hwhole := hd.length_whole_le h
  have hsign := hd.negative_of_negative h
  have hpoint : (if d.fraction = [] then 0 else d.fraction.length + 1)
      ≤ if d'.fraction = [] then 0 else d'.fraction.length + 1 := by
    by_cases hnil : d.fraction = []
    · rw [if_pos hnil]
      exact Nat.zero_le _
    · have hpos := List.length_pos_iff.mpr hnil
      have hnil' : d'.fraction ≠ [] := List.length_pos_iff.mp (by omega)
      rw [if_neg hnil, if_neg hnil']
      omega
  have hminus : (if d.negative then 1 else 0) ≤ if d'.negative then 1 else 0 := by
    split
    case isTrue hneg => rw [if_pos (hsign hneg)]
    case isFalse => exact Nat.zero_le _
  rw [length_text, length_text]
  omega

end DecimalText

/-! ## Texts of thousandths -/

/-- The last three digits of a number, with zeros in front. -/
def lastPlaces (units : ℕ) : List Char :=
  List.replicate (3 - (decimalDigits (units % 1000)).length) '0' ++ decimalDigits (units % 1000)

theorem digitsValue_lastPlaces (units : ℕ) : digitsValue (lastPlaces units) = units % 1000 := by
  rw [lastPlaces, digitsValue_append, digitsValue_replicate_zero, digitsValue_decimalDigits,
    mul_zero, zero_add]

theorem length_lastPlaces (units : ℕ) : (lastPlaces units).length = 3 := by
  have hle : (decimalDigits (units % 1000)).length ≤ 3 :=
    (Nat.length_toDigits_le_iff (by decide) (by decide)).mpr (Nat.mod_lt _ (by decide))
  rw [lastPlaces, List.length_append, List.length_replicate]
  omega

theorem isDigit_of_mem_lastPlaces {units : ℕ} (h : c ∈ lastPlaces units) : c.isDigit = true := by
  rcases List.mem_append.mp h with hzero | hdigit
  · rw [List.eq_of_mem_replicate hzero]
    decide
  · exact isDigit_of_mem_decimalDigits hdigit

/-- Dropping characters at the end is dropping a run of them. -/
theorem exists_dropTrailing (c : Char) (s : List Char) :
    ∃ n, s = dropTrailing c s ++ List.replicate n c := by
  have hsplit : dropTrailing c s ++ s.rtakeWhile (· = c) = s := List.rdropWhile_append_rtakeWhile
  have hrun : s.rtakeWhile (· = c) = List.replicate (s.rtakeWhile (· = c)).length c :=
    List.eq_replicate_of_mem fun d hd => by simpa using List.mem_rtakeWhile_imp hd
  exact ⟨_, by rw [← hrun, hsplit]⟩

theorem dropTrailing_subset (c : Char) (s : List Char) : dropTrailing c s ⊆ s :=
  (List.rdropWhile_prefix _ s).subset

theorem getLast?_dropTrailing (c : Char) (s : List Char) :
    (dropTrailing c s).getLast? ≠ some c := by
  intro h
  obtain ⟨hne, hlast⟩ := List.mem_getLast?_eq_getLast h
  have hkept : ¬decide ((dropTrailing c s).getLast hne = c) = true :=
    List.rdropWhile_last_not (· = c) s hne
  exact hkept (decide_eq_true hlast.symm)

/-- The text of a count of thousandths, with a sign or without. -/
def DecimalText.ofThousandths (negative : Bool) (units : ℕ) : DecimalText where
  negative := negative
  whole := decimalDigits (units / 1000)
  fraction := dropTrailing '0' (lastPlaces units)
  whole_ne_nil := decimalDigits_ne_nil _
  isDigit_whole := fun _ => isDigit_of_mem_decimalDigits
  isDigit_fraction := fun _ hc => isDigit_of_mem_lastPlaces (dropTrailing_subset _ _ hc)

namespace DecimalText

variable {negative : Bool} {units : ℕ}

/-- The digits and the zeros that are left out count the thousandths. -/
theorem units_ofThousandths_mul (negative : Bool) (units : ℕ) :
    ∃ n, (ofThousandths negative units).fraction.length + n = 3
      ∧ (ofThousandths negative units).units * 10 ^ n = units := by
  obtain ⟨n, hn⟩ := exists_dropTrailing '0' (lastPlaces units)
  refine ⟨n, ?_, ?_⟩
  · have hlength := congrArg List.length hn
    rw [length_lastPlaces, List.length_append, List.length_replicate] at hlength
    exact hlength.symm
  · calc (ofThousandths negative units).units * 10 ^ n
        = digitsValue (decimalDigits (units / 1000)
            ++ (dropTrailing '0' (lastPlaces units) ++ List.replicate n '0')) := by
          rw [← List.append_assoc, digitsValue_append, digitsValue_replicate_zero, add_zero,
            List.length_replicate, mul_comm]
          rfl
      _ = units := by
          rw [← hn, digitsValue_append, digitsValue_decimalDigits, digitsValue_lastPlaces,
            length_lastPlaces]
          exact Nat.div_add_mod units 1000

theorem value_ofThousandths (negative : Bool) (units : ℕ) :
    (ofThousandths negative units).value = (if negative then -1 else 1) * (units / 1000) := by
  obtain ⟨n, hlength, hunits⟩ := units_ofThousandths_mul negative units
  have hscale : (1000 : ℚ) = 10 ^ (ofThousandths negative units).fraction.length * 10 ^ n := by
    rw [← pow_add, hlength]
    norm_num
  have hquotient : ((ofThousandths negative units).units : ℚ)
      / 10 ^ (ofThousandths negative units).fraction.length = units / 1000 := by
    have hcast : (units : ℚ) = (ofThousandths negative units).units * 10 ^ n := by
      exact_mod_cast hunits.symm
    rw [hscale, hcast, mul_div_mul_right _ _ (by positivity)]
  unfold value
  rw [hquotient]
  rfl

theorem isMinimal_ofThousandths (h : negative = true → units ≠ 0) :
    (ofThousandths negative units).IsMinimal where
  whole := ⟨_, rfl⟩
  fraction := getLast?_dropTrailing _ _
  sign := fun hneg hzero => by
    obtain ⟨n, -, hunits⟩ := units_ofThousandths_mul negative units
    exact h hneg (by rw [← hunits, hzero, zero_mul])

end DecimalText

end SceneCompiler
