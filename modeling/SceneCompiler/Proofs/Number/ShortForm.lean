import Mathlib
import SceneCompiler.Proofs.Number.DecimalText
import SceneCompiler.Proofs.Number.Value
/-!
# The short form of a number

The short form is to be the shortest decimal text with at most three places that is within half a
thousandth of the number, and zero is to be written in one way. The digits come from the nearest
count of thousandths on both ways of writing, as an integer and with places, so they are always
right; the sign comes from the number, and so a number just below zero is written as a zero with a
sign.

* `exists_formatNumber_eq`: the text by the sign of the number and its count of thousandths.
* `formatNumber_isShortForm_iff`: all are written in the short form but those of `VanishesBelow`.
-/

namespace SceneCompiler

variable {c : Char} {s t : List Char} {v : ℚ}

/-! ## Definitions -/

/-- The text is a short decimal for a number: at most three places, none of them a zero at the end,
within half a thousandth of the number, zero written as `0`, and no text of what it denotes is
shorter. -/
structure DecimalText.ShortFor (d : DecimalText) (v : ℚ) : Prop where
  places : d.fraction.length ≤ 3
  fraction : d.fraction.getLast? ≠ some '0'
  near : |d.value - v| ≤ 1 / 2000
  zero : d.value = 0 → d.text = ['0']
  shortest : ∀ d' : DecimalText, d'.value = d.value → d.text.length ≤ d'.text.length

/-- Some characters are the short form of a number. -/
def IsShortForm (v : ℚ) (s : List Char) : Prop :=
  ∃ d : DecimalText, d.text = s ∧ d.ShortFor v

/-- A number below zero without any thousandth. -/
def VanishesBelow (v : ℚ) : Prop :=
  -1 / 2000 ≤ v ∧ v < 0

/-! ## Dropping characters at the end -/

/-- Another character holds what is in front of it. -/
theorem dropTrailing_append_cons {d : Char} (hd : d ≠ c) (s t : List Char) :
    dropTrailing c (s ++ d :: t) = s ++ d :: dropTrailing c t := by
  have hkept : (d :: s.reverse).dropWhile (fun x => decide (x = c)) = d :: s.reverse :=
    List.dropWhile_cons_of_neg (by simpa using hd)
  unfold dropTrailing
  rw [List.reverse_append, List.reverse_cons, List.append_assoc, List.singleton_append,
    List.dropWhile_append, hkept]
  split
  case isTrue hnil => simp [List.isEmpty_iff.mp hnil]
  case isFalse => simp

theorem dropTrailing_concat (c : Char) (s : List Char) :
    dropTrailing c (s ++ [c]) = dropTrailing c s :=
  List.rdropWhile_concat_pos _ _ _ (decide_eq_true rfl)

theorem dropTrailing_eq_self (h : s.getLast? ≠ some c) : dropTrailing c s = s := by
  refine List.rdropWhile_eq_self_iff.mpr fun hne hlast => h ?_
  rw [List.getLast?_eq_some_getLast hne, of_decide_eq_true hlast]

/-- The last digit is no point. -/
theorem getLast?_ne_point (hs : ∀ d ∈ s, d.isDigit = true) : s.getLast? ≠ some '.' :=
  fun h => absurd (hs _ (List.mem_of_getLast? h)) (by decide)

/-! ## The two ways of writing -/

/-- The number with three places, by its thousandths. -/
theorem fixed_three (e : Exact) :
    e.fixed 3 = (if e.negative then ['-'] else [])
      ++ (decimalDigits (roundHalfEven (e.quotient.1 * 1000) e.quotient.2 / 1000)
        ++ '.' :: lastPlaces (roundHalfEven (e.quotient.1 * 1000) e.quotient.2)) :=
  rfl

/-- The text of some thousandths with the places that are left after the zeros. -/
theorem text_ofThousandths (negative : Bool) (units : ℕ) :
    (DecimalText.ofThousandths negative units).text
      = (if negative then ['-'] else []) ++ (decimalDigits (units / 1000)
        ++ if dropTrailing '0' (lastPlaces units) = [] then []
          else '.' :: dropTrailing '0' (lastPlaces units)) :=
  rfl

/-- Dropping zeros and then the point leaves the text of the thousandths. -/
theorem trim_eq_text (negative : Bool) (units : ℕ) :
    dropTrailing '.' (dropTrailing '0' ((if negative then ['-'] else [])
        ++ (decimalDigits (units / 1000) ++ '.' :: lastPlaces units)))
      = (DecimalText.ofThousandths negative units).text := by
  have hdigits : (decimalDigits (units / 1000)).getLast? ≠ some '.' :=
    getLast?_ne_point fun _ => isDigit_of_mem_decimalDigits
  have hplaces : (dropTrailing '0' (lastPlaces units)).getLast? ≠ some '.' :=
    getLast?_ne_point fun _ hd => isDigit_of_mem_lastPlaces (dropTrailing_subset _ _ hd)
  rw [text_ofThousandths, ← List.append_assoc, ← List.append_assoc,
    dropTrailing_append_cons (by decide)]
  by_cases hnil : dropTrailing '0' (lastPlaces units) = []
  · -- All places are zero, and the point goes too.
    rw [if_pos hnil, hnil, List.append_nil, dropTrailing_concat]
    refine dropTrailing_eq_self ?_
    rwa [List.getLast?_append_of_ne_nil _ (decimalDigits_ne_nil _)]
  · rw [if_neg hnil]
    refine dropTrailing_eq_self ?_
    rwa [List.getLast?_append_of_ne_nil _ (List.cons_ne_nil _ _), List.getLast?_cons_of_ne_nil hnil]

/-- An integer is the text of its thousandths. -/
theorem integerText_eq_text (n : ℤ) :
    (integerText n).toList = (DecimalText.ofThousandths (n < 0) (n.natAbs * 1000)).text := by
  have hplaces : dropTrailing '0' (lastPlaces (n.natAbs * 1000)) = [] := by
    rw [lastPlaces, Nat.mul_mod_left]
    decide
  rw [text_ofThousandths, if_pos hplaces, List.append_nil, Nat.mul_div_cancel _ (by decide)]
  simp [integerText]

/-- The value by the quotient of its magnitude. -/
theorem value_eq_quotient (e : Exact) :
    e.value = (if e.negative then -1 else 1) * ((e.quotient.1 : ℚ) / e.quotient.2) := by
  rw [(quotient_spec e).2]
  rfl

theorem abs_value_eq_quotient (e : Exact) : |e.value| = (e.quotient.1 : ℚ) / e.quotient.2 := by
  rw [value_eq_quotient, abs_signed _ (by positivity)]

/-- The integer part of a whole number is the number. -/
theorem value_of_isWhole {e : Exact} (h : e.isWhole = true) : e.value = e.truncated := by
  have hdvd : e.quotient.2 ∣ e.quotient.1 := Nat.dvd_of_mod_eq_zero (of_decide_eq_true h)
  have hden : (e.quotient.2 : ℚ) ≠ 0 := by exact_mod_cast (quotient_spec e).1.ne'
  rw [value_eq_quotient, ← Nat.cast_div hdvd hden]
  unfold Exact.truncated
  by_cases hneg : e.negative = true
  · rw [if_pos hneg, if_pos hneg, Int.cast_neg, Int.cast_natCast, neg_one_mul]
  · rw [if_neg hneg, if_neg hneg, Int.cast_natCast, one_mul]

/-- A number that is not written as an integer is not zero, and its sign is that of its bits. -/
theorem negative_iff_of_not_integer {e : Exact}
    (h : ¬(e.isWhole = true ∧ e.truncated.natAbs < 1000000000)) :
    e.negative = true ↔ e.value < 0 := by
  have hnum : e.quotient.1 ≠ 0 := by
    rintro hzero
    refine h ⟨by simp [Exact.isWhole, hzero], ?_⟩
    simp [Exact.truncated, hzero]
  have hpos : (0 : ℚ) < (e.quotient.1 : ℚ) / e.quotient.2 := by
    have := (quotient_spec e).1
    positivity
  rw [value_eq_quotient]
  by_cases hneg : e.negative = true
  · simp [hneg, hpos]
  · simp [hneg, hpos.le]

/-- The text of a finite number is that of its sign and the nearest count of thousandths. -/
theorem exists_formatNumber_eq {x : Float32} (hx : x.isFinite = true) :
    ∃ units : ℕ, IsNearest units |1000 * singleValue x|
      ∧ (formatNumber x).toList = (DecimalText.ofThousandths (singleValue x < 0) units).text := by
  obtain ⟨e, he, hvalue⟩ := exists_exact hx
  rw [← hvalue]
  by_cases hinteger : e.isWhole = true ∧ e.truncated.natAbs < 1000000000
  · -- Written as an integer, a whole count of thousands of thousandths.
    have hwhole := value_of_isWhole hinteger.1
    refine ⟨e.truncated.natAbs * 1000, ?_, ?_⟩
    · have habs : |1000 * e.value| = ((e.truncated.natAbs * 1000 : ℕ) : ℤ) := by
        rw [hwhole, abs_mul]
        push_cast
        rw [mul_comm]
        norm_num
      rw [habs]
      exact isNearest_self _
    · have hsign : decide (e.value < 0) = decide (e.truncated < 0) := by
        rw [hwhole]
        norm_cast
      rw [hsign, ← integerText_eq_text]
      simp only [formatNumber, he, if_pos hinteger]
  · have hsign : e.negative = decide (e.value < 0) := by
      rw [Bool.eq_iff_iff, decide_eq_true_iff]
      exact negative_iff_of_not_integer hinteger
    have habs : |1000 * e.value| = ((e.quotient.1 * 1000 : ℕ) : ℚ) / e.quotient.2 := by
      rw [abs_mul, abs_value_eq_quotient, abs_of_pos (by norm_num), Nat.cast_mul, mul_comm,
        mul_div_right_comm, Nat.cast_ofNat]
    refine ⟨roundHalfEven (e.quotient.1 * 1000) e.quotient.2, ?_, ?_⟩
    · rw [habs]
      exact isNearest_roundHalfEven _ (quotient_spec e).1
    · rw [← hsign, ← trim_eq_text, ← fixed_three]
      simp only [formatNumber, he, if_neg hinteger, fixedSingle, String.toList_ofList]

/-! ## The short form -/

theorem vanishesBelow_iff {units : ℕ} (h : IsNearest units |1000 * v|) :
    VanishesBelow v ↔ v < 0 ∧ units = 0 := by
  constructor
  · rintro ⟨hle, hneg⟩
    have habs : |1000 * v| = -(1000 * v) := abs_of_neg (by linarith)
    have hzero : IsNearest 0 |1000 * v| := by
      refine ⟨?_, fun _ => Even.zero⟩
      rw [Int.cast_zero, sub_zero, abs_abs, habs]
      linarith
    exact ⟨hneg, by exact_mod_cast h.unique hzero⟩
  · rintro ⟨hneg, rfl⟩
    have hnear := h.near
    rw [Nat.cast_zero, Int.cast_zero, sub_zero, abs_abs, abs_of_neg (by linarith)] at hnear
    exact ⟨by linarith, hneg⟩

/-- The nearest thousandths are within half a thousandth. -/
theorem abs_value_ofThousandths_sub {units : ℕ} (h : IsNearest units |1000 * v|) :
    |(DecimalText.ofThousandths (v < 0) units).value - v| ≤ 1 / 2000 := by
  have hnear := abs_le.mp h.near
  push_cast at hnear
  rw [DecimalText.value_ofThousandths, abs_le]
  by_cases hneg : v < 0
  · rw [abs_of_neg (by linarith)] at hnear
    simp only [hneg, decide_true, if_true]
    constructor <;> linarith
  · rw [abs_of_nonneg (by linarith)] at hnear
    simp only [hneg, decide_false, Bool.false_eq_true, if_false]
    constructor <;> linarith

/-- The text of the nearest thousandths is the short form, but for a sign at zero. -/
theorem shortFor_ofThousandths {units : ℕ} (h : IsNearest units |1000 * v|)
    (hv : ¬VanishesBelow v) : (DecimalText.ofThousandths (v < 0) units).ShortFor v := by
  have hsign : units = 0 → ¬v < 0 := fun hzero hneg => hv ((vanishesBelow_iff h).mpr ⟨hneg, hzero⟩)
  refine ⟨?_, getLast?_dropTrailing _ _, abs_value_ofThousandths_sub h, fun hvalue => ?_, ?_⟩
  · obtain ⟨n, hn, -⟩ := DecimalText.units_ofThousandths_mul (v < 0) units
    omega
  · have hzero : units = 0 := by
      have habs := congrArg abs hvalue
      rw [DecimalText.value_ofThousandths, abs_signed _ (by positivity), abs_zero] at habs
      simpa using habs
    rw [decide_eq_false (hsign hzero), hzero]
    decide
  · intro d' hd'
    refine DecimalText.length_le_of_minimal (DecimalText.isMinimal_ofThousandths ?_) hd'
    exact fun hneg hzero => hsign hzero (of_decide_eq_true hneg)

/-- A zero with a sign is no short form. -/
theorem not_isShortForm_negativeZero (v : ℚ) : ¬IsShortForm v ['-', '0'] := by
  rintro ⟨d, htext, hshort⟩
  have hvalue : d.value = 0 := by
    obtain ⟨c, w, hwhole⟩ := List.exists_cons_of_ne_nil d.whole_ne_nil
    have hdigit : c.isDigit = true := d.isDigit_whole c (hwhole ▸ List.mem_cons_self)
    rw [DecimalText.text, hwhole] at htext
    by_cases hneg : d.negative = true
    · -- One digit is left for the digits and the fraction.
      rw [if_pos hneg] at htext
      obtain ⟨rfl, rfl, hfraction⟩ : c = '0' ∧ w = []
          ∧ (if d.fraction = [] then [] else '.' :: d.fraction) = [] := by simpa using htext
      have hnil : d.fraction = [] := by
        by_contra hne
        rw [if_neg hne] at hfraction
        exact List.cons_ne_nil _ _ hfraction
      have hunits : d.units = 0 := by
        rw [DecimalText.units, hwhole, hnil]
        rfl
      rw [DecimalText.value, hunits, Nat.cast_zero, zero_div, mul_zero]
    · -- No digit is a minus sign.
      rw [if_neg hneg] at htext
      obtain ⟨rfl, -⟩ := List.cons_eq_cons.mp htext
      exact absurd hdigit (by decide)
  exact absurd (htext.symm.trans (hshort.zero hvalue)) (by decide)

/-- With the same thousandths, only the sign tells two texts apart. -/
theorem text_ofThousandths_inj {a b : Bool} {units : ℕ} :
    (DecimalText.ofThousandths a units).text = (DecimalText.ofThousandths b units).text
      ↔ a = b := by
  rw [text_ofThousandths, text_ofThousandths, List.append_left_inj]
  cases a <;> cases b <;> decide

/-- The short form is written for every finite number but those just below zero, which are written
as a zero with a sign; so of the numbers with the same count of thousandths the texts are the same,
but for the sign of these. -/
theorem formatNumber_isShortForm_iff {x : Float32} (hx : x.isFinite = true) :
    (IsShortForm (singleValue x) (formatNumber x).toList ↔ ¬VanishesBelow (singleValue x))
      ∧ (VanishesBelow (singleValue x) → formatNumber x = "-0")
      ∧ ∀ y : Float32, y.isFinite = true → ∀ k : ℤ,
          IsNearest k (1000 * singleValue x) → IsNearest k (1000 * singleValue y) →
          (formatNumber x = formatNumber y
            ↔ (VanishesBelow (singleValue x) ↔ VanishesBelow (singleValue y))) := by
  obtain ⟨units, hunits, htext⟩ := exists_formatNumber_eq hx
  have hvanishes : VanishesBelow (singleValue x) → (formatNumber x).toList = ['-', '0'] := by
    intro h
    obtain ⟨hneg, rfl⟩ := (vanishesBelow_iff hunits).mp h
    rw [htext, decide_eq_true hneg]
    decide
  refine ⟨⟨fun hshort h => ?_, fun h => ⟨_, htext.symm, shortFor_ofThousandths hunits h⟩⟩,
    fun h => String.toList_inj.mp (hvanishes h), fun y hy k hkx hky => ?_⟩
  · exact not_isShortForm_negativeZero _ (hvanishes h ▸ hshort)
  · obtain ⟨units', hunits', htext'⟩ := exists_formatNumber_eq hy
    have hk : units = k.natAbs := by exact_mod_cast hunits.unique hkx.natAbs
    have hk' : units' = k.natAbs := by exact_mod_cast hunits'.unique hky.natAbs
    subst hk hk'
    rw [← String.toList_inj, htext, htext', text_ofThousandths_inj, decide_eq_decide,
      vanishesBelow_iff hunits, vanishesBelow_iff hunits']
    by_cases hzero : k = 0
    · simp [hzero]
    · have hscale (v : ℚ) : 1000 * v < 0 ↔ v < 0 := by
        rw [mul_neg_iff]
        norm_num
      have hsigns : singleValue x < 0 ↔ singleValue y < 0 := by
        rw [← hscale, ← hscale (singleValue y), hkx.neg_iff hzero, hky.neg_iff hzero]
      simp [hsigns]

/-- A number that rounds up to an integer. -/
theorem formatNumber_isShortForm_of_roundedUp :
    IsShortForm (singleValue 99.9999) "100".toList
      ∧ (formatNumber 99.9999 = formatNumber 100
        ↔ (VanishesBelow (singleValue 99.9999) ↔ VanishesBelow (singleValue 100))) := by
  have htext : formatNumber 99.9999 = "100" := by decide +kernel
  have hpos : ¬VanishesBelow (singleValue 99.9999) := fun h => absurd h.2 (by decide +kernel)
  have hshort := formatNumber_isShortForm_iff (x := 99.9999) (by decide +kernel)
  refine ⟨htext ▸ hshort.1.mpr hpos, hshort.2.2 100 (by decide +kernel) 100000 ?_ ?_⟩
  · exact ⟨by decide +kernel, fun _ => by decide⟩
  · exact ⟨by decide +kernel, fun _ => by decide⟩

/-- Two numbers that round to zero have two texts. -/
theorem formatNumber_writes_negativeZero :
    IsNearest 0 (1000 * singleValue (-0.0004)) ∧ IsNearest 0 (1000 * singleValue 0.0004)
      ∧ formatNumber (-0.0004) = "-0" ∧ formatNumber 0.0004 = "0"
      ∧ ¬IsShortForm (singleValue (-0.0004)) (formatNumber (-0.0004)).toList := by
  have htext : formatNumber (-0.0004) = "-0" := by decide +kernel
  refine ⟨⟨by decide +kernel, fun _ => Even.zero⟩, ⟨by decide +kernel, fun _ => Even.zero⟩, htext,
    by decide +kernel, ?_⟩
  rw [htext]
  exact not_isShortForm_negativeZero _

end SceneCompiler
