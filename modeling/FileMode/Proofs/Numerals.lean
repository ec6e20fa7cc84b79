import FileMode.Octal
import Mathlib.Algebra.Group.Nat.Defs
import Mathlib.Data.List.Basic
import Mathlib.Data.List.Induction
import Mathlib.Tactic.Lemma

namespace FileMode.Octal

/-- The octal digits of the number, with a zero before them only where it fills the width. -/
structure Written (width : ℕ) (s : String) (n : ℕ) : Prop where
  digits : ∀ c ∈ s.toList, '0' ≤ c ∧ c ≤ '7'
  value_eq : value s.toList = n
  width_le : width ≤ s.length
  head?_ne : width < s.length → s.toList.head? ≠ some '0'

lemma value_eq_ofDigitChars (digits : List Char) : value digits = Nat.ofDigitChars 8 digits 0 := by
  rw [Nat.ofDigitChars_eq_foldl, value]
  simp only [digitValue, Nat.mul_comm]

lemma value_replicate_append (k : ℕ) (digits : List Char) :
    value (List.replicate k '0' ++ digits) = value digits := by
  rw [value_eq_ofDigitChars, value_eq_ofDigitChars, Nat.ofDigitChars_append,
    Nat.ofDigitChars_replicate_zero, Nat.mul_zero]

lemma value_toDigits (n : ℕ) : value (Nat.toDigits 8 n) = n := by
  rw [value_eq_ofDigitChars, Nat.ofDigitChars_toDigits (by decide) (by decide)]

lemma digitChar_bounds {d : ℕ} (hd : d < 8) : '0' ≤ Nat.digitChar d ∧ Nat.digitChar d ≤ '7' := by
  have hall : ∀ d : Fin 8, '0' ≤ Nat.digitChar d ∧ Nat.digitChar d ≤ '7' := by decide
  exact hall ⟨d, hd⟩

lemma bounds_of_mem_toDigits {n : ℕ} {c : Char} (hc : c ∈ Nat.toDigits 8 n) :
    '0' ≤ c ∧ c ≤ '7' := by
  induction n using Nat.strongRecOn with
  | ind n ih =>
    rw [Nat.toDigits_eq_if (by decide)] at hc
    split at hc
    · next hlt =>
      obtain rfl := List.mem_singleton.mp hc
      exact digitChar_bounds hlt
    · next hge =>
      rcases List.mem_append.mp hc with hc | hc
      · exact ih (n / 8) (by omega) hc
      · obtain rfl := List.mem_singleton.mp hc
        exact digitChar_bounds (by omega)

lemma head?_toDigits_ne {n : ℕ} (hn : 0 < n) : (Nat.toDigits 8 n).head? ≠ some '0' := by
  induction n using Nat.strongRecOn with
  | ind n ih =>
    rw [Nat.toDigits_eq_if (by decide)]
    split
    · intro hzero
      have hdigit := Nat.digitChar_eq_zero.mp (Option.some.inj hzero)
      omega
    · rw [List.head?_append_of_ne_nil _ Nat.toDigits_ne_nil]
      exact ih (n / 8) (by omega) (by omega)

lemma length_paddedNumeral (width n : ℕ) :
    (paddedNumeral width n).length = max width (Nat.toDigits 8 n).length := by
  simp only [paddedNumeral, String.length_ofList, List.length_append, List.length_replicate]
  omega

lemma length_paddedNumeral_of_lt {width n : ℕ} (hwidth : 0 < width) (hn : n < 8 ^ width) :
    (paddedNumeral width n).length = width := by
  have hdigits := (Nat.length_toDigits_le_iff (by decide) hwidth).mpr hn
  rw [length_paddedNumeral]
  omega

lemma bounds_of_mem_paddedNumeral {width n : ℕ} {c : Char}
    (hc : c ∈ (paddedNumeral width n).toList) : '0' ≤ c ∧ c ≤ '7' := by
  rw [paddedNumeral, String.toList_ofList] at hc
  rcases List.mem_append.mp hc with hc | hc
  · obtain rfl := List.eq_of_mem_replicate hc
    decide
  · exact bounds_of_mem_toDigits hc

lemma value_paddedNumeral (width n : ℕ) : value (paddedNumeral width n).toList = n := by
  rw [paddedNumeral, String.toList_ofList, value_replicate_append, value_toDigits]

lemma written_paddedNumeral {width : ℕ} (hwidth : 0 < width) (n : ℕ) :
    Written width (paddedNumeral width n) n where
  digits _ := bounds_of_mem_paddedNumeral
  value_eq := value_paddedNumeral width n
  width_le := by
    rw [length_paddedNumeral]
    omega
  head?_ne hlong := by
    rw [length_paddedNumeral] at hlong
    have hzeros : width - (Nat.toDigits 8 n).length = 0 := by omega
    have hn : n ≠ 0 := by
      rintro rfl
      rw [Nat.toDigits_zero, List.length_singleton] at hlong
      omega
    rw [paddedNumeral, String.toList_ofList, hzeros]
    exact head?_toDigits_ne (Nat.pos_of_ne_zero hn)

lemma value_concat (digits : List Char) (c : Char) :
    value (digits ++ [c]) = value digits * 8 + digitValue c := by
  rw [value, List.foldl_append]
  rfl

lemma toNat_eq_digitValue {c : Char} (hc : '0' ≤ c ∧ c ≤ '7') :
    c.toNat = '0'.toNat + digitValue c ∧ digitValue c < 8 := by
  have hlow : '0'.toNat ≤ c.toNat := UInt32.le_iff_toNat_le.mp hc.1
  have hhigh : c.toNat ≤ '7'.toNat := UInt32.le_iff_toNat_le.mp hc.2
  have h0 : '0'.toNat = 48 := rfl
  have h7 : '7'.toNat = 55 := rfl
  rw [digitValue]
  omega

lemma value_lt {digits : List Char} (h : ∀ c ∈ digits, '0' ≤ c ∧ c ≤ '7') :
    value digits < 8 ^ digits.length := by
  induction digits using List.reverseRecOn with
  | nil => decide
  | append_singleton digits c ih =>
    have hfront := ih fun d hd => h d (List.mem_append_left [c] hd)
    have hlast := (toNat_eq_digitValue (h c (by simp))).2
    rw [value_concat, List.length_append, List.length_singleton, Nat.pow_succ]
    omega

lemma eq_of_value_eq {cs ds : List Char} (hcs : ∀ c ∈ cs, '0' ≤ c ∧ c ≤ '7')
    (hds : ∀ d ∈ ds, '0' ≤ d ∧ d ≤ '7') (hlength : cs.length = ds.length)
    (hvalue : value cs = value ds) : cs = ds := by
  induction cs using List.reverseRecOn generalizing ds with
  | nil => exact (List.length_eq_zero_iff.mp hlength.symm).symm
  | append_singleton cs c ih =>
    obtain rfl | ⟨ds, d, rfl⟩ := List.eq_nil_or_concat' ds
    · simp at hlength
    obtain ⟨hc, hclt⟩ := toNat_eq_digitValue (hcs c (by simp))
    obtain ⟨hd, hdlt⟩ := toNat_eq_digitValue (hds d (by simp))
    rw [value_concat, value_concat] at hvalue
    have hlast : c = d := Char.toNat_inj.mp (by omega)
    have hfront : cs = ds := by
      refine ih (fun x hx => hcs x (List.mem_append_left [c] hx))
        (fun x hx => hds x (List.mem_append_left [d] hx)) (by simpa using hlength) (by omega)
    rw [hlast, hfront]

lemma eq_paddedNumeral {s : String} (hne : s ≠ "") (h : ∀ c ∈ s.toList, '0' ≤ c ∧ c ≤ '7') :
    s = paddedNumeral s.length (value s.toList) := by
  have hpos : 0 < s.length := by
    rw [Nat.pos_iff_ne_zero, Ne, String.length_eq_zero_iff]
    exact hne
  have hlength := length_paddedNumeral_of_lt hpos (value_lt h)
  apply String.toList_inj.mp
  refine eq_of_value_eq h (fun _ => bounds_of_mem_paddedNumeral) ?_ (value_paddedNumeral _ _).symm
  rw [String.length_toList, String.length_toList, hlength]

lemma numeral_eq_paddedNumeral (n : ℕ) : numeral n = paddedNumeral 1 n := by
  have hpos := Nat.length_toDigits_pos (b := 8) (n := n)
  have hzeros : 1 - (Nat.toDigits 8 n).length = 0 := by omega
  rw [numeral, paddedNumeral, hzeros]
  rfl

lemma written_numeral (n : ℕ) : Written 1 (numeral n) n := by
  rw [numeral_eq_paddedNumeral]
  exact written_paddedNumeral (by decide) n

end FileMode.Octal
