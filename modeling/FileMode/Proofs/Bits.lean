import FileMode.Edit
import FileMode.Mode
import Mathlib.Data.Int.Bitwise
import Mathlib.Tactic.NormNum
import Mathlib.Tactic.Positivity
import Mathlib.Tactic.Ring

namespace FileMode

namespace Edit

lemma getLsbD_apply (e : Edit) (p : Perms) (i : ℕ) (hi : i < 12) :
    (e.apply p).getLsbD i = ((p.getLsbD i && !e.cleared.getLsbD i) || e.granted.getLsbD i) := by
  simp [apply, hi]

lemma applyAll_append (es fs : List Edit) (p : Perms) :
    applyAll (es ++ fs) p = applyAll fs (applyAll es p) := by
  simp [applyAll]

end Edit

namespace Mode

lemma toInt_ofInt (n : ℤ) : (ofInt n).toInt = n := by
  simp only [toInt, ofInt, BitVec.toNat_ofInt]
  omega

lemma ofInt_toInt (m : Mode) : ofInt m.toInt = m := by
  have h := m.perms.isLt
  ext1
  · simp only [toInt, ofInt]
    omega
  · apply BitVec.eq_of_toNat_eq
    simp only [toInt, ofInt, BitVec.toNat_ofInt]
    omega

lemma toInt_injective {a b : Mode} (h : a.toInt = b.toInt) : a = b := by
  rw [← ofInt_toInt a, h, ofInt_toInt]

end Mode

end FileMode

namespace FileMode.Bits

lemma testBit_eq_decide (n : ℤ) (i : ℕ) : n.testBit i = decide (n / 2 ^ i % 2 = 1) := by
  have hpow : (0 : ℤ) < 2 ^ i := by positivity
  cases n with
  | ofNat m =>
    change m.testBit i = decide (((m : ℤ) / 2 ^ i) % 2 = 1)
    rw [Nat.testBit_eq_decide_div_mod_eq]
    norm_cast
  | negSucc m =>
    change (!m.testBit i) = _
    have hdiv : (m : ℤ).ediv (2 ^ i) = ((m / 2 ^ i : ℕ) : ℤ) := by push_cast; rfl
    rw [Nat.testBit_eq_decide_div_mod_eq, Int.negSucc_ediv m hpow, hdiv, ← decide_not]
    congr 1
    apply propext
    omega

lemma testBit_add_self (m n : ℕ) : m.testBit (m + n) = false :=
  Nat.testBit_eq_false_of_lt
    (Nat.lt_two_pow_self.trans_le (Nat.pow_le_pow_right (by omega) (by omega)))

lemma exists_testBit_ne (m n : ℕ) : ∃ i, m.testBit i ≠ !n.testBit i := by
  refine ⟨m + n, ?_⟩
  have hm := testBit_add_self m n
  have hn := testBit_add_self n m
  rw [Nat.add_comm n m] at hn
  simp [hm, hn]

lemma eq_of_testBit_eq {a b : ℤ} (h : ∀ i, a.testBit i = b.testBit i) : a = b := by
  cases a with
  | ofNat m =>
    cases b with
    | ofNat n => exact congrArg Int.ofNat (Nat.eq_of_testBit_eq h)
    | negSucc n =>
      obtain ⟨i, hi⟩ := exists_testBit_ne m n
      exact (hi (h i)).elim
  | negSucc m =>
    cases b with
    | ofNat n =>
      obtain ⟨i, hi⟩ := exists_testBit_ne n m
      exact (hi (h i).symm).elim
    | negSucc n =>
      have hnat : m = n := Nat.eq_of_testBit_eq fun i => Bool.not_inj (h i)
      rw [hnat]

lemma testBit_zero (i : ℕ) : (0 : ℤ).testBit i = false := Nat.zero_testBit i

lemma testBit_neg_one (i : ℕ) : (-1 : ℤ).testBit i = true := by
  change (!(0 : ℕ).testBit i) = true
  simp

lemma testBit_allPerms (i : ℕ) : (0o7777 : ℤ).testBit i = decide (i < 12) :=
  Nat.testBit_two_pow_sub_one 12 i

lemma testBit_allAccess (i : ℕ) : (0o777 : ℤ).testBit i = decide (i < 9) :=
  Nat.testBit_two_pow_sub_one 9 i

def Included (a b : ℤ) : Prop := Int.land a (Int.lnot b) = 0

instance (a b : ℤ) : Decidable (Included a b) :=
  inferInstanceAs (Decidable (Int.land a (Int.lnot b) = 0))

lemma included_iff {a b : ℤ} :
    Included a b ↔ ∀ i, a.testBit i = true → b.testBit i = true := by
  rw [Included]
  refine ⟨?_, ?_⟩
  · intro h i ha
    have hbit := congrArg (Int.testBit · i) h
    simpa [Int.testBit_land, Int.testBit_lnot, testBit_zero, ha] using hbit
  · intro h
    apply eq_of_testBit_eq
    intro i
    rw [Int.testBit_land, Int.testBit_lnot, testBit_zero]
    cases ha : a.testBit i with
    | false => rfl
    | true => simp [h i ha]

lemma testBit_natCast {w : ℕ} (p : BitVec w) (i : ℕ) : (p.toNat : ℤ).testBit i = p.getLsbD i := rfl

lemma testBit_toInt (m : Mode) (i : ℕ) :
    m.toInt.testBit i = if i < 12 then m.perms.getLsbD i else m.high.testBit (i - 12) := by
  obtain ⟨high, perms⟩ := m
  simp only [Mode.toInt]
  split
  · next hi =>
    -- below bit twelve the high number adds a multiple of the next power of two
    obtain ⟨k, hk⟩ : ∃ k, 12 = i + 1 + k := ⟨11 - i, by omega⟩
    have h4096 : (4096 : ℤ) = 2 ^ i * 2 * 2 ^ k := by
      rw [show (4096 : ℤ) = 2 ^ 12 by norm_num, hk]
      ring
    have hsplit : high * 4096 + perms.toNat = perms.toNat + 2 ^ i * (2 * (2 ^ k * high)) := by
      rw [h4096]
      ring
    have hpow : (2 : ℤ) ^ i ≠ 0 := by positivity
    rw [testBit_eq_decide, hsplit, Int.add_mul_ediv_left _ _ hpow, Int.add_mul_emod_self_left,
      ← testBit_eq_decide, testBit_natCast]
  · next hi =>
    obtain ⟨k, rfl⟩ : ∃ k, i = 12 + k := ⟨i - 12, by omega⟩
    have hlt := perms.isLt
    have hdiv : (high * 4096 + perms.toNat) / 2 ^ 12 = high := by omega
    rw [testBit_eq_decide, testBit_eq_decide, pow_add, ← Int.ediv_ediv_of_nonneg (by norm_num),
      hdiv, Nat.add_sub_cancel_left]

lemma getLsbD_perms (m : Mode) {i : ℕ} (hi : i < 12) : m.perms.getLsbD i = m.toInt.testBit i := by
  rw [testBit_toInt, if_pos hi]

lemma mode_eq_of_testBit_eq {m m' : Mode} (h : ∀ i, m.toInt.testBit i = m'.toInt.testBit i) :
    m = m' :=
  Mode.toInt_injective (eq_of_testBit_eq h)

lemma toNat_perms (m : Mode) : (m.perms.toNat : ℤ) = Int.land m.toInt 0o7777 := by
  apply eq_of_testBit_eq
  intro i
  rw [testBit_natCast, Int.testBit_land, testBit_allPerms]
  by_cases hi : i < 12
  · rw [getLsbD_perms m hi]
    simp [hi]
  · simp [hi, BitVec.getLsbD_of_ge m.perms i (by omega)]

lemma toInt_with_perms (m : Mode) (p : Perms) :
    ({ m with perms := p } : Mode).toInt =
      Int.lor (Int.land m.toInt (Int.lnot 0o7777)) p.toNat := by
  apply eq_of_testBit_eq
  intro i
  rw [Int.testBit_lor, Int.testBit_land, Int.testBit_lnot, testBit_allPerms, testBit_natCast,
    testBit_toInt, testBit_toInt]
  by_cases hi : i < 12
  · simp [hi]
  · simp [hi, BitVec.getLsbD_of_ge p i (by omega)]

lemma toInt_shiftRight (m : Mode) : m.toInt >>> (12 : ℕ) = m.high := by
  have hlt := m.perms.isLt
  rw [Int.shiftRight_eq_div_pow, Mode.toInt]
  norm_num
  omega

end FileMode.Bits
