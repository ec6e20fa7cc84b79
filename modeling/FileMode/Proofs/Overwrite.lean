import FileMode.Spec.Basic
import FileMode.Proofs.Bits

namespace FileMode

/-- The change `(n & ~mask) | value`, with no value outside the mask. -/
structure Overwrite where
  mask : ℤ
  value : ℤ
  value_within : Bits.Included value mask

namespace Overwrite

open Bits

def apply (w : Overwrite) (n : ℤ) : ℤ := Int.lor (Int.land n (Int.lnot w.mask)) w.value

lemma testBit_value (w : Overwrite) {i : ℕ} (h : w.mask.testBit i = false) :
    w.value.testBit i = false := by
  by_contra hv
  have hm := included_iff.mp w.value_within i (by simpa using hv)
  simp [h] at hm

lemma testBit_apply (w : Overwrite) (n : ℤ) (i : ℕ) :
    (w.apply n).testBit i = if w.mask.testBit i then w.value.testBit i else n.testBit i := by
  rw [apply, Int.testBit_lor, Int.testBit_land, Int.testBit_lnot]
  cases hm : w.mask.testBit i with
  | true => simp
  | false => simp [w.testBit_value hm]

def keep : Overwrite where
  mask := 0
  value := 0
  value_within := included_iff.mpr fun _ h => h

lemma apply_keep (n : ℤ) : keep.apply n = n := by
  apply eq_of_testBit_eq
  intro i
  simp [testBit_apply, keep, testBit_zero]

def replace (n : ℤ) : Overwrite where
  mask := -1
  value := n
  value_within := included_iff.mpr fun i _ => testBit_neg_one i

lemma apply_replace (k n : ℤ) : (replace k).apply n = k := by
  apply eq_of_testBit_eq
  intro i
  simp [testBit_apply, replace, testBit_neg_one]

def andThen (v w : Overwrite) : Overwrite where
  mask := Int.lor v.mask w.mask
  value := Int.lor (Int.land v.value (Int.lnot w.mask)) w.value
  value_within := by
    apply included_iff.mpr
    intro i
    have hv := included_iff.mp v.value_within i
    have hw := included_iff.mp w.value_within i
    simp only [Int.testBit_lor, Int.testBit_land, Int.testBit_lnot, Bool.or_eq_true,
      Bool.and_eq_true]
    rintro (⟨h, _⟩ | h)
    · exact Or.inl (hv h)
    · exact Or.inr (hw h)

lemma apply_andThen (v w : Overwrite) (n : ℤ) : (v.andThen w).apply n = w.apply (v.apply n) := by
  apply eq_of_testBit_eq
  intro i
  simp only [testBit_apply, andThen, Int.testBit_lor, Int.testBit_land, Int.testBit_lnot]
  cases hw : w.mask.testBit i with
  | true => simp
  | false => simp [w.testBit_value hw]

lemma apply_apply (w : Overwrite) (n : ℤ) : w.apply (w.apply n) = w.apply n := by
  apply eq_of_testBit_eq
  intro i
  rw [testBit_apply, testBit_apply]
  split <;> rfl

lemma apply_mono (w : Overwrite) {a b : ℤ} (h : Included a b) :
    Included (w.apply a) (w.apply b) := by
  apply included_iff.mpr
  intro i
  rw [testBit_apply, testBit_apply]
  split
  · exact id
  · exact included_iff.mp h i

lemma mask_andThen_included {v w : Overwrite} {bits : ℤ} (hv : Included v.mask bits)
    (hw : Included w.mask bits) : Included (v.andThen w).mask bits := by
  apply included_iff.mpr
  intro i hi
  simp only [andThen, Int.testBit_lor, Bool.or_eq_true] at hi
  rcases hi with hi | hi
  · exact included_iff.mp hv i hi
  · exact included_iff.mp hw i hi

def ofEdit (e : Edit) : Overwrite where
  mask := (e.cleared ||| e.granted).toNat
  value := e.granted.toNat
  value_within := by
    apply included_iff.mpr
    intro i hi
    rw [testBit_natCast] at hi ⊢
    simp [hi]

lemma mask_ofEdit_included (e : Edit) : Included (ofEdit e).mask 0o7777 := by
  apply included_iff.mpr
  intro i hi
  rw [ofEdit, testBit_natCast] at hi
  rw [testBit_allPerms]
  exact decide_eq_true (BitVec.lt_of_getLsbD hi)

lemma toInt_edit (e : Edit) (high : ℤ) (p : Perms) :
    (⟨high, e.apply p⟩ : Mode).toInt = (ofEdit e).apply (⟨high, p⟩ : Mode).toInt := by
  apply eq_of_testBit_eq
  intro i
  rw [testBit_apply, testBit_toInt, testBit_toInt, ofEdit, testBit_natCast, testBit_natCast]
  by_cases hi : i < 12
  · simp only [hi, if_true, Edit.getLsbD_apply e p i hi, BitVec.getLsbD_or]
    cases e.cleared.getLsbD i <;> cases e.granted.getLsbD i <;> simp
  · have hge : ∀ q : Perms, q.getLsbD i = false := fun q => BitVec.getLsbD_of_ge q i (by omega)
    simp [hi, hge]

def ofEdits (es : List Edit) : Overwrite := es.foldl (fun w e => w.andThen (ofEdit e)) keep

lemma ofEdits_append_singleton (es : List Edit) (e : Edit) :
    ofEdits (es ++ [e]) = (ofEdits es).andThen (ofEdit e) := by
  simp [ofEdits]

lemma mask_ofEdits_included (es : List Edit) : Included (ofEdits es).mask 0o7777 := by
  induction es using List.reverseRecOn with
  | nil => exact included_iff.mpr fun i hi => by simp [ofEdits, keep, testBit_zero] at hi
  | append_singleton es e ih =>
    rw [ofEdits_append_singleton]
    exact mask_andThen_included ih (mask_ofEdit_included e)

lemma toInt_edits (es : List Edit) (high : ℤ) (p : Perms) :
    (⟨high, Edit.applyAll es p⟩ : Mode).toInt = (ofEdits es).apply (⟨high, p⟩ : Mode).toInt := by
  induction es using List.reverseRecOn with
  | nil => exact (apply_keep _).symm
  | append_singleton es e ih =>
    rw [Edit.applyAll_append, ofEdits_append_singleton, apply_andThen, ← ih, ← toInt_edit]
    rfl

end Overwrite

def Spec.overwrite : Spec → Overwrite
  | positional marks => .ofEdits marks.edits
  | octal n => .replace n
  | symbolic clauses => .ofEdits (clauses.map Clause.edit)

lemma Spec.toInt_apply (spec : Spec) (m : Mode) :
    (spec.apply m).toInt = spec.overwrite.apply m.toInt := by
  cases spec with
  | positional marks => exact Overwrite.toInt_edits marks.edits m.high m.perms
  | octal n =>
    simp only [Spec.apply, Spec.overwrite, Mode.toInt_ofInt, Overwrite.apply_replace]
  | symbolic clauses => exact Overwrite.toInt_edits (clauses.map Clause.edit) m.high m.perms

lemma Spec.apply_ofInt (spec : Spec) (n : ℤ) :
    spec.apply (Mode.ofInt n) = Mode.ofInt (spec.overwrite.apply n) := by
  apply Mode.toInt_injective
  rw [Spec.toInt_apply, Mode.toInt_ofInt, Mode.toInt_ofInt]

lemma Spec.apply_apply (spec : Spec) (m : Mode) : spec.apply (spec.apply m) = spec.apply m := by
  apply Mode.toInt_injective
  rw [toInt_apply, toInt_apply, Overwrite.apply_apply]

lemma Spec.mask_overwrite_included {spec : Spec} (h : ∀ n, spec ≠ octal n) :
    Bits.Included spec.overwrite.mask 0o7777 := by
  cases spec with
  | positional marks => exact Overwrite.mask_ofEdits_included _
  | octal n => exact (h n rfl).elim
  | symbolic clauses => exact Overwrite.mask_ofEdits_included _

end FileMode
