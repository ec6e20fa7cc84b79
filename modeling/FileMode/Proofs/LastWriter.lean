import FileMode.Change
import FileMode.Proofs.Bits
import FileMode.Proofs.Form
import FileMode.Proofs.Layout

/-! What a text of clauses makes of each bit of a mode: the last clause that writes the bit decides
it, and a bit that none of them writes stays as it is. -/

namespace FileMode

lemma getLsbD_unionMask (masks : List Perms) (i : ℕ) :
    (unionMask masks).getLsbD i = masks.any (·.getLsbD i) := by
  induction masks using List.reverseRecOn with
  | nil => simp [unionMask]
  | append_singleton masks mask ih =>
    have hsnoc : unionMask (masks ++ [mask]) = unionMask masks ||| mask := by simp [unionMask]
    rw [hsnoc, BitVec.getLsbD_or, ih, List.any_append]
    simp

namespace Clause

def affects (c : Clause) (i : ℕ) : Bool :=
  if c.who.isEmpty then (0o7777 : Perms).getLsbD i else c.who.any fun s => s.mask.getLsbD i

def permits (c : Clause) (i : ℕ) : Bool := c.permissions.any fun p => p.mask.getLsbD i

def write? (c : Clause) (i : ℕ) : Option Bool :=
  match c.operator with
  | .add => if c.affects i && c.permits i then some true else none
  | .remove => if c.affects i && c.permits i then some false else none
  | .assign => if c.affects i then some (c.permits i) else none

def lastWrite? (cs : List Clause) (i : ℕ) : Option Bool := cs.reverse.findSome? fun c => c.write? i

lemma getLsbD_affected (c : Clause) (i : ℕ) : c.affected.getLsbD i = c.affects i := by
  rw [affected, affects]
  split
  · rfl
  · rw [getLsbD_unionMask, List.any_map]
    rfl

lemma getLsbD_reach (c : Clause) (i : ℕ) : c.reach.getLsbD i = c.permits i := by
  rw [reach, permits, getLsbD_unionMask, List.any_map]
  rfl

lemma getLsbD_edit_apply (c : Clause) (p : Perms) {i : ℕ} (hi : i < 12) :
    (c.edit.apply p).getLsbD i = (c.write? i).getD (p.getLsbD i) := by
  rw [Edit.getLsbD_apply _ _ _ hi, edit, write?]
  cases c.operator <;>
    simp only [Edit.grant, Edit.clear, BitVec.getLsbD_and, getLsbD_affected, getLsbD_reach] <;>
    cases c.affects i <;> cases c.permits i <;> simp

lemma write?_of_not_affects {c : Clause} {i : ℕ} (h : c.affects i = false) : c.write? i = none := by
  rw [write?, h]
  cases c.operator <;> rfl

lemma write?_of_le (c : Clause) {i : ℕ} (hi : 12 ≤ i) : c.write? i = none := by
  apply write?_of_not_affects
  rw [← getLsbD_affected]
  exact BitVec.getLsbD_of_ge _ i hi

lemma lastWrite?_append (cs ds : List Clause) (i : ℕ) :
    lastWrite? (cs ++ ds) i = (lastWrite? ds i).or (lastWrite? cs i) := by
  rw [lastWrite?, List.reverse_append, List.findSome?_append]
  rfl

lemma lastWrite?_singleton (c : Clause) (i : ℕ) : lastWrite? [c] i = c.write? i := by
  simp [lastWrite?]

lemma lastWrite?_append_singleton (cs : List Clause) (c : Clause) (i : ℕ) :
    lastWrite? (cs ++ [c]) i = (c.write? i).or (lastWrite? cs i) := by
  rw [lastWrite?_append, lastWrite?_singleton]

lemma lastWrite?_pair (c d : Clause) (i : ℕ) :
    lastWrite? [c, d] i = (d.write? i).or (c.write? i) := by
  rw [← List.singleton_append, lastWrite?_append_singleton, lastWrite?_singleton]

lemma lastWrite?_of_le (cs : List Clause) {i : ℕ} (hi : 12 ≤ i) : lastWrite? cs i = none := by
  apply List.findSome?_eq_none_iff.mpr
  intro c _
  exact c.write?_of_le hi

lemma getLsbD_edits_apply (cs : List Clause) (p : Perms) {i : ℕ} (hi : i < 12) :
    (Edit.applyAll (cs.map edit) p).getLsbD i = (lastWrite? cs i).getD (p.getLsbD i) := by
  induction cs using List.reverseRecOn with
  | nil => rfl
  | append_singleton cs c ih =>
    have hlast : Edit.applyAll ((cs ++ [c]).map edit) p =
        c.edit.apply (Edit.applyAll (cs.map edit) p) := by
      rw [List.map_append, Edit.applyAll_append]
      rfl
    rw [hlast, getLsbD_edit_apply c _ hi, ih, lastWrite?_append_singleton]
    cases c.write? i <;> rfl

lemma testBit_apply (cs : List Clause) (m : Mode) (i : ℕ) :
    ((Spec.symbolic cs).apply m).toInt.testBit i = (lastWrite? cs i).getD (m.toInt.testBit i) := by
  rw [Bits.testBit_toInt, Bits.testBit_toInt]
  split
  · next hi => exact getLsbD_edits_apply cs m.perms hi
  · next hi =>
    rw [lastWrite?_of_le cs (by omega)]
    rfl

end Clause

lemma Mode.change_joined {o : Options} {s : String} {m m' : Mode}
    (hform : Spec.form s.toList = .symbolic) (h : m.change o s = .ok m') :
    (∃ ts, Layout.joined ts = s.toList) ∧ ∀ ts, Layout.joined ts = s.toList →
      m' = (Spec.symbolic (ts.map Layout.clause)).apply m := by
  obtain ⟨clauses, hparse, hall⟩ := exists_parseAll_of_change hform h
  obtain rfl := Except.ok.inj ((hall o m).symm.trans h)
  obtain ⟨ts, _, hjoined, _⟩ := Layout.exists_joined hparse
  refine ⟨⟨ts, hjoined⟩, ?_⟩
  intro us hus
  rw [← hus] at hparse
  rw [Layout.map_clause_of_joined hparse]

theorem testBit_change_clauses (current : ℤ) (o : Options) (s : String) (m : Mode)
    (hform : Spec.form s.toList = .symbolic) (h : (Mode.ofInt current).change o s = .ok m) :
    (∃ ts, Layout.joined ts = s.toList) ∧ ∀ ts, Layout.joined ts = s.toList → ∀ i,
      m.toInt.testBit i =
        (Clause.lastWrite? (ts.map Layout.clause) i).getD (current.testBit i) := by
  obtain ⟨hexists, hall⟩ := Mode.change_joined hform h
  refine ⟨hexists, ?_⟩
  intro ts hts i
  rw [hall ts hts, Clause.testBit_apply, Mode.toInt_ofInt]

theorem testBit_change_clauses_negative :
    Spec.form "g=rwxs, -w,uo+ r".toList = .symbolic ∧
      (Mode.ofInt (-4096)).change {} "g=rwxs, -w,uo+ r" = .ok (Mode.ofInt (-2772)) ∧
      ((∃ ts, Layout.joined ts = "g=rwxs, -w,uo+ r".toList) ∧
        ∀ ts, Layout.joined ts = "g=rwxs, -w,uo+ r".toList → ∀ i,
          (Mode.ofInt (-2772)).toInt.testBit i =
            (Clause.lastWrite? (ts.map Layout.clause) i).getD ((-4096 : ℤ).testBit i)) :=
  ⟨by decide, by decide, testBit_change_clauses (-4096) {} _ _ (by decide) (by decide)⟩

end FileMode
