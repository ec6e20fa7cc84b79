import FileMode.Proofs.Confinement

/-! The power of the changes that are no octal numbers: which bits they can clear and set at once,
and for each such choice a text of at most six clauses that makes it. -/

namespace FileMode

open Bits
open FileClass (sticky)

namespace Bits

lemma testBit_allButSticky (i : ℕ) :
    (0o6777 : ℤ).testBit i = (decide (i < 12) && decide (i ≠ sticky)) := by
  by_cases hi : i < 12
  · have hall : ∀ j : Fin 12, (0o6777 : Perms).getLsbD j = decide (j.val ≠ sticky) := by decide
    rw [decide_eq_true hi, Bool.true_and]
    exact hall ⟨i, hi⟩
  · have hhigh : (0o6777 : ℤ).testBit i = false :=
      BitVec.getLsbD_of_ge (0o6777 : Perms) i (by omega)
    simp [hhigh, hi]

lemma testBit_otherAccesses (i : ℕ) : (0o007 : ℤ).testBit i = decide (i < 3) :=
  Nat.testBit_two_pow_sub_one 3 i

end Bits

namespace Overwrite

/-- Only permissions are written, and the sticky bit only off, with all accesses of the others. -/
structure Expressible (w : Overwrite) : Prop where
  mask : Included w.mask 0o7777
  value : Included w.value (Int.land w.mask 0o6777)
  sticky : w.mask.testBit 9 = true → Included 0o007 w.mask

variable {v w : Overwrite}

lemma expressible_iff : w.Expressible ↔ Included w.mask 0o7777 ∧ w.value.testBit sticky = false ∧
    (w.mask.testBit sticky = true → ∀ i < 3, w.mask.testBit i = true) := by
  have hvalue : Included w.mask 0o7777 →
      (Included w.value (Int.land w.mask 0o6777) ↔ w.value.testBit sticky = false) := by
    intro hmask
    simp only [included_iff, Int.testBit_land, testBit_allButSticky, Bool.and_eq_true,
      decide_eq_true_eq]
    refine ⟨fun h => ?_, fun h i hi => ?_⟩
    · exact Bool.eq_false_iff.mpr fun hsticky => (h sticky hsticky).2.2 rfl
    · have hwithin := included_iff.mp w.value_within i hi
      have hlow := included_iff.mp hmask i hwithin
      rw [testBit_allPerms, decide_eq_true_eq] at hlow
      refine ⟨hwithin, hlow, ?_⟩
      rintro rfl
      rw [h] at hi
      cases hi
  have hsticky : Included 0o007 w.mask ↔ ∀ i < 3, w.mask.testBit i = true := by
    simp only [included_iff, testBit_otherAccesses, decide_eq_true_eq]
  refine ⟨fun h => ⟨h.mask, (hvalue h.mask).mp h.value, fun hbit => hsticky.mp (h.sticky hbit)⟩, ?_⟩
  rintro ⟨hmask, hoff, htied⟩
  exact ⟨hmask, (hvalue hmask).mpr hoff, fun hbit => hsticky.mpr (htied hbit)⟩

lemma expressible_keep : keep.Expressible := by
  refine expressible_iff.mpr ⟨included_iff.mpr fun i hi => ?_, testBit_zero _, fun hbit => ?_⟩
  · rw [keep, testBit_zero] at hi
    cases hi
  · rw [keep, testBit_zero] at hbit
    cases hbit

lemma Expressible.andThen (hv : v.Expressible) (hw : w.Expressible) :
    (v.andThen w).Expressible := by
  obtain ⟨hvmask, hvoff, hvtied⟩ := expressible_iff.mp hv
  obtain ⟨hwmask, hwoff, hwtied⟩ := expressible_iff.mp hw
  refine expressible_iff.mpr ⟨mask_andThen_included hvmask hwmask, ?_, ?_⟩
  · simp [Overwrite.andThen, Int.testBit_lor, Int.testBit_land, hvoff, hwoff]
  · simp only [Overwrite.andThen, Int.testBit_lor, Bool.or_eq_true]
    rintro (hbit | hbit) i hi
    · exact Or.inl (hvtied hbit i hi)
    · exact Or.inr (hwtied hbit i hi)

lemma expressible_ofEdit {e : Edit} (he : e.TiesSticky) : (ofEdit e).Expressible := by
  refine expressible_iff.mpr ⟨mask_ofEdit_included e, he.not_granted, ?_⟩
  simp only [ofEdit, testBit_natCast, BitVec.getLsbD_or, he.not_granted, Bool.or_false]
  intro hbit i hi
  rw [he.cleared_with i hbit hi, Bool.true_or]

lemma expressible_ofEdits {es : List Edit} (hes : ∀ e ∈ es, e.TiesSticky) :
    (ofEdits es).Expressible := by
  induction es using List.reverseRecOn with
  | nil => exact expressible_keep
  | append_singleton es e ih =>
    rw [ofEdits_append_singleton]
    exact (ih fun d hd => hes d (by simp [hd])).andThen (expressible_ofEdit (hes e (by simp)))

end Overwrite

lemma Mode.edited_ofInt (es : List Edit) (n : ℤ) :
    (ofInt n).edited es = ofInt ((Overwrite.ofEdits es).apply n) := by
  apply toInt_injective
  rw [edited, Overwrite.toInt_edits, toInt_ofInt, toInt_ofInt]

def FileClass.selector : FileClass → Selector
  | owner => .owner
  | group => .group
  | other => .other

namespace FileClass

lemma exists_selector_mask {i : ℕ} (hi : i < 12) :
    ∃ k : FileClass, ∀ l : FileClass, l.selector.mask.getLsbD i = decide (l = k) := by
  have hall : ∀ j : Fin 12, ∃ k ∈ all, ∀ l ∈ all, l.selector.mask.getLsbD j = decide (l = k) := by
    decide
  obtain ⟨k, _, hk⟩ := hall ⟨i, hi⟩
  refine ⟨k, fun l => hk l ?_⟩
  cases l <;> decide

end FileClass

namespace Permission

def all : List Permission := [read, write, execute, setId]

lemma mem_all (q : Permission) : q ∈ all := by
  cases q <;> decide

/-- The bit that the permission stands for in the class, which for the others is no special one. -/
def bit? (k : FileClass) : Permission → Option ℕ
  | read => some (Slot.bit ⟨k, .read⟩)
  | write => some (Slot.bit ⟨k, .write⟩)
  | execute => some (Slot.bit ⟨k, .execute⟩)
  | setId => if k = .other then none else some k.specialBit

lemma bit?_eq_some {k : FileClass} {q : Permission} {i : ℕ}
    (hk : k.selector.mask.getLsbD i = true) (hq : q.mask.getLsbD i = true) :
    q.bit? k = some i := by
  have hall : ∀ j : Fin 12, k.selector.mask.getLsbD j = true → q.mask.getLsbD j = true →
      q.bit? k = some j.val := by
    cases k <;> cases q <;> decide
  exact hall ⟨i, BitVec.lt_of_getLsbD hk⟩ hk hq

lemma exists_mask {k : FileClass} {i : ℕ} (hk : k.selector.mask.getLsbD i = true)
    (hi : i ≠ sticky) : ∃ q : Permission, q.mask.getLsbD i = true := by
  have hall : ∀ j : Fin 12, j.val ≠ sticky → ∃ q ∈ all, q.mask.getLsbD j = true := by decide
  obtain ⟨q, _, hq⟩ := hall ⟨i, BitVec.lt_of_getLsbD hk⟩ hi
  exact ⟨q, hq⟩

end Permission

namespace Clause

def ofBits (k : FileClass) (op : Operator) (bits : ℤ) : Clause where
  who := [k.selector]
  operator := op
  permissions := Permission.all.filter fun q => (q.bit? k).any bits.testBit

variable {k : FileClass} {op : Operator} {bits : ℤ} {i : ℕ}

lemma affects_ofBits (k : FileClass) (op : Operator) (bits : ℤ) (i : ℕ) :
    (ofBits k op bits).affects i = k.selector.mask.getLsbD i := by
  simp [affects, ofBits]

lemma permits_ofBits (hk : k.selector.mask.getLsbD i = true) :
    (ofBits k op bits).permits i = (bits.testBit i && decide (i ≠ sticky)) := by
  by_cases hi : i = sticky
  · subst hi
    simp [permits_sticky]
  rw [decide_eq_true hi, Bool.and_true, permits, ofBits, List.any_filter, Bool.eq_iff_iff,
    List.any_eq_true]
  refine ⟨?_, ?_⟩
  · rintro ⟨q, _, hq⟩
    obtain ⟨hany, hmask⟩ := Bool.and_eq_true_iff.mp hq
    rwa [Permission.bit?_eq_some hk hmask, Option.any_some] at hany
  · intro hbit
    obtain ⟨q, hmask⟩ := Permission.exists_mask hk hi
    refine ⟨q, q.mem_all, Bool.and_eq_true_iff.mpr ⟨?_, hmask⟩⟩
    rwa [Permission.bit?_eq_some hk hmask, Option.any_some]

lemma lastWrite?_of_not_affects {cs : List Clause} (h : ∀ c ∈ cs, c.affects i = false) :
    lastWrite? cs i = none := by
  apply List.findSome?_eq_none_iff.mpr
  intro c hc
  exact write?_of_not_affects (h c (List.mem_reverse.mp hc))

end Clause

namespace Overwrite

variable (w : Overwrite) (k : FileClass)

/-- The bits of one class: what is set is added and the rest removed, or, where the sticky bit is to
be cleared, which nothing removes by name, all of them are assigned. -/
def classClauses : List Clause :=
  if k = .other ∧ w.mask.testBit sticky = true then [.ofBits k .assign w.value]
  else [.ofBits k .add w.value, .ofBits k .remove (Int.land w.mask (Int.lnot w.value))]

def clauses : List Clause := FileClass.all.flatMap w.classClauses

lemma length_clauses_le : w.clauses.length ≤ 6 := by
  have hclass : ∀ k, (w.classClauses k).length ≤ 2 := by
    intro k
    rw [classClauses]
    split <;> simp
  have howner := hclass .owner
  have hgroup := hclass .group
  have hother := hclass .other
  simp only [clauses, FileClass.all, List.flatMap_cons, List.flatMap_nil, List.length_append,
    List.length_nil]
  omega

variable {w k} {i : ℕ}

lemma affects_classClauses {c : Clause} (hc : c ∈ w.classClauses k) :
    c.affects i = k.selector.mask.getLsbD i := by
  rw [classClauses] at hc
  split at hc
  · obtain rfl := List.mem_singleton.mp hc
    exact Clause.affects_ofBits k _ _ i
  · rcases List.mem_pair.mp hc with rfl | rfl
    · exact Clause.affects_ofBits k _ _ i
    · exact Clause.affects_ofBits k _ _ i

lemma testBit_value_ne_sticky (hw : w.Expressible) (i : ℕ) :
    (w.value.testBit i && decide (i ≠ sticky)) = w.value.testBit i := by
  by_cases hi : i = sticky
  · rw [hi, (expressible_iff.mp hw).2.1, Bool.false_and]
  · rw [decide_eq_true hi, Bool.and_true]

lemma lastWrite?_assign (hw : w.Expressible) (hsticky : w.mask.testBit sticky = true)
    (hi : FileClass.other.selector.mask.getLsbD i = true) :
    Clause.lastWrite? [.ofBits .other .assign w.value] i =
      if w.mask.testBit i then some (w.value.testBit i) else none := by
  have hall : ∀ j : Fin 12, FileClass.other.selector.mask.getLsbD j = true →
      j.val < 3 ∨ j.val = sticky := by decide
  have hmask : w.mask.testBit i = true := by
    rcases hall ⟨i, BitVec.lt_of_getLsbD hi⟩ hi with hlow | rfl
    · exact (expressible_iff.mp hw).2.2 hsticky i hlow
    · exact hsticky
  have hwrite : (Clause.ofBits .other .assign w.value).write? i = some (w.value.testBit i) := by
    rw [Clause.write?, Clause.affects_ofBits, Clause.permits_ofBits hi, hi,
      testBit_value_ne_sticky hw]
    rfl
  rw [Clause.lastWrite?_singleton, hwrite, hmask, if_pos rfl]

lemma lastWrite?_add_remove (hw : w.Expressible) (hk : k.selector.mask.getLsbD i = true)
    (hsticky : i = sticky → w.mask.testBit i = false) :
    Clause.lastWrite?
        [.ofBits k .add w.value, .ofBits k .remove (Int.land w.mask (Int.lnot w.value))] i =
      if w.mask.testBit i then some (w.value.testBit i) else none := by
  have hadd : (Clause.ofBits k .add w.value).write? i =
      if w.value.testBit i then some true else none := by
    rw [Clause.write?, Clause.affects_ofBits, Clause.permits_ofBits hk, hk,
      testBit_value_ne_sticky hw]
    rfl
  have hremoved : (Clause.ofBits k .remove (Int.land w.mask (Int.lnot w.value))).permits i =
      (w.mask.testBit i && !w.value.testBit i) := by
    rw [Clause.permits_ofBits hk, Int.testBit_land, Int.testBit_lnot]
    by_cases hi : i = sticky
    · rw [hsticky hi, Bool.false_and, Bool.false_and]
    · rw [decide_eq_true hi, Bool.and_true]
  have hremove : (Clause.ofBits k .remove (Int.land w.mask (Int.lnot w.value))).write? i =
      if w.mask.testBit i && !w.value.testBit i then some false else none := by
    rw [Clause.write?, Clause.affects_ofBits, hremoved, hk]
    rfl
  rw [Clause.lastWrite?_pair, hadd, hremove]
  cases hmask : w.mask.testBit i with
  | true => cases w.value.testBit i <;> rfl
  | false => simp [w.testBit_value hmask]

lemma lastWrite?_classClauses (hw : w.Expressible) (hk : k.selector.mask.getLsbD i = true) :
    Clause.lastWrite? (w.classClauses k) i =
      if w.mask.testBit i then some (w.value.testBit i) else none := by
  rw [classClauses]
  split
  · next h =>
    obtain ⟨rfl, hsticky⟩ := h
    exact lastWrite?_assign hw hsticky hk
  · next h =>
    apply lastWrite?_add_remove hw hk
    -- only the class of the others has the sticky bit, and there it is not written in this case
    rintro rfl
    have hother : k = .other := by
      cases k with
      | other => rfl
      | _ => cases hk
    exact Bool.eq_false_iff.mpr fun hmask => h ⟨hother, hmask⟩

lemma lastWrite?_clauses (hw : w.Expressible) (i : ℕ) :
    Clause.lastWrite? w.clauses i =
      if w.mask.testBit i then some (w.value.testBit i) else none := by
  by_cases hi : i < 12
  · obtain ⟨k, hk⟩ := FileClass.exists_selector_mask hi
    -- the clauses of the other two classes do not reach the bit, so their order is of no account
    have hclass : ∀ l, Clause.lastWrite? (w.classClauses l) i =
        if l = k then (if w.mask.testBit i then some (w.value.testBit i) else none) else none := by
      intro l
      split
      · next h => exact lastWrite?_classClauses hw (by rw [hk, decide_eq_true h])
      · next h =>
        apply Clause.lastWrite?_of_not_affects
        intro c hc
        rw [affects_classClauses hc, hk, decide_eq_false h]
    simp only [clauses, FileClass.all, List.flatMap_cons, List.flatMap_nil, List.append_nil,
      Clause.lastWrite?_append, hclass]
    cases k <;> simp
  · have hmask : w.mask.testBit i = false := by
      refine Bool.eq_false_iff.mpr fun hbit => hi ?_
      have hlow := included_iff.mp hw.mask i hbit
      rwa [testBit_allPerms, decide_eq_true_eq] at hlow
    rw [Clause.lastWrite?_of_le _ (by omega), hmask]
    rfl

end Overwrite

namespace Layout

lemma form_chars (t : Layout) (hwho : t.who ≠ []) : Spec.form t.chars = .symbolic := by
  obtain ⟨s?, who, hwho⟩ := List.exists_cons_of_ne_nil hwho
  rw [chars, head, hwho]
  cases s? with
  | none => rfl
  | some s => cases s <;> rfl

lemma form_joined (t : Layout) (ts : List Layout) :
    Spec.form (joined (t :: ts)) = Spec.form t.chars := by
  have hne : t.chars ≠ [] := by simp [chars, head]
  rw [joined, List.map_cons]
  cases ts with
  | nil => rw [List.map_nil, List.intercalate_singleton]
  | cons u ts => rw [List.map_cons, List.intercalate_cons_cons, List.append_assoc,
      Spec.form_append hne]

end Layout

namespace Clause

def layout (c : Clause) : Layout := ⟨c.who.map some, c.operator, c.permissions.map some⟩

lemma clause_layout (c : Clause) : c.layout.clause = c := by
  simp [layout, Layout.clause, List.reduceOption]

lemma layout_who_ne_nil {c : Clause} (hwho : c.who ≠ []) : c.layout.who ≠ [] := by
  simpa [layout] using hwho

def joined (cs : List Clause) : String := String.ofList (Layout.joined (cs.map layout))

variable {cs : List Clause}

lemma parseAll_joined (hne : cs ≠ []) : parseAll (joined cs).toList = .ok cs := by
  have hclauses : (cs.map layout).map Layout.clause = cs := by
    rw [List.map_map]
    exact List.map_id'' clause_layout cs
  rw [joined, String.toList_ofList, Layout.parseAll_joined (by simpa using hne), hclauses]

lemma length_splitOn_joined (hne : cs ≠ []) :
    ((joined cs).toList.splitOn ',').length = cs.length := by
  rw [joined, String.toList_ofList, Layout.splitOn_joined (by simpa using hne), List.length_map,
    List.length_map]

lemma form_joined {c : Clause} (hwho : c.who ≠ []) (cs : List Clause) :
    Spec.form (joined (c :: cs)).toList = .symbolic := by
  rw [joined, String.toList_ofList, List.map_cons, Layout.form_joined]
  exact c.layout.form_chars (layout_who_ne_nil hwho)

end Clause

namespace Overwrite

variable {w : Overwrite}

lemma exists_clauses_eq (w : Overwrite) :
    ∃ cs, w.clauses = .ofBits .owner .add w.value :: cs :=
  ⟨_, rfl⟩

lemma form_joined_clauses (w : Overwrite) :
    Spec.form (Clause.joined w.clauses).toList = .symbolic := by
  obtain ⟨cs, hcs⟩ := w.exists_clauses_eq
  rw [hcs]
  exact Clause.form_joined (by simp [Clause.ofBits]) cs

lemma clauses_ne_nil (w : Overwrite) : w.clauses ≠ [] := by
  obtain ⟨cs, hcs⟩ := w.exists_clauses_eq
  simp [hcs]

lemma change_joined_clauses (hw : w.Expressible) (o : Options) (n : ℤ) :
    (Mode.ofInt n).change o (Clause.joined w.clauses) = .ok (.ofInt (w.apply n)) := by
  rw [Mode.change_of_symbolic o _ w.form_joined_clauses, Clause.parseAll_joined w.clauses_ne_nil]
  apply congrArg Except.ok
  apply mode_eq_of_testBit_eq
  intro i
  rw [Clause.testBit_apply, lastWrite?_clauses hw, Mode.toInt_ofInt, Mode.toInt_ofInt,
    w.testBit_apply]
  split <;> rfl

def ShortClauses (s : String) : Prop :=
  Spec.form s.toList = .symbolic ∧ (s.toList.splitOn ',').length ≤ 6

lemma shortClauses_joined_clauses (w : Overwrite) : ShortClauses (Clause.joined w.clauses) := by
  refine ⟨w.form_joined_clauses, ?_⟩
  rw [Clause.length_splitOn_joined w.clauses_ne_nil]
  exact w.length_clauses_le

lemma exists_expressible {o : Options} {s : String} {c c' : Mode}
    (hform : Spec.form s.toList ≠ .octal) (h : c.change o s = .ok c') :
    ∃ w : Overwrite, w.Expressible ∧
      ∀ n, (Mode.ofInt n).change o s = .ok (.ofInt (w.apply n)) := by
  obtain ⟨es, hties, -, hall⟩ := Mode.exists_edits hform h
  refine ⟨ofEdits es, expressible_ofEdits hties, fun n => ?_⟩
  rw [hall, Mode.edited_ofInt]

end Overwrite

theorem change_expressive :
    (∀ (o : Options) (s : String) (c : ℤ) (m : Mode), Spec.form s.toList ≠ .octal →
      (Mode.ofInt c).change o s = .ok m → ∃ w : Overwrite, w.Expressible ∧
        ∀ current, (Mode.ofInt current).change o s = .ok (.ofInt (w.apply current))) ∧
    (∀ w : Overwrite, w.Expressible → ∃ s, Overwrite.ShortClauses s ∧
      ∀ (o : Options) (current : ℤ),
        (Mode.ofInt current).change o s = .ok (.ofInt (w.apply current))) ∧
    ∀ (o : Options) (s : String) (c : ℤ) (m : Mode), Spec.form s.toList ≠ .octal →
      (Mode.ofInt c).change o s = .ok m → ∃ s', Overwrite.ShortClauses s' ∧
        ∀ (o' : Options) (current : ℤ),
          (Mode.ofInt current).change o' s' = (Mode.ofInt current).change o s := by
  refine ⟨fun _ _ _ _ => Overwrite.exists_expressible, ?_, ?_⟩
  · intro w hw
    exact ⟨_, w.shortClauses_joined_clauses, fun o n => w.change_joined_clauses hw o n⟩
  · intro o s c m hform h
    obtain ⟨w, hw, hall⟩ := Overwrite.exists_expressible hform h
    refine ⟨_, w.shortClauses_joined_clauses, fun o' n => ?_⟩
    rw [w.change_joined_clauses hw, hall]

def ownerOtherEdit : Edit := ⟨0o5707, 0o4105⟩

theorem change_expressive_sticky :
    (Spec.form "rw?r-sr".toList ≠ .octal ∧
      (Mode.ofInt 0o1077).change {} "rw?r-sr" = .ok (.ofInt 0o3657) ∧
      ∃ w : Overwrite, w.Expressible ∧
        ∀ current, (Mode.ofInt current).change {} "rw?r-sr" = .ok (.ofInt (w.apply current))) ∧
    ((Overwrite.ofEdit ownerOtherEdit).Expressible ∧ ∃ s, Overwrite.ShortClauses s ∧
      ∀ (o : Options) (current : ℤ), (Mode.ofInt current).change o s =
        .ok (.ofInt ((Overwrite.ofEdit ownerOtherEdit).apply current))) ∧
    Spec.form "u=rw,o=,g+x,g-x,u-w,a+r,o-w".toList ≠ .octal ∧
      (Mode.ofInt (-1)).change {} "u=rw,o=,g+x,g-x,u-w,a+r,o-w" = .ok (.ofInt (-0o5314)) ∧
      ∃ s', Overwrite.ShortClauses s' ∧ ∀ (o' : Options) (current : ℤ),
        (Mode.ofInt current).change o' s' =
          (Mode.ofInt current).change {} "u=rw,o=,g+x,g-x,u-w,a+r,o-w" := by
  obtain ⟨hsound, hcomplete, hshort⟩ := change_expressive
  have hslots : (Mode.ofInt 0o1077).change {} "rw?r-sr" = .ok (.ofInt 0o3657) := by decide
  have haccesses : ∀ i < 3, ownerOtherEdit.cleared.getLsbD i = true := by decide
  have hties : ownerOtherEdit.TiesSticky := ⟨by decide, fun i _ hi => haccesses i hi⟩
  have hsticky := Overwrite.expressible_ofEdit hties
  have hclauses : (Mode.ofInt (-1)).change {} "u=rw,o=,g+x,g-x,u-w,a+r,o-w" =
      .ok (.ofInt (-0o5314)) := by decide
  exact ⟨⟨by decide, hslots, hsound _ _ _ _ (by decide) hslots⟩, ⟨hsticky, hcomplete _ hsticky⟩,
    by decide, hclauses, hshort _ _ _ _ (by decide) hclauses⟩

end FileMode
