import FileMode.Proofs.Idempotence
import FileMode.Proofs.LastWriter
import FileMode.Proofs.SlotBits

/-! What a change that is no octal number leaves alone: all bits above the permissions, the sticky
bit unless it is cleared with the class of the others, and each class that no clause names. -/

namespace FileMode

open Bits

namespace FileClass

def sticky : ℕ := other.specialBit

end FileClass

namespace Edit

open FileClass (sticky)

/-- The sticky bit is never granted, and it is cleared only with all accesses of the others. -/
structure TiesSticky (e : Edit) : Prop where
  not_granted : e.granted.getLsbD sticky = false
  cleared_with (i : ℕ) : e.cleared.getLsbD sticky = true → i < 3 → e.cleared.getLsbD i = true

variable {es : List Edit} {i : ℕ}

lemma getLsbD_of_applyAll (h : ∀ e ∈ es, e.granted.getLsbD i = false) {p : Perms}
    (hbit : (applyAll es p).getLsbD i = true) : p.getLsbD i = true := by
  have hi := BitVec.lt_of_getLsbD hbit
  induction es generalizing p with
  | nil => exact hbit
  | cons e es ih =>
    obtain ⟨he, hes⟩ := List.forall_mem_cons.mp h
    have hfirst := ih hes hbit
    rw [getLsbD_apply e p i hi, he, Bool.or_false, Bool.and_eq_true] at hfirst
    exact hfirst.1

lemma getLsbD_applyAll_of (h : ∀ e ∈ es, e.cleared.getLsbD i = false) {p : Perms}
    (hbit : p.getLsbD i = true) : (applyAll es p).getLsbD i = true := by
  induction es generalizing p with
  | nil => exact hbit
  | cons e es ih =>
    obtain ⟨he, hes⟩ := List.forall_mem_cons.mp h
    apply ih hes
    rw [getLsbD_apply e p i (BitVec.lt_of_getLsbD hbit), he, hbit]
    rfl

end Edit

namespace Mark

open FileClass (sticky)

variable {s : Slot} {m : Mark}

lemma getLsbD_mask_sticky (s : Slot) : s.mask.getLsbD sticky = false := by
  rw [s.getLsbD_mask]
  exact decide_eq_false (s.bit_ne_specialBit .other).symm

lemma cleared_edit_sticky (m : Mark) (s : Slot) : (m.edit s).cleared.getLsbD sticky = false := by
  cases m <;> simp [edit, Edit.grant, Edit.clear, Edit.keep, getLsbD_mask_sticky]

lemma granted_edit_sticky (hfits : m.Fits s) : (m.edit s).granted.getLsbD sticky = false := by
  cases m with
  | setId b =>
    obtain ⟨-, hwho, rfl⟩ := Slot.setId?_eq_some_iff.mp (hfits b rfl)
    have hother : sticky ≠ s.who.specialBit := fun h => hwho (FileClass.specialBit_injective h.symm)
    simp [edit, Edit.grant, getLsbD_mask_sticky, FileClass.getLsbD_special, hother]
  | _ => simp [edit, Edit.grant, Edit.clear, Edit.keep, getLsbD_mask_sticky]

end Mark

namespace Marks

open FileClass (sticky)

variable {strict : Bool} {cs : List Char} {ms : Marks}

lemma mapM_of_parse (h : parse strict cs = .ok ms) :
    (Slot.all.zip cs).mapM (fun x => (Mark.read strict x.1 x.2).map (x.1, ·)) = .ok ms := by
  rw [parse] at h
  split at h
  · cases h
  · exact h

lemma fits_of_parse (h : parse strict cs = .ok ms) : ∀ x ∈ ms, x.2.Fits x.1 := by
  intro x hx
  obtain ⟨y, _, hy⟩ := Traversal.exists_mem_of_mapM (mapM_of_parse h) hx
  obtain ⟨m, hm, rfl⟩ := (Traversal.map_eq_ok_iff (x := Mark.read strict y.1 y.2) _).mp hy
  exact Mark.read_fits hm

lemma keeps_sticky (hfits : ∀ x ∈ ms, x.2.Fits x.1) {e : Edit} (he : e ∈ ms.edits) :
    e.granted.getLsbD sticky = false ∧ e.cleared.getLsbD sticky = false := by
  rcases List.mem_cons.mp he with rfl | he
  · exact ⟨BitVec.getLsbD_zero, FileClass.getLsbD_setIds .other⟩
  · obtain ⟨x, hx, rfl⟩ := List.mem_map.mp he
    exact ⟨Mark.granted_edit_sticky (hfits x hx), Mark.cleared_edit_sticky x.2 x.1⟩

end Marks

namespace Clause

open FileClass (sticky)

variable {c : Clause} {i : ℕ}

lemma of_cleared_edit (h : c.edit.cleared.getLsbD i = true) :
    c.affects i = true ∧ (c.operator = .assign ∨ c.operator = .remove ∧ c.permits i = true) := by
  rw [edit] at h
  cases hop : c.operator with
  | add => simp [hop, Edit.grant] at h
  | remove =>
    simp only [hop, Edit.clear, BitVec.getLsbD_and, getLsbD_affected, getLsbD_reach,
      Bool.and_eq_true] at h
    exact ⟨h.2, Or.inr ⟨rfl, h.1⟩⟩
  | assign =>
    simp only [hop, getLsbD_affected] at h
    exact ⟨h, Or.inl rfl⟩

lemma of_granted_edit (h : c.edit.granted.getLsbD i = true) :
    c.affects i = true ∧ c.permits i = true ∧ c.operator ≠ .remove := by
  rw [edit] at h
  cases hop : c.operator with
  | remove => simp [hop, Edit.clear] at h
  | add =>
    simp only [hop, Edit.grant, BitVec.getLsbD_and, getLsbD_affected, getLsbD_reach,
      Bool.and_eq_true] at h
    exact ⟨h.2, h.1, by simp⟩
  | assign =>
    simp only [hop, BitVec.getLsbD_and, getLsbD_affected, getLsbD_reach, Bool.and_eq_true] at h
    exact ⟨h.2, h.1, by simp⟩

lemma permits_sticky (c : Clause) : c.permits sticky = false := by
  rw [permits, List.any_eq_false]
  intro q _
  cases q <;> decide

lemma affects_of_sticky (h : c.affects sticky = true) (hi : i < 3) : c.affects i = true := by
  have hmask : ∀ s : Selector, s.mask.getLsbD sticky = true →
      ∀ j < 3, s.mask.getLsbD j = true := by
    intro s
    cases s <;> decide
  rw [affects] at h ⊢
  split
  · exact hmask .everyone rfl i hi
  · next hwho =>
    rw [if_neg hwho, List.any_eq_true] at h
    obtain ⟨s, hs, hsticky⟩ := h
    exact List.any_eq_true.mpr ⟨s, hs, hmask s hsticky i hi⟩

lemma tiesSticky_edit (c : Clause) : c.edit.TiesSticky where
  not_granted := by
    apply Bool.eq_false_iff.mpr
    intro h
    have hpermits := (of_granted_edit h).2.1
    rw [c.permits_sticky] at hpermits
    cases hpermits
  cleared_with i h hi := by
    obtain ⟨haffects, hop | ⟨_, hpermits⟩⟩ := of_cleared_edit h
    · have hcleared : c.edit.cleared = c.affected := by simp only [edit, hop]
      rw [hcleared, getLsbD_affected]
      exact affects_of_sticky haffects hi
    · rw [c.permits_sticky] at hpermits
      cases hpermits

def Within (W : Set Selector) (c : Clause) : Prop := c.who ≠ [] ∧ ∀ s ∈ c.who, s ∈ W

lemma exists_mem_of_affects {W : Set Selector} (hwithin : c.Within W) (h : c.affects i = true) :
    ∃ w ∈ W, w.mask.getLsbD i = true := by
  rw [affects, if_neg (by simpa using hwithin.1), List.any_eq_true] at h
  obtain ⟨s, hs, hmask⟩ := h
  exact ⟨s, hwithin.2 s hs, hmask⟩

end Clause

structure Confined (n n' : ℤ) : Prop where
  high (i : ℕ) : 12 ≤ i → n'.testBit i = n.testBit i
  sign : n' < 0 ↔ n < 0
  typeName : (Mode.ofInt n').typeName = (Mode.ofInt n).typeName
  sticky : n'.testBit 9 = true → n.testBit 9 = true

namespace Confined

lemma refl (n : ℤ) : Confined n n := ⟨fun _ _ => rfl, Iff.rfl, rfl, id⟩

lemma trans {n n' n'' : ℤ} (h : Confined n n') (h' : Confined n' n'') : Confined n n'' where
  high i hi := (h'.high i hi).trans (h.high i hi)
  sign := h'.sign.trans h.sign
  typeName := h'.typeName.trans h.typeName
  sticky := fun hbit => h.sticky (h'.sticky hbit)

end Confined

namespace Mode

open FileClass (sticky)

lemma toInt_neg_iff (m : Mode) : m.toInt < 0 ↔ m.high < 0 := by
  have hlt := m.perms.isLt
  rw [toInt]
  omega

def edited (m : Mode) (es : List Edit) : Mode := ⟨m.high, Edit.applyAll es m.perms⟩

section

variable {es : List Edit} {i : ℕ} (m : Mode)

lemma testBit_edited_high (hi : 12 ≤ i) : (m.edited es).toInt.testBit i = m.toInt.testBit i := by
  rw [testBit_toInt, testBit_toInt, if_neg (by omega), if_neg (by omega)]
  rfl

lemma testBit_of_edited (h : ∀ e ∈ es, e.granted.getLsbD i = false)
    (hbit : (m.edited es).toInt.testBit i = true) : m.toInt.testBit i = true := by
  by_cases hi : i < 12
  · rw [← getLsbD_perms _ hi] at hbit ⊢
    exact Edit.getLsbD_of_applyAll h hbit
  · rwa [testBit_edited_high m (by omega)] at hbit

lemma testBit_edited_of (h : ∀ e ∈ es, e.cleared.getLsbD i = false)
    (hbit : m.toInt.testBit i = true) : (m.edited es).toInt.testBit i = true := by
  by_cases hi : i < 12
  · rw [← getLsbD_perms _ hi] at hbit ⊢
    exact Edit.getLsbD_applyAll_of h hbit
  · rwa [testBit_edited_high m (by omega)]

lemma testBit_edited_eq (hgranted : ∀ e ∈ es, e.granted.getLsbD i = false)
    (hcleared : ∀ e ∈ es, e.cleared.getLsbD i = false) :
    (m.edited es).toInt.testBit i = m.toInt.testBit i :=
  Bool.eq_iff_iff.mpr ⟨m.testBit_of_edited hgranted, m.testBit_edited_of hcleared⟩

lemma confined_edited (h : ∀ e ∈ es, e.TiesSticky) : Confined m.toInt (m.edited es).toInt where
  high _ hi := m.testBit_edited_high hi
  sign := by
    rw [toInt_neg_iff, toInt_neg_iff]
    rfl
  typeName := by
    rw [ofInt_toInt, ofInt_toInt]
    rfl
  sticky := m.testBit_of_edited fun e he => (h e he).not_granted

end

lemma exists_edits {o : Options} {s : String} {c c' : Mode} (hform : Spec.form s.toList ≠ .octal)
    (h : c.change o s = .ok c') :
    ∃ es : List Edit, (∀ e ∈ es, e.TiesSticky) ∧
      (Spec.form s.toList = .positional → ∀ e ∈ es, e.cleared.getLsbD sticky = false) ∧
      ∀ m : Mode, m.change o s = .ok (m.edited es) := by
  cases hkind : Spec.form s.toList with
  | octal => exact (hform hkind).elim
  | positional =>
    rw [change_of_positional o c hkind, Traversal.map_eq_ok_iff] at h
    obtain ⟨marks, hparse, -⟩ := h
    have hkeeps := fun e => Marks.keeps_sticky (e := e) (Marks.fits_of_parse hparse)
    refine ⟨marks.edits, ?_, fun _ e he => (hkeeps e he).2, ?_⟩
    · intro e he
      refine ⟨(hkeeps e he).1, fun _ hsticky _ => ?_⟩
      rw [(hkeeps e he).2] at hsticky
      cases hsticky
    · intro m
      rw [change_of_positional o m hkind, hparse]
      rfl
  | symbolic =>
    obtain ⟨clauses, -, hall⟩ := exists_parseAll_of_change hkind h
    refine ⟨clauses.map Clause.edit, ?_, ?_, hall o⟩
    · intro e he
      obtain ⟨clause, _, rfl⟩ := List.mem_map.mp he
      exact clause.tiesSticky_edit
    · intro hpositional
      cases hpositional

section

variable {o : Options} {s : String} {m m' : Mode}

lemma confined_change (hform : Spec.form s.toList ≠ .octal) (h : m.change o s = .ok m') :
    Confined m.toInt m'.toInt := by
  obtain ⟨es, hties, -, hall⟩ := exists_edits hform h
  obtain rfl := Except.ok.inj ((hall m).symm.trans h)
  exact m.confined_edited hties

lemma testBit_sticky_change (hform : Spec.form s.toList = .positional)
    (h : m.change o s = .ok m') : m'.toInt.testBit sticky = m.toInt.testBit sticky := by
  obtain ⟨es, hties, hcleared, hall⟩ := exists_edits (by simp [hform]) h
  obtain rfl := Except.ok.inj ((hall m).symm.trans h)
  exact m.testBit_edited_eq (fun e he => (hties e he).not_granted) (hcleared hform)

end

section

variable (R : Mode → Mode → Prop) (kind : Spec.Form → Prop) (hrefl : ∀ m, R m m)
  (htrans : ∀ {m m' m''}, R m m' → R m' m'' → R m m'')
  (hchange : ∀ {o s m m'}, kind (Spec.form s.toList) → change o s m = .ok m' → R m m')

include hrefl hchange

lemma rel_after {o : Options} {spec : Argument}
    (hspec : ∀ s, spec = .text s → kind (Spec.form s.toList)) (m : Mode) :
    R m (m.after (m.changeBy o spec)) := by
  cases spec with
  | text s =>
    rw [changeBy]
    cases h : m.change o s with
    | error e => exact hrefl m
    | ok m' => exact hchange (hspec s rfl) h
  | _ => exact hrefl m

include htrans

/-- What all accepted changes of a kind keep, a run of such changes keeps, refused ones included. -/
lemma rel_final {steps : List (Options × Argument)}
    (hsteps : ∀ step ∈ steps, ∀ s, step.2 = .text s → kind (Spec.form s.toList)) (m : Mode) :
    R m (m.final steps) := by
  induction steps generalizing m with
  | nil => exact hrefl m
  | cons step steps ih =>
    obtain ⟨hstep, hsteps⟩ := List.forall_mem_cons.mp hsteps
    rw [final_cons]
    exact htrans (rel_after R kind hrefl hchange hstep m) (ih hsteps _)

end

section

variable {steps : List (Options × Argument)} (m : Mode)

lemma confined_final
    (h : ∀ step ∈ steps, ∀ s, step.2 = .text s → Spec.form s.toList ≠ .octal) :
    Confined m.toInt (m.final steps).toInt :=
  rel_final (fun m m' => Confined m.toInt m'.toInt) (· ≠ .octal) (fun m => .refl m.toInt)
    Confined.trans confined_change h m

lemma testBit_sticky_final
    (h : ∀ step ∈ steps, ∀ s, step.2 = .text s → Spec.form s.toList = .positional) :
    (m.final steps).toInt.testBit sticky = m.toInt.testBit sticky :=
  rel_final (fun m m' => m'.toInt.testBit sticky = m.toInt.testBit sticky) (· = .positional)
    (fun _ => rfl) (fun h h' => h'.trans h) testBit_sticky_change h m

end

end Mode

namespace Clause

variable {cs : List Clause} (m : Mode)

lemma apply_eq_edited (cs : List Clause) :
    (Spec.symbolic cs).apply m = m.edited (cs.map edit) := rfl

lemma exists_mem_of_testBit_ne {W : Set Selector} (h : ∀ c ∈ cs, c.Within W) {i : ℕ}
    (hne : ((Spec.symbolic cs).apply m).toInt.testBit i ≠ m.toInt.testBit i) :
    ∃ w ∈ W, w.mask.getLsbD i = true := by
  by_contra hoff
  apply hne
  rw [apply_eq_edited]
  apply m.testBit_edited_eq
  · rintro e he
    obtain ⟨c, hc, rfl⟩ := List.mem_map.mp he
    exact Bool.eq_false_iff.mpr fun hbit =>
      hoff (exists_mem_of_affects (h c hc) (of_granted_edit hbit).1)
  · rintro e he
    obtain ⟨c, hc, rfl⟩ := List.mem_map.mp he
    exact Bool.eq_false_iff.mpr fun hbit =>
      hoff (exists_mem_of_affects (h c hc) (of_cleared_edit hbit).1)

lemma included_apply_of_add (h : ∀ c ∈ cs, c.operator = .add) :
    Included m.toInt ((Spec.symbolic cs).apply m).toInt := by
  rw [apply_eq_edited]
  refine included_iff.mpr fun i => m.testBit_edited_of ?_
  intro e he
  obtain ⟨c, hc, rfl⟩ := List.mem_map.mp he
  simp [edit, h c hc, Edit.grant]

lemma apply_included_of_remove (h : ∀ c ∈ cs, c.operator = .remove) :
    Included ((Spec.symbolic cs).apply m).toInt m.toInt := by
  rw [apply_eq_edited]
  refine included_iff.mpr fun i => m.testBit_of_edited ?_
  intro e he
  obtain ⟨c, hc, rfl⟩ := List.mem_map.mp he
  simp [edit, h c hc, Edit.clear]

end Clause

theorem change_confined :
    (∀ (current : ℤ) (o : Options) (s : String) (m : Mode), Spec.form s.toList ≠ .octal →
      (Mode.ofInt current).change o s = .ok m → Confined current m.toInt ∧
        (Spec.form s.toList = .positional → m.toInt.testBit 9 = current.testBit 9)) ∧
    (∀ (current : ℤ) (o : Options) (s : String) (m : Mode), Spec.form s.toList = .symbolic →
      (Mode.ofInt current).change o s = .ok m →
      (∃ ts, Layout.joined ts = s.toList) ∧ ∀ ts, Layout.joined ts = s.toList →
        (∀ W : Set Selector, (∀ t ∈ ts, t.clause.Within W) →
          ∀ i, m.toInt.testBit i ≠ current.testBit i → ∃ w ∈ W, w.mask.getLsbD i = true) ∧
        ((∀ t ∈ ts, t.clause.operator = .add) → Included current m.toInt) ∧
        ((∀ t ∈ ts, t.clause.operator = .remove) → Included m.toInt current)) ∧
    ∀ (start : ℤ) (steps : List (Options × Argument)),
      ((∀ step ∈ steps, ∀ s, step.2 = .text s → Spec.form s.toList ≠ .octal) →
        Confined start ((Mode.ofInt start).final steps).toInt) ∧
      ((∀ step ∈ steps, ∀ s, step.2 = .text s → Spec.form s.toList = .positional) →
        ((Mode.ofInt start).final steps).toInt.testBit 9 = start.testBit 9) := by
  refine ⟨?_, ?_, ?_⟩
  · intro current o s m hform h
    have hconfined := Mode.confined_change hform h
    rw [Mode.toInt_ofInt] at hconfined
    refine ⟨hconfined, fun hpositional => ?_⟩
    have hsticky := Mode.testBit_sticky_change hpositional h
    rwa [Mode.toInt_ofInt] at hsticky
  · intro current o s m hform h
    obtain ⟨hexists, hall⟩ := Mode.change_joined hform h
    refine ⟨hexists, fun ts hts => ?_⟩
    obtain rfl := hall ts hts
    refine ⟨fun W hwithin i hne => ?_, fun hadd => ?_, fun hremove => ?_⟩
    · apply Clause.exists_mem_of_testBit_ne (Mode.ofInt current) (List.forall_mem_map.mpr hwithin)
      rwa [Mode.toInt_ofInt]
    · have h := Clause.included_apply_of_add (Mode.ofInt current) (List.forall_mem_map.mpr hadd)
      rwa [Mode.toInt_ofInt] at h
    · have h := Clause.apply_included_of_remove (Mode.ofInt current)
        (List.forall_mem_map.mpr hremove)
      rwa [Mode.toInt_ofInt] at h
  · intro start steps
    refine ⟨fun hforms => ?_, fun hforms => ?_⟩
    · have h := (Mode.ofInt start).confined_final hforms
      rwa [Mode.toInt_ofInt] at h
    · have h := (Mode.ofInt start).testBit_sticky_final hforms
      rwa [Mode.toInt_ofInt] at h

def closingLayouts : List Layout :=
  [⟨[some .group], .assign, [some .execute]⟩, ⟨[some .other], .assign, []⟩,
    ⟨[some .group], .remove, [some .execute]⟩]

theorem change_confined_sticky :
    (Spec.form "rwsr-s--x".toList = .positional ∧
      (Mode.ofInt 0o101777).change ⟨true⟩ "rwsr-s--x" = .ok (.ofInt 0o107751) ∧
      Confined 0o101777 (Mode.ofInt 0o107751).toInt ∧
      (Mode.ofInt 0o107751).toInt.testBit 9 = (0o101777 : ℤ).testBit 9) ∧
    (Spec.form "g=x,o=,g-x".toList = .symbolic ∧
      (Mode.ofInt (-1)).change {} "g=x,o=,g-x" = .ok (.ofInt (-0o3100)) ∧
      Layout.joined closingLayouts = "g=x,o=,g-x".toList ∧
      (∀ t ∈ closingLayouts, t.clause.Within {.group, .other}) ∧
      (Mode.ofInt (-0o3100)).toInt.testBit 9 ≠ (-1 : ℤ).testBit 9 ∧
      ∃ w ∈ ({.group, .other} : Set Selector), w.mask.getLsbD 9 = true) ∧
    (Layout.joined [⟨[none], .add, [some .setId]⟩] = " +s".toList ∧
      (Mode.ofInt 0o644).change {} " +s" = .ok (.ofInt 0o6644) ∧
      Included 0o644 (Mode.ofInt 0o6644).toInt) ∧
    (Layout.joined [⟨[some .other], .remove, [some .read]⟩] = "o-r".toList ∧
      (Mode.ofInt 0o644).change {} "o-r" = .ok (.ofInt 0o640) ∧
      Included (Mode.ofInt 0o640).toInt 0o644) ∧
    Confined 0o101777
      ((Mode.ofInt 0o101777).final [({}, .text "o="), ({}, .text "u*"), ({}, .int 5)]).toInt ∧
    ((Mode.ofInt 0o101777).final [({}, .text "rws"), (⟨true⟩, .text "r")]).toInt.testBit 9 =
      (0o101777 : ℤ).testBit 9 := by
  obtain ⟨hchange, hclauses, hfinal⟩ := change_confined
  have hform : Spec.form "rwsr-s--x".toList = .positional := by decide
  have hstrict : (Mode.ofInt 0o101777).change ⟨true⟩ "rwsr-s--x" = .ok (.ofInt 0o107751) := by
    decide
  have hclosing : Layout.joined closingLayouts = "g=x,o=,g-x".toList := by decide
  have hclosed : (Mode.ofInt (-1)).change {} "g=x,o=,g-x" = .ok (.ofInt (-0o3100)) := by decide
  have hwithin : ∀ t ∈ closingLayouts, t.clause.Within {.group, .other} := by
    simp [closingLayouts, Layout.clause, Clause.Within, List.reduceOption]
  have hdiffers : (Mode.ofInt (-0o3100)).toInt.testBit 9 ≠ (-1 : ℤ).testBit 9 := by decide
  have hadd : (Mode.ofInt 0o644).change {} " +s" = .ok (.ofInt 0o6644) := by decide
  have hremove : (Mode.ofInt 0o644).change {} "o-r" = .ok (.ofInt 0o640) := by decide
  obtain ⟨hconfined, hsticky⟩ := hchange _ _ _ _ (by decide) hstrict
  refine ⟨⟨hform, hstrict, hconfined, hsticky hform⟩, ⟨by decide, hclosed, hclosing, hwithin,
    hdiffers, ((hclauses _ _ _ _ (by decide) hclosed).2 _ hclosing).1 _ hwithin 9 hdiffers⟩,
    ⟨by decide, hadd, ?_⟩, ⟨by decide, hremove, ?_⟩, ?_, ?_⟩
  · exact ((hclauses _ _ _ _ (by decide) hadd).2 [⟨[none], .add, [some .setId]⟩]
      (by decide)).2.1 (by simp [Layout.clause])
  · exact ((hclauses _ _ _ _ (by decide) hremove).2 [⟨[some .other], .remove, [some .read]⟩]
      (by decide)).2.2 (by simp [Layout.clause])
  · exact (hfinal _ _).1 (by simp [Spec.form])
  · exact (hfinal _ _).2 (by simp [Spec.form])

end FileMode
