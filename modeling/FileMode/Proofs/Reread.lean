import FileMode.Proofs.Bits
import FileMode.Proofs.Form
import FileMode.Proofs.Language
import FileMode.Proofs.SlotBits

/-! A rendered mode read as a mode string. Letters in upper case and the letters of the sticky bit
ask for nothing, so that leniently these bits come from the mode that is changed, and strictly a
rendering with any of them is refused. -/

namespace FileMode

namespace Slot

def mark (p : Perms) (s : Slot) : Mark :=
  if s.access = .execute ∧ p.has s.who.special then
    match s.setId? with
    | some b => if p.has s.mask then .setId b else .keep
    | none => .keep
  else if p.has s.mask then .on
  else .off

lemma mark_fits (p : Perms) (s : Slot) : (s.mark p).Fits s := by
  intro b h
  rw [mark] at h
  split at h
  · split at h
    · next hset =>
      split at h
      · rw [hset, Mark.setId.inj h]
      · cases h
    · cases h
  · split at h <;> cases h

lemma read_glyph (strict : Bool) (p : Perms) (s : Slot) :
    Mark.read strict s (s.glyph p) =
      if strict = true ∧ s.mark p = .keep then .error .badSlots else .ok (s.mark p) := by
  by_cases hspecial : s.access = .execute ∧ p.has s.who.special
  · obtain ⟨who, access⟩ := s
    obtain ⟨rfl, hspecial⟩ := hspecial
    cases hmask : p.has (mask ⟨who, .execute⟩) <;> cases who <;> cases strict <;>
      simp [glyph, mark, hspecial, hmask, setId?, Mark.read, letter, Access.letter,
        FileClass.specialLetter]
  · rw [glyph, if_neg hspecial, mark, if_neg hspecial]
    cases p.has s.mask
    · simp [Mark.read_dash]
    · simp [Mark.read_letter]

lemma mark_eq_keep_iff (p : Perms) (s : Slot) : s.mark p = .keep ↔
    s.access = .execute ∧ p.getLsbD s.who.specialBit = true ∧
      (s.who = .other ∨ p.getLsbD s.bit = false) := by
  rw [mark, FileClass.has_special, has_mask]
  by_cases hspecial : s.access = .execute ∧ p.getLsbD s.who.specialBit = true
  · obtain ⟨who, access⟩ := s
    obtain ⟨rfl, hspecial⟩ := hspecial
    rw [if_pos ⟨rfl, hspecial⟩]
    cases hbit : p.getLsbD (bit ⟨who, .execute⟩) <;> cases who <;> simp [setId?, hspecial]
  · rw [if_neg hspecial]
    cases p.getLsbD s.bit <;> simp_all

lemma value?_mark (p : Perms) (s : Slot) (b : Bool) :
    (s.mark p).value?.getD b = if s.mark p = .keep then b else p.getLsbD s.bit := by
  rw [mark, FileClass.has_special, has_mask]
  split
  · cases s.setId? <;> cases p.getLsbD s.bit <;> simp [Mark.value?]
  · cases p.getLsbD s.bit <;> simp [Mark.value?]

lemma isSetId_mark (p : Perms) {k : FileClass} (hk : k ≠ .other) :
    (mark p ⟨k, .execute⟩).isSetId =
      (p.getLsbD k.specialBit && p.getLsbD (bit ⟨k, .execute⟩)) := by
  rw [mark, FileClass.has_special, has_mask]
  cases p.getLsbD k.specialBit <;> cases p.getLsbD (bit ⟨k, .execute⟩) <;> cases k <;>
    simp_all [setId?, Mark.isSetId]

end Slot

namespace Perms

def marks (p : Perms) : Marks := Marks.full (Slot.mark p)

lemma form_glyphs (p : Perms) : Spec.form p.glyphs = .positional := by
  have hfirst : Slot.glyph p ⟨.owner, .read⟩ = 'r' ∨ Slot.glyph p ⟨.owner, .read⟩ = '-' := by
    rw [Slot.glyph, if_neg (by simp)]
    split
    · exact Or.inl rfl
    · exact Or.inr rfl
  change (if _ ∨ _ then Spec.Form.positional else _) = _
  rw [if_pos hfirst]

lemma parse_glyphs_lenient (p : Perms) : Marks.parse false p.glyphs = .ok p.marks := by
  apply Marks.parse_map_all_of_read
  intro s
  rw [Slot.read_glyph, if_neg (by simp)]

lemma parse_glyphs_strict {p : Perms} (h : ∀ s : Slot, s.mark p ≠ .keep) :
    Marks.parse true p.glyphs = .ok p.marks := by
  apply Marks.parse_map_all_of_read
  intro s
  rw [Slot.read_glyph, if_neg fun hkeep => h s hkeep.2]

lemma parse_glyphs_strict_of_keep {p : Perms} {s : Slot} (h : s.mark p = .keep) :
    Marks.parse true p.glyphs = .error .badSlots := by
  cases hparse : Marks.parse true p.glyphs with
  | error e => rw [Language.marks_error hparse]
  | ok ms =>
    obtain ⟨m, hm⟩ := Marks.exists_read_of_parse_map_all hparse s
    rw [Slot.read_glyph, if_pos ⟨rfl, h⟩] at hm
    cases hm

end Perms

namespace Mode

variable (c m : Mode)

lemma change_render (o : Options) : c.change o m.render =
    (fun marks => (Spec.positional marks).apply c) <$> Marks.parse o.strict m.perms.glyphs := by
  have hlist : m.render.toList = m.perms.glyphs := m.perms.toList_render
  rw [change_of_positional o c (by rw [hlist]; exact m.perms.form_glyphs), hlist]

/-- The mode after a rendering of another one is read, its unreadable letters skipped. -/
def reread : Mode := (Spec.positional m.perms.marks).apply c

lemma testBit_reread_high {i : ℕ} (hi : 12 ≤ i) :
    (c.reread m).toInt.testBit i = c.toInt.testBit i := by
  rw [Bits.testBit_toInt, Bits.testBit_toInt, if_neg (by omega), if_neg (by omega)]
  rfl

lemma testBit_reread_bit (s : Slot) : (c.reread m).toInt.testBit s.bit =
    if s.mark m.perms = .keep then c.toInt.testBit s.bit else m.toInt.testBit s.bit := by
  rw [← Bits.getLsbD_perms _ s.bit_lt_width, ← Bits.getLsbD_perms _ s.bit_lt_width,
    ← Bits.getLsbD_perms _ s.bit_lt_width, ← Slot.value?_mark]
  exact Marks.getLsbD_full_bit (Slot.mark_fits m.perms) s c.perms

lemma testBit_reread_specialBit (k : FileClass) : (c.reread m).toInt.testBit k.specialBit =
    if k = .other then c.toInt.testBit k.specialBit
    else m.toInt.testBit k.specialBit && m.toInt.testBit (Slot.bit ⟨k, .execute⟩) := by
  have hlt := k.specialBit_bounds.2
  have hfull := Marks.getLsbD_full_specialBit (Slot.mark_fits m.perms) k c.perms
  rw [← Bits.getLsbD_perms _ hlt, ← Bits.getLsbD_perms _ hlt, ← Bits.getLsbD_perms _ hlt,
    ← Bits.getLsbD_perms _ (Slot.bit_lt_width _)]
  refine hfull.trans ?_
  split
  · rfl
  · next hk => rw [Slot.isSetId_mark _ hk]

lemma testBit_reread_execute (k : FileClass) :
    (c.reread m).toInt.testBit (Slot.bit ⟨k, .execute⟩) =
      if m.toInt.testBit k.specialBit = true ∧
        (k = .other ∨ m.toInt.testBit (Slot.bit ⟨k, .execute⟩) = false)
      then c.toInt.testBit (Slot.bit ⟨k, .execute⟩)
      else m.toInt.testBit (Slot.bit ⟨k, .execute⟩) := by
  rw [testBit_reread_bit]
  simp only [Slot.mark_eq_keep_iff, true_and, Bits.getLsbD_perms _ (Slot.bit_lt_width _),
    Bits.getLsbD_perms _ k.specialBit_bounds.2]

lemma testBit_reread_access {s : Slot} (hs : s.access ≠ .execute) :
    (c.reread m).toInt.testBit s.bit = m.toInt.testBit s.bit := by
  rw [testBit_reread_bit, if_neg]
  rw [Slot.mark_eq_keep_iff]
  exact fun h => hs h.1

end Mode

/-- Set-user-ID without the owner's execution, rendered as an upper-case letter. -/
def orphanUserId (m : ℤ) : Bool := m.testBit 11 && !m.testBit 6

def orphanGroupId (m : ℤ) : Bool := m.testBit 10 && !m.testBit 3

def orphans (m : ℤ) : ℤ :=
  Int.lor (if orphanUserId m then 0o4000 else 0) (if orphanGroupId m then 0o2000 else 0)

structure Rereads (m c r : ℤ) : Prop where
  high : ∀ i, 12 ≤ i → r.testBit i = c.testBit i
  sticky : r.testBit 9 = c.testBit 9
  readWrite : ∀ i ∈ [8, 7, 5, 4, 2, 1], r.testBit i = m.testBit i
  setUserId : r.testBit 11 = (m.testBit 11 && m.testBit 6)
  setGroupId : r.testBit 10 = (m.testBit 10 && m.testBit 3)
  ownerExecute : r.testBit 6 = if orphanUserId m then c.testBit 6 else m.testBit 6
  groupExecute : r.testBit 3 = if orphanGroupId m then c.testBit 3 else m.testBit 3
  otherExecute : r.testBit 0 = if m.testBit 9 then c.testBit 0 else m.testBit 0

lemma testBit_orphans (m : ℤ) (i : ℕ) : (orphans m).testBit i =
    (orphanUserId m && decide (i = 11) || orphanGroupId m && decide (i = 10)) := by
  have huser : (0o4000 : ℤ).testBit i = decide (i = 11) := FileClass.owner.getLsbD_special i
  have hgroup : (0o2000 : ℤ).testBit i = decide (i = 10) := FileClass.group.getLsbD_special i
  rw [orphans, Int.testBit_lor]
  cases orphanUserId m <;> cases orphanGroupId m <;> simp [huser, hgroup, Bits.testBit_zero]

lemma testBit_orphans_of_ne (m : ℤ) {i : ℕ} (huser : i ≠ 11) (hgroup : i ≠ 10) :
    (orphans m).testBit i = false := by
  rw [testBit_orphans, decide_eq_false huser, decide_eq_false hgroup]
  simp

lemma land_lnot_orphans_eq_iff (m : ℤ) : Int.land m (Int.lnot (orphans m)) = m ↔
    orphanUserId m = false ∧ orphanGroupId m = false := by
  refine ⟨?_, ?_⟩
  · intro h
    have hbit : ∀ i, (m.testBit i && !(orphans m).testBit i) = m.testBit i := by
      intro i
      rw [← Int.testBit_lnot, ← Int.testBit_land, h]
    have huser := hbit 11
    have hgroup := hbit 10
    rw [testBit_orphans] at huser hgroup
    simp_all [orphanUserId, orphanGroupId]
  · rintro ⟨huser, hgroup⟩
    apply Bits.eq_of_testBit_eq
    intro i
    simp [Int.testBit_land, Int.testBit_lnot, testBit_orphans, huser, hgroup]

namespace Mode

variable (c m : Mode)

lemma rereads : Rereads m.toInt c.toInt (c.reread m).toInt where
  high _ hi := c.testBit_reread_high m hi
  sticky := c.testBit_reread_specialBit m .other
  readWrite i hi := by
    have hslot : ∀ j ∈ [8, 7, 5, 4, 2, 1], ∃ s ∈ Slot.all, s.access ≠ .execute ∧ s.bit = j := by
      decide
    obtain ⟨s, _, hs, rfl⟩ := hslot i hi
    exact c.testBit_reread_access m hs
  setUserId := c.testBit_reread_specialBit m .owner
  setGroupId := c.testBit_reread_specialBit m .group
  ownerExecute := by
    have h := c.testBit_reread_execute m .owner
    simpa [Slot.bit, FileClass.specialBit, orphanUserId] using h
  groupExecute := by
    have h := c.testBit_reread_execute m .group
    simpa [Slot.bit, FileClass.specialBit, orphanGroupId] using h
  otherExecute := by
    have h := c.testBit_reread_execute m .other
    simpa [Slot.bit, FileClass.specialBit] using h

lemma toInt_reread_self : (m.reread m).toInt = Int.land m.toInt (Int.lnot (orphans m.toInt)) := by
  apply Bits.eq_of_testBit_slots
  · intro s
    -- a bit that is kept is the bit of the same mode, and no orphan stands in a slot
    have hs := s.bit_lt
    rw [testBit_reread_bit, ite_self, Int.testBit_land, Int.testBit_lnot,
      testBit_orphans_of_ne _ (by omega) (by omega)]
    simp
  · intro k
    rw [testBit_reread_specialBit, Int.testBit_land, Int.testBit_lnot, testBit_orphans]
    cases k <;> simp [FileClass.specialBit, Slot.bit, orphanUserId, orphanGroupId]
    · cases m.toInt.testBit 11 <;> simp
    · cases m.toInt.testBit 10 <;> simp
  · intro i hi
    rw [testBit_reread_high _ _ hi, Int.testBit_land, Int.testBit_lnot,
      testBit_orphans_of_ne _ (by omega) (by omega)]
    simp

lemma forall_mark_ne_keep_iff : (∀ s : Slot, s.mark m.perms ≠ .keep) ↔
    m.toInt.testBit 9 = false ∧ orphanUserId m.toInt = false ∧ orphanGroupId m.toInt = false := by
  have hkeep (k : FileClass) : Slot.mark m.perms ⟨k, .execute⟩ = .keep ↔
      m.toInt.testBit k.specialBit = true ∧
        (k = .other ∨ m.toInt.testBit (Slot.bit ⟨k, .execute⟩) = false) := by
    rw [Slot.mark_eq_keep_iff, Bits.getLsbD_perms _ k.specialBit_bounds.2,
      Bits.getLsbD_perms _ (Slot.bit_lt_width _), and_iff_right rfl]
  refine ⟨?_, ?_⟩
  · intro h
    have howner := mt (hkeep .owner).mpr (h _)
    have hgroup := mt (hkeep .group).mpr (h _)
    have hother := mt (hkeep .other).mpr (h _)
    simp_all [FileClass.specialBit, Slot.bit, orphanUserId, orphanGroupId]
  · rintro ⟨hsticky, huser, hgroup⟩ ⟨who, access⟩ hmark
    obtain ⟨haccess, -⟩ := Slot.mark_eq_keep_iff _ _ |>.mp hmark
    subst haccess
    obtain ⟨hspecial, hoff⟩ := (hkeep who).mp hmark
    cases who <;> simp_all [FileClass.specialBit, Slot.bit, orphanUserId, orphanGroupId]

lemma toInt_reread_of_forall (h : ∀ s : Slot, s.mark m.perms ≠ .keep) : (c.reread m).toInt =
    Int.lor (Int.land c.toInt (Int.lnot 0o6777)) (Int.land m.toInt 0o6777) := by
  apply Bits.eq_of_testBit_slots
  · intro s
    have hmask : (0o6777 : ℤ).testBit s.bit = true := by
      rcases s with ⟨_ | _ | _, _ | _ | _⟩ <;> rfl
    rw [testBit_reread_bit, if_neg (h s)]
    simp [Int.testBit_lor, Int.testBit_land, Int.testBit_lnot, hmask]
  · intro k
    obtain ⟨-, huser, hgroup⟩ := (forall_mark_ne_keep_iff m).mp h
    have hmask : (0o6777 : ℤ).testBit k.specialBit = decide (k ≠ .other) := by
      cases k <;> rfl
    rw [testBit_reread_specialBit, Int.testBit_lor, Int.testBit_land, Int.testBit_land,
      Int.testBit_lnot, hmask]
    cases k <;> simp_all [FileClass.specialBit, Slot.bit, orphanUserId, orphanGroupId]
  · intro i hi
    have hmask : (0o6777 : ℤ).testBit i = false := BitVec.getLsbD_of_ge (0o6777 : Perms) i hi
    rw [testBit_reread_high _ _ hi]
    simp [Int.testBit_lor, Int.testBit_land, Int.testBit_lnot, hmask]

lemma change_render_lenient : c.change {} m.render = .ok (c.reread m) := by
  rw [change_render, m.perms.parse_glyphs_lenient]
  rfl

lemma change_render_strict : c.change ⟨true⟩ m.render =
    if m.toInt.testBit 9 = false ∧ orphanUserId m.toInt = false ∧ orphanGroupId m.toInt = false then
      .ok (c.reread m)
    else .error .badSlots := by
  rw [change_render]
  split
  · next h =>
    rw [Perms.parse_glyphs_strict (m.forall_mark_ne_keep_iff.mpr h)]
    rfl
  · next h =>
    obtain ⟨s, hs⟩ := not_forall_not.mp (mt m.forall_mark_ne_keep_iff.mp h)
    rw [Perms.parse_glyphs_strict_of_keep hs]
    rfl

end Mode

theorem change_render_rereads (m c : ℤ) :
    (∃ r, (Mode.ofInt c).change {} (Mode.ofInt m).render = .ok (Mode.ofInt r) ∧
      Rereads m c r) ∧
    (∃ r, (Mode.ofInt m).change {} (Mode.ofInt m).render = .ok (Mode.ofInt r) ∧
      r = Int.land m (Int.lnot (orphans m)) ∧
      (r = m ↔ orphanUserId m = false ∧ orphanGroupId m = false)) ∧
    (Mode.ofInt c).change ⟨true⟩ (Mode.ofInt m).render =
      if m.testBit 9 = false ∧ orphanUserId m = false ∧ orphanGroupId m = false then
        .ok (Mode.ofInt (Int.lor (Int.land c (Int.lnot 0o6777)) (Int.land m 0o6777)))
      else .error .badSlots := by
  obtain ⟨m, rfl⟩ : ∃ m' : Mode, m'.toInt = m := ⟨.ofInt m, Mode.toInt_ofInt m⟩
  obtain ⟨c, rfl⟩ : ∃ c' : Mode, c'.toInt = c := ⟨.ofInt c, Mode.toInt_ofInt c⟩
  rw [Mode.ofInt_toInt, Mode.ofInt_toInt]
  refine ⟨⟨_, ?_, c.rereads m⟩, ⟨_, ?_, rfl, land_lnot_orphans_eq_iff m.toInt⟩, ?_⟩
  · rw [Mode.change_render_lenient, Mode.ofInt_toInt]
  · rw [Mode.change_render_lenient, ← Mode.toInt_reread_self, Mode.ofInt_toInt]
  · rw [Mode.change_render_strict]
    split
    · next h =>
      rw [← c.toInt_reread_of_forall m (m.forall_mark_ne_keep_iff.mpr h), Mode.ofInt_toInt]
    · rfl

end FileMode
