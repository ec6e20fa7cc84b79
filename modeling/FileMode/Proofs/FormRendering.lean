import FileMode.Proofs.Reread

/-! A form that is read strictly is rendered as it was written, but for the letters of the sticky
bit, which the form does not touch. What the form writes is the same for every mode, and no two
forms write the same. -/

namespace FileMode

/-- The texts differ in the ninth character, which the second one has for the sticky bit. -/
def StickyShown (cs ds : List Char) : Prop := ∃ front : List Char, front.length = 8 ∧
  (cs = front ++ ['x'] ∧ ds = front ++ ['t'] ∨ cs = front ++ ['-'] ∧ ds = front ++ ['T'])

lemma StickyShown.left_unique {cs cs' ds : List Char} (h : StickyShown cs ds)
    (h' : StickyShown cs' ds) : cs = cs' := by
  obtain ⟨front, -, ⟨rfl, rfl⟩ | ⟨rfl, rfl⟩⟩ := h
  · obtain ⟨front', -, ⟨rfl, hds⟩ | ⟨rfl, hds⟩⟩ := h'
    · rw [List.append_cancel_right hds]
    · simp at hds
  · obtain ⟨front', -, ⟨rfl, hds⟩ | ⟨rfl, hds⟩⟩ := h'
    · simp at hds
    · rw [List.append_cancel_right hds]

namespace Slot

def last : Slot := ⟨.other, .execute⟩

lemma glyph_of_read {s : Slot} {c : Char} {m : Mark} {p : Perms}
    (h : Mark.read true s c = .ok m) (hbit : p.getLsbD s.bit = m.value?.getD false)
    (hspecial : s.access = .execute → p.getLsbD s.who.specialBit = m.isSetId) : s.glyph p = c := by
  rw [glyph_eq_shown, shown, hbit]
  rcases Mark.read_cases h with ⟨rfl, rfl⟩ | ⟨rfl, rfl⟩ | ⟨rfl, b, hset, rfl⟩ | ⟨hstrict, -⟩
  · rw [if_neg fun hs => by simp [hspecial hs.1, Mark.isSetId] at hs]
    rfl
  · rw [if_neg fun hs => by simp [hspecial hs.1, Mark.isSetId] at hs]
    rfl
  · obtain ⟨haccess, hwho, -⟩ := setId?_eq_some_iff.mp hset
    rw [if_pos ⟨haccess, hspecial haccess⟩]
    cases hk : s.who with
    | other => exact (hwho hk).elim
    | _ => rfl
  · cases hstrict

lemma glyph_congr {p q : Perms} {s : Slot} (hbit : p.getLsbD s.bit = q.getLsbD s.bit)
    (hspecial : s.access = .execute →
      p.getLsbD s.who.specialBit = q.getLsbD s.who.specialBit) : s.glyph p = s.glyph q := by
  rw [glyph_eq_shown, glyph_eq_shown, hbit]
  by_cases haccess : s.access = .execute
  · rw [hspecial haccess]
  · exact shown_of_ne_execute haccess _ _ _

end Slot

lemma Mark.Fits.isSetId_eq_false {s : Slot} {m : Mark} (h : m.Fits s) (hwho : s.who = .other) :
    m.isSetId = false := by
  cases m with
  | setId b => exact ((Slot.setId?_eq_some_iff.mp (h b rfl)).2.1 hwho).elim
  | _ => rfl

namespace Marks

variable {f : Slot → Char} {g : Slot → Mark}

lemma glyphs_full (h : ∀ s, Mark.read true s (f s) = .ok (g s)) :
    (Edit.applyAll (full g).edits 0#12).glyphs = Slot.all.map f := by
  have hfits := fun s => Mark.read_fits (h s)
  refine List.map_congr_left fun s _ => Slot.glyph_of_read (h s) ?_ ?_
  · rw [getLsbD_full_bit hfits, BitVec.getLsbD_zero]
  · obtain ⟨who, access⟩ := s
    rintro rfl
    rw [getLsbD_full_specialBit hfits]
    split
    · next hwho => rw [(hfits _).isSetId_eq_false hwho, BitVec.getLsbD_zero]
    · rfl

end Marks

namespace Mode

variable {c m : Mode} {s : String}

lemma exists_render_of_strict (hform : Spec.form s.toList = .positional)
    (h : c.change ⟨true⟩ s = .ok m) : ∃ m₀ : Mode, m₀.render = s ∧
      (∀ t : Slot, t.mark m₀.perms ≠ .keep) ∧
      ∀ c' : Mode, c'.change ⟨true⟩ s = .ok (c'.reread m₀) := by
  have hparse := h
  rw [change_of_positional _ _ hform, Traversal.map_eq_ok_iff] at hparse
  obtain ⟨ms, hparse, -⟩ := hparse
  obtain ⟨f, g, hf, hg⟩ := Marks.exists_read_of_strict hparse
  let m₀ := ofPerms (Edit.applyAll (Marks.full g).edits 0#12)
  have hrender : m₀.render = s := by
    apply String.toList_inj.mp
    rw [← hf, ← Marks.glyphs_full hg]
    exact Perms.toList_render _
  have hreadable : m₀.toInt.testBit 9 = false ∧ orphanUserId m₀.toInt = false ∧
      orphanGroupId m₀.toInt = false := by
    by_contra horphan
    rw [← hrender, change_render_strict, if_neg horphan] at h
    cases h
  refine ⟨m₀, hrender, m₀.forall_mark_ne_keep_iff.mpr hreadable, ?_⟩
  intro c'
  rw [← hrender, change_render_strict, if_pos hreadable]

section

variable (h : ∀ s : Slot, s.mark m.perms ≠ .keep)

include h

lemma getLsbD_reread_bit (c : Mode) (s : Slot) :
    (c.reread m).perms.getLsbD s.bit = m.perms.getLsbD s.bit := by
  rw [Bits.getLsbD_perms _ s.bit_lt_width, testBit_reread_bit, if_neg (h s),
    Bits.getLsbD_perms _ s.bit_lt_width]

lemma getLsbD_reread_specialBit (c : Mode) {k : FileClass} (hk : k ≠ .other) :
    (c.reread m).perms.getLsbD k.specialBit = m.perms.getLsbD k.specialBit := by
  have hlt := k.specialBit_bounds.2
  rw [Bits.getLsbD_perms _ hlt, testBit_reread_specialBit, if_neg hk, Bits.getLsbD_perms _ hlt]
  -- with no orphan the bit comes with the execution of its class
  have hkeep := mt (Slot.mark_eq_keep_iff m.perms ⟨k, .execute⟩).mpr (h _)
  rw [Bits.getLsbD_perms _ hlt, Bits.getLsbD_perms _ (Slot.bit_lt_width _)] at hkeep
  cases hspecial : m.toInt.testBit k.specialBit <;>
    cases hbit : m.toInt.testBit (Slot.bit ⟨k, .execute⟩) <;> simp_all

lemma getLsbD_sticky : m.perms.getLsbD FileClass.other.specialBit = false := by
  have hkeep := mt (Slot.mark_eq_keep_iff m.perms Slot.last).mpr (h _)
  simpa [Slot.last] using hkeep

lemma glyph_reread {s : Slot} (hs : s ≠ Slot.last) :
    s.glyph (c.reread m).perms = s.glyph m.perms := by
  refine Slot.glyph_congr (getLsbD_reread_bit h c s) fun haccess => ?_
  apply getLsbD_reread_specialBit h
  intro hwho
  obtain ⟨who, access⟩ := s
  exact hs (by rw [Slot.last, ← hwho, ← haccess])

lemma glyph_last_reread : Slot.last.glyph (c.reread m).perms =
    if c.toInt.testBit 9 then (if m.perms.getLsbD Slot.last.bit then 't' else 'T')
    else if m.perms.getLsbD Slot.last.bit then 'x' else '-' := by
  have hsticky : (c.reread m).perms.getLsbD FileClass.other.specialBit = c.toInt.testBit 9 := by
    rw [Bits.getLsbD_perms _ FileClass.other.specialBit_bounds.2]
    exact c.testBit_reread_specialBit m .other
  have hbit := getLsbD_reread_bit h c Slot.last
  rw [Slot.glyph_eq_shown, hbit]
  change Slot.last.shown _ ((c.reread m).perms.getLsbD FileClass.other.specialBit) = _
  rw [hsticky]
  cases c.toInt.testBit 9 <;> rfl

lemma glyph_last : Slot.last.glyph m.perms =
    if m.perms.getLsbD Slot.last.bit then 'x' else '-' := by
  have hsticky := getLsbD_sticky h
  rw [Slot.glyph_eq_shown]
  change Slot.last.shown _ (m.perms.getLsbD FileClass.other.specialBit) = _
  rw [hsticky, Slot.shown_false]
  rfl

lemma render_reread (hsticky : c.toInt.testBit 9 = false) : (c.reread m).render = m.render := by
  apply congrArg String.ofList
  refine List.map_congr_left fun s _ => ?_
  by_cases hs : s = Slot.last
  · rw [hs, glyph_last_reread h, glyph_last h, hsticky]
    rfl
  · exact glyph_reread h hs

lemma render_reread_sticky (hsticky : c.toInt.testBit 9 = true) :
    StickyShown m.render.toList (c.reread m).render.toList := by
  have hfront : Slot.all.dropLast.map (Slot.glyph (c.reread m).perms) =
      Slot.all.dropLast.map (Slot.glyph m.perms) := by
    refine List.map_congr_left fun s hs => glyph_reread h ?_
    rintro rfl
    revert hs
    decide
  have hsplit (m : Mode) : m.render.toList =
      Slot.all.dropLast.map (Slot.glyph m.perms) ++ [Slot.last.glyph m.perms] :=
    m.perms.toList_render
  rw [hsplit, hsplit, hfront, glyph_last_reread h, glyph_last h, hsticky]
  refine ⟨Slot.all.dropLast.map (Slot.glyph m.perms), rfl, ?_⟩
  cases m.perms.getLsbD Slot.last.bit with
  | true => exact Or.inl ⟨rfl, rfl⟩
  | false => exact Or.inr ⟨rfl, rfl⟩

end

def formValue (s : String) : ℤ := ((ofInt 0).change ⟨true⟩ s).toOption.elim 0 toInt

section

variable (hform : Spec.form s.toList = .positional)

include hform

lemma render_change_strict (h : c.change ⟨true⟩ s = .ok m) :
    (c.toInt.testBit 9 = false → m.render = s) ∧
      (c.toInt.testBit 9 = true → StickyShown s.toList m.render.toList) := by
  obtain ⟨m₀, rfl, hreadable, hall⟩ := exists_render_of_strict hform h
  obtain rfl := Except.ok.inj ((hall c).symm.trans h)
  exact ⟨render_reread hreadable, render_reread_sticky hreadable⟩

lemma change_strict_eq (h : c.change ⟨true⟩ s = .ok m) : Bits.Included (formValue s) 0o6777 ∧
    ∀ n : ℤ, (ofInt n).change ⟨true⟩ s =
      .ok (.ofInt (Int.lor (Int.land n (Int.lnot 0o6777)) (formValue s))) := by
  obtain ⟨m₀, rfl, hreadable, hall⟩ := exists_render_of_strict hform h
  have hwritten (n : ℤ) : ((ofInt n).reread m₀).toInt =
      Int.lor (Int.land n (Int.lnot 0o6777)) (Int.land m₀.toInt 0o6777) := by
    rw [toInt_reread_of_forall _ _ hreadable, toInt_ofInt]
  have hvalue : formValue m₀.render = Int.land m₀.toInt 0o6777 := by
    rw [formValue, hall]
    apply (hwritten 0).trans
    apply Bits.eq_of_testBit_eq
    intro i
    simp [Int.testBit_lor, Int.testBit_land, Bits.testBit_zero]
  refine ⟨?_, fun n => ?_⟩
  · rw [hvalue, Bits.included_iff]
    intro i hi
    rw [Int.testBit_land, Bool.and_eq_true] at hi
    exact hi.2
  · rw [hall, hvalue, ← hwritten, ofInt_toInt]

lemma eq_of_change_strict {t : String} (hform' : Spec.form t.toList = .positional)
    (hs : c.change ⟨true⟩ s = .ok m) (ht : c.change ⟨true⟩ t = .ok m) : s = t := by
  obtain ⟨hclear, hset⟩ := render_change_strict hform hs
  obtain ⟨hclear', hset'⟩ := render_change_strict hform' ht
  cases hsticky : c.toInt.testBit 9 with
  | false => rw [← hclear hsticky, ← hclear' hsticky]
  | true => exact String.toList_inj.mp ((hset hsticky).left_unique (hset' hsticky))

end

end Mode

theorem change_strict_renders :
    (∀ (c : ℤ) (s : String) (m : Mode), Spec.form s.toList = .positional →
      (Mode.ofInt c).change ⟨true⟩ s = .ok m →
        (c.testBit 9 = false → m.render = s) ∧
        (c.testBit 9 = true → StickyShown s.toList m.render.toList)) ∧
    (∀ (c : ℤ) (s : String) (m : Mode), Spec.form s.toList = .positional →
      (Mode.ofInt c).change ⟨true⟩ s = .ok m → Bits.Included (Mode.formValue s) 0o6777 ∧
        m.toInt = Int.lor (Int.land c (Int.lnot 0o6777)) (Mode.formValue s)) ∧
    ∀ (c : ℤ) (s t : String) (m : Mode), Spec.form s.toList = .positional →
      Spec.form t.toList = .positional → (Mode.ofInt c).change ⟨true⟩ s = .ok m →
      (Mode.ofInt c).change ⟨true⟩ t = .ok m → s = t := by
  refine ⟨?_, ?_, fun _ _ _ _ hs ht => Mode.eq_of_change_strict hs ht⟩
  · intro c s m hform h
    have hrendered := Mode.render_change_strict hform h
    rwa [Mode.toInt_ofInt] at hrendered
  · intro c s m hform h
    obtain ⟨hwithin, hall⟩ := Mode.change_strict_eq hform h
    obtain rfl := Except.ok.inj ((hall c).symm.trans h)
    exact ⟨hwithin, Mode.toInt_ofInt _⟩

theorem change_strict_renders_sticky :
    (Spec.form "rwsr-x--x".toList = .positional ∧
      (Mode.ofInt 0o2666).change ⟨true⟩ "rwsr-x--x" = .ok (.ofInt 0o4751) ∧
      (Mode.ofInt 0o4751).render = "rwsr-x--x") ∧
    ((Mode.ofInt (-1)).change ⟨true⟩ "rwsr-x--x" = .ok (.ofInt (-0o2027)) ∧
      StickyShown "rwsr-x--x".toList (Mode.ofInt (-0o2027)).render.toList) ∧
    (Bits.Included (Mode.formValue "rwsr-x--x") 0o6777 ∧ (Mode.ofInt (-0o2027)).toInt =
      Int.lor (Int.land (-1) (Int.lnot 0o6777)) (Mode.formValue "rwsr-x--x")) ∧
    (Mode.ofInt (-1)).change ⟨true⟩ "rwxr-x--x" ≠ (Mode.ofInt (-1)).change ⟨true⟩ "rwsr-x--x" := by
  obtain ⟨hrendered, hvalue, hinjective⟩ := change_strict_renders
  have hform : Spec.form "rwsr-x--x".toList = .positional := by decide
  have hclear : (Mode.ofInt 0o2666).change ⟨true⟩ "rwsr-x--x" = .ok (.ofInt 0o4751) := by decide
  have hset : (Mode.ofInt (-1)).change ⟨true⟩ "rwsr-x--x" = .ok (.ofInt (-0o2027)) := by decide
  refine ⟨⟨hform, hclear, (hrendered _ _ _ hform hclear).1 (by decide)⟩,
    ⟨hset, (hrendered _ _ _ hform hset).2 (by decide)⟩, hvalue _ _ _ hform hset, ?_⟩
  intro heq
  have hsame := hinjective _ _ "rwxr-x--x" _ hform (by decide) hset (heq.trans hset)
  revert hsame
  decide

end FileMode
