import FileMode.Proofs.SlotBits
import Mathlib.Data.List.Forall2

namespace FileMode

namespace Slot

def choices (s : Slot) : List Char :=
  if s.access = .execute then [s.letter, '-', s.who.specialLetter, s.who.specialLetter.toUpper]
  else [s.letter, '-']

def isOn (c : Char) : Bool := c ∉ ['-', 'S', 'T']

def isSpecial (c : Char) : Bool := c ∈ ['s', 'S', 't', 'T']

lemma shown_mem_choices (s : Slot) (on special : Bool) : s.shown on special ∈ s.choices := by
  rcases s with ⟨_ | _ | _, _ | _ | _⟩ <;> cases on <;> cases special <;> decide

lemma isOn_shown (s : Slot) (on special : Bool) : isOn (s.shown on special) = on := by
  rcases s with ⟨_ | _ | _, _ | _ | _⟩ <;> cases on <;> cases special <;> rfl

lemma isSpecial_shown (k : FileClass) (on special : Bool) :
    isSpecial (shown ⟨k, .execute⟩ on special) = special := by
  cases k <;> cases on <;> cases special <;> rfl

lemma shown_of_mem_choices {s : Slot} {c : Char} (hc : c ∈ s.choices) :
    s.shown (isOn c) (isSpecial c) = c := by
  obtain ⟨who, access⟩ := s
  by_cases hexecute : access = .execute
  · subst hexecute
    obtain rfl | rfl | rfl | rfl : c = 'x' ∨ c = '-' ∨ c = who.specialLetter ∨
        c = who.specialLetter.toUpper := by simpa [choices, letter, Access.letter] using hc
    all_goals cases who <;> rfl
  · obtain rfl | rfl : c = access.letter ∨ c = '-' := by simpa [choices, hexecute, letter] using hc
    all_goals cases access <;> rfl

end Slot

namespace Perms

lemma glyphs_injective {p q : Perms} (h : p.glyphs = q.glyphs) : p = q := by
  have hslots : ∀ s : Slot, s.shown (p.getLsbD s.bit) (p.getLsbD s.who.specialBit) =
      s.shown (q.getLsbD s.bit) (q.getLsbD s.who.specialBit) := by
    intro s
    rw [← Slot.glyph_eq_shown, ← Slot.glyph_eq_shown]
    exact List.map_inj_left.mp h s s.mem_all
  apply eq_of_getLsbD_slots
  · intro s
    have hon := congrArg Slot.isOn (hslots s)
    rwa [Slot.isOn_shown, Slot.isOn_shown] at hon
  · intro k
    have hspecial := congrArg Slot.isSpecial (hslots ⟨k, .execute⟩)
    rwa [Slot.isSpecial_shown, Slot.isSpecial_shown] at hspecial

def ofSlots (on : Slot → Bool) (special : FileClass → Bool) : Perms :=
  (BitVec.ofBoolListLE (Slot.all.reverse.map on ++ FileClass.all.reverse.map special)).setWidth 12

lemma getLsbD_ofSlots_bit (on : Slot → Bool) (special : FileClass → Bool) (s : Slot) :
    (ofSlots on special).getLsbD s.bit = on s := by
  rw [ofSlots, BitVec.getLsbD_setWidth, BitVec.getLsbD_ofBoolListLE]
  rcases s with ⟨_ | _ | _, _ | _ | _⟩ <;> rfl

lemma getLsbD_ofSlots_specialBit (on : Slot → Bool) (special : FileClass → Bool) (k : FileClass) :
    (ofSlots on special).getLsbD k.specialBit = special k := by
  rw [ofSlots, BitVec.getLsbD_setWidth, BitVec.getLsbD_ofBoolListLE]
  cases k <;> rfl

lemma exists_glyphs {f : Slot → Char} (h : ∀ s, f s ∈ s.choices) :
    ∃ p : Perms, p.glyphs = Slot.all.map f := by
  refine ⟨ofSlots (fun s => Slot.isOn (f s)) (fun k => Slot.isSpecial (f ⟨k, .execute⟩)), ?_⟩
  refine List.map_congr_left fun s _ => ?_
  have hshown := Slot.shown_of_mem_choices (h s)
  rw [Slot.glyph_eq_shown, getLsbD_ofSlots_bit, getLsbD_ofSlots_specialBit]
  obtain ⟨who, access⟩ := s
  by_cases hexecute : access = .execute
  · subst hexecute
    exact hshown
  · -- the special bit of the class shows in another slot
    exact (Slot.shown_of_ne_execute hexecute _ _ _).trans hshown

lemma exists_glyphs_iff (cs : List Char) :
    (∃ p : Perms, p.glyphs = cs) ↔ List.Forall₂ (· ∈ ·) cs (Slot.all.map Slot.choices) := by
  rw [List.forall₂_map_right_iff]
  refine ⟨?_, ?_⟩
  · rintro ⟨p, rfl⟩
    rw [glyphs, List.forall₂_map_left_iff]
    refine List.forall₂_same.mpr fun s _ => ?_
    rw [Slot.glyph_eq_shown]
    exact s.shown_mem_choices _ _
  · intro h
    obtain ⟨f, rfl⟩ := Slot.exists_map_all (h.length_eq.trans Slot.length_all)
    rw [List.forall₂_map_left_iff] at h
    exact exists_glyphs fun s => List.forall₂_same.mp h s s.mem_all

end Perms

namespace FileType

lemma name_injective {t u : FileType} (h : t.name = u.name) : t = u := by
  revert h
  cases t <;> cases u <;> decide

lemma code_of_ofCode? {c : BitVec 4} {t : FileType} (h : ofCode? c = some t) : t.code = c := by
  have hfound := List.find?_some h
  simpa using hfound

end FileType

namespace Mode

variable {m m' : Mode}

lemma render_eq_iff : m.render = m'.render ↔ m.perms = m'.perms := by
  refine ⟨fun h => Perms.glyphs_injective ?_, fun h => congrArg Perms.render h⟩
  rw [← Perms.toList_render, ← Perms.toList_render]
  exact congrArg String.toList h

lemma perms_eq_iff : m.perms = m'.perms ↔
    Int.land m.toInt 0o7777 = Int.land m'.toInt 0o7777 := by
  rw [← Bits.toNat_perms, ← Bits.toNat_perms, Int.natCast_inj, BitVec.toNat_inj]

lemma exists_fileType (h : m.typeName ≠ "?") : ∃ t, m.fileType? = some t ∧ m.typeName = t.name := by
  rw [typeName] at h ⊢
  cases htype : m.fileType? with
  | none => simp [htype] at h
  | some t => exact ⟨t, rfl, rfl⟩

lemma fileType?_eq_of_typeName (hknown : m.typeName ≠ "?") (h : m.typeName = m'.typeName) :
    m.fileType? = m'.fileType? := by
  obtain ⟨t, htype, hname⟩ := exists_fileType hknown
  obtain ⟨u, htype', hname'⟩ := exists_fileType (h ▸ hknown)
  rw [htype, htype', FileType.name_injective (hname.symm.trans (h.trans hname'))]

lemma high_emod_eq (hknown : m.typeName ≠ "?") (h : m.typeName = m'.typeName) :
    m.high % 16 = m'.high % 16 := by
  obtain ⟨t, htype, -⟩ := exists_fileType hknown
  have hcode := FileType.code_of_ofCode? htype
  rw [fileType?_eq_of_typeName hknown h] at htype
  have hcode' := FileType.code_of_ofCode? htype
  have hnat := congrArg BitVec.toNat (hcode.symm.trans hcode')
  rw [BitVec.toNat_ofInt, BitVec.toNat_ofInt] at hnat
  omega

end Mode

theorem render_bijective :
    (∀ a b : ℤ, (Mode.ofInt a).render = (Mode.ofInt b).render ↔
      Int.land a 0o7777 = Int.land b 0o7777) ∧
    (∀ s : String, (∃ a : ℤ, (Mode.ofInt a).render = s) ↔ List.Forall₂ (· ∈ ·) s.toList
      [['r', '-'], ['w', '-'], ['x', '-', 's', 'S'], ['r', '-'], ['w', '-'], ['x', '-', 's', 'S'],
        ['r', '-'], ['w', '-'], ['x', '-', 't', 'T']]) ∧
    ∀ a b : ℤ, (Mode.ofInt a).typeName ≠ "?" → (Mode.ofInt a).render = (Mode.ofInt b).render →
      (Mode.ofInt a).typeName = (Mode.ofInt b).typeName → a % 2 ^ 16 = b % 2 ^ 16 := by
  refine ⟨?_, ?_, ?_⟩
  · intro a b
    rw [Mode.render_eq_iff, Mode.perms_eq_iff, Mode.toInt_ofInt, Mode.toInt_ofInt]
  · intro s
    refine Iff.trans ⟨?_, ?_⟩ (Perms.exists_glyphs_iff s.toList)
    · rintro ⟨a, rfl⟩
      exact ⟨(Mode.ofInt a).perms, (Perms.toList_render _).symm⟩
    · rintro ⟨p, hp⟩
      refine ⟨(Mode.ofPerms p).toInt, ?_⟩
      rw [Mode.ofInt_toInt]
      exact String.toList_inj.mp ((Perms.toList_render p).trans hp)
  · intro a b hknown hrender htype
    have hperms := congrArg BitVec.toNat (Mode.render_eq_iff.mp hrender)
    have hhigh := Mode.high_emod_eq hknown htype
    rw [← Mode.toInt_ofInt a, ← Mode.toInt_ofInt b, Mode.toInt, Mode.toInt, hperms]
    omega

theorem render_bijective_negative :
    Int.land 0o101644 0o7777 = Int.land (-0o1076134) 0o7777 ∧
      (∃ a : ℤ, (Mode.ofInt a).render = "rwSr-s--T") ∧
      ((Mode.ofInt 0o101644).typeName = "regular" ∧
        (0o101644 : ℤ) % 2 ^ 16 = -0o1076134 % 2 ^ 16) := by
  have hrender : (Mode.ofInt 0o101644).render = (Mode.ofInt (-0o1076134)).render := by decide
  exact ⟨(render_bijective.1 _ _).mp hrender, (render_bijective.2.1 _).mpr (by decide), by decide,
    render_bijective.2.2 _ _ (by decide) hrender (by decide)⟩

end FileMode
