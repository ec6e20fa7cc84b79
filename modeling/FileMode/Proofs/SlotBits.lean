import FileMode.Proofs.Bits
import FileMode.Proofs.Slots
import FileMode.Proofs.Traversal

namespace FileMode

lemma Edit.getLsbD_clear_apply (bits p : Perms) {i : ℕ} (hi : i < 12) :
    ((clear bits).apply p).getLsbD i = (p.getLsbD i && !bits.getLsbD i) := by
  rw [getLsbD_apply _ _ _ hi]
  simp [clear]

namespace Perms

lemma toList_render (p : Perms) : p.render.toList = p.glyphs := by
  simp [render]

lemma and_twoPow_ne_zero (p : Perms) {i : ℕ} (hi : i < 12) :
    (p &&& BitVec.twoPow 12 i != 0) = p.getLsbD i := by
  have hpow : BitVec.twoPow 12 i ≠ 0 := by
    intro h
    have hbit := congrArg (BitVec.getLsbD · i) h
    simp [hi] at hbit
  rw [BitVec.and_twoPow]
  cases p.getLsbD i with
  | true => simpa using hpow
  | false => rfl

end Perms

namespace FileClass

def specialBit : FileClass → ℕ
  | owner => 11
  | group => 10
  | other => 9

lemma special_eq_twoPow (k : FileClass) : k.special = BitVec.twoPow 12 k.specialBit := by
  cases k <;> rfl

lemma specialBit_bounds (k : FileClass) : 9 ≤ k.specialBit ∧ k.specialBit < 12 := by
  cases k <;> decide

lemma specialBit_injective {k l : FileClass} (h : k.specialBit = l.specialBit) : k = l := by
  cases k <;> cases l <;> first | rfl | cases h

lemma getLsbD_special (k : FileClass) (i : ℕ) :
    k.special.getLsbD i = decide (i = k.specialBit) := by
  have hlt := k.specialBit_bounds.2
  rw [special_eq_twoPow, BitVec.getLsbD_twoPow]
  simp [hlt, eq_comm]

lemma has_special (p : Perms) (k : FileClass) : p.has k.special = p.getLsbD k.specialBit := by
  rw [Perms.has, special_eq_twoPow, Perms.and_twoPow_ne_zero p k.specialBit_bounds.2]

lemma getLsbD_setIds (k : FileClass) :
    Perms.setIds.getLsbD k.specialBit = decide (k ≠ .other) := by
  cases k <;> decide

end FileClass

namespace Slot

def bit : Slot → ℕ
  | ⟨.owner, .read⟩ => 8
  | ⟨.owner, .write⟩ => 7
  | ⟨.owner, .execute⟩ => 6
  | ⟨.group, .read⟩ => 5
  | ⟨.group, .write⟩ => 4
  | ⟨.group, .execute⟩ => 3
  | ⟨.other, .read⟩ => 2
  | ⟨.other, .write⟩ => 1
  | ⟨.other, .execute⟩ => 0

lemma mask_eq_twoPow (s : Slot) : s.mask = BitVec.twoPow 12 s.bit := by
  rcases s with ⟨_ | _ | _, _ | _ | _⟩ <;> rfl

lemma bit_lt (s : Slot) : s.bit < 9 := by
  rcases s with ⟨_ | _ | _, _ | _ | _⟩ <;> decide

lemma bit_lt_width (s : Slot) : s.bit < 12 := Nat.lt_trans s.bit_lt (by decide)

lemma exists_bit_eq {i : ℕ} (hi : i < 9) : ∃ s : Slot, s.bit = i := by
  have hall : ∀ j : Fin 9, ∃ s ∈ all, s.bit = j.val := by decide
  obtain ⟨s, _, hs⟩ := hall ⟨i, hi⟩
  exact ⟨s, hs⟩

lemma bit_injective {s t : Slot} (h : s.bit = t.bit) : s = t := by
  have hall : ∀ s ∈ all, ∀ t ∈ all, s.bit = t.bit → s = t := by decide
  exact hall s (mem_all s) t (mem_all t) h

lemma bit_ne_specialBit (s : Slot) (k : FileClass) : s.bit ≠ k.specialBit := by
  have hs := s.bit_lt
  have hk := k.specialBit_bounds.1
  omega

lemma exists_map_all {cs : List Char} (h : cs.length = 9) : ∃ f : Slot → Char, all.map f = cs := by
  refine ⟨fun s => cs.getD (all.idxOf s) '-', ?_⟩
  apply List.ext_getElem
  · rw [List.length_map, length_all, h]
  · intro i hi hi'
    have hnodup : all.Nodup := by decide
    rw [List.getElem_map, hnodup.idxOf_getElem, List.getD_eq_getElem _ _ hi']

lemma getLsbD_mask (s : Slot) (i : ℕ) : s.mask.getLsbD i = decide (i = s.bit) := by
  have hlt := s.bit_lt_width
  rw [mask_eq_twoPow, BitVec.getLsbD_twoPow]
  simp [hlt, eq_comm]

lemma has_mask (p : Perms) (s : Slot) : p.has s.mask = p.getLsbD s.bit := by
  rw [Perms.has, mask_eq_twoPow, Perms.and_twoPow_ne_zero p s.bit_lt_width]

def shown (s : Slot) (on special : Bool) : Char :=
  if s.access = .execute ∧ special then
    if on then s.who.specialLetter else s.who.specialLetter.toUpper
  else if on then s.letter else '-'

lemma glyph_eq_shown (p : Perms) (s : Slot) :
    s.glyph p = s.shown (p.getLsbD s.bit) (p.getLsbD s.who.specialBit) := by
  rw [glyph, FileClass.has_special, has_mask, shown]

lemma shown_false (s : Slot) (on : Bool) : s.shown on false = if on then s.letter else '-' := by
  rw [shown, if_neg (by simp)]

lemma shown_of_ne_execute {s : Slot} (hs : s.access ≠ .execute) (on special special' : Bool) :
    s.shown on special = s.shown on special' := by
  simp only [shown, hs, false_and]

lemma getLsbD_setIds (s : Slot) : Perms.setIds.getLsbD s.bit = false := by
  rcases s with ⟨_ | _ | _, _ | _ | _⟩ <;> decide

lemma setId?_eq_some_iff {s : Slot} {b : Perms} :
    s.setId? = some b ↔ s.access = .execute ∧ s.who ≠ .other ∧ b = s.who.special := by
  rcases s with ⟨_ | _ | _, _ | _ | _⟩ <;> simp [setId?, eq_comm]

end Slot

lemma exists_bit_or_specialBit {i : ℕ} (hi : i < 12) :
    (∃ s : Slot, s.bit = i) ∨ ∃ k : FileClass, k.specialBit = i := by
  by_cases hlow : i < 9
  · exact Or.inl (Slot.exists_bit_eq hlow)
  obtain rfl | rfl | rfl : i = 11 ∨ i = 10 ∨ i = 9 := by omega
  · exact Or.inr ⟨.owner, rfl⟩
  · exact Or.inr ⟨.group, rfl⟩
  · exact Or.inr ⟨.other, rfl⟩

lemma Perms.eq_of_getLsbD_slots {p q : Perms}
    (hslot : ∀ s : Slot, p.getLsbD s.bit = q.getLsbD s.bit)
    (hspecial : ∀ k : FileClass, p.getLsbD k.specialBit = q.getLsbD k.specialBit) : p = q := by
  apply BitVec.eq_of_getLsbD_eq
  intro i hi
  rcases exists_bit_or_specialBit hi with ⟨s, rfl⟩ | ⟨k, rfl⟩
  · exact hslot s
  · exact hspecial k

lemma Bits.eq_of_testBit_slots {a b : ℤ} (hslot : ∀ s : Slot, a.testBit s.bit = b.testBit s.bit)
    (hspecial : ∀ k : FileClass, a.testBit k.specialBit = b.testBit k.specialBit)
    (hhigh : ∀ i, 12 ≤ i → a.testBit i = b.testBit i) : a = b := by
  apply eq_of_testBit_eq
  intro i
  by_cases hi : i < 12
  · rcases exists_bit_or_specialBit hi with ⟨s, rfl⟩ | ⟨k, rfl⟩
    · exact hslot s
    · exact hspecial k
  · exact hhigh i (by omega)

namespace Mark

/-- The mark may stand in the slot: a set-ID mark has the bit of the slot. -/
def Fits (s : Slot) (m : Mark) : Prop := ∀ b, m = setId b → s.setId? = some b

def value? : Mark → Option Bool
  | on => some true
  | off => some false
  | setId _ => some true
  | keep => none

def isSetId : Mark → Bool
  | setId _ => true
  | _ => false

lemma read_cases {strict : Bool} {s : Slot} {c : Char} {m : Mark} (h : read strict s c = .ok m) :
    (c = s.letter ∧ m = on) ∨ (c = '-' ∧ m = off) ∨
      (c = 's' ∧ ∃ b, s.setId? = some b ∧ m = setId b) ∨ (strict = false ∧ m = keep) := by
  by_cases hdash : c = '-'
  · subst hdash
    rw [read_dash] at h
    exact Or.inr (Or.inl ⟨rfl, (Except.ok.inj h).symm⟩)
  by_cases hletter : c = s.letter
  · subst hletter
    rw [read_letter] at h
    exact Or.inl ⟨rfl, (Except.ok.inj h).symm⟩
  by_cases hs : c = 's'
  · subst hs
    rw [read_s] at h
    cases hset : s.setId? with
    | none => simp [hset] at h
    | some b =>
      rw [hset] at h
      exact Or.inr (Or.inr (Or.inl ⟨rfl, b, rfl, (Except.ok.inj h).symm⟩))
  · rw [read_other strict hletter hdash hs] at h
    cases strict with
    | false => exact Or.inr (Or.inr (Or.inr ⟨rfl, (Except.ok.inj h).symm⟩))
    | true => cases h

lemma read_fits {strict : Bool} {s : Slot} {c : Char} {m : Mark} (h : read strict s c = .ok m) :
    m.Fits s := by
  rintro b rfl
  rcases read_cases h with ⟨_, hm⟩ | ⟨_, hm⟩ | ⟨_, b', hset, hm⟩ | ⟨_, hm⟩
  · cases hm
  · cases hm
  · rw [hset, Mark.setId.inj hm]
  · cases hm

lemma read_of_strict {s : Slot} {c : Char} {m : Mark} (h : read true s c = .ok m) :
    (∀ strict, read strict s c = .ok m) ∧ m.value? = some (decide (c ≠ '-')) ∧
      (if c = 's' then 'x' else c) = if c = '-' then '-' else s.letter := by
  rcases read_cases h with ⟨rfl, rfl⟩ | ⟨rfl, rfl⟩ | ⟨rfl, b, hset, rfl⟩ | ⟨hstrict, _⟩
  · refine ⟨fun strict => read_letter strict s, ?_, ?_⟩
    · simp [value?, s.letter_ne_dash]
    · rw [if_neg s.letter_ne_s, if_neg s.letter_ne_dash]
  · exact ⟨fun strict => read_dash strict s, rfl, rfl⟩
  · obtain ⟨haccess, -, -⟩ := Slot.setId?_eq_some_iff.mp hset
    refine ⟨fun strict => ?_, rfl, ?_⟩
    · rw [read_s, hset]
    · rw [Slot.letter, haccess]
      rfl
  · cases hstrict

variable {s : Slot} {m : Mark}

lemma getLsbD_edit_bit (hfits : m.Fits s) (p : Perms) :
    ((m.edit s).apply p).getLsbD s.bit = m.value?.getD (p.getLsbD s.bit) := by
  rw [Edit.getLsbD_apply _ _ _ s.bit_lt_width]
  cases m <;> simp [edit, value?, Edit.grant, Edit.clear, Edit.keep, Slot.getLsbD_mask]

lemma getLsbD_edit_other_bit (hfits : m.Fits s) {t : Slot} (hne : t ≠ s) (p : Perms) :
    ((m.edit s).apply p).getLsbD t.bit = p.getLsbD t.bit := by
  have hbit : t.bit ≠ s.bit := fun h => hne (Slot.bit_injective h)
  rw [Edit.getLsbD_apply _ _ _ t.bit_lt_width]
  cases m with
  | setId b =>
    obtain ⟨_, _, rfl⟩ := Slot.setId?_eq_some_iff.mp (hfits b rfl)
    simp [edit, Edit.grant, Slot.getLsbD_mask, FileClass.getLsbD_special, hbit,
      t.bit_ne_specialBit]
  | _ => simp [edit, Edit.grant, Edit.clear, Edit.keep, Slot.getLsbD_mask, hbit]

lemma getLsbD_edit_specialBit (hfits : m.Fits s) (k : FileClass) (p : Perms) :
    ((m.edit s).apply p).getLsbD k.specialBit =
      (p.getLsbD k.specialBit || (m.isSetId && decide (s.who = k))) := by
  have hbit : k.specialBit ≠ s.bit := (s.bit_ne_specialBit k).symm
  rw [Edit.getLsbD_apply _ _ _ k.specialBit_bounds.2]
  cases m with
  | setId b =>
    obtain ⟨_, _, rfl⟩ := Slot.setId?_eq_some_iff.mp (hfits b rfl)
    have hwho : k.specialBit = s.who.specialBit ↔ s.who = k :=
      ⟨fun h => (FileClass.specialBit_injective h).symm, fun h => by rw [h]⟩
    simp [edit, Edit.grant, isSetId, Slot.getLsbD_mask, FileClass.getLsbD_special, hbit, hwho]
  | _ => simp [edit, Edit.grant, Edit.clear, Edit.keep, isSetId, Slot.getLsbD_mask, hbit]

end Mark

namespace Marks

variable {ms : Marks}

lemma getLsbD_bit_of_notMem (hfits : ∀ x ∈ ms, x.2.Fits x.1) {s : Slot}
    (hs : s ∉ ms.map Prod.fst) (p : Perms) :
    (Edit.applyAll (ms.map fun x => x.2.edit x.1) p).getLsbD s.bit = p.getLsbD s.bit := by
  induction ms generalizing p with
  | nil => rfl
  | cons x ms ih =>
    obtain ⟨hx, hfits⟩ := List.forall_mem_cons.mp hfits
    obtain ⟨hne, hs⟩ : s ≠ x.1 ∧ s ∉ ms.map Prod.fst := by simpa using hs
    exact (ih hfits hs _).trans (Mark.getLsbD_edit_other_bit hx hne p)

lemma getLsbD_bit_of_mem (hfits : ∀ x ∈ ms, x.2.Fits x.1) (hnodup : (ms.map Prod.fst).Nodup)
    {s : Slot} {m : Mark} (hmem : (s, m) ∈ ms) (p : Perms) :
    (Edit.applyAll (ms.map fun x => x.2.edit x.1) p).getLsbD s.bit =
      m.value?.getD (p.getLsbD s.bit) := by
  induction ms generalizing p with
  | nil => cases hmem
  | cons x ms ih =>
    obtain ⟨hx, hrest⟩ := List.forall_mem_cons.mp hfits
    obtain ⟨hnotMem, hdistinct⟩ := List.nodup_cons.mp hnodup
    rcases List.mem_cons.mp hmem with rfl | hmem
    -- a slot stands once in the row, so that no later mark reaches its bit
    · have hkept := getLsbD_bit_of_notMem hrest hnotMem ((m.edit s).apply p)
      exact hkept.trans (Mark.getLsbD_edit_bit hx p)
    · have hne : s ≠ x.1 := fun h => hnotMem (h ▸ List.mem_map_of_mem (f := Prod.fst) hmem)
      rw [← Mark.getLsbD_edit_other_bit hx hne p]
      exact ih hrest hdistinct hmem _

lemma getLsbD_specialBit (hfits : ∀ x ∈ ms, x.2.Fits x.1) (k : FileClass) (p : Perms) :
    (Edit.applyAll (ms.map fun x => x.2.edit x.1) p).getLsbD k.specialBit =
      (p.getLsbD k.specialBit || ms.any fun x => x.2.isSetId && decide (x.1.who = k)) := by
  induction ms generalizing p with
  | nil => simp [Edit.applyAll]
  | cons x ms ih =>
    obtain ⟨hx, hfits⟩ := List.forall_mem_cons.mp hfits
    rw [List.any_cons, ← Bool.or_assoc, ← Mark.getLsbD_edit_specialBit hx k p]
    exact ih hfits _

def full (g : Slot → Mark) : Marks := Slot.all.map fun s => (s, g s)

lemma applyAll_edits (ms : Marks) (p : Perms) :
    Edit.applyAll ms.edits p =
      Edit.applyAll (ms.map fun x => x.2.edit x.1) ((Edit.clear Perms.setIds).apply p) :=
  rfl

lemma parse_map_all (strict : Bool) (f : Slot → Char) :
    parse strict (Slot.all.map f) =
      Slot.all.mapM fun s => (Mark.read strict s (f s)).map (s, ·) := by
  have hlength : (strict && (Slot.all.map f).length != Slot.all.length) = false := by simp
  have hzip : Slot.all.zip (Slot.all.map f) = Slot.all.map fun s => (s, f s) := rfl
  rw [parse, hlength, hzip, List.mapM_map]
  rfl

lemma parse_map_all_of_read {strict : Bool} {f : Slot → Char} {g : Slot → Mark}
    (h : ∀ s, Mark.read strict s (f s) = .ok (g s)) :
    parse strict (Slot.all.map f) = .ok (full g) := by
  rw [parse_map_all, Traversal.mapM_eq_ok_iff, full, List.forall₂_map_right_iff]
  refine List.forall₂_same.mpr fun s _ => ?_
  rw [h]
  rfl

lemma exists_read_of_parse_map_all {strict : Bool} {f : Slot → Char} {ms : Marks}
    (h : parse strict (Slot.all.map f) = .ok ms) (s : Slot) :
    ∃ m, Mark.read strict s (f s) = .ok m := by
  rw [parse_map_all] at h
  obtain ⟨y, hy⟩ := Traversal.mapM_isOk_iff.mp ⟨ms, h⟩ s s.mem_all
  exact (Traversal.map_isOk_iff (x := Mark.read strict s (f s)) (s, ·)).mp ⟨y, hy⟩

lemma exists_read_of_strict {cs : List Char} {ms : Marks} (h : parse true cs = .ok ms) :
    ∃ (f : Slot → Char) (g : Slot → Mark), Slot.all.map f = cs ∧
      ∀ s, Mark.read true s (f s) = .ok (g s) := by
  have hlength : cs.length = 9 := by
    by_contra hne
    simp [parse, Slot.length_all, hne] at h
  obtain ⟨f, rfl⟩ := Slot.exists_map_all hlength
  choose g hg using exists_read_of_parse_map_all h
  exact ⟨f, g, rfl, hg⟩

section

variable {g : Slot → Mark} (hfits : ∀ s, (g s).Fits s)

include hfits

lemma fits_full : ∀ x ∈ full g, x.2.Fits x.1 := by
  intro x hx
  obtain ⟨s, _, rfl⟩ := List.mem_map.mp hx
  exact hfits s

lemma getLsbD_full_bit (s : Slot) (p : Perms) :
    (Edit.applyAll (full g).edits p).getLsbD s.bit = (g s).value?.getD (p.getLsbD s.bit) := by
  have hmem : (s, g s) ∈ full g := List.mem_map.mpr ⟨s, s.mem_all, rfl⟩
  have hnodup : ((full g).map Prod.fst).Nodup := by
    rw [full, List.map_map]
    change (Slot.all.map id).Nodup
    decide
  rw [applyAll_edits, getLsbD_bit_of_mem (fits_full hfits) hnodup hmem,
    Edit.getLsbD_clear_apply _ _ s.bit_lt_width, s.getLsbD_setIds, Bool.not_false, Bool.and_true]

lemma any_isSetId_full {k : FileClass} (hk : k ≠ .other) :
    ((full g).any fun x => x.2.isSetId && decide (x.1.who = k)) = (g ⟨k, .execute⟩).isSetId := by
  rw [Bool.eq_iff_iff, List.any_eq_true]
  refine ⟨?_, ?_⟩
  · rintro ⟨x, hx, hany⟩
    obtain ⟨s, _, rfl⟩ := List.mem_map.mp hx
    obtain ⟨hset, rfl⟩ : (g s).isSetId = true ∧ s.who = k := by simpa using hany
    cases hmark : g s with
    | setId b =>
      obtain ⟨haccess, _, _⟩ := Slot.setId?_eq_some_iff.mp (hfits s b hmark)
      have hs : s = ⟨s.who, .execute⟩ := by rw [← haccess]
      rwa [← hs]
    | _ => simp [hmark, Mark.isSetId] at hset
  · intro hset
    exact ⟨_, List.mem_map.mpr ⟨⟨k, .execute⟩, Slot.mem_all _, rfl⟩, by simpa using hset⟩

lemma not_any_isSetId_full :
    ((full g).any fun x => x.2.isSetId && decide (x.1.who = .other)) = false := by
  rw [List.any_eq_false]
  intro x hx hany
  obtain ⟨s, _, rfl⟩ := List.mem_map.mp hx
  obtain ⟨hset, hwho⟩ : (g s).isSetId = true ∧ s.who = .other := by simpa using hany
  cases hmark : g s with
  | setId b => exact (Slot.setId?_eq_some_iff.mp (hfits s b hmark)).2.1 hwho
  | _ => simp [hmark, Mark.isSetId] at hset

lemma getLsbD_full_specialBit (k : FileClass) (p : Perms) :
    (Edit.applyAll (full g).edits p).getLsbD k.specialBit =
      if k = .other then p.getLsbD k.specialBit else (g ⟨k, .execute⟩).isSetId := by
  rw [applyAll_edits, getLsbD_specialBit (fits_full hfits),
    Edit.getLsbD_clear_apply _ _ k.specialBit_bounds.2, k.getLsbD_setIds]
  split
  · next hk =>
    subst hk
    rw [not_any_isSetId_full hfits]
    simp
  · next hk =>
    rw [any_isSetId_full hfits hk]
    simp [hk]

end

end Marks

end FileMode
