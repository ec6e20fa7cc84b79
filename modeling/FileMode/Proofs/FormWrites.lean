import FileMode.Proofs.Confinement

namespace FileMode

/-- Each bit of the mode that characters read by place turn `n` into. -/
structure WrittenBy (cs : List Char) (n r : ℤ) : Prop where
  slot (i : ℕ) (l : Char) : Slot.letters[i]? = some l → r.testBit (8 - i) =
    if cs[i]? = some l ∨ (i = 2 ∨ i = 5) ∧ cs[i]? = some 's' then true
    else if cs[i]? = some '-' then false
    else n.testBit (8 - i)
  setUserId : r.testBit 11 = decide (cs[2]? = some 's')
  setGroupId : r.testBit 10 = decide (cs[5]? = some 's')
  sticky : r.testBit 9 = n.testBit 9
  high (i : ℕ) : 12 ≤ i → r.testBit i = n.testBit i

namespace Slot

variable {s : Slot} {i j : ℕ}

lemma bit_eq_of_getElem? (h : all[i]? = some s) : s.bit = 8 - i := by
  have hall : ∀ k : Fin 9, (all.get k).bit = 8 - k.val := by decide
  obtain ⟨hi, rfl⟩ := List.getElem?_eq_some_iff.mp h
  exact hall ⟨i, hi⟩

lemma exists_of_letters_getElem? {l : Char} (h : letters[i]? = some l) :
    ∃ s, all[i]? = some s ∧ s.letter = l := by
  rw [← map_letter_all, List.getElem?_map, Option.map_eq_some_iff] at h
  exact h

lemma getElem?_all_injective (hi : all[i]? = some s) (hj : all[j]? = some s) : i = j := by
  have hnodup : all.Nodup := by decide
  obtain ⟨hlt, -⟩ := List.getElem?_eq_some_iff.mp hi
  exact (List.getElem?_inj hlt hnodup).mp (hi.trans hj.symm)

end Slot

lemma Mark.value?_of_read {strict : Bool} {s : Slot} {c : Char} {m : Mark}
    (h : read strict s c = .ok m) (b : Bool) : m.value?.getD b =
      if c = s.letter ∨ s.setId?.isSome = true ∧ c = 's' then true
      else if c = '-' then false else b := by
  by_cases hdash : c = '-'
  · subst hdash
    rw [read_dash] at h
    obtain rfl := Except.ok.inj h
    simp [value?, s.letter_ne_dash.symm]
  by_cases hletter : c = s.letter
  · subst hletter
    rw [read_letter] at h
    obtain rfl := Except.ok.inj h
    simp [value?]
  by_cases hs : c = 's'
  · subst hs
    rw [read_s] at h
    cases hset : s.setId? with
    | none => simp [hset] at h
    | some bit =>
      rw [hset] at h
      obtain rfl := Except.ok.inj h
      simp [value?]
  · rw [read_other strict hletter hdash hs] at h
    cases strict with
    | true => cases h
    | false =>
      obtain rfl := Except.ok.inj h
      simp [value?, hletter, hs, hdash]

lemma Mark.isSetId_of_read {strict : Bool} {s : Slot} {c : Char} {m : Mark}
    (h : read strict s c = .ok m) : m.isSetId = true ↔ c = 's' ∧ s.access = .execute := by
  refine ⟨?_, ?_⟩
  · intro hset
    rcases read_cases h with ⟨-, rfl⟩ | ⟨-, rfl⟩ | ⟨hs, b, hb, -⟩ | ⟨-, rfl⟩
    · cases hset
    · cases hset
    · exact ⟨hs, (Slot.setId?_eq_some_iff.mp hb).1⟩
    · cases hset
  · rintro ⟨rfl, -⟩
    rw [read_s] at h
    cases hset : s.setId? with
    | none => simp [hset] at h
    | some bit =>
      rw [hset] at h
      obtain rfl := Except.ok.inj h
      rfl

namespace Marks

variable {strict : Bool} {cs : List Char} {ms : Marks}

lemma exists_read_of_mem (h : parse strict cs = .ok ms) {s : Slot} {m : Mark} (hmem : (s, m) ∈ ms) :
    ∃ (i : ℕ) (c : Char), Slot.all[i]? = some s ∧ cs[i]? = some c ∧
      Mark.read strict s c = .ok m := by
  obtain ⟨⟨t, c⟩, hzip, hy⟩ := Traversal.exists_mem_of_mapM (mapM_of_parse h) hmem
  obtain ⟨m', hread, heq⟩ := (Traversal.map_eq_ok_iff (x := Mark.read strict t c) _).mp hy
  obtain ⟨rfl, rfl⟩ := Prod.mk.inj heq
  obtain ⟨i, hs, hc⟩ := Slot.mem_zip_iff.mp hzip
  exact ⟨i, c, hs, hc, hread⟩

lemma exists_mem_of_getElem? (h : parse strict cs = .ok ms) {s : Slot} {c : Char} {i : ℕ}
    (hs : Slot.all[i]? = some s) (hc : cs[i]? = some c) :
    ∃ m, Mark.read strict s c = .ok m ∧ (s, m) ∈ ms := by
  obtain ⟨y, hmem, hy⟩ :=
    Traversal.exists_mem_of_mem (mapM_of_parse h) (Slot.mem_zip_iff.mpr ⟨i, hs, hc⟩)
  obtain ⟨m, hread, rfl⟩ := (Traversal.map_eq_ok_iff (x := Mark.read strict s c) _).mp hy
  exact ⟨m, hread, hmem⟩

lemma map_fst_of_parse (h : parse strict cs = .ok ms) :
    ms.map Prod.fst = (Slot.all.zip cs).map Prod.fst := by
  have hforall := Traversal.mapM_eq_ok_iff.mp (mapM_of_parse h)
  symm
  rw [← List.forall₂_eq_eq_eq, List.forall₂_map_left_iff, List.forall₂_map_right_iff]
  refine hforall.imp ?_
  intro x y hy
  obtain ⟨m, -, rfl⟩ := (Traversal.map_eq_ok_iff (x := Mark.read strict x.1 x.2) _).mp hy
  rfl

lemma nodup_of_parse (h : parse strict cs = .ok ms) : (ms.map Prod.fst).Nodup := by
  have hnodup : Slot.all.Nodup := by decide
  rw [map_fst_of_parse h, List.zip_eq_zip_take_min, List.map_fst_zip (by simp)]
  exact hnodup.sublist (List.take_sublist _ _)

lemma notMem_of_parse (h : parse strict cs = .ok ms) {s : Slot} {i : ℕ} (hs : Slot.all[i]? = some s)
    (hc : cs[i]? = none) : s ∉ ms.map Prod.fst := by
  intro hs'
  obtain ⟨⟨t, m⟩, hmem, rfl⟩ := List.mem_map.mp hs'
  obtain ⟨j, c, hj, hc', -⟩ := exists_read_of_mem h hmem
  obtain rfl := Slot.getElem?_all_injective hs hj
  cases hc.symm.trans hc'

lemma any_isSetId_of_parse (h : parse strict cs = .ok ms) {k : FileClass} {i : ℕ}
    (hi : Slot.all[i]? = some ⟨k, .execute⟩) :
    (ms.any fun x => x.2.isSetId && decide (x.1.who = k)) = decide (cs[i]? = some 's') := by
  rw [Bool.eq_iff_iff, List.any_eq_true, decide_eq_true_eq]
  refine ⟨?_, ?_⟩
  · rintro ⟨⟨⟨who, access⟩, m⟩, hmem, hany⟩
    obtain ⟨hset, rfl⟩ : m.isSetId = true ∧ who = k := by simpa using hany
    obtain ⟨j, c, hj, hc, hread⟩ := exists_read_of_mem h hmem
    obtain ⟨rfl, haccess⟩ := (Mark.isSetId_of_read hread).mp hset
    obtain rfl : access = .execute := haccess
    rwa [Slot.getElem?_all_injective hi hj]
  · intro hc
    obtain ⟨m, hread, hmem⟩ := exists_mem_of_getElem? h hi hc
    exact ⟨_, hmem, by simpa using (Mark.isSetId_of_read hread).mpr ⟨rfl, rfl⟩⟩

variable (p : Perms)

lemma getLsbD_bit_of_parse (h : parse strict cs = .ok ms) {s : Slot} {i : ℕ}
    (hs : Slot.all[i]? = some s) : (Edit.applyAll ms.edits p).getLsbD s.bit =
      if cs[i]? = some s.letter ∨ s.setId?.isSome = true ∧ cs[i]? = some 's' then true
      else if cs[i]? = some '-' then false
      else p.getLsbD s.bit := by
  have hcleared : ((Edit.clear Perms.setIds).apply p).getLsbD s.bit = p.getLsbD s.bit := by
    rw [Edit.getLsbD_clear_apply _ _ s.bit_lt_width, s.getLsbD_setIds, Bool.not_false,
      Bool.and_true]
  rw [applyAll_edits, ← hcleared]
  cases hc : cs[i]? with
  | none =>
    rw [getLsbD_bit_of_notMem (fits_of_parse h) (notMem_of_parse h hs hc)]
    simp
  | some c =>
    obtain ⟨m, hread, hmem⟩ := exists_mem_of_getElem? h hs hc
    rw [getLsbD_bit_of_mem (fits_of_parse h) (nodup_of_parse h) hmem, Mark.value?_of_read hread]
    simp only [Option.some.injEq]

lemma getLsbD_specialBit_of_parse (h : parse strict cs = .ok ms) {k : FileClass} {i : ℕ}
    (hk : k ≠ .other) (hi : Slot.all[i]? = some ⟨k, .execute⟩) :
    (Edit.applyAll ms.edits p).getLsbD k.specialBit = decide (cs[i]? = some 's') := by
  rw [applyAll_edits, getLsbD_specialBit (fits_of_parse h), any_isSetId_of_parse h hi,
    Edit.getLsbD_clear_apply _ _ k.specialBit_bounds.2, k.getLsbD_setIds, decide_eq_true hk,
    Bool.not_true, Bool.and_false, Bool.false_or]

lemma parse_take (cs : List Char) : parse false (cs.take 9) = parse false cs := by
  have hzip : Slot.all.zip (cs.take 9) = Slot.all.zip cs := by
    calc Slot.all.zip (cs.take 9)
        = (Slot.all.take 9).zip (cs.take 9) := rfl
      _ = (Slot.all.zip cs).take 9 := List.take_zipWith.symm
      _ = Slot.all.zip cs := List.take_of_length_le (by simp [Slot.length_all])
  simp [parse, hzip]

end Marks

lemma Spec.form_take {cs : List Char} (h : form cs = .positional) :
    form (cs.take 9) = .positional := by
  cases cs with
  | nil => cases h
  | cons c cs => exact h

namespace Mode

variable {s : String} {m : Mode}

lemma writtenBy_change {o : Options} {m' : Mode} (hform : Spec.form s.toList = .positional)
    (h : m.change o s = .ok m') : WrittenBy s.toList m.toInt m'.toInt := by
  have hsticky := testBit_sticky_change hform h
  have hhigh := (confined_change (by simp [hform]) h).high
  rw [change_of_positional o m hform, Traversal.map_eq_ok_iff] at h
  obtain ⟨ms, hparse, rfl⟩ := h
  refine ⟨?_, ?_, ?_, hsticky, hhigh⟩
  · intro i l hl
    obtain ⟨t, ht, rfl⟩ := Slot.exists_of_letters_getElem? hl
    have hbit := Marks.getLsbD_bit_of_parse m.perms hparse ht
    simp only [Slot.setId?_isSome_iff ht] at hbit
    rw [← Slot.bit_eq_of_getElem? ht, ← Bits.getLsbD_perms _ t.bit_lt_width,
      ← Bits.getLsbD_perms _ t.bit_lt_width]
    exact hbit
  · rw [← Bits.getLsbD_perms _ (by decide)]
    exact Marks.getLsbD_specialBit_of_parse m.perms hparse (k := .owner) (by decide) rfl
  · rw [← Bits.getLsbD_perms _ (by decide)]
    exact Marks.getLsbD_specialBit_of_parse m.perms hparse (k := .group) (by decide) rfl

lemma change_take (hform : Spec.form s.toList = .positional) :
    m.change ⟨false⟩ (String.ofList (s.toList.take 9)) = m.change ⟨false⟩ s := by
  have htake : (String.ofList (s.toList.take 9)).toList = s.toList.take 9 := String.toList_ofList
  rw [change_of_positional _ m hform,
    change_of_positional _ m (by rw [htake, Spec.form_take hform]), htake, Marks.parse_take]

end Mode

theorem change_form_writes (current : ℤ) (s : String) (hform : Spec.form s.toList = .positional) :
    (∀ m, (Mode.ofInt current).change ⟨false⟩ s = .ok m → WrittenBy s.toList current m.toInt) ∧
      (Mode.ofInt current).change ⟨false⟩ (String.ofList (s.toList.take 9)) =
        (Mode.ofInt current).change ⟨false⟩ s := by
  refine ⟨?_, Mode.change_take hform⟩
  intro m h
  have hwritten := Mode.writtenBy_change hform h
  rwa [Mode.toInt_ofInt] at hwritten

theorem change_form_writes_past_end :
    (Spec.form "rwsr?-".toList = .positional ∧
      (Mode.ofInt (-0o3)).change ⟨false⟩ "rwsr?-" = .ok (.ofInt (-0o2013)) ∧
      WrittenBy "rwsr?-".toList (-0o3) (Mode.ofInt (-0o2013)).toInt) ∧
    Spec.form "r--r-sr--, s".toList = .positional ∧
      (Mode.ofInt 0o4777).change ⟨false⟩ (String.ofList ("r--r-sr--, s".toList.take 9)) =
        (Mode.ofInt 0o4777).change ⟨false⟩ "r--r-sr--, s" := by
  have hshort : (Mode.ofInt (-0o3)).change ⟨false⟩ "rwsr?-" = .ok (.ofInt (-0o2013)) := by decide
  have hform : Spec.form "r--r-sr--, s".toList = .positional := by decide
  exact ⟨⟨by decide, hshort, (change_form_writes _ _ (by decide)).1 _ hshort⟩, hform,
    (change_form_writes _ _ hform).2⟩

end FileMode
