import FileMode.Proofs.Replies
import FileMode.Proofs.Reread

namespace FileMode

lemma Mode.change_render_self {m : Mode} (h : ∀ s : Slot, s.mark m.perms ≠ .keep) (o : Options) :
    m.change o m.render = .ok m := by
  obtain ⟨strict⟩ := o
  have hreadable := m.forall_mark_ne_keep_iff.mp h
  have hself : m.reread m = m := by
    apply toInt_injective
    rw [toInt_reread_self]
    exact (land_lnot_orphans_eq_iff m.toInt).mpr hreadable.2
  cases strict with
  | false => rw [change_render_lenient, hself]
  | true => rw [change_render_strict, if_pos hreadable, hself]

lemma Mode.change_strict_form {s : String} {c m : Mode} (hform : Spec.form s.toList = .positional)
    (h : c.change ⟨true⟩ s = .ok m) : ∃ f : Slot → Char, Slot.all.map f = s.toList ∧
      (∀ t : Slot, (if f t = 's' then 'x' else f t) = if f t = '-' then '-' else t.letter) ∧
      ∀ (o : Options) (c' : Mode), ∃ m', c'.change o s = .ok m' ∧
        ∀ t : Slot, m'.perms.getLsbD t.bit = decide (f t ≠ '-') := by
  rw [change_of_positional _ _ hform, Traversal.map_eq_ok_iff] at h
  obtain ⟨marks, hparse, -⟩ := h
  obtain ⟨f, g, hf, hg⟩ := Marks.exists_read_of_strict hparse
  refine ⟨f, hf, fun t => (Mark.read_of_strict (hg t)).2.2, ?_⟩
  intro o c'
  refine ⟨(Spec.positional (Marks.full g)).apply c', ?_, ?_⟩
  · rw [change_of_positional _ _ hform, ← hf,
      Marks.parse_map_all_of_read fun t => (Mark.read_of_strict (hg t)).1 o.strict]
    rfl
  · intro t
    have hbit := Marks.getLsbD_full_bit (fun t => Mark.read_fits (hg t)) t c'.perms
    rwa [(Mark.read_of_strict (hg t)).2.1] at hbit

namespace FileSystem

namespace Mask

variable (mask : Mask) (m : Mode) (i : ℕ)

def allowedBits : ℤ := Int.land (Int.lnot mask.toNat) 0o777

lemma allowing_allowed : allowing mask.allowed = mask := by
  simp [allowing, allowed, Mode.ofPerms]

lemma getLsbD_allowed : mask.allowed.perms.getLsbD i = (decide (i < 9) && !mask.getLsbD i) := by
  by_cases hi : i < 9
  · simp [allowed, Mode.ofPerms, hi, Nat.lt_trans hi]
  · simp [allowed, Mode.ofPerms, hi]

lemma getLsbD_allowable :
    (allowable m).perms.getLsbD i = (decide (i < 9) && m.perms.getLsbD i) := by
  have haccess : (0o777 : Perms).getLsbD i = decide (i < 9) := Bits.testBit_allAccess i
  rw [allowable, Mode.ofPerms, BitVec.getLsbD_and, haccess, Bool.and_comm]

lemma getLsbD_allowing : (allowing m).getLsbD i = (decide (i < 9) && !m.perms.getLsbD i) := by
  by_cases hi : i < 9 <;> simp [allowing, hi]

lemma ofInt_allowedBits : Mode.ofInt mask.allowedBits = mask.allowed := by
  have hbits : mask.allowed.toInt = mask.allowedBits := by
    apply Bits.eq_of_testBit_eq
    intro i
    rw [Bits.testBit_toInt, allowedBits, Int.testBit_land, Int.testBit_lnot, Bits.testBit_natCast,
      Bits.testBit_allAccess, getLsbD_allowed, Bool.and_comm]
    split
    · rfl
    · have hhigh : mask.allowed.high.testBit (i - 12) = false := Bits.testBit_zero _
      rw [hhigh, decide_eq_false (by omega), Bool.and_false]
  rw [← hbits, Mode.ofInt_toInt]

lemma toNat_allowing_allowable :
    ((allowing (allowable m)).toNat : ℤ) = Int.land 0o777 (Int.lnot m.toInt) := by
  apply Bits.eq_of_testBit_eq
  intro i
  rw [Bits.testBit_natCast, getLsbD_allowing, getLsbD_allowable, Int.testBit_land, Int.testBit_lnot,
    Bits.testBit_allAccess]
  by_cases hi : i < 9
  · simp [hi, Bits.getLsbD_perms m (Nat.lt_trans hi (by decide))]
  · simp [hi]

lemma allowed_allowing_allowable : (allowing (allowable m)).allowed = allowable m := by
  ext1
  · rfl
  · apply BitVec.eq_of_getLsbD_eq
    intro i _
    rw [getLsbD_allowed, getLsbD_allowing, getLsbD_allowable]
    cases decide (i < 9) <;> simp

lemma allowable_allowed : allowable mask.allowed = mask.allowed := by
  ext1
  · rfl
  · apply BitVec.eq_of_getLsbD_eq
    intro i _
    rw [getLsbD_allowable, getLsbD_allowed]
    cases decide (i < 9) <;> rfl

lemma eq_of_getLsbD_bit {a b : Mask} (h : ∀ s : Slot, a.getLsbD s.bit = b.getLsbD s.bit) :
    a = b := by
  apply BitVec.eq_of_getLsbD_eq
  intro i hi
  obtain ⟨s, rfl⟩ := Slot.exists_bit_eq hi
  exact h s

lemma getLsbD_allowing_allowable_bit (s : Slot) :
    (allowing (allowable m)).getLsbD s.bit = !m.perms.getLsbD s.bit := by
  rw [getLsbD_allowing, getLsbD_allowable, decide_eq_true s.bit_lt, Bool.true_and, Bool.true_and]

lemma getLsbD_allowed_specialBit (k : FileClass) :
    mask.allowed.perms.getLsbD k.specialBit = false := by
  rw [getLsbD_allowed, decide_eq_false (Nat.not_lt.mpr k.specialBit_bounds.1), Bool.false_and]

lemma mark_allowed_ne_keep (s : Slot) : s.mark mask.allowed.perms ≠ .keep := by
  intro h
  obtain ⟨-, hspecial, -⟩ := (Slot.mark_eq_keep_iff _ s).mp h
  rw [getLsbD_allowed_specialBit] at hspecial
  cases hspecial

lemma glyph_allowed (s : Slot) :
    s.glyph mask.allowed.perms = if mask.getLsbD s.bit then '-' else s.letter := by
  rw [Slot.glyph_eq_shown, getLsbD_allowed_specialBit, Slot.shown_false, getLsbD_allowed,
    decide_eq_true s.bit_lt]
  cases mask.getLsbD s.bit <;> rfl

end Mask

def PlainSlots (cs : List Char) : Prop :=
  cs.length = 9 ∧ ∀ (i : ℕ) (c : Char), cs[i]? = some c → c = '-' ∨ Slot.letters[i]? = some c

lemma Mask.plainSlots_render (mask : Mask) : PlainSlots mask.allowed.render.toList := by
  have hlist : mask.allowed.render.toList = Slot.all.map (Slot.glyph mask.allowed.perms) :=
    mask.allowed.perms.toList_render
  rw [hlist]
  refine ⟨rfl, ?_⟩
  intro i c hc
  rw [List.getElem?_map, Option.map_eq_some_iff] at hc
  obtain ⟨s, hs, rfl⟩ := hc
  rw [Slot.letters_getElem? hs, glyph_allowed]
  split
  · exact Or.inl rfl
  · exact Or.inr rfl

namespace Host

variable (h : Host) {s : String} {o : Options} {m : Mode}

lemma umask_of_change (hne : s ≠ "") (hchange : h.mask.allowed.change o s = .ok m) :
    (h.umask (.text s) o).result = .ok (Mask.allowable m).render ∧
      (h.umask (.text s) o).host = { h with mask := .allowing (Mask.allowable m) } := by
  have hreply := h.umaskReply (.text s) o
  generalize h.umask (.text s) o = reply at hreply ⊢
  cases hreply with
  | read hnull => cases hnull
  | refused _ hrefused => exact (hrefused ⟨m, s, rfl, hne, hchange⟩).elim
  | done hs _ hchange' =>
    obtain rfl := Argument.text.inj hs
    obtain rfl := Except.ok.inj (hchange.symm.trans hchange')
    exact ⟨rfl, rfl⟩

lemma umask_of_not_turns {spec : Argument} (hnull : spec ≠ .null)
    (hrefused : ¬ ∃ m, spec.Turns o h.mask.allowed m) :
    (∃ err, (h.umask spec o).result = .error err ∧ err.code = "EINVAL" ∧
      err.call = ⟨"umask", none⟩) ∧ (h.umask spec o).host = h := by
  have hreply := h.umaskReply spec o
  generalize h.umask spec o = reply at hreply ⊢
  cases hreply with
  | read hread => exact (hnull hread).elim
  | refused => exact ⟨⟨_, rfl, rfl, rfl⟩, rfl⟩
  | done hs hne hchange => exact (hrefused ⟨_, _, hs, hne, hchange⟩).elim

lemma umask_read_back (o : Options) :
    (h.umask (.text h.mask.allowed.render) o).result = .ok h.mask.allowed.render ∧
      (h.umask (.text h.mask.allowed.render) o).host = h := by
  have hself := Mode.change_render_self h.mask.mark_allowed_ne_keep o
  obtain ⟨hresult, hhost⟩ := h.umask_of_change (Mode.ne_empty_of_change hself) hself
  rw [Mask.allowable_allowed] at hresult hhost
  rw [Mask.allowing_allowed] at hhost
  exact ⟨hresult, hhost⟩

lemma umask_strict_form {c : Mode} (hform : Spec.form s.toList = .positional)
    (hchange : c.change ⟨true⟩ s = .ok m) : ∃ mask : Mask, ∀ (h : Host) (o : Options),
      (h.umask (.text s) o).result = .ok (s.map fun c => if c = 's' then 'x' else c) ∧
        (h.umask (.text s) o).host = { h with mask := mask } := by
  obtain ⟨f, hlist, hletter, hbits⟩ := Mode.change_strict_form hform hchange
  -- the form gives every mode the same nine bits, so one mode decides the mask for all hosts
  obtain ⟨m₀, -, hm₀⟩ := hbits ⟨true⟩ c
  refine ⟨.allowing (Mask.allowable m₀), ?_⟩
  intro h o
  obtain ⟨m', hm', hperms⟩ := hbits o h.mask.allowed
  have hmask : Mask.allowing (Mask.allowable m') = .allowing (Mask.allowable m₀) := by
    apply Mask.eq_of_getLsbD_bit
    intro t
    rw [Mask.getLsbD_allowing_allowable_bit, Mask.getLsbD_allowing_allowable_bit, hperms, hm₀]
  have htext : (Mask.allowable m').render = s.map fun c => if c = 's' then 'x' else c := by
    apply String.toList_inj.mp
    have hglyphs : (Mask.allowable m').render.toList =
        Slot.all.map (Slot.glyph (Mask.allowable m').perms) := Perms.toList_render _
    rw [hglyphs, String.toList_map, ← hlist, List.map_map]
    apply List.map_congr_left
    intro t _
    rw [← Mask.allowed_allowing_allowable, Mask.glyph_allowed, Mask.getLsbD_allowing_allowable_bit,
      hperms, Function.comp_apply, hletter]
    simp
  rw [← hmask, ← htext]
  exact h.umask_of_change (Mode.ne_empty_of_change hm') hm'

end Host

theorem umask_reads_back (h : Host) :
    (∀ o, (h.umask .null o).result = .ok (Mode.ofInt h.mask.allowedBits).render ∧
      (h.umask .null o).host = h) ∧
    (∀ o spec m, spec.Turns o (Mode.ofInt h.mask.allowedBits) m →
      ∃ mask : Mask, (mask.toNat : ℤ) = Int.land 0o777 (Int.lnot m.toInt) ∧
        (h.umask spec o).host = { h with mask := mask } ∧
        ∃ text, (h.umask spec o).result = .ok text ∧ PlainSlots text.toList ∧
          ∀ o', ((h.umask spec o).host.umask .null o').result = .ok text) ∧
    (∀ o spec, spec ≠ .null → (¬ ∃ m, spec.Turns o (Mode.ofInt h.mask.allowedBits) m) →
      (∃ err, (h.umask spec o).result = .error err ∧ err.code = "EINVAL" ∧
        err.call = ⟨"umask", none⟩) ∧ (h.umask spec o).host = h) ∧
    (∀ o o' text, (h.umask .null o).result = .ok text →
      (h.umask (.text text) o').result = .ok text ∧ (h.umask (.text text) o').host = h) ∧
    ∀ s c m, Spec.form s.toList = .positional → (Mode.ofInt c).change ⟨true⟩ s = .ok m →
      ∃ mask : Mask, ∀ (h' : Host) (o : Options),
        (h'.umask (.text s) o).result = .ok (s.map fun c => if c = 's' then 'x' else c) ∧
          (h'.umask (.text s) o).host = { h' with mask := mask } := by
  rw [Mask.ofInt_allowedBits]
  refine ⟨fun _ => ⟨rfl, rfl⟩, ?_, fun _ _ => h.umask_of_not_turns, ?_,
    fun _ _ _ => Host.umask_strict_form⟩
  · rintro o _ m ⟨s, rfl, hne, hchange⟩
    obtain ⟨hresult, hhost⟩ := h.umask_of_change hne hchange
    refine ⟨_, Mask.toNat_allowing_allowable m, hhost, _, hresult, ?_, ?_⟩
    · rw [← Mask.allowed_allowing_allowable]
      exact Mask.plainSlots_render _
    · intro o'
      rw [hhost]
      change Except.ok (Mask.allowing (Mask.allowable m)).allowed.render = _
      rw [Mask.allowed_allowing_allowable]
  · intro o o' text hread
    obtain rfl := Except.ok.inj hread
    exact h.umask_read_back o'

def bareHost : Host := ⟨.ofList [], 0o022⟩

theorem umask_reads_back_set_ids :
    ((Argument.text "0106725").Turns {} (Mode.ofInt bareHost.mask.allowedBits) (.ofInt 0o106725) ∧
      ∃ mask : Mask, (mask.toNat : ℤ) = Int.land 0o777 (Int.lnot (Mode.ofInt 0o106725).toInt) ∧
        (bareHost.umask (.text "0106725") {}).host = { bareHost with mask := mask } ∧
        ∃ text, (bareHost.umask (.text "0106725") {}).result = .ok text ∧ PlainSlots text.toList ∧
          ∀ o', ((bareHost.umask (.text "0106725") {}).host.umask .null o').result = .ok text) ∧
    ((¬ ∃ m, (Argument.text "u*x").Turns {} (Mode.ofInt bareHost.mask.allowedBits) m) ∧
      (bareHost.umask (.text "u*x") {}).host = bareHost) ∧
    ((bareHost.umask .null {}).result = .ok "rwxr-xr-x" ∧
      (bareHost.umask (.text "rwxr-xr-x") ⟨true⟩).result = .ok "rwxr-xr-x") ∧
    Spec.form "rwsr-s--x".toList = .positional ∧
      (Mode.ofInt 0).change ⟨true⟩ "rwsr-s--x" = .ok (.ofInt 0o6751) ∧
      ∃ mask : Mask, ∀ (h' : Host) (o : Options),
        (h'.umask (.text "rwsr-s--x") o).host = { h' with mask := mask } := by
  obtain ⟨-, hturns, hrefused, hread, hstrict⟩ := umask_reads_back bareHost
  have hoctal : (Argument.text "0106725").Turns {} (Mode.ofInt bareHost.mask.allowedBits)
      (.ofInt 0o106725) :=
    ⟨"0106725", rfl, by decide, by decide⟩
  have hbad : ¬ ∃ m, (Argument.text "u*x").Turns {} (Mode.ofInt bareHost.mask.allowedBits) m := by
    rintro ⟨m, s, hs, _, hm⟩
    obtain rfl := Argument.text.inj hs
    cases hm
  have hplain : (bareHost.umask .null {}).result = .ok "rwxr-xr-x" := by decide
  have hform : Spec.form "rwsr-s--x".toList = .positional := by decide
  have haccepted : (Mode.ofInt 0).change ⟨true⟩ "rwsr-s--x" = .ok (.ofInt 0o6751) := by decide
  refine ⟨⟨hoctal, hturns _ _ _ hoctal⟩, ⟨hbad, (hrefused _ _ ?_ hbad).2⟩,
    ⟨hplain, (hread _ _ _ hplain).1⟩, hform, haccepted, ?_⟩
  · intro hnull
    cases hnull
  · obtain ⟨mask, hmask⟩ := hstrict _ _ _ hform haccepted
    exact ⟨mask, fun h' o => (hmask h' o).2⟩

end FileSystem

end FileMode
