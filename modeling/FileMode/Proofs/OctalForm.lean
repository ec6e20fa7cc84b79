import FileMode.Proofs.CreationMask
import FileMode.Proofs.Numerals
import FileMode.Proofs.ReadBack

namespace FileMode

lemma Mode.change_octal_eq_ok_iff {o : Options} {s : String} {m m' : Mode}
    (hform : Spec.form s.toList = .octal) :
    m.change o s = .ok m' ↔ Language.Numeral s.toList ∧ m' = .ofInt (Octal.value s.toList) := by
  rw [change_of_octal o m hform, Traversal.map_eq_ok_iff]
  simp only [Language.parseOctal_eq_ok_iff]
  refine ⟨?_, ?_⟩
  · rintro ⟨n, ⟨hnumeral, rfl⟩, rfl⟩
    exact ⟨hnumeral, rfl⟩
  · rintro ⟨hnumeral, rfl⟩
    exact ⟨_, ⟨hnumeral, rfl⟩, rfl⟩

namespace Octal

variable {width v : ℕ}

lemma paddedNumeral_ne_empty : paddedNumeral width v ≠ "" := by
  intro hempty
  have hlength := length_paddedNumeral width v
  have hpos := Nat.length_toDigits_pos (b := 8) (n := v)
  rw [hempty, String.length_empty] at hlength
  omega

lemma length_paddedNumeral_le {bound : ℕ} (hwidth : width ≤ bound) (hbound : 0 < bound)
    (hv : v < 8 ^ bound) : (paddedNumeral width v).length ≤ bound := by
  have hdigits := (Nat.length_toDigits_le_iff (by decide) hbound).mpr hv
  rw [length_paddedNumeral]
  exact max_le hwidth hdigits

end Octal

lemma Mode.change_paddedNumeral {width v : ℕ} (hwidth : width ≤ 8) (hv : v < 8 ^ 8) (o : Options)
    (m : Mode) : m.change o (Octal.paddedNumeral width v) = .ok (.ofInt v) := by
  have hdigits : ∀ c ∈ (Octal.paddedNumeral width v).toList, '0' ≤ c ∧ c ≤ '7' :=
    fun _ => Octal.bounds_of_mem_paddedNumeral
  have hform : Spec.form (Octal.paddedNumeral width v).toList = .octal := by
    have hne : (Octal.paddedNumeral width v).toList ≠ [] := by
      rw [Ne, String.toList_eq_nil_iff]
      exact Octal.paddedNumeral_ne_empty
    exact Spec.form_of_digit (List.head?_eq_some_head hne) (hdigits _ (List.head_mem hne))
  refine (change_octal_eq_ok_iff hform).mpr ⟨⟨?_, hdigits⟩, ?_⟩
  · rw [String.length_toList]
    exact Octal.length_paddedNumeral_le hwidth (by decide) hv
  · rw [Octal.value_paddedNumeral]

lemma Mode.eq_paddedNumeral_of_change {o : Options} {s : String} {m m' : Mode}
    (hform : Spec.form s.toList = .octal) (h : m.change o s = .ok m') :
    ∃ v : ℕ, v < 8 ^ 8 ∧ m' = .ofInt v ∧ s.length ≤ 8 ∧ s = Octal.paddedNumeral s.length v := by
  obtain ⟨⟨hlength, hdigits⟩, rfl⟩ := (change_octal_eq_ok_iff hform).mp h
  rw [String.length_toList] at hlength
  refine ⟨Octal.value s.toList, ?_, rfl, hlength,
    Octal.eq_paddedNumeral (ne_empty_of_change h) hdigits⟩
  calc Octal.value s.toList < 8 ^ s.toList.length := Octal.value_lt hdigits
    _ = 8 ^ s.length := by rw [String.length_toList]
    _ ≤ 8 ^ 8 := Nat.pow_le_pow_right (by decide) hlength

namespace FileSystem

namespace Host

variable {h : Host} {path s : String} {o : Options} {m : Mode}

lemma chmod_of_replacing {r : Perms} (hchange : ∀ c : Mode, c.change o s = .ok m)
    (hok : (h.chmod path (.text s) o).result = .ok r) : ∃ es target e e',
      Reaches h.files Entry.statFault path es target e ∧
        (h.chmod path (.text s) o).host.files.find? target = some e' ∧
        Int.land e'.status.mode.toInt 0o7777 = Int.land m.toInt 0o7777 := by
  obtain ⟨es, target, e, m', hreaches, ⟨s', hs, -, hm'⟩, -, hr⟩ := chmod_eq_ok_iff.mp hok
  obtain rfl := Argument.text.inj hs
  obtain rfl := Except.ok.inj ((hchange _).symm.trans hm')
  refine ⟨es, target, e, _, hreaches, chmod_find?_target hok hreaches, ?_⟩
  rw [← Bits.toNat_perms, ← Bits.toNat_perms, hr]
  rfl

lemma umask_of_replacing (hchange : ∀ c : Mode, c.change o s = .ok m) :
    ∃ mask : Mask, (mask.toNat : ℤ) = Int.land 0o777 (Int.lnot m.toInt) ∧
      (h.umask (.text s) o).result = .ok mask.allowed.render ∧
      (h.umask (.text s) o).host = { h with mask := mask } := by
  have hallowed := hchange h.mask.allowed
  obtain ⟨hresult, hhost⟩ := h.umask_of_change (Mode.ne_empty_of_change hallowed) hallowed
  refine ⟨_, Mask.toNat_allowing_allowable m, ?_, hhost⟩
  rw [Mask.allowed_allowing_allowable, hresult]

end Host

theorem octal_numerals_replace :
    (∀ (current : ℤ) (o : Options) (s : String) (c : Char) (m : Mode), s.toList.head? = some c →
      '0' ≤ c → c ≤ '7' → (Mode.ofInt current).change o s = .ok m →
      ∃ v : ℕ, v < 8 ^ 8 ∧ m.toInt = v ∧ s.length ≤ 8 ∧ s = Octal.paddedNumeral s.length v) ∧
    ∀ (v width : ℕ) (o : Options), v < 8 ^ 8 → width ≤ 8 →
      (∀ current : ℤ,
        (Mode.ofInt current).change o (Octal.paddedNumeral width v) = .ok (Mode.ofInt v)) ∧
      ∀ h : Host,
        (∀ path r, (h.chmod path (.text (Octal.paddedNumeral width v)) o).result = .ok r →
          ∃ es target e e', Reaches h.files Entry.statFault path es target e ∧
            (h.chmod path (.text (Octal.paddedNumeral width v)) o).host.files.find? target =
              some e' ∧
            Int.land e'.status.mode.toInt 0o7777 = Int.land v 0o7777) ∧
        ∃ mask : Mask, (mask.toNat : ℤ) = Int.land 0o777 (Int.lnot v) ∧
          (h.umask (.text (Octal.paddedNumeral width v)) o).result = .ok mask.allowed.render ∧
          (h.umask (.text (Octal.paddedNumeral width v)) o).host = { h with mask := mask } := by
  refine ⟨?_, ?_⟩
  · intro current o s c m hhead hlow hhigh hchange
    obtain ⟨v, hv, rfl, hs⟩ :=
      Mode.eq_paddedNumeral_of_change (Spec.form_of_digit hhead ⟨hlow, hhigh⟩) hchange
    exact ⟨v, hv, Mode.toInt_ofInt v, hs⟩
  · intro v width o hv hwidth
    have hchange : ∀ c : Mode, c.change o (Octal.paddedNumeral width v) = .ok (.ofInt v) :=
      Mode.change_paddedNumeral hwidth hv o
    have htoInt : (Mode.ofInt v).toInt = v := Mode.toInt_ofInt v
    refine ⟨fun current => hchange (.ofInt current), fun h => ⟨fun path r hok => ?_, ?_⟩⟩
    · rw [← htoInt]
      exact Host.chmod_of_replacing hchange hok
    · rw [← htoInt]
      exact Host.umask_of_replacing hchange

theorem octal_numerals_replace_wide :
    ("0016705".toList.head? = some '0' ∧
      (Mode.ofInt (-1)).change ⟨true⟩ "0016705" = .ok (.ofInt 0o16705) ∧
      ∃ v : ℕ, v < 8 ^ 8 ∧ (Mode.ofInt 0o16705).toInt = v ∧
        "0016705" = Octal.paddedNumeral 7 v) ∧
    (Octal.paddedNumeral 7 0o16705 = "0016705" ∧
      (Mode.ofInt (-1)).change {} (Octal.paddedNumeral 7 0o16705) = .ok (.ofInt 0o16705)) ∧
    ((linkedHost.chmod "link" (.text (Octal.paddedNumeral 7 0o16705)) {}).result = .ok 0o6705 ∧
      ∃ es target e e', Reaches linkedHost.files Entry.statFault "link" es target e ∧
        (linkedHost.chmod "link" (.text (Octal.paddedNumeral 7 0o16705)) {}).host.files.find?
          target = some e' ∧
        Int.land e'.status.mode.toInt 0o7777 = Int.land 0o16705 0o7777) ∧
    ∃ mask : Mask, (mask.toNat : ℤ) = Int.land 0o777 (Int.lnot 0o16705) ∧
      (bareHost.umask (.text (Octal.paddedNumeral 7 0o16705)) {}).host =
        { bareHost with mask := mask } := by
  obtain ⟨hread, hreplace⟩ := octal_numerals_replace
  obtain ⟨hchange, hhost⟩ := hreplace 0o16705 7 {} (by decide) (by decide)
  have haccepted : (Mode.ofInt (-1)).change ⟨true⟩ "0016705" = .ok (.ofInt 0o16705) := by decide
  have hok : (linkedHost.chmod "link" (.text (Octal.paddedNumeral 7 0o16705)) {}).result =
      .ok 0o6705 := by decide
  obtain ⟨v, hv, hvalue, -, hnumeral⟩ :=
    hread (-1) ⟨true⟩ "0016705" '0' _ rfl (by decide) (by decide) haccepted
  obtain ⟨mask, hmask, -, hinstalled⟩ := (hhost bareHost).2
  exact ⟨⟨rfl, haccepted, v, hv, hvalue, hnumeral⟩, ⟨by decide, hchange (-1)⟩,
    ⟨hok, (hhost linkedHost).1 "link" _ hok⟩, mask, hmask, hinstalled⟩

end FileSystem

end FileMode
