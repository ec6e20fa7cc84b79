import FileMode.Change
import FileMode.Proofs.Form
import FileMode.Proofs.Overwrite
import FileMode.Proofs.Traversal

/-! Each accepted mode string overwrites fixed bits with fixed values, and so does a whole run of
changes, refused ones included. A second time, a string or a run changes nothing. -/

namespace FileMode

open Bits

lemma Spec.parseChars_octal_iff {o : Options} {cs : List Char} {spec : Spec}
    (h : parseChars o cs = .ok spec) : form cs = .octal ↔ ∃ n, spec = octal n := by
  cases hform : form cs with
  | positional =>
    rw [parseChars_of_positional o hform, Traversal.map_eq_ok_iff] at h
    obtain ⟨marks, _, rfl⟩ := h
    simp
  | octal =>
    rw [parseChars_of_octal o hform, Traversal.map_eq_ok_iff] at h
    obtain ⟨n, _, rfl⟩ := h
    simp
  | symbolic =>
    rw [parseChars_of_symbolic o hform, Traversal.map_eq_ok_iff] at h
    obtain ⟨clauses, _, rfl⟩ := h
    simp

def Argument.overwrite (o : Options) : Argument → Overwrite
  | .text s => (Spec.parse o s).toOption.elim .keep Spec.overwrite
  | _ => .keep

namespace Mode

lemma change_ofInt {o : Options} {s : String} {spec : Spec} (h : Spec.parse o s = .ok spec)
    (n : ℤ) : (ofInt n).change o s = .ok (ofInt (spec.overwrite.apply n)) := by
  rw [change, h, ← Spec.apply_ofInt]
  rfl

lemma exists_parse_of_change {o : Options} {s : String} {m m' : Mode} (h : m.change o s = .ok m') :
    ∃ spec, Spec.parse o s = .ok spec := by
  have hmap : (·.apply m) <$> Spec.parse o s = .ok m' := h
  obtain ⟨spec, hparse, _⟩ := (Traversal.map_eq_ok_iff _).mp hmap
  exact ⟨spec, hparse⟩

def final (m : Mode) (steps : List (Options × Argument)) : Mode :=
  (m.trace steps).getLast?.elim m Prod.snd

lemma final_cons (m : Mode) (o : Options) (spec : Argument) (steps : List (Options × Argument)) :
    m.final ((o, spec) :: steps) = (m.after (m.changeBy o spec)).final steps := by
  cases steps with
  | nil => rfl
  | cons step steps =>
    simp only [final, trace, List.getLast?_cons_cons]
    rw [List.getLast?_cons]
    rfl

lemma after_changeBy (o : Options) (spec : Argument) (n : ℤ) :
    (ofInt n).after ((ofInt n).changeBy o spec) = ofInt ((spec.overwrite o).apply n) := by
  cases spec with
  | text s =>
    cases hparse : Spec.parse o s with
    | error e =>
      have hrefused : (ofInt n).change o s = .error e := by
        rw [change, hparse]
        rfl
      rw [changeBy, hrefused, Argument.overwrite, hparse]
      exact congrArg ofInt (Overwrite.apply_keep n).symm
    | ok spec =>
      rw [changeBy, change_ofInt hparse, Argument.overwrite, hparse]
      rfl
  | _ => exact congrArg ofInt (Overwrite.apply_keep n).symm

def runOverwrite (steps : List (Options × Argument)) : Overwrite :=
  steps.foldr (fun step w => (step.2.overwrite step.1).andThen w) .keep

lemma final_ofInt (steps : List (Options × Argument)) (n : ℤ) :
    (ofInt n).final steps = ofInt ((runOverwrite steps).apply n) := by
  induction steps generalizing n with
  | nil => exact congrArg ofInt (Overwrite.apply_keep n).symm
  | cons step steps ih =>
    rw [final_cons, after_changeBy, ih]
    exact congrArg ofInt (Overwrite.apply_andThen _ _ n).symm

lemma exists_overwrite {o : Options} {s : String} {c : ℤ} {m : Mode}
    (h : (ofInt c).change o s = .ok m) :
    ∃ w : Overwrite, (∀ current, (ofInt current).change o s = .ok (ofInt (w.apply current))) ∧
      if Spec.form s.toList = .octal then w.mask = -1 else Included w.mask 0o7777 := by
  obtain ⟨spec, hparse⟩ := exists_parse_of_change h
  have hoctal := Spec.parseChars_octal_iff hparse
  refine ⟨spec.overwrite, change_ofInt hparse, ?_⟩
  split
  · next hform =>
    obtain ⟨n, rfl⟩ := hoctal.mp hform
    rfl
  · next hform =>
    exact Spec.mask_overwrite_included fun n hn => hform (hoctal.mpr ⟨n, hn⟩)

lemma change_change {o : Options} {s : String} {m m' : Mode} (h : m.change o s = .ok m') :
    m'.change o s = .ok m' := by
  rw [← ofInt_toInt m] at h
  obtain ⟨w, hw, _⟩ := exists_overwrite h
  obtain rfl : ofInt (w.apply m.toInt) = m' := Except.ok.inj ((hw m.toInt).symm.trans h)
  rw [hw, Overwrite.apply_apply]

lemma change_mono {o : Options} {s : String} {a b a' b' : Mode} (ha : a.change o s = .ok a')
    (hb : b.change o s = .ok b') (hab : Included a.toInt b.toInt) :
    Included a'.toInt b'.toInt := by
  rw [← ofInt_toInt a] at ha
  rw [← ofInt_toInt b] at hb
  obtain ⟨w, hw, _⟩ := exists_overwrite ha
  obtain rfl : ofInt (w.apply a.toInt) = a' := Except.ok.inj ((hw a.toInt).symm.trans ha)
  obtain rfl : ofInt (w.apply b.toInt) = b' := Except.ok.inj ((hw b.toInt).symm.trans hb)
  rw [toInt_ofInt, toInt_ofInt]
  exact w.apply_mono hab

end Mode

theorem change_overwrites :
    (∀ (o : Options) (s : String) (c : ℤ) (m : Mode), (Mode.ofInt c).change o s = .ok m →
      ∃ w : Overwrite,
        (∀ current, (Mode.ofInt current).change o s = .ok (Mode.ofInt (w.apply current))) ∧
        if Spec.form s.toList = .octal then w.mask = -1 else Included w.mask 0o7777) ∧
    (∀ (o : Options) (s : String) (m m' : Mode), m.change o s = .ok m' → m'.change o s = .ok m') ∧
    (∀ (o : Options) (s : String) (a b a' b' : Mode), a.change o s = .ok a' →
      b.change o s = .ok b' → Included a.toInt b.toInt → Included a'.toInt b'.toInt) ∧
    ∀ steps : List (Options × Argument), ∃ w : Overwrite, ∀ start,
      ((Mode.ofInt start).final steps).toInt = w.apply start ∧
      ((Mode.ofInt start).final steps).final steps = (Mode.ofInt start).final steps := by
  refine ⟨fun _ _ _ _ h => Mode.exists_overwrite h, fun _ _ _ _ h => Mode.change_change h,
    fun _ _ _ _ _ _ ha hb hab => Mode.change_mono ha hb hab, ?_⟩
  intro steps
  refine ⟨Mode.runOverwrite steps, fun start => ⟨?_, ?_⟩⟩
  · rw [Mode.final_ofInt, Mode.toInt_ofInt]
  · rw [Mode.final_ofInt, Mode.final_ofInt, Overwrite.apply_apply]

theorem change_overwrites_short :
    (Mode.ofInt 0o106644).change {} "rw" = .ok (Mode.ofInt 0o100644) ∧
      (∃ w : Overwrite,
        (∀ current, (Mode.ofInt current).change {} "rw" = .ok (Mode.ofInt (w.apply current))) ∧
        if Spec.form "rw".toList = .octal then w.mask = -1 else Included w.mask 0o7777) ∧
      (Mode.ofInt 0o100644).change {} "rw" = .ok (Mode.ofInt 0o100644) ∧
      Included (Mode.ofInt 0o100700).toInt (Mode.ofInt (-0o7100)).toInt :=
  ⟨by decide, change_overwrites.1 {} "rw" 0o106644 (Mode.ofInt 0o100644) (by decide),
    change_overwrites.2.1 {} "rw" (Mode.ofInt 0o106644) (Mode.ofInt 0o100644) (by decide),
    change_overwrites.2.2.1 {} "rw" (Mode.ofInt 0o104100) (Mode.ofInt (-0o1700))
      (Mode.ofInt 0o100700) (Mode.ofInt (-0o7100)) (by decide) (by decide) (by decide)⟩

end FileMode
