import FileMode.Spec.Positional
import Mathlib.Data.List.Basic

namespace FileMode

namespace Slot

lemma length_all : all.length = 9 := rfl

lemma mem_all (s : Slot) : s ∈ all := by
  rcases s with ⟨who, access⟩
  cases who <;> cases access <;> decide

def letters : List Char := ['r', 'w', 'x', 'r', 'w', 'x', 'r', 'w', 'x']

lemma map_letter_all : all.map letter = letters := rfl

lemma letters_getElem? {i : ℕ} {s : Slot} (h : all[i]? = some s) : letters[i]? = some s.letter := by
  rw [← map_letter_all, List.getElem?_map, h]
  rfl

lemma letter_ne_s (s : Slot) : s.letter ≠ 's' := by
  rcases s with ⟨who, _ | _ | _⟩ <;> simp [letter, Access.letter]

lemma letter_ne_dash (s : Slot) : s.letter ≠ '-' := by
  rcases s with ⟨who, _ | _ | _⟩ <;> simp [letter, Access.letter]

lemma setId?_isSome_iff {i : ℕ} {s : Slot} (h : all[i]? = some s) :
    s.setId?.isSome = true ↔ i = 2 ∨ i = 5 := by
  have hall : ∀ j : Fin 9, (all.get j).setId?.isSome = true ↔ j.val = 2 ∨ j.val = 5 := by decide
  obtain ⟨hi, rfl⟩ := List.getElem?_eq_some_iff.mp h
  exact hall ⟨i, hi⟩

lemma mem_zip_iff {cs : List Char} {s : Slot} {c : Char} :
    (s, c) ∈ all.zip cs ↔ ∃ i : ℕ, all[i]? = some s ∧ cs[i]? = some c := by
  simp [List.mem_iff_getElem?, List.getElem?_zip_eq_some]

lemma exists_getElem? {i : ℕ} (hi : i < 9) : ∃ s, all[i]? = some s :=
  ⟨all.get ⟨i, hi⟩, List.getElem?_eq_getElem hi⟩

end Slot

namespace Mark

lemma read_letter (strict : Bool) (s : Slot) : read strict s s.letter = .ok .on := by
  simp [read]

lemma read_dash (strict : Bool) (s : Slot) : read strict s '-' = .ok .off := by
  simp [read, s.letter_ne_dash.symm]

lemma read_s (strict : Bool) (s : Slot) :
    read strict s 's' = match s.setId? with
      | some bit => .ok (.setId bit)
      | none => .error .badSlots := by
  simp only [read, s.letter_ne_s.symm, if_false]
  rfl

lemma read_other (strict : Bool) {s : Slot} {c : Char} (hletter : c ≠ s.letter) (hdash : c ≠ '-')
    (hs : c ≠ 's') : read strict s c = if strict then .error .badSlots else .ok .keep := by
  simp [read, hletter, hdash, hs]

lemma read_isOk_iff (strict : Bool) (s : Slot) (c : Char) :
    (∃ m, read strict s c = .ok m) ↔
      c = '-' ∨ c = s.letter ∨ (c = 's' ∧ s.setId?.isSome = true) ∨
        (strict = false ∧ c ≠ 's') := by
  by_cases hdash : c = '-'
  · simp [hdash, read_dash]
  by_cases hletter : c = s.letter
  · simp [hletter, read_letter]
  by_cases hs : c = 's'
  · subst hs
    rw [read_s]
    cases hset : s.setId? <;> simp [s.letter_ne_s.symm]
  · rw [read_other strict hletter hdash hs]
    cases strict <;> simp [hletter, hdash, hs]

lemma read_error {strict : Bool} {s : Slot} {c : Char} {e : Rejection}
    (h : read strict s c = .error e) : e = .badSlots := by
  by_cases hdash : c = '-'
  · simp [hdash, read_dash] at h
  by_cases hletter : c = s.letter
  · simp [hletter, read_letter] at h
  by_cases hs : c = 's'
  · subst hs
    rw [read_s] at h
    cases hset : s.setId? with
    | some bit =>
      rw [hset] at h
      cases h
    | none =>
      rw [hset] at h
      exact (Except.error.inj h).symm
  · rw [read_other strict hletter hdash hs] at h
    cases strict with
    | false => cases h
    | true => exact (Except.error.inj h).symm

end Mark

end FileMode
