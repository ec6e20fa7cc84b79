import FileMode.Proofs.Traversal
import FileMode.Spec.Basic
import Mathlib.Tactic.Lemma

namespace FileMode

namespace Spec

inductive Form
  | positional
  | octal
  | symbolic
  deriving DecidableEq

def form : List Char → Form
  | [] => .symbolic
  | c :: _ =>
    if c = 'r' ∨ c = '-' then .positional
    else if '0' ≤ c ∧ c ≤ '7' then .octal
    else .symbolic

lemma parseChars_of_positional (o : Options) {cs : List Char} (h : form cs = .positional) :
    parseChars o cs = positional <$> Marks.parse o.strict cs := by
  cases cs with
  | nil => cases h
  | cons c cs =>
    rw [form] at h
    split at h
    · next hc => rw [parseChars, if_pos (by simpa using hc)]
    · split at h <;> cases h

lemma parseChars_of_octal (o : Options) {cs : List Char} (h : form cs = .octal) :
    parseChars o cs = octal <$> parseOctal cs := by
  cases cs with
  | nil => cases h
  | cons c cs =>
    rw [form] at h
    split at h
    · cases h
    · next hc =>
      split at h
      · next hdigit =>
        rw [parseChars, if_neg (by simpa using hc), if_pos (by simpa [Octal.isDigit] using hdigit)]
      · cases h

lemma parseChars_of_symbolic (o : Options) {cs : List Char} (h : form cs = .symbolic) :
    parseChars o cs = symbolic <$> Clause.parseAll cs := by
  cases cs with
  | nil => rfl
  | cons c cs =>
    rw [form] at h
    split at h
    · cases h
    · next hc =>
      split at h
      · cases h
      · next hdigit =>
        rw [parseChars, if_neg (by simpa using hc), if_neg (by simpa [Octal.isDigit] using hdigit)]

lemma form_append_symbolic {a b : List Char} (ha : form a = .symbolic) (hb : form b = .symbolic) :
    form (a ++ b) = .symbolic := by
  cases a with
  | nil => exact hb
  | cons c a => exact ha

lemma form_append_comma {a : List Char} (ha : form a = .symbolic) (b : List Char) :
    form (a ++ ',' :: b) = .symbolic :=
  form_append_symbolic ha rfl

lemma form_blank_cons (b : List Char) : form (' ' :: b) = .symbolic := rfl

lemma form_of_digit {cs : List Char} {c : Char} (hhead : cs.head? = some c)
    (hdigit : '0' ≤ c ∧ c ≤ '7') : form cs = .octal := by
  obtain ⟨cs, rfl⟩ := List.head?_eq_some_iff.mp hhead
  have hother : ¬ (c = 'r' ∨ c = '-') := by
    rintro (rfl | rfl) <;> exact absurd hdigit (by decide)
  rw [form, if_neg hother, if_pos hdigit]

lemma form_append {a : List Char} (hne : a ≠ []) (b : List Char) : form (a ++ b) = form a := by
  obtain ⟨c, a, rfl⟩ := List.exists_cons_of_ne_nil hne
  rfl

end Spec

lemma Mode.change_of_positional (o : Options) (m : Mode) {s : String}
    (h : Spec.form s.toList = .positional) :
    m.change o s =
      (fun marks => (Spec.positional marks).apply m) <$> Marks.parse o.strict s.toList := by
  rw [change, Spec.parse, Spec.parseChars_of_positional o h]
  cases Marks.parse o.strict s.toList <;> rfl

lemma Mode.change_of_octal (o : Options) (m : Mode) {s : String}
    (h : Spec.form s.toList = .octal) :
    m.change o s = (fun n : ℕ => Mode.ofInt n) <$> Spec.parseOctal s.toList := by
  rw [change, Spec.parse, Spec.parseChars_of_octal o h]
  cases Spec.parseOctal s.toList <;> rfl

lemma Mode.change_of_symbolic (o : Options) (m : Mode) {s : String}
    (h : Spec.form s.toList = .symbolic) :
    m.change o s =
      (fun clauses => (Spec.symbolic clauses).apply m) <$> Clause.parseAll s.toList := by
  rw [change, Spec.parse, Spec.parseChars_of_symbolic o h]
  cases Clause.parseAll s.toList <;> rfl

lemma Mode.ne_empty_of_change {o : Options} {s : String} {m m' : Mode}
    (h : m.change o s = .ok m') : s ≠ "" := by
  rintro rfl
  cases h

lemma Mode.exists_parseAll_of_change {o : Options} {s : String} {c c' : Mode}
    (hform : Spec.form s.toList = .symbolic) (h : c.change o s = .ok c') :
    ∃ cs, Clause.parseAll s.toList = .ok cs ∧
      ∀ (o' : Options) (m : Mode), m.change o' s = .ok ((Spec.symbolic cs).apply m) := by
  rw [change_of_symbolic o c hform, Traversal.map_eq_ok_iff] at h
  obtain ⟨cs, hparse, -⟩ := h
  refine ⟨cs, hparse, fun o' m => ?_⟩
  rw [change_of_symbolic o' m hform, hparse]
  rfl

end FileMode
