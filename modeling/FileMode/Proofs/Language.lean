import FileMode.Change
import FileMode.Proofs.Form
import FileMode.Proofs.Grammar
import FileMode.Proofs.Slots
import FileMode.Proofs.Traversal

/-! The exact language of mode strings, and the cause for which each other text is refused. Neither
depends on the mode that is changed, and only the nine-letter form depends on strictness. -/

namespace FileMode.Language

open Spec (form)

def LenientSlots (cs : List Char) : Prop := ∀ i < 9, cs[i]? = some 's' → i = 2 ∨ i = 5

def StrictSlots (cs : List Char) : Prop :=
  cs.length = 9 ∧ ∀ (i : ℕ) (c : Char), cs[i]? = some c →
    c = '-' ∨ Slot.letters[i]? = some c ∨ (c = 's' ∧ (i = 2 ∨ i = 5))

def Slots (strict : Bool) (cs : List Char) : Prop :=
  if strict then StrictSlots cs else LenientSlots cs

def Numeral (cs : List Char) : Prop := cs.length ≤ 8 ∧ ∀ c ∈ cs, '0' ≤ c ∧ c ≤ '7'

def Clauses (cs : List Char) : Prop := ∀ segment ∈ cs.splitOn ',', segment ∈ Grammar.clause.matches'

def Accepted (strict : Bool) (cs : List Char) : Prop :=
  match form cs with
  | .positional => Slots strict cs
  | .octal => Numeral cs
  | .symbolic => Clauses cs

def FirstBad (cs segment : List Char) : Prop :=
  ∃ before after, cs.splitOn ',' = before ++ segment :: after ∧
    (∀ s ∈ before, s ∈ Grammar.clause.matches') ∧ segment ∉ Grammar.clause.matches'

inductive Refused (strict : Bool) (cs : List Char) : Rejection → Prop
  | slots : form cs = .positional → ¬ Slots strict cs → Refused strict cs .badSlots
  | octal : form cs = .octal → ¬ Numeral cs → Refused strict cs .badOctal
  | operator {segment : List Char} : form cs = .symbolic → FirstBad cs segment →
      (¬ ∃ p, p <+: segment ∧ p ∈ Grammar.head.matches') → Refused strict cs .badOperator
  | change {segment : List Char} : form cs = .symbolic → FirstBad cs segment →
      (∃ p, p <+: segment ∧ p ∈ Grammar.head.matches') → Refused strict cs .badChange

lemma slots_isOk_iff (strict : Bool) (cs : List Char) :
    (∀ x ∈ Slot.all.zip cs, ∃ m, Mark.read strict x.1 x.2 = .ok m) ↔
      ∀ (i : ℕ) (c : Char), i < 9 → cs[i]? = some c → c = '-' ∨ Slot.letters[i]? = some c ∨
        (c = 's' ∧ (i = 2 ∨ i = 5)) ∨ (strict = false ∧ c ≠ 's') := by
  refine ⟨?_, ?_⟩
  · intro h i c hi hc
    obtain ⟨s, hs⟩ := Slot.exists_getElem? hi
    have hread := h (s, c) (Slot.mem_zip_iff.mpr ⟨i, hs, hc⟩)
    rw [Mark.read_isOk_iff, Slot.setId?_isSome_iff hs] at hread
    rw [Slot.letters_getElem? hs, Option.some.injEq, eq_comm (a := s.letter)]
    exact hread
  · rintro h ⟨s, c⟩ hmem
    obtain ⟨i, hs, hc⟩ := Slot.mem_zip_iff.mp hmem
    have hi : i < 9 := (List.getElem?_eq_some_iff.mp hs).1
    have hchar := h i c hi hc
    rw [Slot.letters_getElem? hs, Option.some.injEq, eq_comm (a := s.letter)] at hchar
    rw [Mark.read_isOk_iff, Slot.setId?_isSome_iff hs]
    exact hchar

lemma slots_isOk_lenient (cs : List Char) :
    (∀ x ∈ Slot.all.zip cs, ∃ m, Mark.read false x.1 x.2 = .ok m) ↔ LenientSlots cs := by
  rw [slots_isOk_iff]
  refine ⟨?_, ?_⟩
  · intro h i hi hs
    rcases h i 's' hi hs with h | h | ⟨_, h⟩ | ⟨_, h⟩
    · cases h
    · obtain ⟨s, hall⟩ := Slot.exists_getElem? hi
      rw [Slot.letters_getElem? hall, Option.some.injEq] at h
      exact (s.letter_ne_s h).elim
    · exact h
    · exact (h rfl).elim
  · intro h i c hi hc
    by_cases hs : c = 's'
    · subst hs
      exact Or.inr (Or.inr (Or.inl ⟨rfl, h i hi hc⟩))
    · exact Or.inr (Or.inr (Or.inr ⟨rfl, hs⟩))

lemma slots_isOk_strict {cs : List Char} (hlen : cs.length = 9) :
    (∀ x ∈ Slot.all.zip cs, ∃ m, Mark.read true x.1 x.2 = .ok m) ↔ StrictSlots cs := by
  rw [slots_isOk_iff, StrictSlots, and_iff_right hlen]
  refine forall_congr' fun i => forall_congr' fun c => ⟨?_, ?_⟩
  · intro h hc
    have hi : i < cs.length := (List.getElem?_eq_some_iff.mp hc).1
    simpa using h (by omega) hc
  · intro h _ hc
    simpa using h hc

lemma marks_isOk_iff (strict : Bool) (cs : List Char) :
    (∃ ms, Marks.parse strict cs = .ok ms) ↔ Slots strict cs := by
  have hmap : ∀ x : Slot × Char, (∃ y, (Mark.read strict x.1 x.2).map (x.1, ·) = .ok y) ↔
      ∃ m, Mark.read strict x.1 x.2 = .ok m :=
    fun x => Traversal.map_isOk_iff (x := Mark.read strict x.1 x.2) (x.1, ·)
  rw [Marks.parse, Slot.length_all]
  split
  · next h =>
    obtain ⟨rfl, hlen⟩ : strict = true ∧ cs.length ≠ 9 := by simpa using h
    simp [Slots, StrictSlots, hlen]
  · next h =>
    simp only [Traversal.mapM_isOk_iff, hmap]
    cases strict with
    | false => exact slots_isOk_lenient cs
    | true => exact slots_isOk_strict (by simpa using h)

lemma marks_error {strict : Bool} {cs : List Char} {e : Rejection}
    (h : Marks.parse strict cs = .error e) : e = .badSlots := by
  rw [Marks.parse] at h
  split at h
  · exact (Except.error.inj h).symm
  · obtain ⟨_, x, _, _, _, hx⟩ := Traversal.mapM_eq_error_iff.mp h
    exact Mark.read_error ((Traversal.map_eq_error_iff _).mp hx)

lemma parseOctal_isOk_iff (cs : List Char) :
    (∃ n, Spec.parseOctal cs = .ok n) ↔ Numeral cs := by
  have hguard : (decide (cs.length ≤ Spec.maxOctalLength) && cs.all Octal.isDigit) = true ↔
      Numeral cs := by
    rw [Bool.and_eq_true, decide_eq_true_eq, List.all_eq_true]
    simp [Numeral, Spec.maxOctalLength, Octal.isDigit]
  rw [Spec.parseOctal, ← hguard]
  split
  · next h => exact ⟨fun _ => h, fun _ => ⟨_, rfl⟩⟩
  · next h => simp [h]

lemma parseOctal_error {cs : List Char} {e : Rejection} (h : Spec.parseOctal cs = .error e) :
    e = .badOctal := by
  rw [Spec.parseOctal] at h
  split at h
  · cases h
  · exact (Except.error.inj h).symm

lemma parseOctal_eq_ok_iff {cs : List Char} {n : ℕ} :
    Spec.parseOctal cs = .ok n ↔ Numeral cs ∧ n = Octal.value cs := by
  have hvalue : ∀ k, Spec.parseOctal cs = .ok k → k = Octal.value cs := by
    intro k h
    rw [Spec.parseOctal] at h
    split at h
    · exact (Except.ok.inj h).symm
    · cases h
  refine ⟨fun h => ⟨(parseOctal_isOk_iff cs).mp ⟨n, h⟩, hvalue n h⟩, ?_⟩
  rintro ⟨hnumeral, rfl⟩
  obtain ⟨k, hk⟩ := (parseOctal_isOk_iff cs).mpr hnumeral
  rwa [hvalue k hk] at hk

lemma eq_error_iff {α : Type} {x : Except Rejection α} {passes : Prop} {cause : Rejection}
    (hok : (∃ a, x = .ok a) ↔ passes) (herror : ∀ e, x = .error e → e = cause) (e : Rejection) :
    x = .error e ↔ ¬ passes ∧ e = cause := by
  cases x with
  | ok a => simp [← hok]
  | error e' =>
    obtain rfl := herror e' rfl
    simp [← hok, eq_comm]

lemma parseAll_isOk_iff (cs : List Char) : (∃ c, Clause.parseAll cs = .ok c) ↔ Clauses cs := by
  rw [Clause.parseAll, Traversal.mapM_isOk_iff]
  simp only [Grammar.parse_eq_ok_iff_mem]
  rfl

lemma parseAll_eq_error_iff {cs : List Char} {e : Rejection} :
    Clause.parseAll cs = .error e ↔ ∃ segment, FirstBad cs segment ∧
      Clause.parse segment = .error e := by
  rw [Clause.parseAll, Traversal.mapM_eq_error_iff]
  simp only [Grammar.parse_eq_ok_iff_mem]
  refine ⟨?_, ?_⟩
  · rintro ⟨before, segment, after, hsplit, hbefore, hbad⟩
    refine ⟨segment, ⟨before, after, hsplit, hbefore, ?_⟩, hbad⟩
    rw [← Grammar.parse_eq_ok_iff_mem]
    simp [hbad]
  · rintro ⟨segment, ⟨before, after, hsplit, hbefore, _⟩, hbad⟩
    exact ⟨before, segment, after, hsplit, hbefore, hbad⟩

variable (o : Options) (cs : List Char)

lemma parseChars_isOk_iff : (∃ spec, Spec.parseChars o cs = .ok spec) ↔ Accepted o.strict cs := by
  rw [Accepted]
  cases hform : form cs with
  | positional =>
    rw [Spec.parseChars_of_positional o hform, Traversal.map_isOk_iff, marks_isOk_iff]
  | octal => rw [Spec.parseChars_of_octal o hform, Traversal.map_isOk_iff, parseOctal_isOk_iff]
  | symbolic => rw [Spec.parseChars_of_symbolic o hform, Traversal.map_isOk_iff, parseAll_isOk_iff]

lemma parseAll_refused {segment : List Char} {e : Rejection} (hform : form cs = .symbolic)
    (hfirst : FirstBad cs segment) (h : Clause.parse segment = .error e) :
    Refused o.strict cs e := by
  cases e with
  | badOperator =>
    exact .operator hform hfirst (Grammar.parse_eq_badOperator_iff_mem.mp h)
  | badChange =>
    exact .change hform hfirst (Grammar.parse_eq_badChange_iff_mem.mp h).2
  | badSlots => cases Clause.reading_iff.mpr h
  | badOctal => cases Clause.reading_iff.mpr h

lemma parseChars_eq_error_iff (e : Rejection) :
    Spec.parseChars o cs = .error e ↔ Refused o.strict cs e := by
  have hslots := eq_error_iff (marks_isOk_iff o.strict cs) (fun _ => marks_error) e
  have hoctal := eq_error_iff (parseOctal_isOk_iff cs) (fun _ => parseOctal_error) e
  refine ⟨?_, ?_⟩
  · intro h
    cases hform : form cs with
    | positional =>
      rw [Spec.parseChars_of_positional o hform, Traversal.map_eq_error_iff, hslots] at h
      obtain ⟨hbad, rfl⟩ := h
      exact .slots hform hbad
    | octal =>
      rw [Spec.parseChars_of_octal o hform, Traversal.map_eq_error_iff, hoctal] at h
      obtain ⟨hbad, rfl⟩ := h
      exact .octal hform hbad
    | symbolic =>
      rw [Spec.parseChars_of_symbolic o hform, Traversal.map_eq_error_iff,
        parseAll_eq_error_iff] at h
      obtain ⟨segment, hfirst, hbad⟩ := h
      exact parseAll_refused o cs hform hfirst hbad
  · intro h
    cases h with
    | slots hform hbad =>
      rw [Spec.parseChars_of_positional o hform, Traversal.map_eq_error_iff, hslots]
      exact ⟨hbad, rfl⟩
    | octal hform hbad =>
      rw [Spec.parseChars_of_octal o hform, Traversal.map_eq_error_iff, hoctal]
      exact ⟨hbad, rfl⟩
    | @operator segment hform hfirst hhead =>
      rw [Spec.parseChars_of_symbolic o hform, Traversal.map_eq_error_iff, parseAll_eq_error_iff]
      exact ⟨segment, hfirst, Grammar.parse_eq_badOperator_iff_mem.mpr hhead⟩
    | @change segment hform hfirst hhead =>
      rw [Spec.parseChars_of_symbolic o hform, Traversal.map_eq_error_iff, parseAll_eq_error_iff]
      have ⟨_, _, _, _, hbad⟩ := hfirst
      exact ⟨segment, hfirst, Grammar.parse_eq_badChange_iff_mem.mpr ⟨hbad, hhead⟩⟩

variable (s : String) (m : Mode)

lemma change_isOk_iff : (∃ m', m.change o s = .ok m') ↔ Accepted o.strict s.toList := by
  rw [← parseChars_isOk_iff]
  exact Traversal.map_isOk_iff (x := Spec.parse o s) (·.apply m)

lemma change_eq_error_iff (e : Rejection) :
    m.change o s = .error e ↔ Refused o.strict s.toList e := by
  rw [← parseChars_eq_error_iff]
  exact Traversal.map_eq_error_iff (x := Spec.parse o s) (·.apply m)

theorem changeBy_text_outcome (current : ℤ) (o : Options) (s : String) :
    ((∃ m, (Mode.ofInt current).changeBy o (.text s) = .ok m) ↔ Accepted o.strict s.toList) ∧
      ∀ e, (Mode.ofInt current).changeBy o (.text s) = .error e ↔
        ∃ cause, Refused o.strict s.toList cause ∧ e = .rejected cause s := by
  rw [Mode.changeBy]
  refine ⟨?_, ?_⟩
  · rw [← change_isOk_iff o s (Mode.ofInt current)]
    cases (Mode.ofInt current).change o s <;> simp [Except.mapError]
  · intro e
    simp only [← change_eq_error_iff o s (Mode.ofInt current)]
    cases (Mode.ofInt current).change o s <;> simp [Except.mapError, eq_comm]

end FileMode.Language
