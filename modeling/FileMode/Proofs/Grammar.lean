import FileMode.Proofs.Layout
import Mathlib.Computability.RegularExpressions

/-! The grammar of clauses as regular expressions: `[ugoa ]*[+-=]` for the head of a clause, and
`[ugoa ]*[+-=][rwxs ]*` for a whole one. What they match are the layouts of clauses. -/

namespace FileMode.Grammar

open Computability RegularExpression

def anyOf (letters : List Char) : RegularExpression Char := (letters.map char).sum

def head : RegularExpression Char := (anyOf ['u', 'g', 'o', 'a', ' ']).star * anyOf ['+', '-', '=']

def clause : RegularExpression Char := head * (anyOf ['r', 'w', 'x', 's', ' ']).star

lemma mem_anyOf {letters w : List Char} :
    w ∈ (anyOf letters).matches' ↔ ∃ c ∈ letters, w = [c] := by
  induction letters with
  | nil => simp [anyOf, Language.notMem_zero]
  | cons d letters ih =>
    change w ∈ (char d + anyOf letters).matches' ↔ _
    rw [matches'_add, Language.mem_add, ih, matches'_char]
    change (w = [d] ∨ _) ↔ _
    simp

lemma mem_star_anyOf {letters w : List Char} :
    w ∈ (anyOf letters).star.matches' ↔ ∀ c ∈ w, c ∈ letters := by
  rw [matches'_star, Language.mem_kstar]
  refine ⟨?_, ?_⟩
  · rintro ⟨words, rfl, hwords⟩ c hc
    obtain ⟨word, hword, hc⟩ := List.mem_flatten.mp hc
    obtain ⟨d, hd, rfl⟩ := mem_anyOf.mp (hwords word hword)
    obtain rfl : c = d := by simpa using hc
    exact hd
  · intro h
    refine ⟨w.map fun c => [c], ?_, ?_⟩
    · rw [← List.flatMap_def, List.flatMap_singleton']
    · intro word hword
      obtain ⟨c, hc, rfl⟩ := List.mem_map.mp hword
      exact mem_anyOf.mpr ⟨c, h c hc, rfl⟩

lemma mem_star_iff_spell {α : Type} (L : Lettering α) {letters w : List Char}
    (h : ∀ c, c ∈ letters ↔ c = ' ' ∨ ∃ a, L.char a = c) :
    w ∈ (anyOf letters).star.matches' ↔ ∃ run, L.spell run = w := by
  rw [mem_star_anyOf]
  refine ⟨?_, ?_⟩
  · intro hw
    exact L.exists_spell_of_forall fun c hc => (h c).mp (hw c hc)
  · rintro ⟨run, rfl⟩ c hc
    exact (h c).mpr (L.mem_spell hc)

lemma mem_map_of_forall {α : Type} (f : α → Char) {all : List α} (hall : ∀ a, a ∈ all) (c : Char) :
    c ∈ all.map f ↔ ∃ a, f a = c := by
  simp [hall]

lemma mem_letters_or_blank {α : Type} (L : Lettering α) {all : List α} (hall : ∀ a, a ∈ all)
    (c : Char) : c ∈ all.map L.char ++ [' '] ↔ c = ' ' ∨ ∃ a, L.char a = c := by
  rw [List.mem_append, mem_map_of_forall L.char hall, List.mem_singleton, or_comm]

lemma mem_selectors (c : Char) :
    c ∈ ['u', 'g', 'o', 'a', ' '] ↔ c = ' ' ∨ ∃ s, Selector.lettering.char s = c := by
  have hall : ∀ s : Selector, s ∈ [.owner, .group, .other, .everyone] := by
    intro s
    cases s <;> decide
  exact mem_letters_or_blank Selector.lettering hall c

lemma mem_operators (c : Char) : c ∈ ['+', '-', '='] ↔ ∃ op : Operator, op.char = c := by
  have hall : ∀ op : Operator, op ∈ [.add, .remove, .assign] := by
    intro op
    cases op <;> decide
  exact mem_map_of_forall Operator.char hall c

lemma mem_permissions (c : Char) :
    c ∈ ['r', 'w', 'x', 's', ' '] ↔ c = ' ' ∨ ∃ p, Permission.lettering.char p = c := by
  have hall : ∀ p : Permission, p ∈ [.read, .write, .execute, .setId] := by
    intro p
    cases p <;> decide
  exact mem_letters_or_blank Permission.lettering hall c

lemma mem_head_iff {w : List Char} : w ∈ head.matches' ↔ ∃ who op, Layout.head who op = w := by
  rw [head, matches'_mul, Language.mem_mul]
  refine ⟨?_, ?_⟩
  · rintro ⟨a, ha, b, hb, rfl⟩
    obtain ⟨who, rfl⟩ := (mem_star_iff_spell _ mem_selectors).mp ha
    obtain ⟨c, hc, rfl⟩ := mem_anyOf.mp hb
    obtain ⟨op, rfl⟩ := (mem_operators c).mp hc
    exact ⟨who, op, rfl⟩
  · rintro ⟨who, op, rfl⟩
    exact ⟨_, (mem_star_iff_spell _ mem_selectors).mpr ⟨who, rfl⟩, [op.char],
      mem_anyOf.mpr ⟨op.char, (mem_operators _).mpr ⟨op, rfl⟩, rfl⟩, rfl⟩

lemma mem_clause_iff {w : List Char} : w ∈ clause.matches' ↔ ∃ t : Layout, t.chars = w := by
  rw [clause, matches'_mul, Language.mem_mul]
  refine ⟨?_, ?_⟩
  · rintro ⟨a, ha, b, hb, rfl⟩
    obtain ⟨who, op, rfl⟩ := mem_head_iff.mp ha
    obtain ⟨permissions, rfl⟩ := (mem_star_iff_spell _ mem_permissions).mp hb
    exact ⟨⟨who, op, permissions⟩, rfl⟩
  · rintro ⟨t, rfl⟩
    exact ⟨_, mem_head_iff.mpr ⟨t.who, t.operator, rfl⟩, _,
      (mem_star_iff_spell _ mem_permissions).mpr ⟨t.permissions, rfl⟩, rfl⟩

lemma parse_eq_ok_iff_mem {w : List Char} :
    (∃ c, Clause.parse w = .ok c) ↔ w ∈ clause.matches' := by
  rw [mem_clause_iff]
  refine ⟨?_, ?_⟩
  · rintro ⟨c, hc⟩
    obtain ⟨t, ht, _⟩ := Clause.parse_eq_ok_iff.mp hc
    exact ⟨t, ht⟩
  · rintro ⟨t, ht⟩
    exact ⟨t.clause, Clause.parse_eq_ok_iff.mpr ⟨t, ht, rfl⟩⟩

lemma parse_eq_badOperator_iff_mem {w : List Char} :
    Clause.parse w = .error .badOperator ↔ ¬ ∃ p, p <+: w ∧ p ∈ head.matches' := by
  rw [Clause.parse_eq_badOperator_iff]
  refine ⟨?_, ?_⟩
  · rintro h ⟨p, hp, hhead⟩
    obtain ⟨who, op, rfl⟩ := mem_head_iff.mp hhead
    exact h who op hp
  · intro h who op hp
    exact h ⟨_, hp, mem_head_iff.mpr ⟨who, op, rfl⟩⟩

lemma parse_eq_badChange_iff_mem {w : List Char} :
    Clause.parse w = .error .badChange ↔
      w ∉ clause.matches' ∧ ∃ p, p <+: w ∧ p ∈ head.matches' := by
  rw [Clause.parse_eq_badChange_iff, mem_clause_iff, and_comm]
  refine and_congr_right fun _ => ⟨?_, ?_⟩
  · rintro ⟨who, op, hp⟩
    exact ⟨_, hp, mem_head_iff.mpr ⟨who, op, rfl⟩⟩
  · rintro ⟨p, hp, hhead⟩
    obtain ⟨who, op, rfl⟩ := mem_head_iff.mp hhead
    exact ⟨who, op, hp⟩

end FileMode.Grammar
