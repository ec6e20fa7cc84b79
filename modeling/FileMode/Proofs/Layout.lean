import FileMode.Proofs.Traversal
import FileMode.Spec.Clause
import Mathlib.Data.List.ReduceOption

namespace FileMode

structure Lettering (α : Type) where
  char : α → Char
  letter? : Char → Option α
  letter?_eq_some_iff (c : Char) (a : α) : letter? c = some a ↔ char a = c
  char_ne_blank (a : α) : char a ≠ ' '

namespace Lettering

variable {α : Type} (L : Lettering α)

def spell (run : List (Option α)) : List Char := run.map fun a? => a?.elim ' ' L.char

/-- A text that goes on with neither a letter nor a blank. -/
def Stops (rest : List Char) : Prop := ∀ c ∈ rest.head?, c ≠ ' ' ∧ L.letter? c = none

lemma letter?_char (a : α) : L.letter? (L.char a) = some a := (L.letter?_eq_some_iff _ a).mpr rfl

lemma letterRun_spell_append (run : List (Option α)) (rest : List Char) :
    letterRun L.letter? (L.spell run ++ rest) =
      (run.reduceOption ++ (letterRun L.letter? rest).1, (letterRun L.letter? rest).2) := by
  induction run with
  | nil => rfl
  | cons a? run ih =>
    cases a? with
    | none =>
      change letterRun L.letter? (' ' :: (L.spell run ++ rest)) = _
      rw [letterRun, if_pos rfl, ih, List.reduceOption_cons_of_none]
    | some a =>
      change letterRun L.letter? (L.char a :: (L.spell run ++ rest)) = _
      rw [letterRun, if_neg (L.char_ne_blank a), L.letter?_char, ih, List.reduceOption_cons_of_some]
      rfl

lemma letterRun_of_stops {rest : List Char} (h : L.Stops rest) :
    letterRun L.letter? rest = ([], rest) := by
  cases rest with
  | nil => rfl
  | cons c rest =>
    obtain ⟨hblank, hletter⟩ := h c rfl
    simp [letterRun, hblank, hletter]

lemma letterRun_spell (run : List (Option α)) {rest : List Char} (h : L.Stops rest) :
    letterRun L.letter? (L.spell run ++ rest) = (run.reduceOption, rest) := by
  rw [L.letterRun_spell_append, L.letterRun_of_stops h, List.append_nil]

lemma exists_spell (cs : List Char) : ∃ run rest, cs = L.spell run ++ rest ∧ L.Stops rest := by
  induction cs with
  | nil => exact ⟨[], [], rfl, by simp [Stops]⟩
  | cons c cs ih =>
    obtain ⟨run, rest, rfl, hstops⟩ := ih
    by_cases hblank : c = ' '
    · exact ⟨none :: run, rest, by simp [spell, hblank], hstops⟩
    · cases hletter : L.letter? c with
      | none => exact ⟨[], c :: (L.spell run ++ rest), rfl, by simp [Stops, hblank, hletter]⟩
      | some a =>
        have hchar := (L.letter?_eq_some_iff c a).mp hletter
        exact ⟨some a :: run, rest, by simp [spell, hchar], hstops⟩

lemma mem_spell {run : List (Option α)} {c : Char} (h : c ∈ L.spell run) :
    c = ' ' ∨ ∃ a, L.char a = c := by
  obtain ⟨a?, _, rfl⟩ := List.mem_map.mp h
  cases a? with
  | none => exact Or.inl rfl
  | some a => exact Or.inr ⟨a, rfl⟩

lemma exists_spell_of_forall {cs : List Char} (h : ∀ c ∈ cs, c = ' ' ∨ ∃ a, L.char a = c) :
    ∃ run, L.spell run = cs := by
  obtain ⟨run, rest, rfl, hstops⟩ := L.exists_spell cs
  cases rest with
  | nil => exact ⟨run, by simp⟩
  | cons c rest =>
    obtain ⟨hblank, hletter⟩ := hstops c rfl
    rcases h c (by simp) with hc | ⟨a, rfl⟩
    · exact (hblank hc).elim
    · simp [L.letter?_char] at hletter

end Lettering

lemma Selector.ofChar?_eq_some_iff (c : Char) (s : Selector) : ofChar? c = some s ↔ s.char = c := by
  refine ⟨?_, ?_⟩
  · intro h
    unfold ofChar? at h
    split at h <;> cases h <;> rfl
  · rintro rfl
    cases s <;> rfl

lemma Permission.ofChar?_eq_some_iff (c : Char) (p : Permission) :
    ofChar? c = some p ↔ p.char = c := by
  refine ⟨?_, ?_⟩
  · intro h
    unfold ofChar? at h
    split at h <;> cases h <;> rfl
  · rintro rfl
    cases p <;> rfl

lemma Operator.ofChar?_eq_some_iff (c : Char) (op : Operator) :
    ofChar? c = some op ↔ op.char = c := by
  refine ⟨?_, ?_⟩
  · intro h
    unfold ofChar? at h
    split at h <;> cases h <;> rfl
  · rintro rfl
    cases op <;> rfl

def Selector.lettering : Lettering Selector where
  char := char
  letter? := ofChar?
  letter?_eq_some_iff := ofChar?_eq_some_iff
  char_ne_blank a := by cases a <;> decide

def Permission.lettering : Lettering Permission where
  char := char
  letter? := ofChar?
  letter?_eq_some_iff := ofChar?_eq_some_iff
  char_ne_blank a := by cases a <;> decide

lemma Operator.stops_selectors (op : Operator) (rest : List Char) :
    Selector.lettering.Stops (op.char :: rest) := by
  intro c hc
  obtain rfl : op.char = c := by simpa using hc
  cases op <;> exact ⟨by decide, rfl⟩

structure Layout where
  who : List (Option Selector)
  operator : Operator
  permissions : List (Option Permission)

namespace Layout

def head (who : List (Option Selector)) (op : Operator) : List Char :=
  Selector.lettering.spell who ++ [op.char]

def chars (t : Layout) : List Char :=
  head t.who t.operator ++ Permission.lettering.spell t.permissions

def clause (t : Layout) : Clause := ⟨t.who.reduceOption, t.operator, t.permissions.reduceOption⟩

end Layout

namespace Clause

lemma parse_head_append (who : List (Option Selector)) (op : Operator)
    (permissions : List (Option Permission)) {rest : List Char}
    (hstops : Permission.lettering.Stops rest) :
    parse (Layout.head who op ++ (Permission.lettering.spell permissions ++ rest)) =
      if rest = [] then .ok ⟨who.reduceOption, op, permissions.reduceOption⟩
      else .error .badChange := by
  have hperm := Permission.lettering.letterRun_spell permissions hstops
  have hwho := Selector.lettering.letterRun_spell who
    (op.stops_selectors (Permission.lettering.spell permissions ++ rest))
  change letterRun Selector.ofChar? _ = _ at hwho
  change letterRun Permission.ofChar? _ = _ at hperm
  rw [Layout.head, List.append_assoc, List.singleton_append, parse, hwho]
  simp only [(Operator.ofChar?_eq_some_iff _ _).mpr rfl, hperm]
  cases rest with
  | nil => rfl
  | cons c rest => rfl

lemma parse_of_stops (who : List (Option Selector)) {rest : List Char}
    (hstops : Selector.lettering.Stops rest) (hop : ∀ c ∈ rest.head?, Operator.ofChar? c = none) :
    parse (Selector.lettering.spell who ++ rest) = .error .badOperator := by
  have hwho := Selector.lettering.letterRun_spell who hstops
  change letterRun Selector.ofChar? _ = _ at hwho
  rw [parse, hwho]
  cases rest with
  | nil => rfl
  | cons c rest => simp only [hop c rfl]

/-- A text is a layout, or goes on after one, or has no operator where one is due. -/
inductive Reading : List Char → Except Rejection Clause → Prop
  | complete (t : Layout) : Reading t.chars (.ok t.clause)
  | trailing (t : Layout) (c : Char) (rest : List Char) :
      Permission.lettering.Stops (c :: rest) →
      Reading (t.chars ++ c :: rest) (.error .badChange)
  | headless (who : List (Option Selector)) (rest : List Char) : Selector.lettering.Stops rest →
      (∀ c ∈ rest.head?, Operator.ofChar? c = none) →
      Reading (Selector.lettering.spell who ++ rest) (.error .badOperator)

lemma Reading.parse_eq {cs : List Char} {r : Except Rejection Clause} (h : Reading cs r) :
    parse cs = r := by
  cases h with
  | complete t =>
    have hstops : Permission.lettering.Stops [] := by simp [Lettering.Stops]
    have hhead := parse_head_append t.who t.operator t.permissions hstops
    simpa [Layout.chars, Layout.clause] using hhead
  | trailing t c rest hstops =>
    rw [Layout.chars, List.append_assoc, parse_head_append _ _ _ hstops, if_neg (by simp)]
  | headless who rest hstops hop => exact parse_of_stops who hstops hop

lemma exists_reading (cs : List Char) : ∃ r, Reading cs r := by
  obtain ⟨who, rest, rfl, hstops⟩ := Selector.lettering.exists_spell cs
  cases rest with
  | nil => exact ⟨_, .headless who [] hstops (by simp)⟩
  | cons c rest =>
    cases hop : Operator.ofChar? c with
    | none =>
      refine ⟨_, .headless who (c :: rest) hstops ?_⟩
      intro d hd
      obtain rfl : c = d := by simpa using hd
      exact hop
    | some op =>
      obtain rfl := (Operator.ofChar?_eq_some_iff c op).mp hop
      obtain ⟨permissions, rest, rfl, hstops'⟩ := Permission.lettering.exists_spell rest
      have hchars : Selector.lettering.spell who ++
          op.char :: (Permission.lettering.spell permissions ++ rest) =
            (⟨who, op, permissions⟩ : Layout).chars ++ rest := by
        simp [Layout.chars, Layout.head]
      rw [hchars]
      cases rest with
      | nil => exact ⟨_, by simpa using Reading.complete ⟨who, op, permissions⟩⟩
      | cons d rest => exact ⟨_, .trailing ⟨who, op, permissions⟩ d rest hstops'⟩

lemma reading_iff {cs : List Char} {r : Except Rejection Clause} :
    Reading cs r ↔ parse cs = r := by
  refine ⟨?_, ?_⟩
  · exact Reading.parse_eq
  · rintro rfl
    obtain ⟨r, hr⟩ := exists_reading cs
    exact hr.parse_eq ▸ hr

lemma parse_eq_ok_iff {cs : List Char} {c : Clause} :
    parse cs = .ok c ↔ ∃ t : Layout, t.chars = cs ∧ t.clause = c := by
  refine ⟨?_, ?_⟩
  · intro h
    cases reading_iff.mpr h with
    | complete t => exact ⟨t, rfl, rfl⟩
  · rintro ⟨t, rfl, rfl⟩
    exact (Reading.complete t).parse_eq

lemma parse_head_append_ne (who : List (Option Selector)) (op : Operator) (rest : List Char) :
    parse (Layout.head who op ++ rest) ≠ .error .badOperator := by
  obtain ⟨permissions, rest, rfl, hstops⟩ := Permission.lettering.exists_spell rest
  rw [parse_head_append who op permissions hstops]
  split <;> simp

lemma parse_eq_badOperator_iff {cs : List Char} :
    parse cs = .error .badOperator ↔ ∀ who op, ¬ Layout.head who op <+: cs := by
  refine ⟨?_, ?_⟩
  · rintro h who op ⟨rest, rfl⟩
    exact parse_head_append_ne who op rest h
  · intro h
    obtain ⟨r, hr⟩ := exists_reading cs
    cases hr with
    | complete t => exact (h t.who t.operator ⟨_, rfl⟩).elim
    | trailing t c rest _ =>
      exact (h t.who t.operator ((List.prefix_append _ _).trans (List.prefix_append _ _))).elim
    | headless who rest hstops hop => exact parse_of_stops who hstops hop

lemma parse_eq_badChange_iff {cs : List Char} :
    parse cs = .error .badChange ↔
      (∃ who op, Layout.head who op <+: cs) ∧ ¬ ∃ t : Layout, t.chars = cs := by
  refine ⟨?_, ?_⟩
  · intro h
    refine ⟨?_, ?_⟩
    · by_contra hhead
      simp only [not_exists] at hhead
      simp [parse_eq_badOperator_iff.mpr hhead] at h
    · rintro ⟨t, rfl⟩
      simp [(Reading.complete t).parse_eq] at h
  · rintro ⟨⟨who, op, hhead⟩, hlayout⟩
    obtain ⟨r, hr⟩ := exists_reading cs
    cases hr with
    | complete t => exact (hlayout ⟨t, rfl⟩).elim
    | trailing t c rest hstops => exact (Reading.trailing t c rest hstops).parse_eq
    | headless who' rest hstops hop =>
      exact (parse_eq_badOperator_iff.mp (parse_of_stops who' hstops hop) who op hhead).elim

end Clause

lemma exists_splitOn_append (cs : List Char) : ∃ before last, cs.splitOn ',' = before ++ [last] ∧
    ∀ {ds first rest}, ds.splitOn ',' = first :: rest →
      (cs ++ ds).splitOn ',' = before ++ (last ++ first) :: rest := by
  induction cs with
  | nil => exact ⟨[], [], rfl, fun hds => hds⟩
  | cons c cs ih =>
    obtain ⟨before, last, hcs, happend⟩ := ih
    by_cases hcomma : c = ','
    · subst hcomma
      refine ⟨[] :: before, last, by simp [List.splitOn_cons_eq_if_modifyHead, hcs], ?_⟩
      intro ds first rest hds
      simp [List.splitOn_cons_eq_if_modifyHead, happend hds]
    · have hsplit : ∀ text : List Char,
          (c :: text).splitOn ',' = (text.splitOn ',').modifyHead (c :: ·) := by
        intro text
        rw [List.splitOn_cons_eq_if_modifyHead, if_neg (by simpa using hcomma)]
      cases before with
      | nil =>
        refine ⟨[], c :: last, by rw [hsplit, hcs]; rfl, ?_⟩
        intro ds first rest hds
        rw [List.cons_append, hsplit, happend hds]
        rfl
      | cons segment before =>
        refine ⟨(c :: segment) :: before, last, by rw [hsplit, hcs]; rfl, ?_⟩
        intro ds first rest hds
        rw [List.cons_append, hsplit, happend hds]
        rfl

lemma splitOn_append {cs ds last first : List Char} {before rest : List (List Char)}
    (hcs : cs.splitOn ',' = before ++ [last]) (hds : ds.splitOn ',' = first :: rest) :
    (cs ++ ds).splitOn ',' = before ++ (last ++ first) :: rest := by
  obtain ⟨before', last', hcs', happend⟩ := exists_splitOn_append cs
  obtain ⟨rfl, hlast⟩ := List.append_inj' (hcs'.symm.trans hcs) rfl
  obtain rfl : last' = last := by simpa using hlast
  exact happend hds

namespace Layout

def joined (ts : List Layout) : List Char := [','].intercalate (ts.map chars)

lemma comma_notMem_chars (t : Layout) : ',' ∉ t.chars := by
  obtain ⟨who, op, permissions⟩ := t
  intro h
  simp only [chars, head, List.mem_append, List.mem_singleton] at h
  rcases h with (h | h) | h
  · rcases Selector.lettering.mem_spell h with h | ⟨s, h⟩
    · simp at h
    · cases s <;> simp [Selector.lettering, Selector.char] at h
  · cases op <;> simp [Operator.char] at h
  · rcases Permission.lettering.mem_spell h with h | ⟨p, h⟩
    · simp at h
    · cases p <;> simp [Permission.lettering, Permission.char] at h

lemma splitOn_joined {ts : List Layout} (hne : ts ≠ []) :
    (joined ts).splitOn ',' = ts.map chars := by
  apply List.splitOn_intercalate
  · intro cs hcs
    obtain ⟨t, _, rfl⟩ := List.mem_map.mp hcs
    exact t.comma_notMem_chars
  · simpa using hne

lemma parseAll_joined {ts : List Layout} (hne : ts ≠ []) :
    Clause.parseAll (joined ts) = .ok (ts.map clause) := by
  rw [Clause.parseAll, splitOn_joined hne, Traversal.mapM_eq_ok_iff, List.forall₂_map_left_iff,
    List.forall₂_map_right_iff]
  exact List.forall₂_same.mpr fun t _ => (Clause.Reading.complete t).parse_eq

lemma map_clause_of_joined {ts : List Layout} {clauses : List Clause}
    (h : Clause.parseAll (joined ts) = .ok clauses) : ts.map clause = clauses := by
  -- no text at all would be one empty clause, and that is refused
  have hne : ts ≠ [] := by
    rintro rfl
    cases h
  rw [parseAll_joined hne] at h
  exact Except.ok.inj h

lemma exists_joined {cs : List Char} {clauses : List Clause}
    (h : Clause.parseAll cs = .ok clauses) :
    ∃ ts, ts ≠ [] ∧ joined ts = cs ∧ ts.map clause = clauses := by
  rw [Clause.parseAll, Traversal.mapM_eq_ok_iff] at h
  have hts : ∀ {segments : List (List Char)} {clauses : List Clause},
      List.Forall₂ (fun cs c => Clause.parse cs = .ok c) segments clauses →
        ∃ ts : List Layout, ts.map chars = segments ∧ ts.map clause = clauses := by
    intro segments clauses h
    induction h with
    | nil => exact ⟨[], rfl, rfl⟩
    | cons hparse _ ih =>
      obtain ⟨t, rfl, rfl⟩ := Clause.parse_eq_ok_iff.mp hparse
      obtain ⟨ts, rfl, rfl⟩ := ih
      exact ⟨t :: ts, rfl, rfl⟩
  obtain ⟨ts, hchars, hclauses⟩ := hts h
  refine ⟨ts, ?_, ?_, hclauses⟩
  · rintro rfl
    exact List.splitOn_ne_nil ',' cs hchars.symm
  · rw [joined, hchars]
    exact List.intercalate_splitOn ','

end Layout

end FileMode
