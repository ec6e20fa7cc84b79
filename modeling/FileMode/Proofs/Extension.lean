import FileMode.Proofs.Language

/-! Texts that are refused, and what may be appended to them. Every refusal is final but one: where
the operator of the last clause is still to come. -/

namespace FileMode

/-- A segment that has got no further than whom it affects. -/
def Pending (segment : List Char) : Prop := ∀ c ∈ segment, c ∈ ['u', 'g', 'o', 'a', ' ']

lemma pending_iff {segment : List Char} :
    Pending segment ↔ ∃ who, Selector.lettering.spell who = segment := by
  rw [Pending, ← Grammar.mem_star_anyOf]
  exact Grammar.mem_star_iff_spell _ Grammar.mem_selectors

namespace Clause

lemma parse_of_pending {segment : List Char} (h : Pending segment) :
    parse segment = .error .badOperator := by
  obtain ⟨who, rfl⟩ := pending_iff.mp h
  have hstops : Selector.lettering.Stops [] := by simp [Lettering.Stops]
  have hnothing := parse_of_stops who hstops (by simp)
  rwa [List.append_nil] at hnothing

lemma parse_pending_append_plus {segment : List Char} (h : Pending segment) :
    ∃ c, parse (segment ++ ['+']) = .ok c := by
  obtain ⟨who, rfl⟩ := pending_iff.mp h
  refine ⟨_, parse_eq_ok_iff.mpr ⟨⟨who, .add, []⟩, ?_, rfl⟩⟩
  exact List.append_nil (Layout.head who .add)

lemma parse_append_error {segment : List Char} {e : Rejection} (h : parse segment = .error e)
    (hstuck : ¬ Pending segment) (more : List Char) : parse (segment ++ more) = .error e := by
  cases reading_iff.mpr h with
  | trailing t c rest hstops =>
    rw [List.append_assoc]
    exact (Reading.trailing t c (rest ++ more) hstops).parse_eq
  | headless who rest hstops hop =>
    cases rest with
    | nil => exact (hstuck (pending_iff.mpr ⟨who, by simp⟩)).elim
    | cons c rest =>
      rw [List.append_assoc]
      exact (Reading.headless who (c :: (rest ++ more)) hstops hop).parse_eq

end Clause

namespace Language

open Spec (form)

/-- Clauses that only lack the operator of the last one, and what comes after it. -/
def Unfinished (cs : List Char) : Prop :=
  ∃ before last, cs.splitOn ',' = before ++ [last] ∧
    (∀ segment ∈ before, segment ∈ Grammar.clause.matches') ∧ Pending last

variable {cs : List Char}

lemma unfinished_iff : Unfinished cs ↔ ∃ before last, cs.splitOn ',' = before ++ [last] ∧
    (∀ segment ∈ before, ∃ c, Clause.parse segment = .ok c) ∧ Pending last := by
  simp only [Unfinished, Grammar.parse_eq_ok_iff_mem]

lemma Unfinished.parseAll_eq (h : Unfinished cs) : Clause.parseAll cs = .error .badOperator := by
  obtain ⟨before, last, hsplit, hbefore, hlast⟩ := unfinished_iff.mp h
  rw [Clause.parseAll, Traversal.mapM_eq_error_iff]
  exact ⟨before, last, [], hsplit, hbefore, Clause.parse_of_pending hlast⟩

lemma Unfinished.parseAll_append_plus (h : Unfinished cs) :
    ∃ clauses, Clause.parseAll (cs ++ ['+']) = .ok clauses := by
  obtain ⟨before, last, hsplit, hbefore, hlast⟩ := unfinished_iff.mp h
  have hsplit' : (cs ++ ['+']).splitOn ',' = before ++ [last ++ ['+']] :=
    splitOn_append hsplit (List.splitOn_eq_singleton (by decide))
  rw [Clause.parseAll, Traversal.mapM_isOk_iff, hsplit', List.forall_mem_append]
  exact ⟨hbefore, List.forall_mem_singleton.mpr (Clause.parse_pending_append_plus hlast)⟩

lemma parseAll_append_error {e : Rejection} (h : Clause.parseAll cs = .error e)
    (hstuck : ¬ Unfinished cs) (ds : List Char) : Clause.parseAll (cs ++ ds) = .error e := by
  rw [Clause.parseAll, Traversal.mapM_eq_error_iff] at h ⊢
  obtain ⟨before, segment, after, hsplit, hbefore, hbad⟩ := h
  obtain ⟨first, rest, hds⟩ := List.exists_cons_of_ne_nil (List.splitOn_ne_nil ',' ds)
  rcases List.eq_nil_or_concat' after with rfl | ⟨after, last, rfl⟩
  · have hpending : ¬ Pending segment :=
      fun hpending => hstuck (unfinished_iff.mpr ⟨before, segment, hsplit, hbefore, hpending⟩)
    exact ⟨before, segment ++ first, rest, splitOn_append hsplit hds, hbefore,
      Clause.parse_append_error hbad hpending first⟩
  · -- what is appended only reaches the last segment, and the bad one stands before it
    refine ⟨before, segment, after ++ (last ++ first) :: rest, ?_, hbefore, hbad⟩
    have hsplit' : cs.splitOn ',' = (before ++ segment :: after) ++ [last] := by simp [hsplit]
    rw [splitOn_append hsplit' hds, List.append_assoc, List.cons_append]

lemma LenientSlots.of_append {ds : List Char} (h : LenientSlots (cs ++ ds)) : LenientSlots cs := by
  intro i hi hs
  have hlen : i < cs.length := (List.getElem?_eq_some_iff.mp hs).1
  exact h i hi (by rw [List.getElem?_append_left hlen, hs])

lemma Numeral.of_append {ds : List Char} (h : Numeral (cs ++ ds)) : Numeral cs := by
  obtain ⟨hlength, hdigits⟩ := h
  rw [List.length_append] at hlength
  exact ⟨by omega, fun c hc => hdigits c (List.mem_append_left ds hc)⟩

lemma unfinished_nil : Unfinished [] := ⟨[], [], rfl, by simp, by simp [Pending]⟩

lemma refused_iff_parseAll (strict : Bool) (hform : form cs = .symbolic) (e : Rejection) :
    Refused strict cs e ↔ Clause.parseAll cs = .error e := by
  rw [← parseChars_eq_error_iff ⟨strict⟩, Spec.parseChars_of_symbolic _ hform,
    Traversal.map_eq_error_iff]

lemma Refused.append {e : Rejection} (h : Refused false cs e)
    (hstuck : e = .badOperator → ¬ Unfinished cs) (ds : List Char) :
    Refused false (cs ++ ds) e := by
  have hunfinished : form cs = .symbolic → ¬ Unfinished cs := by
    intro hform hun
    rw [refused_iff_parseAll false hform, hun.parseAll_eq] at h
    exact hstuck (Except.error.inj h).symm hun
  -- with nothing read yet any form may follow, but then the text is unfinished
  have hne : cs ≠ [] := by
    rintro rfl
    exact hunfinished rfl unfinished_nil
  have hform := Spec.form_append hne ds
  cases hcs : form cs with
  | symbolic =>
    rw [refused_iff_parseAll false hcs] at h
    rw [refused_iff_parseAll false (hform.trans hcs)]
    exact parseAll_append_error h (hunfinished hcs) ds
  | positional =>
    cases h with
    | slots _ hbad =>
      exact .slots (hform.trans hcs) fun hslots => hbad (LenientSlots.of_append hslots)
    | octal hform' _ | operator hform' _ _ | change hform' _ _ => simp [hcs] at hform'
  | octal =>
    cases h with
    | octal _ hbad => exact .octal (hform.trans hcs) fun hnumeral => hbad hnumeral.of_append
    | slots hform' _ | operator hform' _ _ | change hform' _ _ => simp [hcs] at hform'

lemma form_of_badOperator {strict : Bool} (h : Refused strict cs .badOperator) :
    form cs = .symbolic := by
  cases h with
  | operator hform _ _ => exact hform

lemma accepted_append_plus (strict : Bool) (hform : form cs = .symbolic) (h : Unfinished cs) :
    Accepted strict (cs ++ ['+']) := by
  have hform' : form (cs ++ ['+']) = .symbolic := Spec.form_append_symbolic hform rfl
  rw [← parseChars_isOk_iff ⟨strict⟩, Spec.parseChars_of_symbolic _ hform',
    Traversal.map_isOk_iff]
  exact h.parseAll_append_plus

theorem change_extended :
    (∀ (current : ℤ) (s t : String) (cause : Rejection),
      cause ∈ [.badSlots, .badOctal, .badChange] →
      (Mode.ofInt current).change {} s = .error cause →
      (Mode.ofInt current).change {} (s ++ t) = .error cause) ∧
    ∀ (current : ℤ) (s : String), (Mode.ofInt current).change {} s = .error .badOperator →
      ((∃ t m, (Mode.ofInt current).change {} (s ++ t) = .ok m) ↔ Unfinished s.toList) ∧
      (¬ Unfinished s.toList →
        ∀ t, (Mode.ofInt current).change {} (s ++ t) = .error .badOperator) := by
  refine ⟨?_, ?_⟩
  · intro current s t cause hcause h
    rw [change_eq_error_iff] at h ⊢
    rw [String.toList_append]
    refine h.append ?_ t.toList
    rintro rfl
    simp at hcause
  · intro current s h
    rw [change_eq_error_iff] at h
    have hstuck : ¬ Unfinished s.toList →
        ∀ t, (Mode.ofInt current).change {} (s ++ t) = .error .badOperator := by
      intro hun t
      rw [change_eq_error_iff, String.toList_append]
      exact h.append (fun _ => hun) t.toList
    refine ⟨⟨?_, ?_⟩, hstuck⟩
    · rintro ⟨t, m, hok⟩
      by_contra hun
      simp [hstuck hun t] at hok
    · intro hun
      refine ⟨"+", ?_⟩
      rw [change_isOk_iff, String.toList_append]
      exact accepted_append_plus false (form_of_badOperator h) hun

theorem change_extended_selectors :
    (Mode.ofInt 0o644).change {} ("rs" ++ "x---r--") = .error .badSlots ∧
      (∃ t m, (Mode.ofInt 0o644).change {} ("u+x,g o" ++ t) = .ok m) ∧
      ∀ t, (Mode.ofInt 0o644).change {} ("u,g+x" ++ t) = .error .badOperator := by
  have hunfinished : Unfinished "u+x,g o".toList :=
    ⟨[['u', '+', 'x']], ['g', ' ', 'o'], rfl,
      List.forall_mem_singleton.mpr (Grammar.parse_eq_ok_iff_mem.mp ⟨_, rfl⟩), by simp [Pending]⟩
  have hstuck : ¬ Unfinished "u,g+x".toList := by
    rintro ⟨before, last, hsplit, -, hlast⟩
    have hsegments : [['u']] ++ [['g', '+', 'x']] = before ++ [last] := hsplit
    obtain rfl : ['g', '+', 'x'] = last := by simpa using (List.append_inj' hsegments rfl).2
    exact absurd (hlast '+' (by decide)) (by decide)
  exact ⟨change_extended.1 0o644 "rs" _ .badSlots (by decide) rfl,
    ((change_extended.2 0o644 "u+x,g o" rfl).1.mpr hunfinished),
    (change_extended.2 0o644 "u,g+x" rfl).2 hstuck⟩

end Language

end FileMode
