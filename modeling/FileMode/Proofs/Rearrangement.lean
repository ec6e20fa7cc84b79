import FileMode.Proofs.Confinement
import FileMode.Proofs.Grammar
import FileMode.Proofs.Sequence
import Mathlib.Logic.Relation

namespace FileMode

def withoutBlanks (cs : List Char) : List Char := cs.filter (· ≠ ' ')

lemma withoutBlanks_blank_cons (cs : List Char) :
    withoutBlanks (' ' :: cs) = withoutBlanks cs := rfl

lemma withoutBlanks_cons {c : Char} (hc : c ≠ ' ') (cs : List Char) :
    withoutBlanks (c :: cs) = c :: withoutBlanks cs :=
  List.filter_cons_of_pos (by simpa using hc)

lemma withoutBlanks_append (cs ds : List Char) :
    withoutBlanks (cs ++ ds) = withoutBlanks cs ++ withoutBlanks ds :=
  List.filter_append cs ds

lemma splitOn_withoutBlanks (cs : List Char) :
    (withoutBlanks cs).splitOn ',' = (cs.splitOn ',').map withoutBlanks := by
  induction cs with
  | nil => rfl
  | cons c cs ih =>
    obtain ⟨segment, segments, hsplit⟩ := List.exists_cons_of_ne_nil (List.splitOn_ne_nil ',' cs)
    by_cases hcomma : c = ','
    · subst hcomma
      rw [withoutBlanks_cons (by decide), List.splitOn_cons_eq_if_modifyHead,
        List.splitOn_cons_eq_if_modifyHead, ih]
      rfl
    rw [List.splitOn_cons_eq_if_modifyHead, if_neg (by simpa using hcomma), hsplit,
      List.modifyHead_cons]
    rw [hsplit] at ih
    by_cases hblank : c = ' '
    · subst hblank
      rw [withoutBlanks_blank_cons, ih]
      rfl
    · rw [withoutBlanks_cons hblank, List.splitOn_cons_eq_if_modifyHead,
        if_neg (by simpa using hcomma), ih, List.map_cons, List.map_cons, List.modifyHead_cons,
        withoutBlanks_cons hblank]

section

variable {α : Type} (letter? : Char → Option α)

lemma letterRun_withoutBlanks (cs : List Char) : letterRun letter? (withoutBlanks cs) =
    ((letterRun letter? cs).1, withoutBlanks (letterRun letter? cs).2) := by
  induction cs with
  | nil => rfl
  | cons c cs ih =>
    by_cases hblank : c = ' '
    · subst hblank
      rw [withoutBlanks_blank_cons, ih, letterRun, if_pos rfl]
    · rw [withoutBlanks_cons hblank, letterRun, letterRun, if_neg hblank, if_neg hblank, ih]
      cases letter? c with
      | none => simp only [withoutBlanks_cons hblank]
      | some a => rfl

lemma ne_blank_of_letterRun {cs : List Char} {as : List α} {c : Char} {rest : List Char}
    (h : letterRun letter? cs = (as, c :: rest)) : c ≠ ' ' := by
  induction cs generalizing as with
  | nil => cases h
  | cons d cs ih =>
    rw [letterRun] at h
    split at h
    · exact ih h
    · next hblank =>
      cases hd : letter? d with
      | none =>
        rw [hd] at h
        obtain ⟨-, hrest⟩ := Prod.mk.inj h
        obtain ⟨rfl, -⟩ := List.cons.inj hrest
        exact hblank
      | some a =>
        rw [hd] at h
        exact ih (Prod.ext rfl (Prod.mk.inj h).2)

end

lemma any_congr {α : Type} {as bs : List α} (h : ∀ a, a ∈ as ↔ a ∈ bs) (p : α → Bool) :
    as.any p = bs.any p := by
  rw [Bool.eq_iff_iff, List.any_eq_true, List.any_eq_true]
  simp only [h]

namespace Clause

lemma parse_withoutBlanks (cs : List Char) : parse (withoutBlanks cs) = parse cs := by
  rw [parse, parse, letterRun_withoutBlanks]
  cases hwho : letterRun Selector.ofChar? cs with
  | mk who rest =>
    cases rest with
    | nil => rfl
    | cons c rest =>
      rw [withoutBlanks_cons (ne_blank_of_letterRun _ hwho)]
      simp only [letterRun_withoutBlanks]
      cases hperm : letterRun Permission.ofChar? rest with
      | mk permissions rest =>
        cases rest with
        | nil => rfl
        | cons d rest => simp only [withoutBlanks_cons (ne_blank_of_letterRun _ hperm)]

lemma parseAll_withoutBlanks (cs : List Char) : parseAll (withoutBlanks cs) = parseAll cs := by
  rw [parseAll, splitOn_withoutBlanks, List.mapM_map, parseAll]
  congr 1
  funext segment
  exact parse_withoutBlanks segment

lemma edit_congr {c d : Clause} (hop : c.operator = d.operator) (hwho : ∀ s, s ∈ c.who ↔ s ∈ d.who)
    (hperm : ∀ p, p ∈ c.permissions ↔ p ∈ d.permissions) : c.edit = d.edit := by
  have haffected : c.affected = d.affected := by
    apply BitVec.eq_of_getLsbD_eq
    intro i _
    have hempty : c.who = [] ↔ d.who = [] := by
      simp only [List.eq_nil_iff_forall_not_mem, hwho]
    rw [getLsbD_affected, getLsbD_affected, affects, affects, any_congr hwho]
    simp only [List.isEmpty_iff, hempty]
  have hreach : c.reach = d.reach := by
    apply BitVec.eq_of_getLsbD_eq
    intro i _
    rw [getLsbD_reach, getLsbD_reach, permits, permits, any_congr hperm]
  rw [edit, edit, hop, haffected, hreach]

lemma parse_spell_append (who : List (Option Selector)) (rest : List Char) :
    parse (Selector.lettering.spell who ++ rest) =
      (fun c => { c with who := who.reduceOption ++ c.who }) <$> parse rest := by
  have hwho := Selector.lettering.letterRun_spell_append who rest
  change letterRun Selector.ofChar? _ =
    (_ ++ (letterRun Selector.ofChar? rest).1, (letterRun Selector.ofChar? rest).2) at hwho
  rw [parse, hwho, parse]
  obtain ⟨as, cs⟩ := letterRun Selector.ofChar? rest
  cases cs with
  | nil => rfl
  | cons c cs =>
    cases hop : Operator.ofChar? c with
    | none => simp only [hop]; rfl
    | some op =>
      simp only [hop]
      obtain ⟨permissions, ds⟩ := letterRun Permission.ofChar? cs
      cases ds <;> rfl

lemma parse_head_spell_append (who : List (Option Selector)) (op : Operator)
    (permissions : List (Option Permission)) (rest : List Char) :
    parse (Layout.head who op ++ (Permission.lettering.spell permissions ++ rest)) =
      (fun c => { c with permissions := permissions.reduceOption ++ c.permissions }) <$>
        parse (Layout.head who op ++ rest) := by
  obtain ⟨run, rest, rfl, hstops⟩ := Permission.lettering.exists_spell rest
  have hspell : Permission.lettering.spell permissions ++ (Permission.lettering.spell run ++ rest) =
      Permission.lettering.spell (permissions ++ run) ++ rest := by
    simp [Lettering.spell]
  rw [hspell, parse_head_append who op _ hstops, parse_head_append who op _ hstops,
    List.reduceOption_append]
  split <;> rfl

def editOf (segment : List Char) : Except Rejection Edit := edit <$> parse segment

def editsOf (cs : List Char) : Except Rejection (List Edit) := (cs.splitOn ',').mapM editOf

lemma editsOf_eq (cs : List Char) : editsOf cs = List.map edit <$> parseAll cs :=
  Traversal.mapM_map_eq edit (cs.splitOn ',')

end Clause

lemma Mode.change_eq_editsOf (o : Options) (m : Mode) {s : String}
    (h : Spec.form s.toList = .symbolic) : m.change o s = m.edited <$> Clause.editsOf s.toList := by
  rw [change_of_symbolic o m h, Clause.editsOf_eq]
  cases Clause.parseAll s.toList <;> rfl

def ClauseStart (before : List Char) : Prop := before = [] ∨ ∃ text, before = text ++ [',']

def SameLetters (run run' : List Char) : Prop := ∀ c, c ∈ run ↔ c ∈ run'

/-- One rearrangement: a blank more, or the selectors or the permissions of a clause written in any
order and any number of times. -/
inductive Rearranged : List Char → List Char → Prop
  | blank (before after : List Char) : Rearranged (before ++ after) (before ++ ' ' :: after)
  | selectors {before run run' : List Char} (after : List Char) : ClauseStart before →
      (∀ c ∈ run, c ∈ ['u', 'g', 'o', 'a', ' ']) → SameLetters run run' →
      Rearranged (before ++ (run ++ after)) (before ++ (run' ++ after))
  | permissions {before head run run' : List Char} (after : List Char) : ClauseStart before →
      head ∈ Grammar.head.matches' → (∀ c ∈ run, c ∈ ['r', 'w', 'x', 's', ' ']) →
      SameLetters run run' →
      Rearranged (before ++ (head ++ (run ++ after))) (before ++ (head ++ (run' ++ after)))

lemma ClauseStart.exists_splitOn {before : List Char} (h : ClauseStart before) (after : List Char) :
    ∃ (segments : List (List Char)) (tail : List Char) (rest : List (List Char)),
      ∀ text, ',' ∉ text →
        (before ++ (text ++ after)).splitOn ',' = segments ++ (text ++ tail) :: rest := by
  obtain ⟨tail, rest, hafter⟩ := List.exists_cons_of_ne_nil (List.splitOn_ne_nil ',' after)
  rcases h with rfl | ⟨text', rfl⟩
  · refine ⟨[], tail, rest, fun text htext => ?_⟩
    rw [List.nil_append]
    exact splitOn_append (List.splitOn_eq_singleton htext) hafter
  · refine ⟨text'.splitOn ',', tail, rest, fun text htext => ?_⟩
    have htext' : (text' ++ [','] ++ text).splitOn ',' = text'.splitOn ',' ++ [text] := by
      rw [List.append_assoc, List.singleton_append, List.splitOn_append_cons_self,
        List.splitOn_eq_singleton htext]
    rw [← List.append_assoc]
    exact splitOn_append htext' hafter

namespace Lettering

variable {α : Type} (L : Lettering α) {run run' : List (Option α)}

lemma mem_reduceOption_iff (a : α) : a ∈ run.reduceOption ↔ L.char a ∈ L.spell run := by
  rw [List.reduceOption_mem_iff, spell, List.mem_map]
  refine ⟨fun h => ⟨some a, h, rfl⟩, ?_⟩
  rintro ⟨b?, hmem, hchar⟩
  cases b? with
  | none => exact (L.char_ne_blank a hchar.symm).elim
  | some b =>
    have hletter := L.letter?_char b
    change L.char b = L.char a at hchar
    rw [hchar, L.letter?_char] at hletter
    rwa [Option.some.inj hletter]

lemma mem_reduceOption_congr (h : SameLetters (L.spell run) (L.spell run')) (a : α) :
    a ∈ run.reduceOption ↔ a ∈ run'.reduceOption := by
  rw [L.mem_reduceOption_iff, L.mem_reduceOption_iff, h]

end Lettering

namespace Clause

lemma editOf_spell_append {who who' : List (Option Selector)}
    (h : SameLetters (Selector.lettering.spell who) (Selector.lettering.spell who'))
    (rest : List Char) : editOf (Selector.lettering.spell who ++ rest) =
      editOf (Selector.lettering.spell who' ++ rest) := by
  have hmem := Selector.lettering.mem_reduceOption_congr h
  rw [editOf, editOf, parse_spell_append, parse_spell_append]
  cases parse rest with
  | error e => rfl
  | ok c => exact congrArg Except.ok (edit_congr rfl (by simp [hmem]) fun _ => Iff.rfl)

lemma editOf_head_spell_append (who : List (Option Selector)) (op : Operator)
    {permissions permissions' : List (Option Permission)}
    (h : SameLetters (Permission.lettering.spell permissions)
      (Permission.lettering.spell permissions')) (rest : List Char) :
    editOf (Layout.head who op ++ (Permission.lettering.spell permissions ++ rest)) =
      editOf (Layout.head who op ++ (Permission.lettering.spell permissions' ++ rest)) := by
  have hmem := Permission.lettering.mem_reduceOption_congr h
  rw [editOf, editOf, parse_head_spell_append, parse_head_spell_append]
  cases parse (Layout.head who op ++ rest) with
  | error e => rfl
  | ok c => exact congrArg Except.ok (edit_congr rfl (fun _ => Iff.rfl) (by simp [hmem]))

lemma editsOf_congr {before text text' : List Char} (hbefore : ClauseStart before)
    (htext : ',' ∉ text) (htext' : ',' ∉ text')
    (h : ∀ rest, editOf (text ++ rest) = editOf (text' ++ rest)) (after : List Char) :
    editsOf (before ++ (text ++ after)) = editsOf (before ++ (text' ++ after)) := by
  obtain ⟨segments, tail, rest, hsplit⟩ := hbefore.exists_splitOn after
  rw [editsOf, editsOf, hsplit text htext, hsplit text' htext', List.mapM_append, List.mapM_append,
    List.mapM_cons, List.mapM_cons, h]

end Clause

namespace SameLetters

lemma exists_spells {α : Type} (L : Lettering α) {letters run run' : List Char}
    (h : SameLetters run run') (hletters : ∀ c, c ∈ letters ↔ c = ' ' ∨ ∃ a, L.char a = c)
    (hrun : ∀ c ∈ run, c ∈ letters) : ∃ as as', L.spell as = run ∧ L.spell as' = run' := by
  obtain ⟨as, has⟩ := L.exists_spell_of_forall fun c hc => (hletters c).mp (hrun c hc)
  obtain ⟨as', has'⟩ :=
    L.exists_spell_of_forall fun c hc => (hletters c).mp (hrun c ((h c).mpr hc))
  exact ⟨as, as', has, has'⟩

end SameLetters

lemma Selector.comma_notMem_spell (who : List (Option Selector)) : ',' ∉ lettering.spell who := by
  intro h
  have hmem := (Grammar.mem_selectors ',').mpr (lettering.mem_spell h)
  revert hmem
  decide

lemma Rearranged.editsOf_eq {cs ds : List Char} (h : Rearranged cs ds) :
    Clause.editsOf cs = Clause.editsOf ds := by
  cases h with
  | blank before after =>
    rw [Clause.editsOf_eq, Clause.editsOf_eq, ← Clause.parseAll_withoutBlanks (before ++ after),
      ← Clause.parseAll_withoutBlanks (before ++ ' ' :: after), withoutBlanks_append,
      withoutBlanks_append, withoutBlanks_blank_cons]
  | selectors after hbefore hrun hsame =>
    obtain ⟨who, who', rfl, rfl⟩ :=
      hsame.exists_spells Selector.lettering Grammar.mem_selectors hrun
    exact Clause.editsOf_congr hbefore (Selector.comma_notMem_spell who)
      (Selector.comma_notMem_spell who') (Clause.editOf_spell_append hsame) after
  | permissions after hbefore hhead hrun hsame =>
    obtain ⟨who, op, rfl⟩ := Grammar.mem_head_iff.mp hhead
    obtain ⟨permissions, permissions', rfl, rfl⟩ :=
      hsame.exists_spells Permission.lettering Grammar.mem_permissions hrun
    have hsegment (rest : List Char) :
        Clause.editOf ((⟨who, op, permissions⟩ : Layout).chars ++ rest) =
          Clause.editOf ((⟨who, op, permissions'⟩ : Layout).chars ++ rest) := by
      rw [Layout.chars, Layout.chars, List.append_assoc, List.append_assoc]
      exact Clause.editOf_head_spell_append who op hsame rest
    have hwhole := Clause.editsOf_congr hbefore (Layout.comma_notMem_chars _)
      (Layout.comma_notMem_chars _) hsegment after
    simpa only [Layout.chars, List.append_assoc] using hwhole

lemma editsOf_eq_of_eqvGen {cs ds : List Char} (h : Relation.EqvGen Rearranged cs ds) :
    Clause.editsOf cs = Clause.editsOf ds := by
  induction h with
  | rel cs ds hstep => exact hstep.editsOf_eq
  | refl cs => rfl
  | symm cs ds _ ih => exact ih.symm
  | trans cs ds es _ _ ih ih' => exact ih.trans ih'

theorem change_rearranged (current : ℤ) (o : Options) (s t : String)
    (hs : Spec.form s.toList = .symbolic) (ht : Spec.form t.toList = .symbolic)
    (h : Relation.EqvGen Rearranged s.toList t.toList) :
    (Mode.ofInt current).change o s = (Mode.ofInt current).change o t := by
  rw [Mode.change_eq_editsOf o _ hs, Mode.change_eq_editsOf o _ ht, editsOf_eq_of_eqvGen h]

lemma eqvGen_rearranged (tail : List Char) :
    Relation.EqvGen Rearranged ("ug+x, -wr".toList ++ tail) ("gug+x,-rww".toList ++ tail) := by
  have hselectors : Rearranged ("ug+x, -wr".toList ++ tail) ("gug+x, -wr".toList ++ tail) :=
    @Rearranged.selectors [] ['u', 'g'] ['g', 'u', 'g'] ("+x, -wr".toList ++ tail) (Or.inl rfl)
      (by simp) (fun c => by simp; tauto)
  have hblank : Rearranged ("gug+x,-wr".toList ++ tail) ("gug+x, -wr".toList ++ tail) :=
    Rearranged.blank "gug+x,".toList ("-wr".toList ++ tail)
  have hpermissions : Rearranged ("gug+x,-wr".toList ++ tail) ("gug+x,-rww".toList ++ tail) :=
    @Rearranged.permissions "gug+x,".toList ['-'] ['w', 'r'] ['r', 'w', 'w'] tail
      (Or.inr ⟨"gug+x".toList, rfl⟩) (Grammar.mem_head_iff.mpr ⟨[], .remove, rfl⟩) (by simp)
      (fun c => by simp; tauto)
  exact .trans _ _ _ (.rel _ _ hselectors) (.trans _ _ _ (.symm _ _ (.rel _ _ hblank))
    (.rel _ _ hpermissions))

theorem change_rearranged_refused :
    (Relation.EqvGen Rearranged "ug+x, -wr".toList "gug+x,-rww".toList ∧
      (Mode.ofInt 0o666).change {} "ug+x, -wr" = .ok (.ofInt 0o110) ∧
      (Mode.ofInt 0o666).change {} "ug+x, -wr" = (Mode.ofInt 0o666).change {} "gug+x,-rww") ∧
    Relation.EqvGen Rearranged "ug+x, -wr*".toList "gug+x,-rww*".toList ∧
      (Mode.ofInt 0o666).change {} "ug+x, -wr*" = .error .badChange ∧
      (Mode.ofInt 0o666).change {} "ug+x, -wr*" = (Mode.ofInt 0o666).change {} "gug+x,-rww*" :=
  ⟨⟨eqvGen_rearranged [], by decide,
      change_rearranged 0o666 {} _ _ (by decide) (by decide) (eqvGen_rearranged [])⟩,
    eqvGen_rearranged ['*'], by decide,
    change_rearranged 0o666 {} _ _ (by decide) (by decide) (eqvGen_rearranged ['*'])⟩

end FileMode
