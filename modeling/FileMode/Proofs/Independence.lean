import FileMode.Proofs.Joining
import Mathlib.Data.List.Pairwise
import Mathlib.Logic.Function.Conjugate

namespace FileMode

namespace Clause

/-- A clause that names no class counts here as one that reaches all bits. -/
inductive Independent (cs ds : List Clause) : Prop
  | apart : unionMask (cs.map affected) &&& unionMask (ds.map affected) = 0 → Independent cs ds
  | adding : (∀ c ∈ cs ++ ds, c.operator = .add) → Independent cs ds
  | removing : (∀ c ∈ cs ++ ds, c.operator = .remove) → Independent cs ds

variable {c : Clause} {cs ds : List Clause} {i : ℕ} {b b' : Bool}

lemma affects_of_write? (h : c.write? i = some b) : c.affects i = true := by
  by_contra hoff
  rw [write?_of_not_affects (Bool.eq_false_iff.mpr hoff)] at h
  cases h

lemma write?_unique {d : Clause} (hop : c.operator = d.operator) (hassign : d.operator ≠ .assign)
    (hc : c.write? i = some b) (hd : d.write? i = some b') : b = b' := by
  rw [write?, hop] at hc
  rw [write?] at hd
  cases hkind : d.operator with
  | assign => exact (hassign hkind).elim
  | _ =>
    simp only [hkind, Option.ite_none_right_eq_some] at hc hd
    exact Option.some.inj (hc.2.symm.trans hd.2)

lemma exists_write?_of_lastWrite? (h : lastWrite? cs i = some b) :
    ∃ c ∈ cs, c.write? i = some b := by
  obtain ⟨c, hc, hwrite⟩ := List.exists_of_findSome?_eq_some h
  exact ⟨c, List.mem_reverse.mp hc, hwrite⟩

lemma getLsbD_unionMask_affected (hc : c ∈ cs) (h : c.write? i = some b) :
    (unionMask (cs.map affected)).getLsbD i = true := by
  rw [getLsbD_unionMask, List.any_eq_true]
  exact ⟨_, List.mem_map_of_mem hc, by rw [getLsbD_affected, affects_of_write? h]⟩

lemma Independent.lastWrite?_unique (h : Independent cs ds) (hcs : lastWrite? cs i = some b)
    (hds : lastWrite? ds i = some b') : b = b' := by
  obtain ⟨c, hc, hwrite⟩ := exists_write?_of_lastWrite? hcs
  obtain ⟨d, hd, hwrite'⟩ := exists_write?_of_lastWrite? hds
  have halike (op : Operator) (hassign : op ≠ .assign)
      (hall : ∀ c ∈ cs ++ ds, c.operator = op) : b = b' := by
    have hop := hall d (List.mem_append_right cs hd)
    refine write?_unique ((hall c (List.mem_append_left ds hc)).trans hop.symm) ?_ hwrite hwrite'
    rwa [hop]
  cases h with
  | apart h =>
    have hbit := congrArg (BitVec.getLsbD · i) h
    simp [getLsbD_unionMask_affected hc hwrite, getLsbD_unionMask_affected hd hwrite'] at hbit
  | adding h => exact halike .add (by decide) h
  | removing h => exact halike .remove (by decide) h

lemma Independent.commute (h : Independent cs ds) :
    Function.Commute (Spec.symbolic cs).apply (Spec.symbolic ds).apply := by
  intro m
  apply Bits.mode_eq_of_testBit_eq
  intro i
  simp only [testBit_apply]
  cases hcs : lastWrite? cs i with
  | none => rfl
  | some b =>
    cases hds : lastWrite? ds i with
    | none => rfl
    | some b' => exact h.lastWrite?_unique hcs hds

def ofText (s : String) : List Clause := (parseAll s.toList).toOption.getD []

lemma ofText_of_parseAll {s : String} (h : parseAll s.toList = .ok cs) : ofText s = cs := by
  rw [ofText, h]
  rfl

lemma meantBy_ofText {s : String} (h : AreClauses s) : MeantBy (ofText s) s := by
  obtain ⟨cs, hparse, hmeant⟩ := exists_parseAll h
  rwa [ofText_of_parseAll hparse]

lemma ofText_of_joined {ts : List Layout} {s : String} (h : AreClauses s)
    (hts : Layout.joined ts = s.toList) : ofText s = ts.map Layout.clause := by
  obtain ⟨cs, hparse, -⟩ := exists_parseAll h
  rw [ofText_of_parseAll hparse, Layout.map_clause_of_joined (hts ▸ hparse)]

end Clause

open Clause (ofText)

def IndependentTexts (a b : String) : Prop := ∃ ts us : List Layout,
  Layout.joined ts = a.toList ∧ Layout.joined us = b.toList ∧
    Clause.Independent (ts.map Layout.clause) (us.map Layout.clause)

namespace Mode

def afterText (s : String) : Mode → Mode := (Spec.symbolic (ofText s)).apply

lemma commute_afterText {a b : String} (ha : AreClauses a) (hb : AreClauses b)
    (h : IndependentTexts a b) : Function.Commute (afterText a) (afterText b) := by
  obtain ⟨ts, us, hts, hus, hindependent⟩ := h
  rw [afterText, afterText, Clause.ofText_of_joined ha hts, Clause.ofText_of_joined hb hus]
  exact hindependent.commute

variable {texts texts' : List String} (o : Options) (m : Mode)

lemma foldlM_change (h : ∀ s ∈ texts, AreClauses s) :
    texts.foldlM (fun m' s => m'.change o s) m =
      .ok (texts.foldl (fun m' s => afterText s m') m) := by
  induction texts generalizing m with
  | nil => rfl
  | cons s texts ih =>
    obtain ⟨hs, htexts⟩ := List.forall_mem_cons.mp h
    rw [List.foldlM_cons, (Clause.meantBy_ofText hs).change_eq]
    exact ih _ htexts

lemma change_intercalate_clauses (hne : texts ≠ []) (h : ∀ s ∈ texts, AreClauses s) :
    m.change o (",".intercalate texts) =
      .ok (texts.foldl (fun m' s => afterText s m') m) := by
  rw [change_intercalate o m hne fun s hs => (h s hs).1, foldlM_change o m h]

lemma foldl_afterText_perm (h : ∀ s ∈ texts, AreClauses s)
    (hpairwise : texts.Pairwise IndependentTexts) (hperm : texts.Perm texts') :
    texts.foldl (fun m' s => afterText s m') m = texts'.foldl (fun m' s => afterText s m') m := by
  have hcommute : texts.Pairwise fun a b => Function.Commute (afterText a) (afterText b) :=
    hpairwise.imp_of_mem fun ha hb hab => commute_afterText (h _ ha) (h _ hb) hab
  have hsymm : Std.Symm fun a b => Function.Commute (afterText a) (afterText b) :=
    ⟨fun _ _ hab => hab.symm⟩
  have hall := List.Pairwise.forall_of_forall
    (R := fun a b => Function.Commute (afterText a) (afterText b))
    (fun _ _ => Function.Commute.refl _) hcommute
  exact hperm.foldl_eq' (fun a ha b hb m' => hall hb ha m') m

end Mode

theorem change_permuted (current : ℤ) (o : Options) :
    (∀ a b : String, AreClauses a → AreClauses b → IndependentTexts a b →
      ∃ m, (Mode.ofInt current).change o (a ++ "," ++ b) = .ok m ∧
        (Mode.ofInt current).change o (b ++ "," ++ a) = .ok m) ∧
    ∀ texts texts' : List String, (∀ s ∈ texts, AreClauses s) → texts.Pairwise IndependentTexts →
      texts.Perm texts' →
      (Mode.ofInt current).change o (",".intercalate texts) =
        (Mode.ofInt current).change o (",".intercalate texts') ∧
      (texts ≠ [] → ∃ m, (Mode.ofInt current).change o (",".intercalate texts) = .ok m) := by
  have hjoined (a b : String) (ha : AreClauses a) (hb : AreClauses b) :
      (Mode.ofInt current).change o (a ++ "," ++ b) =
        .ok (Mode.afterText b (Mode.afterText a (.ofInt current))) := by
    have hboth := Mode.change_intercalate_clauses o (.ofInt current) (List.cons_ne_nil a [b])
      (by simp [ha, hb])
    rwa [String.intercalate_cons_cons, String.intercalate_singleton] at hboth
  refine ⟨?_, ?_⟩
  · intro a b ha hb h
    refine ⟨_, hjoined a b ha hb, (hjoined b a hb ha).trans (congrArg Except.ok ?_)⟩
    exact Mode.commute_afterText ha hb h _
  · intro texts texts' h hpairwise hperm
    by_cases hne : texts = []
    · subst hne
      obtain rfl := hperm.nil_eq
      exact ⟨rfl, fun hne => (hne rfl).elim⟩
    have hne' : texts' ≠ [] := fun h' => hne (h' ▸ hperm).eq_nil
    have hclauses := Mode.change_intercalate_clauses o (.ofInt current) hne h
    refine ⟨?_, fun _ => ⟨_, hclauses⟩⟩
    rw [hclauses, Mode.change_intercalate_clauses o _ hne' fun s hs => h s (hperm.mem_iff.mpr hs),
      Mode.foldl_afterText_perm _ h hpairwise hperm]

theorem change_permuted_mixed :
    (AreClauses "go+x" ∧ AreClauses " ga+s" ∧ IndependentTexts "go+x" " ga+s" ∧ ∃ m,
      (Mode.ofInt 0o644).change {} ("go+x" ++ "," ++ " ga+s") = .ok m ∧
        (Mode.ofInt 0o644).change {} (" ga+s" ++ "," ++ "go+x") = .ok m) ∧
    (∀ s ∈ ["u-r", " uu -w", "g=s,og+x"], AreClauses s) ∧
      ["u-r", " uu -w", "g=s,og+x"].Pairwise IndependentTexts ∧
      (Mode.ofInt (-1)).change {} (",".intercalate ["u-r", " uu -w", "g=s,og+x"]) =
        (Mode.ofInt (-1)).change {} (",".intercalate ["g=s,og+x", "u-r", " uu -w"]) := by
  have hfirst : AreClauses "go+x" := ⟨by decide, {}, .ofInt 0, .ofInt 0o011, by decide⟩
  have hsecond : AreClauses " ga+s" := ⟨by decide, {}, .ofInt 0, .ofInt 0o6000, by decide⟩
  have hadding : IndependentTexts "go+x" " ga+s" :=
    ⟨[⟨[some .group, some .other], .add, [some .execute]⟩],
      [⟨[none, some .group, some .everyone], .add, [some .setId]⟩],
      by decide, by decide, .adding (by decide)⟩
  have htexts : ∀ s ∈ ["u-r", " uu -w", "g=s,og+x"], AreClauses s := by
    simp only [List.forall_mem_cons]
    exact ⟨⟨by decide, {}, .ofInt 0o777, .ofInt 0o377, by decide⟩,
      ⟨by decide, {}, .ofInt 0o777, .ofInt 0o577, by decide⟩,
      ⟨by decide, {}, .ofInt 0, .ofInt 0o2011, by decide⟩, nofun⟩
  let read : List Layout := [⟨[some .owner], .remove, [some .read]⟩]
  let write : List Layout := [⟨[none, some .owner, some .owner, none], .remove, [some .write]⟩]
  let rest : List Layout := [⟨[some .group], .assign, [some .setId]⟩,
    ⟨[some .other, some .group], .add, [some .execute]⟩]
  have hpairwise : ["u-r", " uu -w", "g=s,og+x"].Pairwise IndependentTexts := by
    simp only [List.pairwise_cons, List.forall_mem_cons]
    exact ⟨⟨⟨read, write, by decide, by decide, .removing (by decide)⟩,
      ⟨read, rest, by decide, by decide, .apart (by decide)⟩, nofun⟩,
      ⟨⟨write, rest, by decide, by decide, .apart (by decide)⟩, nofun⟩, nofun, .nil⟩
  exact ⟨⟨hfirst, hsecond, hadding, (change_permuted 0o644 {}).1 _ _ hfirst hsecond hadding⟩,
    htexts, hpairwise, ((change_permuted (-1) {}).2 _ _ htexts hpairwise (by decide)).1⟩

end FileMode
