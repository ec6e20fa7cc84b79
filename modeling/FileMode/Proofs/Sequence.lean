import FileMode.Change
import FileMode.Proofs.Bits
import FileMode.Proofs.Form

/-! A comma puts one mode string after another: the later one changes what the earlier one left, and
nothing after a refused one is looked at. The later one is read as clauses whatever it begins with,
as a blank before it makes it on its own. -/

namespace FileMode

namespace Clause

lemma parse_blank_cons (cs : List Char) : parse (' ' :: cs) = parse cs := by
  simp [parse, letterRun]

lemma parseAll_blank_cons (cs : List Char) : parseAll (' ' :: cs) = parseAll cs := by
  obtain ⟨segment, segments, hsplit⟩ := List.exists_cons_of_ne_nil (List.splitOn_ne_nil ',' cs)
  rw [parseAll, parseAll, List.splitOn_cons_eq_if_modifyHead, if_neg (by decide), hsplit,
    List.modifyHead_cons, List.mapM_cons, List.mapM_cons, parse_blank_cons]

lemma parseAll_append_comma (a b : List Char) :
    parseAll (a ++ ',' :: b) = (do
      let first ← parseAll a
      let second ← parseAll b
      return first ++ second) := by
  rw [parseAll, List.splitOn_append_cons_self, List.mapM_append]
  rfl

end Clause

namespace Spec

lemma apply_symbolic_append (first second : List Clause) (m : Mode) :
    (symbolic (first ++ second)).apply m = (symbolic second).apply ((symbolic first).apply m) := by
  simp only [apply, List.map_append, Edit.applyAll_append]

end Spec

namespace Mode

open Spec (form)

variable (o : Options) (m : Mode)

lemma change_append_comma {a : String} (ha : form a.toList = .symbolic) (b : String) :
    m.change o (a ++ "," ++ b) = (m.change o a >>= fun m' => m'.change o (" " ++ b)) := by
  have hab : (a ++ "," ++ b).toList = a.toList ++ ',' :: b.toList := by simp
  have hb : (" " ++ b).toList = ' ' :: b.toList := by simp
  rw [change_of_symbolic o m (by rw [hab]; exact Spec.form_append_comma ha _),
    change_of_symbolic o m ha, hab, Clause.parseAll_append_comma]
  cases Clause.parseAll a.toList with
  | error e => rfl
  | ok first =>
    change _ = ((Spec.symbolic first).apply m).change o (" " ++ b)
    rw [change_of_symbolic o _ (by rw [hb]; exact Spec.form_blank_cons _), hb,
      Clause.parseAll_blank_cons]
    cases Clause.parseAll b.toList with
    | error e => rfl
    | ok second => exact congrArg Except.ok (Spec.apply_symbolic_append first second m)

lemma change_blank_append {b : String} (hb : form b.toList = .symbolic) :
    m.change o (" " ++ b) = m.change o b := by
  have hblank : (" " ++ b).toList = ' ' :: b.toList := by simp
  rw [change_of_symbolic o m hb,
    change_of_symbolic o m (by rw [hblank]; exact Spec.form_blank_cons _), hblank,
    Clause.parseAll_blank_cons]

lemma form_intercalate {t : String} (specs : List String) (ht : form t.toList = .symbolic) :
    form (",".intercalate (t :: specs)).toList = .symbolic := by
  cases specs with
  | nil => rwa [String.intercalate_singleton]
  | cons u specs =>
    have hlist : (t ++ "," ++ ",".intercalate (u :: specs)).toList =
        t.toList ++ ',' :: (",".intercalate (u :: specs)).toList := by simp
    rw [String.intercalate_cons_cons, hlist]
    exact Spec.form_append_comma ht _

lemma change_intercalate {specs : List String} (hne : specs ≠ [])
    (h : ∀ s ∈ specs, form s.toList = .symbolic) :
    m.change o (",".intercalate specs) = specs.foldlM (fun m' s => m'.change o s) m := by
  induction specs generalizing m with
  | nil => exact (hne rfl).elim
  | cons s specs ih =>
    cases specs with
    | nil =>
      rw [String.intercalate_singleton, List.foldlM_cons]
      exact (bind_pure _).symm
    | cons t specs =>
      have htail : ∀ u ∈ t :: specs, form u.toList = .symbolic :=
        fun u hu => h u (List.mem_cons_of_mem s hu)
      have hform := form_intercalate specs (htail t (by simp))
      rw [String.intercalate_cons_cons, change_append_comma o m (h s (by simp)), List.foldlM_cons]
      congr 1
      funext m'
      rw [change_blank_append o m' hform, ih m' (by simp) htail]

end Mode

theorem change_comma_sequential (current : ℤ) (o : Options) :
    (∀ a b : String, Spec.form a.toList = .symbolic →
      (Mode.ofInt current).change o (a ++ "," ++ b) =
        ((Mode.ofInt current).change o a >>= fun m => m.change o (" " ++ b))) ∧
    ∀ specs : List String, specs ≠ [] → (∀ s ∈ specs, Spec.form s.toList = .symbolic) →
      (Mode.ofInt current).change o (",".intercalate specs) =
        specs.foldlM (fun m s => m.change o s) (Mode.ofInt current) :=
  ⟨fun _ b ha => Mode.change_append_comma o _ ha b,
    fun _ hne h => Mode.change_intercalate o _ hne h⟩

theorem change_comma_sequential_dash :
    Spec.form "u+x".toList = .symbolic ∧ Spec.form "-w".toList = .positional ∧
      (Mode.ofInt 0o644).change {} ("u+x" ++ "," ++ "-w") =
        ((Mode.ofInt 0o644).change {} "u+x" >>= fun m => m.change {} (" " ++ "-w")) ∧
      (Mode.ofInt 0o644).change {} (",".intercalate ["u+x", "", "g*w"]) =
        ["u+x", "", "g*w"].foldlM (fun m s => m.change {} s) (Mode.ofInt 0o644) :=
  ⟨by decide, by decide, (change_comma_sequential 0o644 {}).1 "u+x" "-w" (by decide),
    (change_comma_sequential 0o644 {}).2 ["u+x", "", "g*w"] (by decide) (by decide)⟩

end FileMode
