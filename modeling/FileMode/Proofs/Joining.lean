import FileMode.Proofs.AllOrNothing
import FileMode.Proofs.CreationMask
import FileMode.Proofs.LastWriter
import FileMode.Proofs.PermissionWrites
import FileMode.Proofs.Sequence

/-! Two calls with clauses leave what one call with the clauses of both leaves. The mask that is
read in between lacks the bits it cannot keep, but no clause passes one bit on to another. -/

namespace FileMode

def AreClauses (s : String) : Prop :=
  Spec.form s.toList = .symbolic ∧ ∃ (o : Options) (c m : Mode), c.change o s = .ok m

namespace Clause

structure MeantBy (cs : List Clause) (s : String) : Prop where
  ne_empty : s ≠ ""
  change_eq (o : Options) (m : Mode) : m.change o s = .ok ((Spec.symbolic cs).apply m)

variable {cs ds : List Clause} {a b : String}

lemma exists_parseAll (h : AreClauses a) : ∃ cs, parseAll a.toList = .ok cs ∧ MeantBy cs a := by
  obtain ⟨hform, o, c, m, hchange⟩ := h
  obtain ⟨cs, hparse, hall⟩ := Mode.exists_parseAll_of_change hform hchange
  exact ⟨cs, hparse, Mode.ne_empty_of_change hchange, hall⟩

lemma exists_meantBy (h : AreClauses a) : ∃ cs, MeantBy cs a := by
  obtain ⟨cs, -, hmeant⟩ := exists_parseAll h
  exact ⟨cs, hmeant⟩

lemma MeantBy.joined (ha : MeantBy cs a) (hb : MeantBy ds b)
    (hforma : Spec.form a.toList = .symbolic) (hformb : Spec.form b.toList = .symbolic) :
    MeantBy (cs ++ ds) (a ++ "," ++ b) where
  ne_empty := by
    intro hempty
    have hlist := congrArg String.toList hempty
    simp at hlist
  change_eq o m := by
    rw [Mode.change_append_comma o m hforma, ha.change_eq]
    change Mode.change o (" " ++ b) _ = _
    rw [Mode.change_blank_append o _ hformb, hb.change_eq, Spec.apply_symbolic_append]

lemma MeantBy.guardedChange_eq (ha : MeantBy cs a) (call : Call) (o : Options) (m : Mode) :
    call.guardedChange o (.text a) m = .ok (a, (Spec.symbolic cs).apply m) :=
  call.guardedChange_of_change (ha.change_eq o m)

end Clause

namespace FileSystem

open Clause (MeantBy)

lemma Mask.allowable_apply_allowable (cs : List Clause) (m : Mode) :
    allowable ((Spec.symbolic cs).apply (allowable m)) =
      allowable ((Spec.symbolic cs).apply m) := by
  ext1
  · rfl
  · apply BitVec.eq_of_getLsbD_eq
    intro i hi
    -- a bit that no clause writes is the same on both sides, as it is one of the nine
    have hbit := fun p : Perms => Clause.getLsbD_edits_apply cs p hi
    simp only [getLsbD_allowable, Spec.apply, hbit]
    cases decide (i < 9) <;> simp

/-- The second of two calls comes to what a single one does, and the first fails as that one. -/
structure Joins {α : Type} (first second single : Reply α) : Prop where
  result : second.result = single.result
  host : second.host = single.host
  error (err : SystemError) : single.result = .error err → first.result = .error err

namespace Host

variable (h : Host) {cs ds : List Clause} {a b s : String} (o o' o'' : Options)

lemma chmod_joins (path : String) (ha : MeantBy cs a) (hb : MeantBy ds b)
    (hs : MeantBy (cs ++ ds) s) :
    Joins (h.chmod path (.text a) o) ((h.chmod path (.text a) o).host.chmod path (.text b) o')
      (h.chmod path (.text s) o'') := by
  cases hstat : h.files.walk Entry.statFault true path with
  | error f =>
    simp only [chmod_of_unread hstat]
    exact ⟨rfl, rfl, fun _ => id⟩
  | ok arrival =>
    obtain ⟨target, e⟩ := arrival
    cases hchmod : h.files.walk Entry.chmodFault true path with
    | error f =>
      simp only [chmod_of_unwritten hstat (ha.guardedChange_eq _ _ _) hchmod,
        chmod_of_unwritten hstat (hb.guardedChange_eq _ _ _) hchmod,
        chmod_of_unwritten hstat (hs.guardedChange_eq _ _ _) hchmod]
      exact ⟨rfl, rfl, fun _ => id⟩
    | ok arrival' =>
      have harrives := arrives_of_walks hstat hchmod
      -- the entry is read back with exactly the mode that the first clauses made of it
      have hread := h.files.walk_modify_eq_ok target
        (r := ((Spec.symbolic cs).apply e.status.mode).perms) (fun _ => rfl) hstat
      rw [Entry.written_self] at hread
      have hsecond := chmod_of_arrives (h := h.write (some (target, _))) hread
        (hb.guardedChange_eq _ o' _) (harrives.modify target _)
      rw [chmod_of_arrives hstat (ha.guardedChange_eq _ _ _) harrives,
        chmod_of_arrives hstat (hs.guardedChange_eq _ _ _) harrives, hsecond, write_write,
        Spec.apply_symbolic_append]
      exact ⟨rfl, rfl, fun _ herr => nomatch herr⟩

lemma exists_fault_of_error {path : String} {err : SystemError} (hs : MeantBy cs s)
    (herr : (h.chmod path (.text s) o).result = .error err) :
    ∃ f, err = .ofFault ⟨"chmod", some path⟩ f := by
  have hreply := h.chmodReply path (.text s) o
  generalize h.chmod path (.text s) o = reply at hreply herr
  cases hreply with
  | refused _ hrefused => exact (hrefused ⟨_, s, rfl, hs.ne_empty, hs.change_eq _ _⟩).elim
  | done => cases herr
  | _ => exact ⟨_, (Except.error.inj herr).symm⟩

lemma umask_joins (ha : MeantBy cs a) (hb : MeantBy ds b) (hs : MeantBy (cs ++ ds) s) :
    (∃ text, (h.umask (.text s) o'').result = .ok text) ∧
      Joins (h.umask (.text a) o) ((h.umask (.text a) o).host.umask (.text b) o')
        (h.umask (.text s) o'') := by
  obtain ⟨-, hfirst⟩ := h.umask_of_change ha.ne_empty (ha.change_eq o _)
  obtain ⟨hresult, hhost⟩ := h.umask_of_change hs.ne_empty (hs.change_eq o'' _)
  obtain ⟨hresult', hhost'⟩ :=
    (h.umask (.text a) o).host.umask_of_change hb.ne_empty (hb.change_eq o' _)
  rw [hfirst, Mask.allowed_allowing_allowable, Mask.allowable_apply_allowable,
    ← Spec.apply_symbolic_append] at hresult' hhost'
  rw [hfirst]
  refine ⟨⟨_, hresult⟩, hresult'.trans hresult.symm, hhost'.trans hhost.symm, fun err herr => ?_⟩
  cases hresult.symm.trans herr

end Host

theorem joined_clauses_repeat (h : Host) (a b : String) (ha : AreClauses a) (hb : AreClauses b)
    (o o' o'' : Options) :
    (∀ path,
      Joins (h.chmod path (.text a) o) ((h.chmod path (.text a) o).host.chmod path (.text b) o')
        (h.chmod path (.text (a ++ "," ++ b)) o'') ∧
      ∀ err, (h.chmod path (.text (a ++ "," ++ b)) o'').result = .error err →
        ∃ f, err = .ofFault ⟨"chmod", some path⟩ f) ∧
    (∃ text, (h.umask (.text (a ++ "," ++ b)) o'').result = .ok text) ∧
      Joins (h.umask (.text a) o) ((h.umask (.text a) o).host.umask (.text b) o')
        (h.umask (.text (a ++ "," ++ b)) o'') := by
  obtain ⟨cs, hcs⟩ := Clause.exists_meantBy ha
  obtain ⟨ds, hds⟩ := Clause.exists_meantBy hb
  have hjoined := hcs.joined hds ha.1 hb.1
  exact ⟨fun path => ⟨h.chmod_joins o o' o'' path hcs hds hjoined,
    fun _ => h.exists_fault_of_error o'' hjoined⟩, h.umask_joins o o' o'' hcs hds hjoined⟩

theorem joined_clauses_repeat_set_id :
    AreClauses "u=s,g+x" ∧ AreClauses " -w,o=" ∧
    Joins (linkedHost.chmod "link" (.text "u=s,g+x") {})
      ((linkedHost.chmod "link" (.text "u=s,g+x") {}).host.chmod "link" (.text " -w,o=") {})
      (linkedHost.chmod "link" (.text ("u=s,g+x" ++ "," ++ " -w,o=")) {}) ∧
    Joins (linkedHost.umask (.text "u=s,g+x") {})
      ((linkedHost.umask (.text "u=s,g+x") {}).host.umask (.text " -w,o=") ⟨true⟩)
      (linkedHost.umask (.text ("u=s,g+x" ++ "," ++ " -w,o=")) {}) := by
  have hfirst : AreClauses "u=s,g+x" :=
    ⟨by decide, {}, .ofInt 0, .ofInt 0o4010, by decide⟩
  have hsecond : AreClauses " -w,o=" := ⟨by decide, {}, .ofInt 0, .ofInt 0, by decide⟩
  refine ⟨hfirst, hsecond, ?_, ?_⟩
  · exact ((joined_clauses_repeat linkedHost _ _ hfirst hsecond {} {} {}).1 "link").1
  · exact (joined_clauses_repeat linkedHost _ _ hfirst hsecond {} ⟨true⟩ {}).2.2

end FileSystem

end FileMode
