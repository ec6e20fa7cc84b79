import FileMode.Proofs.AllOrNothing
import FileMode.Proofs.Language
import FileMode.Proofs.PermissionWrites
import FileMode.Proofs.SlotBits

/-! What strictness changes: a text that is accepted strictly is read as it is leniently, and a text
that is accepted leniently alone is a bad nine-letter form. The same holds of the calls on a
host. -/

namespace FileMode

inductive Tightens {ε α : Type} (e : ε) : Except ε α → Except ε α → Prop
  | same (x : Except ε α) : Tightens e x x
  | refused (a : α) : Tightens e (.error e) (.ok a)

namespace Tightens

variable {ε α : Type} {e : ε} {x y : Except ε α}

lemma map {β : Type} (h : Tightens e x y) (f : α → β) : Tightens e (f <$> x) (f <$> y) := by
  cases h with
  | same => exact .same _
  | refused a => exact .refused (f a)

lemma mapError {ε' : Type} (h : Tightens e x y) (f : ε → ε') :
    Tightens (f e) (x.mapError f) (y.mapError f) := by
  cases h with
  | same => exact .same _
  | refused a => exact .refused a

lemma eq_or (h : Tightens e x y) : x = y ∨ x = .error e ∧ ∃ a, y = .ok a := by
  cases h with
  | same => exact Or.inl rfl
  | refused a => exact Or.inr ⟨rfl, a, rfl⟩

lemma of_ok {a : α} (h : Tightens e x y) (hx : x = .ok a) : y = .ok a := by
  cases h with
  | same => exact hx
  | refused => cases hx

lemma of_error {e' : ε} (h : Tightens e x y) (hy : y = .error e') : x = .error e' := by
  cases h with
  | same => exact hy
  | refused => cases hy

lemma of_ne (h : Tightens e x y) (hne : x ≠ y) : x = .error e := by
  cases h with
  | same => exact (hne rfl).elim
  | refused => rfl

end Tightens

namespace Marks

variable {cs : List Char} {ms : Marks}

lemma parse_of_strict (h : parse true cs = .ok ms) (strict : Bool) : parse strict cs = .ok ms := by
  have hlength : cs.length = 9 := ((Language.marks_isOk_iff true cs).mp ⟨ms, h⟩).1
  have hguard : ∀ b : Bool, (b && cs.length != Slot.all.length) = false := by
    simp [hlength, Slot.length_all]
  rw [parse, hguard] at h ⊢
  refine Traversal.mapM_eq_ok_iff.mpr ((Traversal.mapM_eq_ok_iff.mp h).imp ?_)
  rintro ⟨s, c⟩ y hy
  obtain ⟨m, hread, rfl⟩ := (Traversal.map_eq_ok_iff (x := Mark.read true s c) _).mp hy
  exact (Traversal.map_eq_ok_iff (x := Mark.read strict s c) _).mpr
    ⟨m, (Mark.read_of_strict hread).1 strict, rfl⟩

lemma parse_tightens (cs : List Char) : Tightens .badSlots (parse true cs) (parse false cs) := by
  cases hstrict : parse true cs with
  | ok ms =>
    rw [parse_of_strict hstrict]
    exact .same _
  | error e =>
    obtain rfl := Language.marks_error hstrict
    cases hlenient : parse false cs with
    | ok ms => exact .refused ms
    | error e =>
      obtain rfl := Language.marks_error hlenient
      exact .same _

end Marks

namespace Mode

variable (m : Mode) (s : String)

lemma change_eq_of_form (o o' : Options) (hform : Spec.form s.toList ≠ .positional) :
    m.change o s = m.change o' s := by
  cases h : Spec.form s.toList with
  | positional => exact (hform h).elim
  | octal => simp only [change, Spec.parse, Spec.parseChars_of_octal _ h]
  | symbolic => simp only [change, Spec.parse, Spec.parseChars_of_symbolic _ h]

lemma change_tightens : Tightens .badSlots (m.change ⟨true⟩ s) (m.change ⟨false⟩ s) := by
  by_cases hform : Spec.form s.toList = .positional
  · rw [change_of_positional _ m hform, change_of_positional _ m hform]
    exact (Marks.parse_tightens s.toList).map _
  · rw [m.change_eq_of_form s ⟨true⟩ ⟨false⟩ hform]
    exact .same _

lemma form_of_change_ne (hne : m.change ⟨true⟩ s ≠ m.change ⟨false⟩ s) :
    Spec.form s.toList = .positional ∧ ¬ Language.StrictSlots s.toList := by
  have hform : Spec.form s.toList = .positional := by
    by_contra hform
    exact hne (m.change_eq_of_form s _ _ hform)
  refine ⟨hform, ?_⟩
  intro hslots
  have haccepted : Language.Accepted true s.toList := by
    rw [Language.Accepted, hform]
    exact hslots
  obtain ⟨m', hm'⟩ := (Language.change_isOk_iff ⟨true⟩ s m).mpr haccepted
  exact hne (hm'.trans ((m.change_tightens s).of_ok hm').symm)

end Mode

namespace Call

variable (call : Call)

lemma guardedChange_tightens (s : String) (m : Mode) :
    Tightens (SystemError.invalid call (Rejection.badSlots.messageFor s))
      (call.guardedChange ⟨true⟩ (.text s) m) (call.guardedChange ⟨false⟩ (.text s) m) := by
  by_cases hne : s = ""
  · subst hne
    exact .same _
  · rw [guardedChange_text call hne, guardedChange_text call hne]
    exact ((m.change_tightens s).mapError fun cause =>
      SystemError.invalid call (cause.messageFor s)).map (s, ·)

lemma guardedChange_of_rejected {spec : Argument} {o : Options} {m : Mode}
    (h : spec.Rejected o m) : ∃ refused, call.guardedChange o spec m = .error refused := by
  obtain ⟨detail, hrefused⟩ := call.guardedChange_of_not_turns (Argument.rejected_iff.mp h)
  exact ⟨_, hrefused⟩

lemma not_rejected_of_guardedChange {spec : Argument} {o : Options} {m : Mode}
    {changed : String × Mode} (h : call.guardedChange o spec m = .ok changed) :
    ¬ spec.Rejected o m := by
  intro hrejected
  obtain ⟨refused, hguard⟩ := call.guardedChange_of_rejected hrejected
  cases hguard.symm.trans h

end Call

namespace FileSystem

/-- The strict reply is the lenient one wherever that one fails before it writes, and where the two
differ it is the refusal of a bad form, which leaves the host alone. -/
structure Stricter {α : Type} (h : Host) (call : Call) (s : String) (fails : Prop)
    (strict lenient : Reply α) : Prop where
  of_ok (a : α) : strict.result = .ok a → lenient.result = .ok a ∧ lenient.host = strict.host
  of_fails : fails → ∃ err, lenient.result = .error err ∧ strict.result = .error err
  same_or_refused : strict = lenient ∨ ∃ err, strict.result = .error err ∧ err.code = "EINVAL" ∧
    err.detail = some (Rejection.badSlots.messageFor s) ∧ err.call = call ∧ strict.host = h

lemma Stricter.of_eq_or {α : Type} {h : Host} {call : Call} {s : String} {fails : Prop}
    {strict lenient : Reply α} (hfails : fails → ∃ err, lenient.result = .error err)
    (hor : strict = lenient ∨ ¬ fails ∧ ∃ log,
      strict = ⟨.error (.invalid call (Rejection.badSlots.messageFor s)), log, h⟩) :
    Stricter h call s fails strict lenient where
  of_ok a hok := by
    rcases hor with rfl | ⟨-, log, rfl⟩
    · exact ⟨hok, rfl⟩
    · cases hok
  of_fails hf := by
    rcases hor with rfl | ⟨hno, -⟩
    · obtain ⟨err, herr⟩ := hfails hf
      exact ⟨err, herr, herr⟩
    · exact (hno hf).elim
  same_or_refused := by
    rcases hor with rfl | ⟨-, log, rfl⟩
    · exact Or.inl rfl
    · exact Or.inr ⟨_, rfl, rfl, rfl, rfl, rfl⟩

namespace Host

variable (h : Host) (path s : String)

def StopsShort (spec : Argument) (o : Options) : Prop :=
  (∃ f, h.files.walk Entry.statFault true path = .error f) ∨ ∃ target e,
    h.files.walk Entry.statFault true path = .ok (target, e) ∧ spec.Rejected o e.status.mode

lemma chmod_error_of_stopsShort {spec : Argument} {o : Options}
    (hstops : h.StopsShort path spec o) : ∃ err, (h.chmod path spec o).result = .error err := by
  rcases hstops with ⟨f, hstat⟩ | ⟨target, e, hstat, hrejected⟩
  · rw [chmod_of_unread hstat]
    exact ⟨_, rfl⟩
  · obtain ⟨refused, hguard⟩ := Call.guardedChange_of_rejected ⟨"chmod", some path⟩ hrejected
    rw [chmod_of_refused hstat hguard]
    exact ⟨_, rfl⟩

lemma chmod_stricter : Stricter h ⟨"chmod", some path⟩ s (h.StopsShort path (.text s) ⟨false⟩)
    (h.chmod path (.text s) ⟨true⟩) (h.chmod path (.text s) ⟨false⟩) := by
  refine .of_eq_or (h.chmod_error_of_stopsShort path) ?_
  cases hstat : h.files.walk Entry.statFault true path with
  | error f =>
    rw [chmod_of_unread hstat, chmod_of_unread hstat]
    exact Or.inl rfl
  | ok arrival =>
    obtain ⟨target, e⟩ := arrival
    rcases (Call.guardedChange_tightens ⟨"chmod", some path⟩ s e.status.mode).eq_or with
      hsame | ⟨hrefused, changed, hlenient⟩
    · refine Or.inl ?_
      simp only [chmod, hstat, hsame]
    · refine Or.inr ⟨?_, _, chmod_of_refused hstat hrefused⟩
      rintro (⟨f, hfault⟩ | ⟨target', e', hread, hrejected⟩)
      · cases hfault.symm.trans hstat
      · obtain ⟨rfl, rfl⟩ := Prod.mk.inj (Except.ok.inj (hread.symm.trans hstat))
        exact Call.not_rejected_of_guardedChange _ hlenient hrejected

lemma umask_stricter :
    Stricter h ⟨"umask", none⟩ s ((Argument.text s).Rejected ⟨false⟩ h.mask.allowed)
      (h.umask (.text s) ⟨true⟩) (h.umask (.text s) ⟨false⟩) := by
  have hne : Argument.text s ≠ .null := by simp
  refine .of_eq_or ?_ ?_
  · intro hrejected
    obtain ⟨refused, hguard⟩ := Call.guardedChange_of_rejected ⟨"umask", none⟩ hrejected
    rw [umask_of_ne_null h _ hne, hguard]
    exact ⟨_, rfl⟩
  · rcases (Call.guardedChange_tightens ⟨"umask", none⟩ s h.mask.allowed).eq_or with
      hsame | ⟨hrefused, changed, hlenient⟩
    · rw [umask_of_ne_null h _ hne, umask_of_ne_null h _ hne, hsame]
      exact Or.inl rfl
    · refine Or.inr ⟨Call.not_rejected_of_guardedChange _ hlenient, [.umaskRefused (.text s)], ?_⟩
      rw [umask_of_ne_null h _ hne, hrefused]

end Host

theorem strict_refines_lenient :
    (∀ (current : ℤ) (s : String),
      (∀ m, (Mode.ofInt current).change ⟨true⟩ s = .ok m →
        (Mode.ofInt current).change ⟨false⟩ s = .ok m) ∧
      (∀ e, (Mode.ofInt current).change ⟨false⟩ s = .error e →
        (Mode.ofInt current).change ⟨true⟩ s = .error e) ∧
      (Spec.form s.toList ≠ .positional →
        (Mode.ofInt current).change ⟨true⟩ s = (Mode.ofInt current).change ⟨false⟩ s) ∧
      ((Mode.ofInt current).change ⟨true⟩ s ≠ (Mode.ofInt current).change ⟨false⟩ s →
        (Mode.ofInt current).change ⟨true⟩ s = .error .badSlots ∧
          Spec.form s.toList = .positional ∧ ¬ Language.StrictSlots s.toList)) ∧
    ∀ (h : Host) (s : String),
      (∀ path, Stricter h ⟨"chmod", some path⟩ s (h.StopsShort path (.text s) ⟨false⟩)
        (h.chmod path (.text s) ⟨true⟩) (h.chmod path (.text s) ⟨false⟩)) ∧
      Stricter h ⟨"umask", none⟩ s ((Argument.text s).Rejected ⟨false⟩ h.mask.allowed)
        (h.umask (.text s) ⟨true⟩) (h.umask (.text s) ⟨false⟩) := by
  refine ⟨?_, fun h s => ⟨fun path => h.chmod_stricter path s, h.umask_stricter s⟩⟩
  intro current s
  have htightens := (Mode.ofInt current).change_tightens s
  refine ⟨fun m => htightens.of_ok, fun e => htightens.of_error,
    (Mode.ofInt current).change_eq_of_form s _ _, ?_⟩
  intro hne
  exact ⟨htightens.of_ne hne, (Mode.ofInt current).form_of_change_ne s hne⟩

theorem strict_refines_lenient_short :
    ((Mode.ofInt 0o644).change ⟨true⟩ "rwsr-x---" = .ok (.ofInt 0o4750) ∧
      (Mode.ofInt 0o644).change ⟨false⟩ "rwsr-x---" = .ok (.ofInt 0o4750)) ∧
    ((Mode.ofInt 0o644).change ⟨false⟩ "rs" = .error .badSlots ∧
      (Mode.ofInt 0o644).change ⟨true⟩ "rs" = .error .badSlots) ∧
    (Spec.form "u+x".toList ≠ .positional ∧
      (Mode.ofInt 0o644).change ⟨true⟩ "u+x" = (Mode.ofInt 0o644).change ⟨false⟩ "u+x") ∧
    ((Mode.ofInt 0o644).change ⟨true⟩ "rw" ≠ (Mode.ofInt 0o644).change ⟨false⟩ "rw" ∧
      (Mode.ofInt 0o644).change ⟨true⟩ "rw" = .error .badSlots ∧
        ¬ Language.StrictSlots "rw".toList) ∧
    (linkedHost.files.walk Entry.statFault true "away" = .error Table.absent ∧
      ∃ err, (linkedHost.chmod "away" (.text "rw") ⟨false⟩).result = .error err ∧
        (linkedHost.chmod "away" (.text "rw") ⟨true⟩).result = .error err) ∧
    Stricter linkedHost ⟨"umask", none⟩ "rw"
      ((Argument.text "rw").Rejected ⟨false⟩ linkedHost.mask.allowed)
      (linkedHost.umask (.text "rw") ⟨true⟩) (linkedHost.umask (.text "rw") ⟨false⟩) := by
  obtain ⟨hmode, hhost⟩ := strict_refines_lenient
  have haccepted : (Mode.ofInt 0o644).change ⟨true⟩ "rwsr-x---" = .ok (.ofInt 0o4750) := by decide
  have hrejected : (Mode.ofInt 0o644).change ⟨false⟩ "rs" = .error .badSlots := by decide
  have hform : Spec.form "u+x".toList ≠ .positional := by decide
  have hdiffer :
      (Mode.ofInt 0o644).change ⟨true⟩ "rw" ≠ (Mode.ofInt 0o644).change ⟨false⟩ "rw" := by
    decide
  have hstat : linkedHost.files.walk Entry.statFault true "away" = .error Table.absent := by decide
  obtain ⟨hcause, -, hslots⟩ := (hmode 0o644 "rw").2.2.2 hdiffer
  exact ⟨⟨haccepted, (hmode _ _).1 _ haccepted⟩, ⟨hrejected, (hmode _ _).2.1 _ hrejected⟩,
    ⟨hform, (hmode _ _).2.2.1 hform⟩, ⟨hdiffer, hcause, hslots⟩,
    ⟨hstat, ((hhost linkedHost "rw").1 "away").of_fails (Or.inl ⟨_, hstat⟩)⟩,
    (hhost linkedHost "rw").2⟩

end FileSystem

end FileMode
