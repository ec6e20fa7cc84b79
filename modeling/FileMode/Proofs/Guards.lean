import FileMode.Proofs.Messages
import FileMode.Proofs.Replies

namespace FileMode

/-- The guards one after the other, each with every way in which it could fail. -/
def Call.checkedChange (call : Call) (o : Options) (spec : Argument) (m : Mode) :
    Except Failure Mode := do
  let _ ← (call.nonEmptyText spec).mapError Failure.system
  call.changeBy o spec m

variable {o : Options} {spec : Argument} {m m' : Mode}

namespace Mode

lemma changeBy_eq_ok_iff :
    m.changeBy o spec = .ok m' ↔ ∃ s, spec = .text s ∧ m.change o s = .ok m' := by
  cases spec with
  | text s => cases hchange : m.change o s <;> simp [changeBy, hchange, Except.mapError]
  | _ => simp [changeBy]

lemma attempt_eq_ok_iff {answer : Except Rejection Mode} :
    m.attempt o spec = .ok answer ↔ ∃ s, spec = .text s ∧ m.change o s = answer := by
  cases spec with
  | text s => cases hchange : m.change o s <;> simp [attempt, changeBy, hchange, Except.mapError]
  | _ => simp [attempt, changeBy]

end Mode

namespace Call

variable (call : Call)

lemma checkedChange_eq (o : Options) (spec : Argument) (m : Mode) :
    call.checkedChange o spec m =
      ((call.guardedChange o spec m).map Prod.snd).mapError Failure.system := by
  cases spec with
  | text s =>
    by_cases hne : s = ""
    · subst hne
      rfl
    · rw [guardedChange_text call hne, checkedChange, nonEmptyText_text call hne]
      change (call.change o s m).mapError Failure.system = _
      cases call.change o s m <;> rfl
  | _ => rfl

lemma checkedChange_eq_ok_iff :
    call.checkedChange o spec m = .ok m' ↔ ∃ s, spec = .text s ∧ m.change o s = .ok m' := by
  rw [← Argument.turns_iff, checkedChange_eq]
  by_cases hturns : ∃ m₁, spec.Turns o m m₁
  · obtain ⟨m₁, s, rfl, hne, hchange⟩ := hturns
    rw [guardedChange_of_change call hchange]
    simp [Argument.Turns, Except.map, Except.mapError, hne, hchange]
  · obtain ⟨detail, hrefused⟩ := call.guardedChange_of_not_turns hturns
    rw [hrefused]
    exact ⟨nofun, fun h => (hturns ⟨m', h⟩).elim⟩

structure Refuses (o : Options) (spec : Argument) (m : Mode) (err : SystemError) : Prop where
  code : err.code = "EINVAL"
  call_eq : err.call = call
  isNotFound : err.isNotFound = false
  message : ∀ s, spec = .text s → s ≠ "" → ∃ cause, m.attempt o spec = .ok (.error cause) ∧
    err.message = "EINVAL: " ++ cause.message ++ ": " ++ Quoted.quote s ++ ", " ++ call.name ++
      call.path.elim "" fun p => " '" ++ p ++ "'"

lemma message_invalid {detail : String} (hdetail : detail ≠ "") :
    (SystemError.invalid call detail).message =
      "EINVAL: " ++ detail ++ ", " ++ call.name ++ call.path.elim "" fun p => " '" ++ p ++ "'" := by
  rw [SystemError.message, SystemError.base_invalid call hdetail]
  cases hpath : call.path <;> simp [SystemError.invalid, hpath]

lemma exists_refuses (h : ¬ ∃ m', spec.Turns o m m') :
    ∃ err, call.guardedChange o spec m = .error err ∧ call.Refuses o spec m err := by
  obtain ⟨detail, hrefused⟩ := call.guardedChange_of_not_turns h
  refine ⟨_, hrefused, rfl, rfl, rfl, ?_⟩
  rintro s rfl hne
  cases hchange : m.change o s with
  | ok m' => exact (h ⟨m', s, rfl, hne, hchange⟩).elim
  | error cause =>
    rw [guardedChange_of_error call hne hchange] at hrefused
    refine ⟨cause, Mode.attempt_eq_ok_iff.mpr ⟨s, rfl, hchange⟩, ?_⟩
    rw [← Except.error.inj hrefused, message_invalid call (cause.messageFor_ne_empty s),
      Rejection.messageFor]
    simp only [String.append_assoc]

end Call

theorem entry_points_agree (current : ℤ) (spec : Argument) (o : Options) (call : Call) :
    call.checkedChange o spec (Mode.ofInt current) =
        ((call.guardedChange o spec (Mode.ofInt current)).map Prod.snd).mapError Failure.system ∧
      (∀ m, (call.checkedChange o spec (Mode.ofInt current) = .ok m ↔
          (∃ s, spec = .text s) ∧ (Mode.ofInt current).changeBy o spec = .ok m) ∧
        (call.checkedChange o spec (Mode.ofInt current) = .ok m ↔
          (Mode.ofInt current).attempt o spec = .ok (.ok m))) ∧
      ((¬ ∃ m, (Mode.ofInt current).attempt o spec = .ok (.ok m)) →
        ∃ err, call.checkedChange o spec (Mode.ofInt current) = .error (.system err) ∧
          call.Refuses o spec (Mode.ofInt current) err) := by
  refine ⟨call.checkedChange_eq o spec _, fun m => ⟨?_, ?_⟩, ?_⟩
  · rw [Call.checkedChange_eq_ok_iff, Mode.changeBy_eq_ok_iff]
    exact ⟨fun ⟨s, hs, hchange⟩ => ⟨⟨s, hs⟩, s, hs, hchange⟩, And.right⟩
  · rw [Call.checkedChange_eq_ok_iff, Mode.attempt_eq_ok_iff]
  · intro hno
    have hturns : ¬ ∃ m, spec.Turns o (Mode.ofInt current) m := by
      rintro ⟨m, hm⟩
      exact hno ⟨m, Mode.attempt_eq_ok_iff.mpr (Argument.turns_iff.mp hm)⟩
    obtain ⟨err, hrefused, hrefuses⟩ := call.exists_refuses hturns
    refine ⟨err, ?_, hrefuses⟩
    rw [Call.checkedChange_eq, hrefused]
    rfl

theorem entry_points_agree_falsy :
    ((¬ ∃ m, (Mode.ofInt 0o644).attempt {} (.list []) = .ok (.ok m)) ∧
      ∃ err, Call.checkedChange ⟨"chmod", none⟩ {} (.list []) (Mode.ofInt 0o644) =
          .error (.system err) ∧
        err.code = "EINVAL" ∧ err.call = ⟨"chmod", none⟩) ∧
    ((¬ ∃ m, (Mode.ofInt 0o644).attempt {} (.text "u\x27\x22") = .ok (.ok m)) ∧
      ∃ err, Call.checkedChange ⟨"chmod", some ""⟩ {} (.text "u\x27\x22") (Mode.ofInt 0o644) =
          .error (.system err) ∧
        err.message = "EINVAL: bad operator: 'u\\'\x22', chmod ''") := by
  have hlist : ¬ ∃ m, (Mode.ofInt 0o644).attempt {} (.list []) = .ok (.ok m) := by
    rintro ⟨m, hm⟩
    cases hm
  have htext : ¬ ∃ m, (Mode.ofInt 0o644).attempt {} (.text "u\x27\x22") = .ok (.ok m) := by
    rintro ⟨m, hm⟩
    cases hm
  obtain ⟨err, herr, hrefuses⟩ :=
    (entry_points_agree 0o644 (.list []) {} ⟨"chmod", none⟩).2.2 hlist
  obtain ⟨err', herr', hrefuses'⟩ :=
    (entry_points_agree 0o644 (.text "u\x27\x22") {} ⟨"chmod", some ""⟩).2.2 htext
  refine ⟨⟨hlist, err, herr, hrefuses.code, hrefuses.call_eq⟩, htext, err', herr', ?_⟩
  obtain ⟨cause, hcause, hmessage⟩ := hrefuses'.message _ rfl (by decide)
  obtain rfl : cause = .badOperator := by
    cases hcause
    rfl
  rw [hmessage]
  decide

end FileMode
