import FileMode.Proofs.Numerals
import FileMode.Proofs.PermissionWrites
import FileMode.Proofs.Runs

namespace FileMode.FileSystem

def Reply.Logs {α : Type} (r : Reply α) (level : Level) : Prop :=
  ∃ record ∈ r.log, record.level = level

def Entry.permNumber (e : Entry) : ℕ := (Int.land e.status.mode.toInt 0o7777).toNat

namespace Reply

variable {α : Type} {r : Reply α}

lemma logs_of_log_eq {record : Record} (hlog : r.log = [record]) (level : Level) :
    r.Logs level ↔ record.level = level := by
  simp [Logs, hlog]

lemma not_logs_of_log_eq (hlog : r.log = []) (level : Level) : ¬ r.Logs level := by
  simp [Logs, hlog]

lemma logs_map {β : Type} (f : α → β) (level : Level) : (r.map f).Logs level ↔ r.Logs level :=
  Iff.rfl

lemma result_map_eq_ok_iff {β : Type} {f : α → β} (hf : Function.Injective f) {a : α} :
    (r.map f).result = .ok (f a) ↔ r.result = .ok a := by
  rw [map]
  cases r.result <;> simp [Except.map, hf.eq_iff]

end Reply

lemma Entry.toNat_perms (e : Entry) : e.status.mode.perms.toNat = e.permNumber := by
  rw [permNumber, ← Bits.toNat_perms, Int.toNat_natCast]

structure ChmodAudit (h : Host) (path : String) (spec : Argument) (o : Options)
    (reply : Reply Outcome) : Prop where
  debug_iff : reply.Logs .debug ↔ ∃ r, reply.result = .ok (.perms r)
  written (r : Perms) : reply.result = .ok (.perms r) →
    ∃ (target : String) (before after : Entry) (s old new : String),
      h.files.walk Entry.statFault true path = .ok (target, before) ∧
      reply.host = { h with files := h.files.modify target (Entry.setPerms r) } ∧
      reply.host.files.find? target = some after ∧ spec = .text s ∧
      Octal.Written 1 old before.permNumber ∧ Octal.Written 1 new after.permNumber ∧
      reply.log =
        [⟨.debug, "chmod " ++ path ++ ": " ++ old ++ " -> " ++ new ++ " (" ++ s ++ ")"⟩]
  unwritten : ¬ reply.Logs .debug → reply.host = h
  warning_iff : reply.Logs .warning ↔ ∃ target e,
    h.files.walk Entry.statFault true path = .ok (target, e) ∧ spec.Rejected o e.status.mode
  refused : reply.Logs .warning →
    reply.log = [⟨.warning, "rejected mode " ++ spec.spelled ++ " for " ++ path⟩]
  stat_failed (f : Fault) :
    h.files.walk Entry.statFault true path = .error f → reply.log = []
  chmod_failed (target : String) (e : Entry) (m : Mode) (f : Fault) :
    h.files.walk Entry.statFault true path = .ok (target, e) → spec.Turns o e.status.mode m →
    h.files.walk Entry.chmodFault true path = .error f → reply.log = []

structure UmaskAudit (h : Host) (spec : Argument) (o : Options) (reply : Reply Outcome) :
    Prop where
  debug_iff : reply.Logs .debug ↔ ∃ m, spec.Turns o h.mask.allowed m
  changed : reply.Logs .debug → ∃ s old new : String, spec = .text s ∧
    Octal.Written 3 old h.mask.toNat ∧ old.length = 3 ∧
    Octal.Written 3 new reply.host.mask.toNat ∧ new.length = 3 ∧
    reply.log = [⟨.debug, "umask " ++ old ++ " -> " ++ new ++ " (" ++ s ++ ")"⟩]
  warning_iff : reply.Logs .warning ↔ spec ≠ .null ∧ spec.Rejected o h.mask.allowed
  refused : reply.Logs .warning →
    reply.log = [⟨.warning, "rejected umask mode " ++ spec.spelled⟩]
  read : spec = .null → reply.log = []

def Audited (h : Host) (reply : Reply Outcome) : Step → Prop
  | .chmod path spec o => ChmodAudit h path spec o reply
  | .umask spec o => UmaskAudit h spec o reply
  | _ => reply.log = []

lemma Mask.written_numeral (mask : Mask) :
    Octal.Written 3 mask.numeral mask.toNat ∧ mask.numeral.length = 3 :=
  ⟨Octal.written_paddedNumeral (by decide) _,
    Octal.length_paddedNumeral_of_lt (by decide) mask.isLt⟩

namespace ChmodReply

variable {h : Host} {path : String} {spec : Argument} {o : Options} {reply : Reply Perms}

lemma length_log_le (hreply : ChmodReply h path spec o reply) : reply.log.length ≤ 1 := by
  cases hreply <;> simp

lemma logs_debug_iff (hreply : ChmodReply h path spec o reply) :
    reply.Logs .debug ↔ ∃ r, reply.result = .ok r := by
  cases hreply with
  | done => exact ⟨fun _ => ⟨_, rfl⟩, fun _ => (Reply.logs_of_log_eq rfl _).mpr rfl⟩
  | refused => exact ⟨fun hlogs => (nomatch (Reply.logs_of_log_eq rfl _).mp hlogs), nofun⟩
  | _ => exact ⟨fun hlogs => (Reply.not_logs_of_log_eq rfl _ hlogs).elim, nofun⟩

lemma logs_warning_iff (hreply : ChmodReply h path spec o reply) :
    reply.Logs .warning ↔ ∃ target e, h.files.walk Entry.statFault true path = .ok (target, e) ∧
      spec.Rejected o e.status.mode := by
  -- a value that turned the mode read is no value that is rejected for this mode
  have hturned : ∀ {es : List Entry} {target : String} {e : Entry} {m : Mode},
      Reaches h.files Entry.statFault path es target e → spec.Turns o e.status.mode m →
      ¬ ∃ target e, h.files.walk Entry.statFault true path = .ok (target, e) ∧
        spec.Rejected o e.status.mode := by
    rintro es target e m hreaches hturns ⟨target', e', hwalk, hrejected⟩
    obtain ⟨rfl, rfl⟩ := Prod.mk.inj (Except.ok.inj (hreaches.walk_eq.symm.trans hwalk))
    exact Argument.rejected_iff.mp hrejected ⟨m, hturns⟩
  cases hreply with
  | unread hwalk =>
    refine iff_of_false (Reply.not_logs_of_log_eq rfl _) ?_
    rintro ⟨target, e, hok, -⟩
    cases hwalk.symm.trans hok
  | refused hreaches hrefused =>
    exact iff_of_true ((Reply.logs_of_log_eq rfl _).mpr rfl)
      ⟨_, _, hreaches.walk_eq, Argument.rejected_iff.mpr hrefused⟩
  | unwritten hreaches hturns =>
    exact iff_of_false (Reply.not_logs_of_log_eq rfl _) (hturned hreaches hturns)
  | done hreaches hspec hne hchange =>
    refine iff_of_false ?_ (hturned hreaches ⟨_, hspec, hne, hchange⟩)
    intro hlogs
    cases (Reply.logs_of_log_eq rfl _).mp hlogs

lemma log_of_logs_warning (hreply : ChmodReply h path spec o reply) (hlogs : reply.Logs .warning) :
    reply.log = [.chmodRefused path spec] := by
  cases hreply with
  | refused => rfl
  | done => cases (Reply.logs_of_log_eq rfl _).mp hlogs
  | _ => exact (Reply.not_logs_of_log_eq rfl _ hlogs).elim

lemma host_of_not_logs_debug (hreply : ChmodReply h path spec o reply)
    (hlogs : ¬ reply.Logs .debug) : reply.host = h := by
  cases hreply with
  | done => exact (hlogs ((Reply.logs_of_log_eq rfl _).mpr rfl)).elim
  | _ => rfl

lemma written {r : Perms} (hreply : ChmodReply h path spec o reply) (hok : reply.result = .ok r) :
    ∃ (target : String) (before after : Entry) (s : String),
      h.files.walk Entry.statFault true path = .ok (target, before) ∧
      reply.host = { h with files := h.files.modify target (Entry.setPerms r) } ∧
      reply.host.files.find? target = some after ∧ spec = .text s ∧
      reply.log = [.chmodDone path before.status.mode.perms after.status.mode.perms s] := by
  cases hreply with
  | @done es target s before m hreaches hspec =>
    obtain rfl := Except.ok.inj hok
    refine ⟨target, before, before.setPerms m.perms, s, hreaches.walk_eq, rfl, ?_, hspec, rfl⟩
    rw [Table.find?_modify, if_pos rfl, hreaches.trail.find?_target]
    rfl
  | _ => cases hok

end ChmodReply

namespace UmaskReply

variable {h : Host} {spec : Argument} {o : Options} {reply : Reply String}

lemma length_log_le (hreply : UmaskReply h spec o reply) : reply.log.length ≤ 1 := by
  cases hreply <;> simp

lemma logs_debug_iff (hreply : UmaskReply h spec o reply) :
    reply.Logs .debug ↔ ∃ m, spec.Turns o h.mask.allowed m := by
  cases hreply with
  | read hnull =>
    refine iff_of_false (Reply.not_logs_of_log_eq rfl _) ?_
    rintro ⟨m, s, hspec, -⟩
    cases hnull.symm.trans hspec
  | refused _ hrefused =>
    refine iff_of_false ?_ hrefused
    intro hlogs
    cases (Reply.logs_of_log_eq rfl _).mp hlogs
  | done hspec hne hchange =>
    exact iff_of_true ((Reply.logs_of_log_eq rfl _).mpr rfl) ⟨_, _, hspec, hne, hchange⟩

lemma logs_warning_iff (hreply : UmaskReply h spec o reply) :
    reply.Logs .warning ↔ spec ≠ .null ∧ spec.Rejected o h.mask.allowed := by
  rw [Argument.rejected_iff]
  cases hreply with
  | read hnull => exact iff_of_false (Reply.not_logs_of_log_eq rfl _) fun hno => hno.1 hnull
  | refused hne hrefused =>
    exact iff_of_true ((Reply.logs_of_log_eq rfl _).mpr rfl) ⟨hne, hrefused⟩
  | done hspec hne hchange =>
    refine iff_of_false ?_ fun hno => hno.2 ⟨_, _, hspec, hne, hchange⟩
    intro hlogs
    cases (Reply.logs_of_log_eq rfl _).mp hlogs

lemma log_of_logs_debug (hreply : UmaskReply h spec o reply) (hlogs : reply.Logs .debug) :
    ∃ s, spec = .text s ∧ reply.log = [.umaskDone h.mask reply.host.mask s] := by
  cases hreply with
  | read => exact (Reply.not_logs_of_log_eq rfl _ hlogs).elim
  | refused => cases (Reply.logs_of_log_eq rfl _).mp hlogs
  | done hspec => exact ⟨_, hspec, rfl⟩

lemma log_of_logs_warning (hreply : UmaskReply h spec o reply) (hlogs : reply.Logs .warning) :
    reply.log = [.umaskRefused spec] := by
  cases hreply with
  | read => exact (Reply.not_logs_of_log_eq rfl _ hlogs).elim
  | refused => rfl
  | done => cases (Reply.logs_of_log_eq rfl _).mp hlogs

end UmaskReply

namespace Host

lemma perms_injective : Function.Injective Outcome.perms := fun _ _ => Outcome.perms.inj

lemma chmodAudit (h : Host) (path : String) (spec : Argument) (o : Options) :
    ChmodAudit h path spec o (h.step (.chmod path spec o)) where
  debug_iff := by
    simp only [step, Reply.logs_map, Reply.result_map_eq_ok_iff perms_injective]
    exact (h.chmodReply path spec o).logs_debug_iff
  written r hok := by
    obtain ⟨target, before, after, s, hwalk, hhost, hafter, hspec, hlog⟩ :=
      (h.chmodReply path spec o).written ((Reply.result_map_eq_ok_iff perms_injective).mp hok)
    refine ⟨target, before, after, s, _, _, hwalk, hhost, hafter, hspec, ?_, ?_, hlog⟩
    · rw [before.toNat_perms]
      exact Octal.written_numeral _
    · rw [after.toNat_perms]
      exact Octal.written_numeral _
  unwritten := (h.chmodReply path spec o).host_of_not_logs_debug
  warning_iff := (h.chmodReply path spec o).logs_warning_iff
  refused := (h.chmodReply path spec o).log_of_logs_warning
  stat_failed f hstat := by
    rw [step, chmod_of_unread hstat]
    rfl
  chmod_failed target e m f hstat hturns hchmod := by
    obtain ⟨s, rfl, hne, hchange⟩ := hturns
    rw [step, chmod_of_unwritten hstat (Call.guardedChange_of_change _ hchange) hchmod]
    rfl

lemma umaskAudit (h : Host) (spec : Argument) (o : Options) :
    UmaskAudit h spec o (h.step (.umask spec o)) where
  debug_iff := (h.umaskReply spec o).logs_debug_iff
  changed hlogs := by
    obtain ⟨s, hspec, hlog⟩ := (h.umaskReply spec o).log_of_logs_debug hlogs
    have ⟨hold, hold3⟩ := h.mask.written_numeral
    have ⟨hnew, hnew3⟩ := (h.umask spec o).host.mask.written_numeral
    exact ⟨s, _, _, hspec, hold, hold3, hnew, hnew3, hlog⟩
  warning_iff := (h.umaskReply spec o).logs_warning_iff
  refused := (h.umaskReply spec o).log_of_logs_warning
  read hnull := by
    subst hnull
    rfl

lemma stat_log (h : Host) (path : String) : (h.stat path).log = [] := by
  rw [stat]
  split <;> rfl

lemma audited_step (h : Host) (s : Step) :
    (h.step s).log.length ≤ 1 ∧ Audited h (h.step s) s := by
  cases s with
  | stat path =>
    have hlog : (h.step (.stat path)).log = [] := h.stat_log path
    exact ⟨by simp [hlog], hlog⟩
  | chmod path spec o =>
    exact ⟨(h.chmodReply path spec o).length_log_le, h.chmodAudit path spec o⟩
  | umask spec o => exact ⟨(h.umaskReply spec o).length_log_le, h.umaskAudit spec o⟩
  | _ => exact ⟨Nat.zero_le 1, rfl⟩

end Host

theorem run_audited (h : Host) (steps : List Step) (i : ℕ) (s : Step) (hs : steps[i]? = some s) :
    ∃ g reply, (h.states steps)[i]? = some g ∧ (h.run steps)[i]? = some reply ∧
      (h.states steps)[i + 1]? = some reply.host ∧
      reply.log.length ≤ 1 ∧ Audited g reply s := by
  have hi : i < steps.length := (List.getElem?_eq_some_iff.mp hs).1
  refine ⟨_, _, h.getElem?_states (Nat.le_of_lt hi), ?_, ?_, Host.audited_step _ s⟩
  · rw [h.getElem?_run, hs]
    rfl
  · rw [h.getElem?_states hi, List.take_add_one, hs, Option.toList_some, Host.after_append]
    rfl

def auditedSteps : List Step :=
  [.chmod "link" (.text "0100711") {}, .umask (.text "g+w") {}, .chmod "link" (.text "u*x") {},
    .chmod "link" (.float (.decimal (.mk false 1 [] 16))) {},
    .umask (.float (.decimal (.mk true 2 [5] (-5)))) {},
    .put "locked" { homeEntry with chmodFault := some ⟨some 22, none⟩ },
    .chmod "locked" (.text "u+x") {}]

theorem run_audited_locked :
    (linkedHost.run auditedSteps).map Reply.log =
      [[⟨.debug, "chmod link: 2755 -> 711 (0100711)"⟩], [⟨.debug, "umask 022 -> 002 (g+w)"⟩],
        [⟨.warning, "rejected mode 'u*x' for link"⟩],
        [⟨.warning, "rejected mode 1e+16 for link"⟩],
        [⟨.warning, "rejected umask mode -2.5e-05"⟩], [], []] ∧
    auditedSteps[6]? = some (.chmod "locked" (.text "u+x") {}) ∧
    ∃ g reply, (linkedHost.states auditedSteps)[6]? = some g ∧
      (linkedHost.run auditedSteps)[6]? = some reply ∧
      (linkedHost.states auditedSteps)[6 + 1]? = some reply.host ∧
      reply.log.length ≤ 1 ∧ ChmodAudit g "locked" (.text "u+x") {} reply :=
  ⟨by decide, rfl, run_audited linkedHost auditedSteps 6 _ rfl⟩

end FileMode.FileSystem
