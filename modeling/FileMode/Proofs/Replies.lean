import FileMode.FileSystem.Host
import FileMode.Proofs.Form
import FileMode.Proofs.Links

namespace FileMode

def Argument.Turns (o : Options) (spec : Argument) (m m' : Mode) : Prop :=
  ∃ s, spec = .text s ∧ s ≠ "" ∧ m.change o s = .ok m'

lemma Argument.turns_iff {o : Options} {spec : Argument} {m m' : Mode} :
    spec.Turns o m m' ↔ ∃ s, spec = .text s ∧ m.change o s = .ok m' := by
  refine ⟨fun ⟨s, hs, _, hchange⟩ => ⟨s, hs, hchange⟩, ?_⟩
  rintro ⟨s, hs, hchange⟩
  exact ⟨s, hs, Mode.ne_empty_of_change hchange, hchange⟩

inductive Argument.Rejected (o : Options) (m : Mode) : Argument → Prop
  | notText {spec : Argument} : (∀ s, spec ≠ .text s) → Rejected o m spec
  | empty : Rejected o m (.text "")
  | unreadable {s : String} {cause : Rejection} : m.change o s = .error cause →
      Rejected o m (.text s)

lemma Argument.rejected_iff {o : Options} {spec : Argument} {m : Mode} :
    spec.Rejected o m ↔ ¬ ∃ m', spec.Turns o m m' := by
  refine ⟨?_, ?_⟩
  · rintro h ⟨m', s, rfl, hne, hchange⟩
    cases h with
    | notText hno => exact hno s rfl
    | empty => exact hne rfl
    | unreadable hcause => cases hchange.symm.trans hcause
  · intro h
    cases spec with
    | text s =>
      by_cases hne : s = ""
      · subst hne
        exact .empty
      · cases hchange : m.change o s with
        | ok m' => exact (h ⟨m', s, rfl, hne, hchange⟩).elim
        | error cause => exact .unreadable hchange
    | _ => exact .notText nofun

namespace Call

variable (call : Call) {o : Options} {spec : Argument} {m : Mode}

lemma nonEmptyText_text {s : String} (hne : s ≠ "") : call.nonEmptyText (.text s) = .ok s := by
  rw [nonEmptyText]
  simp [hne]

lemma guardedChange_text {s : String} (hne : s ≠ "") :
    call.guardedChange o (.text s) m = (s, ·) <$> call.change o s m := by
  rw [guardedChange, nonEmptyText_text call hne]
  change (call.change o s m >>= fun m' => Except.ok (s, m')) = _
  cases call.change o s m <;> rfl

lemma guardedChange_of_change {s : String} {m' : Mode} (h : m.change o s = .ok m') :
    call.guardedChange o (.text s) m = .ok (s, m') := by
  rw [guardedChange_text call (Mode.ne_empty_of_change h), change, h]
  rfl

lemma guardedChange_of_error {s : String} {cause : Rejection} (hne : s ≠ "")
    (h : m.change o s = .error cause) :
    call.guardedChange o (.text s) m = .error (.invalid call (cause.messageFor s)) := by
  rw [guardedChange_text call hne, change, h]
  rfl

lemma guardedChange_of_not_turns (h : ¬ ∃ m', spec.Turns o m m') :
    ∃ detail, call.guardedChange o spec m = .error (.invalid call detail) := by
  cases spec with
  | text s =>
    by_cases hne : s = ""
    · subst hne
      exact ⟨_, rfl⟩
    · cases hchange : m.change o s with
      | ok m' => exact (h ⟨m', s, rfl, hne, hchange⟩).elim
      | error cause => exact ⟨_, guardedChange_of_error call hne hchange⟩
  | _ => exact ⟨_, rfl⟩

end Call

namespace FileSystem

inductive ChmodReply (h : Host) (path : String) (spec : Argument) (o : Options) :
    Reply Perms → Prop
  | unread {f : Fault} : h.files.walk Entry.statFault true path = .error f →
      ChmodReply h path spec o ⟨.error (.ofFault ⟨"chmod", some path⟩ f), [], h⟩
  | refused {es : List Entry} {target : String} {e : Entry} {detail : String} :
      Reaches h.files Entry.statFault path es target e →
      (¬ ∃ m, spec.Turns o e.status.mode m) →
      ChmodReply h path spec o
        ⟨.error (.invalid ⟨"chmod", some path⟩ detail), [.chmodRefused path spec], h⟩
  | unwritten {es : List Entry} {target : String} {e : Entry} {m : Mode} {f : Fault} :
      Reaches h.files Entry.statFault path es target e → spec.Turns o e.status.mode m →
      h.files.walk Entry.chmodFault true path = .error f →
      ChmodReply h path spec o ⟨.error (.ofFault ⟨"chmod", some path⟩ f), [], h⟩
  | done {es : List Entry} {target s : String} {e : Entry} {m : Mode} :
      Reaches h.files Entry.statFault path es target e → spec = .text s → s ≠ "" →
      e.status.mode.change o s = .ok m → (∀ f ∈ es, f.chmodFault = none) →
      ChmodReply h path spec o
        ⟨.ok m.perms, [.chmodDone path e.status.mode.perms m.perms s],
          { h with files := h.files.modify target (Entry.setPerms m.perms) }⟩

inductive UmaskReply (h : Host) (spec : Argument) (o : Options) : Reply String → Prop
  | read : spec = .null → UmaskReply h spec o ⟨.ok h.mask.allowed.render, [], h⟩
  | refused {detail : String} : spec ≠ .null → (¬ ∃ m, spec.Turns o h.mask.allowed m) →
      UmaskReply h spec o ⟨.error (.invalid ⟨"umask", none⟩ detail), [.umaskRefused spec], h⟩
  | done {s : String} {m : Mode} : spec = .text s → s ≠ "" →
      h.mask.allowed.change o s = .ok m →
      UmaskReply h spec o
        ⟨.ok (Mask.allowable m).render, [.umaskDone h.mask (.allowing (Mask.allowable m)) s],
          { h with mask := .allowing (Mask.allowable m) }⟩

namespace Host

variable (h : Host) (path : String) (spec : Argument) (o : Options)

lemma chmodReply : ChmodReply h path spec o (h.chmod path spec o) := by
  rw [chmod]
  cases hstat : h.files.walk Entry.statFault true path with
  | error f => exact .unread hstat
  | ok arrival =>
    obtain ⟨target, e⟩ := arrival
    obtain ⟨es, hreaches⟩ := Table.walk_eq_ok_iff.mp hstat
    by_cases hturns : ∃ m, spec.Turns o e.status.mode m
    · obtain ⟨m, s, rfl, hne, hchange⟩ := hturns
      simp only [Call.guardedChange_of_change _ hchange]
      cases hchmod : h.files.walk Entry.chmodFault true path with
      | error f => exact .unwritten hreaches ⟨s, rfl, hne, hchange⟩ hchmod
      | ok arrival' =>
        obtain ⟨target', e'⟩ := arrival'
        obtain ⟨es', hreaches'⟩ := Table.walk_eq_ok_iff.mp hchmod
        obtain ⟨rfl, rfl, rfl⟩ := hreaches.trail.unique hreaches'.trail
        exact .done hreaches rfl hne hchange hreaches'.clear
    · obtain ⟨detail, hrefused⟩ := Call.guardedChange_of_not_turns ⟨"chmod", some path⟩ hturns
      simp only [hrefused]
      exact .refused hreaches hturns

lemma umask_of_ne_null {spec : Argument} (hnull : spec ≠ .null) : h.umask spec o =
    match Call.guardedChange ⟨"umask", none⟩ o spec h.mask.allowed with
    | .error refused => ⟨.error refused, [.umaskRefused spec], h⟩
    | .ok (text, m) =>
      ⟨.ok (Mask.allowable m).render, [.umaskDone h.mask (.allowing (Mask.allowable m)) text],
        { h with mask := .allowing (Mask.allowable m) }⟩ := by
  cases spec with
  | null => exact (hnull rfl).elim
  | _ => rfl

lemma umaskReply : UmaskReply h spec o (h.umask spec o) := by
  by_cases hnull : spec = .null
  · subst hnull
    exact .read rfl
  · rw [umask_of_ne_null h o hnull]
    by_cases hturns : ∃ m, spec.Turns o h.mask.allowed m
    · obtain ⟨m, s, rfl, hne, hchange⟩ := hturns
      simp only [Call.guardedChange_of_change _ hchange]
      exact .done rfl hne hchange
    · obtain ⟨detail, hrefused⟩ := Call.guardedChange_of_not_turns ⟨"umask", none⟩ hturns
      simp only [hrefused]
      exact .refused hnull hturns

end Host

end FileSystem

end FileMode
