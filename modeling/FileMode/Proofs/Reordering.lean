import FileMode.FileSystem.Session
import FileMode.Proofs.AllOrNothing
import FileMode.Proofs.PermissionWrites

namespace FileMode.FileSystem

structure Reply.Agrees {α : Type} (r r' : Reply α) : Prop where
  result : r.result = r'.result
  log : r.log = r'.log

structure Commute (h : Host) (a b : Step) : Prop where
  left : ((h.step b).host.step a).Agrees (h.step a)
  right : ((h.step a).host.step b).Agrees (h.step b)
  host : ((h.step a).host.step b).host = ((h.step b).host.step a).host

/-- The step is answered as if nothing had been written, and the write outlasts it. -/
def Passes (h : Host) (s : Step) (w : Host → Host) : Prop :=
  (w h).step s = ⟨(h.step s).result, (h.step s).log, w (h.step s).host⟩

lemma Commute.of_passes {h : Host} {a b : Step} {f g : Host → Host} (hf : (h.step a).host = f h)
    (hg : (h.step b).host = g h) (ha : Passes h a g) (hb : Passes h b f)
    (hfg : f (g h) = g (f h)) : Commute h a b where
  left := by
    rw [hg, ha]
    exact ⟨rfl, rfl⟩
  right := by
    rw [hf, hb]
    exact ⟨rfl, rfl⟩
  host := by
    calc ((h.step a).host.step b).host = f (g h) := by rw [hf, hb, hg]
      _ = g (f h) := hfg
      _ = ((h.step b).host.step a).host := by rw [hg, ha, hf]

namespace Step

def OnFile : Step → Prop
  | .stat _ | .chmod _ _ _ => True
  | _ => False

def OnMask : Step → Prop
  | .umask _ _ | .setMask _ => True
  | _ => False

variable (h : Host) {s : Step}

lemma OnFile.passes (hs : s.OnFile) (mask : Mask) :
    Passes h s fun g => { g with mask := mask } := by
  cases s with
  | stat path =>
    simp only [Passes, Host.step, Reply.map, Host.stat]
    cases h.files.walk Entry.statFault false path <;> rfl
  | chmod path spec o =>
    simp only [Passes, Host.step, Reply.map, Host.chmod]
    cases h.files.walk Entry.statFault true path with
    | error f => rfl
    | ok arrival =>
      dsimp only
      cases Call.guardedChange ⟨"chmod", some path⟩ o spec arrival.2.status.mode with
      | error refused => rfl
      | ok changed =>
        cases h.files.walk Entry.chmodFault true path <;> rfl
  | _ => cases hs

lemma OnMask.passes (hs : s.OnMask) (files : Table) :
    Passes h s fun g => { g with files := files } := by
  cases s with
  | umask spec o =>
    cases spec with
    | null => rfl
    | _ =>
      simp only [Passes, Host.step, Reply.map, Host.umask, Host.swapMask]
      split <;> rfl
  | setMask mask => rfl
  | _ => cases hs

end Step

variable (h : Host)

lemma commute_chmod {p q : String} {spec spec' : Argument} {o o' : Options}
    (hapart : ∀ target, ¬ (Arrives h.files p target ∧ Arrives h.files q target)) :
    Commute h (.chmod p spec o) (.chmod q spec' o') := by
  obtain ⟨w, hw, hhost⟩ := h.exists_write p spec o
  obtain ⟨w', hw', hhost'⟩ := h.exists_write q spec' o'
  refine .of_passes (f := (·.write w)) (g := (·.write w')) hhost hhost' ?_ ?_ ?_
  · have hreply := h.chmod_write p spec o fun x hx hp => hapart x.1 ⟨hp, hw' x hx⟩
    exact congrArg (Reply.map Outcome.perms) hreply
  · have hreply := h.chmod_write q spec' o' fun x hx hq => hapart x.1 ⟨hw x hx, hq⟩
    exact congrArg (Reply.map Outcome.perms) hreply
  · apply h.write_comm
    intro x hx y hy heq
    exact hapart y.1 ⟨hw y hy, heq ▸ hw' x hx⟩

lemma commute_of_onFile_onMask {a b : Step} (ha : a.OnFile) (hb : b.OnMask) : Commute h a b := by
  -- writing what is there already shows that neither step writes the other's part
  have hmask : (h.step a).host.mask = h.mask := congrArg (·.host.mask) (ha.passes h h.mask)
  have hfiles : (h.step b).host.files = h.files := congrArg (·.host.files) (hb.passes h h.files)
  have hhost : (h.step a).host = { h with files := (h.step a).host.files } := by
    rw [← hmask]
  have hhost' : (h.step b).host = { h with mask := (h.step b).host.mask } := by
    rw [← hfiles]
  exact .of_passes hhost hhost' (ha.passes h _) (hb.passes h _) rfl

theorem independent_steps_commute (h : Host) :
    (∀ (p q : String) (spec spec' : Argument) (o o' : Options),
      (∀ target, ¬ (Arrives h.files p target ∧ Arrives h.files q target)) →
      Commute h (.chmod p spec o) (.chmod q spec' o')) ∧
    ∀ a b : Step, a.OnFile → b.OnMask → Commute h a b :=
  ⟨fun _ _ _ _ _ _ => commute_chmod h, fun _ _ => commute_of_onFile_onMask h⟩

def widenedHost : Host := (linkedHost.step (.put "away" homeEntry)).host

theorem independent_steps_commute_linked :
    (∀ target, ¬ (Arrives widenedHost.files "link" target ∧
      Arrives widenedHost.files "away" target)) ∧
    Commute widenedHost (.chmod "link" (.text "u-w") {}) (.chmod "away" (.text "0100711") {}) ∧
    (Step.chmod "link" (.text "u-w") {}).OnFile ∧ (Step.umask (.text "g+w") {}).OnMask ∧
      Commute widenedHost (.chmod "link" (.text "u-w") {}) (.umask (.text "g+w") {}) ∧
    ¬ Commute widenedHost (.chmod "link" (.text "u-w") {}) (.chmod "home" (.text "u+w") {}) := by
  obtain ⟨hchmod, hmask⟩ := independent_steps_commute widenedHost
  have hlink : widenedHost.files.walk Entry.statFault true "link" = .ok ("home", homeEntry) := by
    decide
  have haway : widenedHost.files.walk Entry.statFault true "away" = .ok ("away", homeEntry) := by
    decide
  have hapart : ∀ target, ¬ (Arrives widenedHost.files "link" target ∧
      Arrives widenedHost.files "away" target) := by
    rintro target ⟨⟨⟨e, hlink'⟩, -⟩, ⟨⟨e', haway'⟩, -⟩⟩
    obtain ⟨rfl, -⟩ := Prod.mk.inj (Except.ok.inj (hlink.symm.trans hlink'))
    exact absurd (Prod.mk.inj (Except.ok.inj (haway.symm.trans haway'))).1 (by decide)
  refine ⟨hapart, hchmod _ _ _ _ _ _ hapart, trivial, trivial, hmask _ _ trivial trivial, ?_⟩
  -- the link leads to the same directory, where the last of the two decides
  intro hcommute
  have hhome := congrArg (fun g : Host => g.files.find? "home") hcommute.host
  revert hhome
  decide

end FileMode.FileSystem
