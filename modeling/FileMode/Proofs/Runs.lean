import FileMode.FileSystem.Session
import FileMode.Proofs.AllOrNothing

namespace FileMode.FileSystem

structure Kept (e e' : Entry) : Prop where
  high : e'.status.mode.toInt >>> (12 : ℕ) = e.status.mode.toInt >>> (12 : ℕ)
  typeName : e'.status.typeName = e.status.typeName
  isFile : e'.status.isFile = e.status.isFile
  isDirectory : e'.status.isDirectory = e.status.isDirectory
  isSymbolicLink : e'.status.isSymbolicLink = e.status.isSymbolicLink
  rest : { e' with status := { e'.status with mode := e.status.mode } } = e

namespace Kept

lemma refl (e : Entry) : Kept e e := ⟨rfl, rfl, rfl, rfl, rfl, rfl⟩

lemma trans {e e' e'' : Entry} (h : Kept e e') (h' : Kept e' e'') : Kept e e'' where
  high := h'.high.trans h.high
  typeName := h'.typeName.trans h.typeName
  isFile := h'.isFile.trans h.isFile
  isDirectory := h'.isDirectory.trans h.isDirectory
  isSymbolicLink := h'.isSymbolicLink.trans h.isSymbolicLink
  rest := by
    rw [← h.rest, ← h'.rest]

lemma setPerms (p : Perms) (e : Entry) : Kept e (e.setPerms p) where
  high := by
    rw [Bits.toInt_shiftRight, Bits.toInt_shiftRight]
    rfl
  typeName := rfl
  isFile := rfl
  isDirectory := rfl
  isSymbolicLink := rfl
  rest := rfl

lemma rel_refl (e? : Option Entry) : Option.Rel Kept e? e? := by
  cases e? with
  | none => exact .none
  | some e => exact .some (refl e)

lemma rel_trans {e? e?' e?'' : Option Entry} (h : Option.Rel Kept e? e?')
    (h' : Option.Rel Kept e?' e?'') : Option.Rel Kept e? e?'' := by
  cases h with
  | none => exact h'
  | some h =>
    cases h' with
    | some h' => exact .some (h.trans h')

lemma rel_map_setPerms (p : Perms) (e? : Option Entry) :
    Option.Rel Kept e? (e?.map (Entry.setPerms p)) := by
  cases e? with
  | none => exact .none
  | some e => exact .some (setPerms p e)

end Kept

def Step.Replaces (p : String) : Step → Prop
  | .put q _ => q = p
  | .remove q => q = p
  | _ => False

namespace Host

/-- All that a step can make of the host. -/
inductive Moves (h : Host) (s : Step) : Host → Prop
  | stays : Moves h s h
  | chmod {path target : String} {spec : Argument} {o : Options} {r : Perms} :
      s = .chmod path spec o → (h.step s).result = .ok (.perms r) →
      Moves h s { h with files := h.files.modify target (Entry.setPerms r) }
  | umask {spec : Argument} {o : Options} {m : Mode} {text : String} : s = .umask spec o →
      spec.Turns o h.mask.allowed m → (h.step s).result = .ok (.allowed text) →
      Moves h s { h with mask := .allowing (Mask.allowable m) }
  | setMask {mask : Mask} : s = .setMask mask → Moves h s { h with mask := mask }
  | put {path : String} {e : Entry} : s = .put path e →
      Moves h s { h with files := h.files.put path e }
  | remove {path : String} : s = .remove path →
      Moves h s { h with files := h.files.remove path }

variable (h : Host)

lemma stat_host (path : String) : (h.stat path).host = h := by
  rw [stat]
  split <;> rfl

lemma moves (s : Step) : Moves h s (h.step s).host := by
  cases s with
  | stat path =>
    rw [step, Reply.map, stat_host]
    exact .stays
  | chmod path spec o =>
    have hends := h.chmodReply path spec o
    have hstep : h.step (.chmod path spec o) = (h.chmod path spec o).map .perms := rfl
    generalize h.chmod path spec o = reply at hends hstep
    rw [hstep]
    cases hends with
    | done => exact .chmod rfl (by rw [hstep]; rfl)
    | _ => exact .stays
  | umask spec o =>
    have hends := h.umaskReply spec o
    have hstep : h.step (.umask spec o) = (h.umask spec o).map .allowed := rfl
    generalize h.umask spec o = reply at hends hstep
    rw [hstep]
    cases hends with
    | done hspec hne hchange =>
      exact .umask rfl ⟨_, hspec, hne, hchange⟩ (by rw [hstep]; rfl)
    | _ => exact .stays
  | setMask mask => exact .setMask rfl
  | put path e => exact .put rfl
  | remove path => exact .remove rfl

lemma find?_step (s : Step) {p : String} (hs : ¬ s.Replaces p) :
    Option.Rel Kept (h.files.find? p) ((h.step s).host.files.find? p) := by
  have hmoves := h.moves s
  generalize (h.step s).host = g at hmoves
  cases hmoves with
  | chmod =>
    rw [Table.find?_modify]
    split
    · exact Kept.rel_map_setPerms _ _
    · exact Kept.rel_refl _
  | put hput =>
    subst hput
    rw [Table.find?_put, if_neg (Ne.symm hs)]
    exact Kept.rel_refl _
  | remove hremove =>
    subst hremove
    rw [Table.find?_remove, if_neg (Ne.symm hs)]
    exact Kept.rel_refl _
  | _ => exact Kept.rel_refl _

lemma mode_step (s : Step) {p : String} {e e' : Entry} (he : h.files.find? p = some e)
    (he' : (h.step s).host.files.find? p = some e') (hmode : e'.status.mode ≠ e.status.mode) :
    (∃ path spec o r, s = .chmod path spec o ∧ (h.step s).result = .ok (.perms r)) ∨
      ∃ e'', s = .put p e'' := by
  have hmoves := h.moves s
  generalize (h.step s).host = g at hmoves he'
  have hdiffers : g.files.find? p ≠ h.files.find? p := by
    intro hsame
    obtain rfl := Option.some.inj ((he'.symm.trans hsame).trans he)
    exact hmode rfl
  cases hmoves with
  | chmod hs hok => exact Or.inl ⟨_, _, _, _, hs, hok⟩
  | @put path e'' hput =>
    by_cases hp : p = path
    · exact Or.inr ⟨e'', hp ▸ hput⟩
    · exact (hdiffers ((Table.find?_put _ _ _ _).trans (if_neg hp))).elim
  | @remove path =>
    rw [Table.find?_remove] at he'
    split at he'
    · cases he'
    · next hp => exact (hdiffers ((Table.find?_remove _ _ _).trans (if_neg hp))).elim
  | _ => exact (hdiffers rfl).elim

lemma mask_step (s : Step) (hmask : (h.step s).host.mask ≠ h.mask) :
    (∃ mask, s = .setMask mask) ∨
      ∃ spec o m, s = .umask spec o ∧ spec.Turns o h.mask.allowed m := by
  have hmoves := h.moves s
  generalize (h.step s).host = g at hmoves hmask
  cases hmoves with
  | umask hs hturns _ => exact Or.inr ⟨_, _, _, hs, hturns⟩
  | setMask hs => exact Or.inl ⟨_, hs⟩
  | _ => exact (hmask rfl).elim

lemma step_of_error (s : Step) {err : SystemError} (herr : (h.step s).result = .error err) :
    (h.step s).host = h := by
  have hmoves := h.moves s
  generalize (h.step s).host = g at hmoves
  cases hmoves with
  | stays => rfl
  | chmod _ hok => cases herr.symm.trans hok
  | umask _ _ hok => cases herr.symm.trans hok
  | setMask hs | put hs | remove hs =>
    subst hs
    cases herr

def after (h : Host) (steps : List Step) : Host := steps.foldl (fun g s => (g.step s).host) h

def states (h : Host) (steps : List Step) : List Host := h :: (h.run steps).map Reply.host

lemma after_append (before steps : List Step) :
    h.after (before ++ steps) = (h.after before).after steps :=
  List.foldl_append

lemma getElem?_run (steps : List Step) (i : ℕ) :
    (h.run steps)[i]? = steps[i]?.map (h.after (steps.take i)).step := by
  induction steps generalizing h i with
  | nil => rfl
  | cons s steps ih =>
    cases i with
    | zero => rfl
    | succ i => exact ih (h.step s).host i

lemma eq_after_of_getElem?_states {steps : List Step} {i : ℕ} {g : Host}
    (hg : (h.states steps)[i]? = some g) : g = h.after (steps.take i) := by
  cases i with
  | zero => exact (Option.some.inj hg).symm
  | succ i =>
    rw [states, List.getElem?_cons_succ, List.getElem?_map, getElem?_run] at hg
    obtain ⟨reply, hreply, rfl⟩ := Option.map_eq_some_iff.mp hg
    obtain ⟨s, hs, rfl⟩ := Option.map_eq_some_iff.mp hreply
    rw [List.take_add_one, hs, Option.toList_some, after_append]
    rfl

lemma length_run (steps : List Step) : (h.run steps).length = steps.length := by
  induction steps generalizing h with
  | nil => rfl
  | cons s steps ih => rw [run, List.length_cons, List.length_cons, ih]

lemma getElem?_states {steps : List Step} {i : ℕ} (hi : i ≤ steps.length) :
    (h.states steps)[i]? = some (h.after (steps.take i)) := by
  have hlength : i < (h.states steps).length := by
    rw [states, List.length_cons, List.length_map, length_run]
    omega
  obtain ⟨g, hg⟩ : ∃ g, (h.states steps)[i]? = some g := ⟨_, List.getElem?_eq_getElem hlength⟩
  rw [hg, h.eq_after_of_getElem?_states hg]

lemma find?_after {steps : List Step} {p : String} (hsteps : ∀ s ∈ steps, ¬ s.Replaces p) :
    Option.Rel Kept (h.files.find? p) ((h.after steps).files.find? p) := by
  induction steps generalizing h with
  | nil => exact Kept.rel_refl _
  | cons s steps ih =>
    obtain ⟨hs, hsteps⟩ := List.forall_mem_cons.mp hsteps
    exact Kept.rel_trans (h.find?_step s hs) (ih (h.step s).host hsteps)

end Host

theorem run_frame (h : Host) (steps : List Step) :
    (∀ g ∈ h.states steps, g.mask.toNat ≤ 0o777) ∧
    (∀ (i j : ℕ) (g g' : Host) (p : String), i ≤ j → (h.states steps)[i]? = some g →
      (h.states steps)[j]? = some g' → (∀ s ∈ (steps.take j).drop i, ¬ s.Replaces p) →
      Option.Rel Kept (g.files.find? p) (g'.files.find? p)) ∧
    ∀ (i : ℕ) (g : Host) (s : Step) (reply : Reply Outcome), (h.states steps)[i]? = some g →
      steps[i]? = some s → (h.run steps)[i]? = some reply →
      (∀ p e e', g.files.find? p = some e → reply.host.files.find? p = some e' →
        e'.status.mode ≠ e.status.mode →
        (∃ path spec o r, s = .chmod path spec o ∧ reply.result = .ok (.perms r)) ∨
          ∃ e'', s = .put p e'') ∧
      (reply.host.mask ≠ g.mask →
        (∃ mask, s = .setMask mask) ∨
          ∃ spec o m, s = .umask spec o ∧ spec.Turns o g.mask.allowed m) ∧
      ((∃ path, s = .stat path) ∨ (∃ o, s = .umask .null o) ∨
        (∃ err, reply.result = .error err) → reply.host = g) := by
  refine ⟨?_, ?_, ?_⟩
  · intro g _
    have hlt := g.mask.isLt
    omega
  · intro i j g g' p hij hg hg' hsteps
    obtain rfl := h.eq_after_of_getElem?_states hg
    obtain rfl := h.eq_after_of_getElem?_states hg'
    have hsplit : steps.take j = steps.take i ++ (steps.take j).drop i := by
      conv_lhs => rw [← List.take_append_drop i (steps.take j), List.take_take, Nat.min_eq_left hij]
    rw [hsplit, Host.after_append]
    exact Host.find?_after _ hsteps
  · intro i g s reply hg hs hreply
    obtain rfl := h.eq_after_of_getElem?_states hg
    rw [h.getElem?_run, hs, Option.map_some] at hreply
    obtain rfl := Option.some.inj hreply
    refine ⟨fun p e e' => Host.mode_step _ s, Host.mask_step _ s, ?_⟩
    rintro (⟨path, rfl⟩ | ⟨o, rfl⟩ | ⟨err, herr⟩)
    · exact Host.stat_host _ path
    · rfl
    · exact Host.step_of_error _ s herr

def busySteps : List Step :=
  [.chmod "link" (.text "0100711") {}, .umask (.text "0007027") {}, .chmod "home" (.text "u*x") {},
    .put "sealed" homeEntry]

theorem run_frame_busy :
    (∃ g' : Host, (linkedHost.states busySteps)[4]? = some g' ∧
      (∀ s ∈ (busySteps.take 4).drop 0, ¬ s.Replaces "home") ∧
      Option.Rel Kept (linkedHost.files.find? "home") (g'.files.find? "home")) ∧
    (∃ (s : Step) (reply : Reply Outcome), busySteps[0]? = some s ∧
      (linkedHost.run busySteps)[0]? = some reply ∧
      reply.host.files.find? "home" = some (homeEntry.setPerms 0o711) ∧
      ((∃ path spec o r, s = .chmod path spec o ∧ reply.result = .ok (.perms r)) ∨
        ∃ e'', s = .put "home" e'')) ∧
    (∃ (g : Host) (s : Step) (reply : Reply Outcome),
      (linkedHost.states busySteps)[1]? = some g ∧ busySteps[1]? = some s ∧
      (linkedHost.run busySteps)[1]? = some reply ∧ reply.host.mask ≠ g.mask ∧
      ((∃ mask, s = .setMask mask) ∨
        ∃ spec o m, s = .umask spec o ∧ spec.Turns o g.mask.allowed m)) ∧
    ∃ (g : Host) (reply : Reply Outcome) (err : SystemError),
      (linkedHost.states busySteps)[2]? = some g ∧
      (linkedHost.run busySteps)[2]? = some reply ∧ reply.result = .error err ∧ reply.host = g := by
  obtain ⟨-, hkept, hsteps⟩ := run_frame linkedHost busySteps
  have hclear : ∀ s ∈ (busySteps.take 4).drop 0, ¬ s.Replaces "home" := by
    simp [busySteps, Step.Replaces]
  refine ⟨⟨_, rfl, hclear, hkept 0 4 _ _ "home" (by decide) rfl rfl hclear⟩, ?_, ?_, ?_⟩
  · have hfind : ((linkedHost.step (.chmod "link" (.text "0100711") {})).host.files.find? "home") =
        some (homeEntry.setPerms 0o711) := by decide
    exact ⟨_, _, rfl, rfl, hfind,
      (hsteps 0 _ _ _ rfl rfl rfl).1 "home" homeEntry _ (by decide) hfind (by decide)⟩
  · exact ⟨_, _, _, rfl, rfl, rfl, by decide, (hsteps 1 _ _ _ rfl rfl rfl).2.1 (by decide)⟩
  · obtain ⟨err, herr⟩ : ∃ err, ((linkedHost.after (busySteps.take 2)).step
        (.chmod "home" (.text "u*x") {})).result = .error err := ⟨_, rfl⟩
    exact ⟨_, _, err, rfl, rfl, herr,
      (hsteps 2 _ _ _ rfl rfl rfl).2.2 (Or.inr (Or.inr ⟨err, herr⟩))⟩

end FileMode.FileSystem
