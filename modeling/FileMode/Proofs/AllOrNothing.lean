import FileMode.Proofs.Bits
import FileMode.Proofs.Replies

namespace FileMode.FileSystem

structure Installed (r : Perms) (e e' : Entry) : Prop where
  mode : e'.status.mode.toInt = Int.lor (Int.land e.status.mode.toInt (Int.lnot 0o7777)) r.toNat
  fileType : e'.status.mode.fileType? = e.status.mode.fileType?
  rest : { e' with status := { e'.status with mode := e.status.mode } } = e

lemma installed_setPerms (r : Perms) (e : Entry) : Installed r e (e.setPerms r) where
  mode := Bits.toInt_with_perms e.status.mode r
  fileType := rfl
  rest := rfl

lemma Installed.eq_setPerms {r : Perms} {e e' : Entry} (h : Installed r e e') :
    e' = e.setPerms r := by
  have hmode : e'.status.mode = { e.status.mode with perms := r } :=
    Mode.toInt_injective (h.mode.trans (Bits.toInt_with_perms e.status.mode r).symm)
  calc e' = { e' with status := { e'.status with mode := e'.status.mode } } := rfl
    _ = { e' with status := { e'.status with mode := { e.status.mode with perms := r } } } := by
      rw [hmode]
    _ = ({ e' with status := { e'.status with mode := e.status.mode } } : Entry).setPerms r := rfl
    _ = e.setPerms r := by rw [h.rest]

namespace Host

variable {h : Host} {path target : String} {spec : Argument} {o : Options} {es : List Entry}
  {e : Entry} {m : Mode}

lemma chmod_eq_ok_iff {r : Perms} : (h.chmod path spec o).result = .ok r ↔ ∃ es target e m,
    Reaches h.files Entry.statFault path es target e ∧ spec.Turns o e.status.mode m ∧
      (∀ f ∈ es, f.chmodFault = none) ∧ r = m.perms := by
  have hreply := h.chmodReply path spec o
  generalize h.chmod path spec o = reply at hreply
  refine ⟨?_, ?_⟩
  · intro hok
    cases hreply with
    | done hreaches hspec hne hchange hclear =>
      exact ⟨_, _, _, _, hreaches, ⟨_, hspec, hne, hchange⟩, hclear, (Except.ok.inj hok).symm⟩
    | _ => cases hok
  · rintro ⟨es, target, e, m, hreaches, hturns, hclear, rfl⟩
    cases hreply with
    | unread hwalk => cases hwalk.symm.trans hreaches.walk_eq
    | refused hreaches' hrefused =>
      obtain ⟨rfl, rfl, rfl⟩ := hreaches.unique hreaches'
      exact (hrefused ⟨m, hturns⟩).elim
    | unwritten _ _ hwalk => cases hwalk.symm.trans (hreaches.of_clear hclear).walk_eq
    | done hreaches' hspec _ hchange _ =>
      obtain ⟨rfl, rfl, rfl⟩ := hreaches.unique hreaches'
      obtain ⟨s, rfl, _, hchange'⟩ := hturns
      obtain rfl := Argument.text.inj hspec
      obtain rfl := Except.ok.inj (hchange.symm.trans hchange')
      rfl

lemma chmod_installs {r : Perms} (hok : (h.chmod path spec o).result = .ok r)
    (hreaches : Reaches h.files Entry.statFault path es target e) :
    (h.chmod path spec o).host.mask = h.mask ∧ ∃ e', Installed r e e' ∧ ∀ p,
      (h.chmod path spec o).host.files.find? p =
        if p = target then some e' else h.files.find? p := by
  have hreply := h.chmodReply path spec o
  generalize h.chmod path spec o = reply at hreply hok
  cases hreply with
  | done hreaches' hspec _ hchange _ =>
    obtain ⟨rfl, rfl, rfl⟩ := hreaches.unique hreaches'
    obtain rfl := Except.ok.inj hok
    refine ⟨rfl, _, installed_setPerms _ e, ?_⟩
    intro p
    rw [Table.find?_modify]
    split
    · next hp => rw [hp, hreaches.trail.find?_target, Option.map_some]
    · rfl
  | _ => cases hok

lemma chmod_fails {err : SystemError} (herr : (h.chmod path spec o).result = .error err) :
    (h.chmod path spec o).host = h ∧ err.call = ⟨"chmod", some path⟩ ∧
      (∀ f, h.files.walk Entry.statFault true path = .error f →
        err = .ofFault ⟨"chmod", some path⟩ f) ∧
      ∀ es target e, Reaches h.files Entry.statFault path es target e →
        ((¬ ∃ m, spec.Turns o e.status.mode m) → err.code = "EINVAL") ∧
        ((∃ m, spec.Turns o e.status.mode m) →
          ∃ f, h.files.walk Entry.chmodFault true path = .error f ∧
            err = .ofFault ⟨"chmod", some path⟩ f) := by
  have hreply := h.chmodReply path spec o
  generalize h.chmod path spec o = reply at hreply herr
  cases hreply with
  | unread hwalk =>
    obtain rfl := Except.error.inj herr
    refine ⟨rfl, rfl, ?_, ?_⟩
    · intro f hwalk'
      obtain rfl := Except.error.inj (hwalk.symm.trans hwalk')
      rfl
    · intro es target e hreaches
      cases hwalk.symm.trans hreaches.walk_eq
  | refused hreaches hrefused =>
    obtain rfl := Except.error.inj herr
    refine ⟨rfl, rfl, ?_, ?_⟩
    · intro f hwalk
      cases hwalk.symm.trans hreaches.walk_eq
    · intro es target e hreaches'
      obtain ⟨rfl, rfl, rfl⟩ := hreaches.unique hreaches'
      exact ⟨fun _ => rfl, fun hturns => (hrefused hturns).elim⟩
  | unwritten hreaches hturns hwalk =>
    obtain rfl := Except.error.inj herr
    refine ⟨rfl, rfl, ?_, ?_⟩
    · intro f hwalk'
      cases hwalk'.symm.trans hreaches.walk_eq
    · intro es target e hreaches'
      obtain ⟨rfl, rfl, rfl⟩ := hreaches.unique hreaches'
      exact ⟨fun hrefused => (hrefused ⟨_, hturns⟩).elim, fun _ => ⟨_, hwalk, rfl⟩⟩
  | done => cases herr

end Host

theorem chmod_all_or_nothing (h : Host) (path : String) (spec : Argument) (o : Options) :
    (∀ r, (h.chmod path spec o).result = .ok r ↔ ∃ es target e m,
      Reaches h.files Entry.statFault path es target e ∧ spec.Turns o e.status.mode m ∧
        (∀ f ∈ es, f.chmodFault = none) ∧ (r.toNat : ℤ) = Int.land m.toInt 0o7777) ∧
    (∀ r es target e, (h.chmod path spec o).result = .ok r →
      Reaches h.files Entry.statFault path es target e →
      (h.chmod path spec o).host.mask = h.mask ∧ ∃ e', Installed r e e' ∧ ∀ p,
        (h.chmod path spec o).host.files.find? p =
          if p = target then some e' else h.files.find? p) ∧
    ∀ err, (h.chmod path spec o).result = .error err →
      (h.chmod path spec o).host = h ∧ err.call = ⟨"chmod", some path⟩ ∧
        (∀ f, h.files.walk Entry.statFault true path = .error f →
          err = .ofFault ⟨"chmod", some path⟩ f) ∧
        ∀ es target e, Reaches h.files Entry.statFault path es target e →
          ((¬ ∃ m, spec.Turns o e.status.mode m) → err.code = "EINVAL") ∧
          ((∃ m, spec.Turns o e.status.mode m) →
            ∃ f, h.files.walk Entry.chmodFault true path = .error f ∧
              err = .ofFault ⟨"chmod", some path⟩ f) := by
  refine ⟨?_, fun _ _ _ _ => Host.chmod_installs, fun _ => Host.chmod_fails⟩
  intro r
  have hbits : ∀ m : Mode, (r.toNat : ℤ) = Int.land m.toInt 0o7777 ↔ r = m.perms := by
    intro m
    rw [← Bits.toNat_perms, Nat.cast_inj, BitVec.toNat_inj]
  simp only [Host.chmod_eq_ok_iff, hbits]

def linkEntry : Entry :=
  ⟨⟨1, .ofInt 0o120777, 1, 0, 0, 0, .ofSeconds 0, .ofSeconds 0, .ofSeconds 0⟩,
    some "home", none, none⟩

def homeEntry : Entry :=
  ⟨⟨2, .ofInt 0o042755, 2, 7, 7, 0, .ofSeconds 5, .ofSeconds 5, .ofSeconds 5⟩, none, none, none⟩

def sealedEntry : Entry :=
  ⟨⟨3, .ofInt 0o100644, 1, 0, 0, 0, .ofSeconds 0, .ofSeconds 0, .ofSeconds 0⟩,
    none, none, some ⟨some 30, none⟩⟩

def linkedHost : Host where
  files := .ofList [("link", linkEntry), ("home", homeEntry), ("sealed", sealedEntry)]
  mask := 0o022

theorem chmod_all_or_nothing_linked :
    (Reaches linkedHost.files Entry.statFault "link" [linkEntry, homeEntry] "home" homeEntry ∧
      (linkedHost.chmod "link" (.text "0100711") {}).result = .ok 0o711 ∧
      ∃ e', Installed 0o711 homeEntry e' ∧ ∀ p,
        (linkedHost.chmod "link" (.text "0100711") {}).host.files.find? p =
          if p = "home" then some e' else linkedHost.files.find? p) ∧
    (linkedHost.files.walk Entry.statFault true "away" = .error Table.absent ∧
      ∃ err, (linkedHost.chmod "away" (.text "") {}).result = .error err ∧
        err = .ofFault ⟨"chmod", some "away"⟩ Table.absent) ∧
    ((¬ ∃ m, (Argument.text "u*x").Turns {} homeEntry.status.mode m) ∧
      ∃ err, (linkedHost.chmod "link" (.text "u*x") {}).result = .error err ∧
        err.code = "EINVAL") ∧
    (Reaches linkedHost.files Entry.statFault "sealed" [sealedEntry] "sealed" sealedEntry ∧
      (∃ m, (Argument.text "u+x").Turns {} sealedEntry.status.mode m) ∧
      ∃ err, (linkedHost.chmod "sealed" (.text "u+x") {}).result = .error err ∧
        (linkedHost.chmod "sealed" (.text "u+x") {}).host = linkedHost ∧
        ∃ f, linkedHost.files.walk Entry.chmodFault true "sealed" = .error f ∧
          err = .ofFault ⟨"chmod", some "sealed"⟩ f) := by
  have hlink : Reaches linkedHost.files Entry.statFault "link" [linkEntry, homeEntry] "home"
      homeEntry :=
    ⟨.link (by decide) rfl (.arrival (by decide) rfl), by decide, by decide⟩
  have hsealed : Reaches linkedHost.files Entry.statFault "sealed" [sealedEntry] "sealed"
      sealedEntry :=
    ⟨.arrival (by decide) rfl, by decide, by decide⟩
  have hturns : ∃ m, (Argument.text "u+x").Turns {} sealedEntry.status.mode m :=
    ⟨.ofInt 0o100744, "u+x", rfl, by decide, by decide⟩
  have hrefused : ¬ ∃ m, (Argument.text "u*x").Turns {} homeEntry.status.mode m := by
    rintro ⟨m, s, hs, _, hm⟩
    obtain rfl := Argument.text.inj hs
    cases hm
  refine ⟨⟨hlink, ?_⟩, ⟨by decide, ?_⟩, ⟨hrefused, ?_⟩, ⟨hsealed, hturns, ?_⟩⟩
  · obtain ⟨hiff, hinstalls, -⟩ := chmod_all_or_nothing linkedHost "link" (.text "0100711") {}
    have hok := (hiff 0o711).mpr ⟨_, _, _, .ofInt 0o100711, hlink,
      ⟨"0100711", rfl, by decide, by decide⟩, by decide, by decide⟩
    exact ⟨hok, (hinstalls _ _ _ _ hok hlink).2⟩
  · obtain ⟨-, -, hfails⟩ := chmod_all_or_nothing linkedHost "away" (.text "") {}
    have herr : (linkedHost.chmod "away" (.text "") {}).result =
        .error (.ofFault ⟨"chmod", some "away"⟩ Table.absent) := by decide
    exact ⟨_, herr, (hfails _ herr).2.2.1 _ (by decide)⟩
  · obtain ⟨-, -, hfails⟩ := chmod_all_or_nothing linkedHost "link" (.text "u*x") {}
    have herr : (linkedHost.chmod "link" (.text "u*x") {}).result =
        .error (.invalid ⟨"chmod", some "link"⟩ "bad operator: 'u*x'") := by decide
    exact ⟨_, herr, ((hfails _ herr).2.2.2 _ _ _ hlink).1 hrefused⟩
  · obtain ⟨-, -, hfails⟩ := chmod_all_or_nothing linkedHost "sealed" (.text "u+x") {}
    have herr : (linkedHost.chmod "sealed" (.text "u+x") {}).result =
        .error ⟨"EROFS", ⟨"chmod", some "sealed"⟩, none⟩ := by decide
    obtain ⟨hsame, -, -, hcauses⟩ := hfails _ herr
    exact ⟨_, herr, hsame, (hcauses _ _ _ hsealed).2 hturns⟩

end FileMode.FileSystem
