import FileMode.Proofs.AllOrNothing
import FileMode.Proofs.Idempotence
import FileMode.Proofs.PermissionWrites

namespace FileMode

namespace Mode

/-- Only an octal form moves the bits above the permissions, and it looks at no bit at all. -/
lemma perms_apply_with_perms (spec : Spec) (m : Mode) :
    (spec.apply { m with perms := (spec.apply m).perms }).perms = (spec.apply m).perms := by
  cases spec with
  | octal n => rfl
  | positional marks => exact congrArg perms (Spec.apply_apply (.positional marks) m)
  | symbolic clauses => exact congrArg perms (Spec.apply_apply (.symbolic clauses) m)

lemma change_with_perms {o : Options} {s : String} {m m' : Mode} (h : m.change o s = .ok m') :
    ∃ m'', ({ m with perms := m'.perms } : Mode).change o s = .ok m'' ∧ m''.perms = m'.perms := by
  obtain ⟨spec, hparse⟩ := exists_parse_of_change h
  rw [change, hparse] at h
  obtain rfl : spec.apply m = m' := Except.ok.inj h
  refine ⟨spec.apply { m with perms := (spec.apply m).perms }, ?_, perms_apply_with_perms spec m⟩
  rw [change, hparse]
  rfl

lemma ofInt_toNat_perms (p : Perms) : ofInt p.toNat = ofPerms p := by
  have hnumber : (ofPerms p).toInt = p.toNat := by simp [ofPerms, toInt]
  rw [← hnumber, ofInt_toInt]

end Mode

namespace FileSystem

structure ReadsBack (r : Perms) (st st' : Status ℤ) : Prop where
  permissions : st'.permissions = (Mode.ofInt r.toNat).render
  typeName : st'.typeName = st.typeName
  isFile : st'.isFile = st.isFile
  isDirectory : st'.isDirectory = st.isDirectory
  isSymbolicLink : st'.isSymbolicLink = st.isSymbolicLink
  rest : { st' with mode := st.mode } = st

lemma readsBack_setPerms (r : Perms) (e : Entry) :
    ReadsBack r e.status.inSeconds (e.setPerms r).status.inSeconds where
  permissions := by
    rw [Mode.ofInt_toNat_perms]
    rfl
  typeName := rfl
  isFile := rfl
  isDirectory := rfl
  isSymbolicLink := rfl
  rest := rfl

namespace Host

variable {h : Host} {path target : String} {spec : Argument} {o : Options} {r : Perms}
  {es : List Entry} {e : Entry}

lemma stat_of_find? (hfind : h.files.find? path = some e) (hfault : e.statFault = none) :
    h.stat path = ⟨.ok e.status.inSeconds, [], h⟩ := by
  have hwalk : h.files.walk Entry.statFault false path = .ok (path, e) := by
    rw [Table.walk, Table.maxVisits, Table.walkFrom, hfind]
    simp only [hfault]
    cases e.link <;> rfl
  rw [stat, hwalk]

lemma chmod_find?_target (hok : (h.chmod path spec o).result = .ok r)
    (hreaches : Reaches h.files Entry.statFault path es target e) :
    (h.chmod path spec o).host.files.find? target = some (e.setPerms r) := by
  obtain ⟨-, e', hinstalled, hfind⟩ := chmod_installs hok hreaches
  rw [hfind, if_pos rfl, hinstalled.eq_setPerms]

lemma chmod_find?_of_ne (hok : (h.chmod path spec o).result = .ok r)
    (hreaches : Reaches h.files Entry.statFault path es target e) {p : String} (hne : p ≠ target) :
    (h.chmod path spec o).host.files.find? p = h.files.find? p := by
  obtain ⟨-, e', -, hfind⟩ := chmod_installs hok hreaches
  rw [hfind, if_neg hne]

lemma chmod_stat_target (hok : (h.chmod path spec o).result = .ok r)
    (hreaches : Reaches h.files Entry.statFault path es target e) :
    ∃ st st', (h.stat target).result = .ok st ∧
      ((h.chmod path spec o).host.stat target).result = .ok st' ∧ ReadsBack r st st' := by
  have hfault := hreaches.clear e hreaches.trail.last_mem
  refine ⟨_, _, ?_, ?_, readsBack_setPerms r e⟩
  · rw [stat_of_find? hreaches.trail.find?_target hfault]
  · rw [stat_of_find? (chmod_find?_target hok hreaches) hfault]

lemma chmod_stat_link (hok : (h.chmod path spec o).result = .ok r)
    (hreaches : Reaches h.files Entry.statFault path es target e) {link : Entry} {next : String}
    (hfind : h.files.find? path = some link) (hlink : link.link = some next) :
    ∃ st, (h.stat path).result = .ok st ∧
      ((h.chmod path spec o).host.stat path).result = .ok st := by
  have hfault := hreaches.clear link (hreaches.trail.first_mem hfind)
  have hne : path ≠ target := by
    rintro rfl
    obtain rfl := Option.some.inj (hfind.symm.trans hreaches.trail.find?_target)
    cases hlink.symm.trans hreaches.trail.link_last
  refine ⟨link.status.inSeconds, ?_, ?_⟩
  · rw [stat_of_find? hfind hfault]
  · rw [stat_of_find? ((chmod_find?_of_ne hok hreaches hne).trans hfind) hfault]

end Host

lemma ChmodReply.again {h : Host} {path : String} {spec : Argument} {o : Options} {r : Perms}
    {reply : Reply Perms} (hreply : ChmodReply h path spec o reply) (hok : reply.result = .ok r) :
    (reply.host.chmod path spec o).result = .ok r ∧
      (reply.host.chmod path spec o).host = reply.host := by
  cases hreply with
  | @done es target s e m hreaches hspec hne hchange hclear =>
    obtain rfl := Except.ok.inj hok
    subst hspec
    have hstat := h.files.walk_modify_eq_ok target (r := m.perms) (fun _ => rfl) hreaches.walk_eq
    rw [Entry.written_self] at hstat
    obtain ⟨m', hagain, hperms⟩ := Mode.change_with_perms hchange
    have hrepeat := Host.chmod_of_arrives (h := h.write (some (target, m.perms))) hstat
      (Call.guardedChange_of_change _ hagain)
      ((hreaches.arrives hclear).modify target m.perms)
    rw [hperms, Host.write_write] at hrepeat
    change ((h.write (some (target, m.perms))).chmod path (.text s) o).result = _ ∧
      ((h.write (some (target, m.perms))).chmod path (.text s) o).host =
        h.write (some (target, m.perms))
    rw [hrepeat]
    exact ⟨rfl, rfl⟩
  | _ => cases hok

theorem chmod_reads_back (h : Host) (path : String) (spec : Argument) (o : Options) (r : Perms)
    (hok : (h.chmod path spec o).result = .ok r) :
    ∃ es target e, Reaches h.files Entry.statFault path es target e ∧
      (∃ st st', (h.stat target).result = .ok st ∧
        ((h.chmod path spec o).host.stat target).result = .ok st' ∧ ReadsBack r st st') ∧
      (∀ link next, h.files.find? path = some link → link.link = some next →
        ∃ st, (h.stat path).result = .ok st ∧
          ((h.chmod path spec o).host.stat path).result = .ok st) ∧
      ((h.chmod path spec o).host.chmod path spec o).result = .ok r ∧
      ((h.chmod path spec o).host.chmod path spec o).host = (h.chmod path spec o).host := by
  obtain ⟨es, target, e, m, hreaches, -, -, -⟩ := Host.chmod_eq_ok_iff.mp hok
  exact ⟨es, target, e, hreaches, Host.chmod_stat_target hok hreaches,
    fun _ _ => Host.chmod_stat_link hok hreaches, (h.chmodReply path spec o).again hok⟩

theorem chmod_reads_back_linked :
    (linkedHost.chmod "link" (.text "0100711") {}).result = .ok 0o711 ∧
      ∃ es target e, Reaches linkedHost.files Entry.statFault "link" es target e ∧
        (∃ st st', (linkedHost.stat target).result = .ok st ∧
          ((linkedHost.chmod "link" (.text "0100711") {}).host.stat target).result = .ok st' ∧
            ReadsBack 0o711 st st') ∧
        ∃ st, (linkedHost.stat "link").result = .ok st ∧
          ((linkedHost.chmod "link" (.text "0100711") {}).host.stat "link").result = .ok st := by
  have hok : (linkedHost.chmod "link" (.text "0100711") {}).result = .ok 0o711 := by decide
  obtain ⟨es, target, e, hreaches, hread, hlink, -⟩ :=
    chmod_reads_back linkedHost "link" (.text "0100711") {} 0o711 hok
  exact ⟨hok, es, target, e, hreaches, hread, hlink linkEntry "home" (by decide) rfl⟩

end FileSystem

end FileMode
