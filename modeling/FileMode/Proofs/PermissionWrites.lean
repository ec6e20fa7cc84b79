import FileMode.Proofs.Replies

/-! Permission bits written to one entry. Walks arrive where they did, and find the new bits only at
that entry; whether a change is refused, and why, depends on the bits of no entry at all. -/

namespace FileMode

lemma Call.guardedChange_uniform (call : Call) (o : Options) (spec : Argument) :
    (∃ refused, ∀ m, call.guardedChange o spec m = .error refused) ∨
      ∃ s parsed, ∀ m, call.guardedChange o spec m = .ok (s, Spec.apply parsed m) := by
  cases spec with
  | text s =>
    by_cases hne : s = ""
    · subst hne
      exact Or.inl ⟨_, fun _ => rfl⟩
    · simp only [guardedChange_text call hne, change, Mode.change]
      cases Spec.parse o s with
      | error cause => exact Or.inl ⟨_, fun _ => rfl⟩
      | ok parsed => exact Or.inr ⟨s, parsed, fun _ => rfl⟩
  | _ => exact Or.inl ⟨_, fun _ => rfl⟩

namespace FileSystem

namespace Rows

lemma modify_comm {p q : String} (hne : p ≠ q) (f g : Entry → Entry) (rows : Rows) :
    modify q g (modify p f rows) = modify p f (modify q g rows) := by
  simp only [modify, List.map_map]
  apply List.map_congr_left
  rintro ⟨path, e⟩ _
  by_cases hp : path = p
  · subst hp
    simp [hne]
  · simp [hp]

lemma modify_setPerms_setPerms (p : String) (r r' : Perms) (rows : Rows) :
    modify p (Entry.setPerms r') (modify p (Entry.setPerms r) rows) =
      modify p (Entry.setPerms r') rows := by
  simp only [modify, List.map_map]
  apply List.map_congr_left
  rintro ⟨path, e⟩ _
  by_cases hp : path = p <;> simp [hp, Entry.setPerms]

end Rows

namespace Entry

variable (target : String) (r : Perms) (path : String) (e : Entry)

def written : Entry := if path = target then e.setPerms r else e

lemma written_self : e.written path r path = e.setPerms r := if_pos rfl

lemma written_of_ne {target path : String} (hne : path ≠ target) : e.written target r path = e :=
  if_neg hne

lemma link_written : (e.written target r path).link = e.link := by
  rw [written]
  split <;> rfl

lemma fault_written {fault : Entry → Option Fault} {r : Perms}
    (hfault : ∀ e : Entry, fault (e.setPerms r) = fault e) :
    fault (e.written target r path) = fault e := by
  rw [written]
  split
  · exact hfault e
  · rfl

end Entry

namespace Table

variable (t : Table) (target : String) (fault : Entry → Option Fault) (follow : Bool) {r : Perms}

lemma find?_modify_setPerms (r : Perms) (path : String) :
    (t.modify target (Entry.setPerms r)).find? path =
      (t.find? path).map (Entry.written target r path) := by
  rw [find?_modify]
  cases t.find? path with
  | none => exact ite_self _
  | some e => exact (apply_ite some (path = target) (e.setPerms r) e).symm

lemma walkFrom_modify (hfault : ∀ e : Entry, fault (e.setPerms r) = fault e) (visits : ℕ)
    (path : String) : (t.modify target (Entry.setPerms r)).walkFrom fault follow visits path =
      (t.walkFrom fault follow visits path).map fun a => (a.1, a.2.written target r a.1) := by
  induction visits generalizing path with
  | zero => rfl
  | succ visits ih =>
    rw [walkFrom, walkFrom, find?_modify_setPerms]
    cases t.find? path with
    | none => rfl
    | some e =>
      -- all that leads the walk on is the fault and the link, which are the same as before
      simp only [Option.map_some, Entry.link_written, Entry.fault_written target path e hfault]
      cases fault e with
      | some f => rfl
      | none =>
        cases e.link with
        | none => rfl
        | some next =>
          cases follow with
          | false => rfl
          | true => exact ih next

lemma walk_modify (hfault : ∀ e : Entry, fault (e.setPerms r) = fault e) (path : String) :
    (t.modify target (Entry.setPerms r)).walk fault follow path =
      (t.walk fault follow path).map fun a => (a.1, a.2.written target r a.1) :=
  t.walkFrom_modify target fault follow hfault maxVisits path

variable {fault follow} {path reached : String}

lemma walk_modify_eq_ok {e : Entry} (hfault : ∀ e : Entry, fault (e.setPerms r) = fault e)
    (h : t.walk fault follow path = .ok (reached, e)) :
    (t.modify target (Entry.setPerms r)).walk fault follow path =
      .ok (reached, e.written target r reached) := by
  rw [walk_modify _ _ _ _ hfault, h]
  rfl

lemma walk_modify_eq_error {f : Fault} (hfault : ∀ e : Entry, fault (e.setPerms r) = fault e)
    (h : t.walk fault follow path = .error f) :
    (t.modify target (Entry.setPerms r)).walk fault follow path = .error f := by
  rw [walk_modify _ _ _ _ hfault, h]
  rfl

end Table

/-- Both walks of a change of permissions, the one that reads and the one that writes, end there. -/
def Arrives (t : Table) (path target : String) : Prop :=
  (∃ e, t.walk Entry.statFault true path = .ok (target, e)) ∧
    ∃ e, t.walk Entry.chmodFault true path = .ok (target, e)

section

variable {t : Table} {path target : String} {e : Entry}

lemma arrives_of_walks {arrival : String × Entry}
    (hstat : t.walk Entry.statFault true path = .ok (target, e))
    (hchmod : t.walk Entry.chmodFault true path = .ok arrival) : Arrives t path target := by
  obtain ⟨es, hreaches⟩ := Table.walk_eq_ok_iff.mp hstat
  obtain ⟨es', hreaches'⟩ := Table.walk_eq_ok_iff.mp hchmod
  obtain ⟨-, rfl, -⟩ := hreaches.unique hreaches'
  exact ⟨⟨e, hstat⟩, ⟨arrival.2, hchmod⟩⟩

lemma Reaches.arrives {es : List Entry} (hreaches : Reaches t Entry.statFault path es target e)
    (hclear : ∀ f ∈ es, f.chmodFault = none) : Arrives t path target :=
  ⟨⟨e, hreaches.walk_eq⟩, ⟨e, (hreaches.of_clear hclear).walk_eq⟩⟩

lemma Arrives.modify (h : Arrives t path target) (other : String) (r : Perms) :
    Arrives (t.modify other (Entry.setPerms r)) path target := by
  obtain ⟨⟨e, hstat⟩, ⟨e', hchmod⟩⟩ := h
  exact ⟨⟨_, t.walk_modify_eq_ok other (fun _ => rfl) hstat⟩,
    ⟨_, t.walk_modify_eq_ok other (fun _ => rfl) hchmod⟩⟩

end

namespace Host

def write (h : Host) : Option (String × Perms) → Host
  | none => h
  | some (target, r) => { h with files := h.files.modify target (Entry.setPerms r) }

variable (h : Host)

section

variable {h} {path target : String} {spec : Argument} {o : Options} {e : Entry}
  {changed : String × Mode}

lemma chmod_of_unread {f : Fault} (hstat : h.files.walk Entry.statFault true path = .error f) :
    h.chmod path spec o = ⟨.error (.ofFault ⟨"chmod", some path⟩ f), [], h⟩ := by
  rw [chmod, hstat]

lemma chmod_of_refused {refused : SystemError}
    (hstat : h.files.walk Entry.statFault true path = .ok (target, e))
    (hguard : Call.guardedChange ⟨"chmod", some path⟩ o spec e.status.mode = .error refused) :
    h.chmod path spec o = ⟨.error refused, [.chmodRefused path spec], h⟩ := by
  simp only [chmod, hstat, hguard]

lemma chmod_of_unwritten {f : Fault}
    (hstat : h.files.walk Entry.statFault true path = .ok (target, e))
    (hguard : Call.guardedChange ⟨"chmod", some path⟩ o spec e.status.mode = .ok changed)
    (hchmod : h.files.walk Entry.chmodFault true path = .error f) :
    h.chmod path spec o = ⟨.error (.ofFault ⟨"chmod", some path⟩ f), [], h⟩ := by
  simp only [chmod, hstat, hguard, hchmod]

lemma chmod_of_arrives (hstat : h.files.walk Entry.statFault true path = .ok (target, e))
    (hguard : Call.guardedChange ⟨"chmod", some path⟩ o spec e.status.mode = .ok changed)
    (harrives : Arrives h.files path target) :
    h.chmod path spec o =
      ⟨.ok changed.2.perms,
        [.chmodDone path e.status.mode.perms changed.2.perms changed.1],
        h.write (some (target, changed.2.perms))⟩ := by
  obtain ⟨-, e', hchmod⟩ := harrives
  simp only [chmod, hstat, hguard, hchmod]
  rfl

end

lemma write_comm {w w' : Option (String × Perms)} (hne : ∀ x ∈ w, ∀ y ∈ w', x.1 ≠ y.1) :
    (h.write w).write w' = (h.write w').write w := by
  cases w with
  | none => rfl
  | some x =>
    cases w' with
    | none => rfl
    | some y => simp only [write, Table.modify, Rows.modify_comm (hne x rfl y rfl)]

lemma write_write (target : String) (r r' : Perms) :
    (h.write (some (target, r))).write (some (target, r')) = h.write (some (target, r')) := by
  simp only [write, Table.modify, Rows.modify_setPerms_setPerms]

lemma exists_write (path : String) (spec : Argument) (o : Options) :
    ∃ w, (∀ x ∈ w, Arrives h.files path x.1) ∧ (h.chmod path spec o).host = h.write w := by
  have hreply := h.chmodReply path spec o
  generalize h.chmod path spec o = reply at hreply
  cases hreply with
  | @done es target s e m hreaches _ _ _ hclear =>
    refine ⟨some (target, m.perms), ?_, rfl⟩
    rintro _ ⟨rfl⟩
    exact hreaches.arrives hclear
  | _ => exact ⟨none, by simp, rfl⟩

lemma chmod_write (path : String) (spec : Argument) (o : Options) {w : Option (String × Perms)}
    (hw : ∀ x ∈ w, ¬ Arrives h.files path x.1) :
    (h.write w).chmod path spec o =
      ⟨(h.chmod path spec o).result, (h.chmod path spec o).log,
        (h.chmod path spec o).host.write w⟩ := by
  cases w with
  | none => rfl
  | some x =>
    obtain ⟨target, r⟩ := x
    cases hstat : h.files.walk Entry.statFault true path with
    | error f =>
      rw [chmod_of_unread hstat]
      exact chmod_of_unread (h.files.walk_modify_eq_error target (fun _ => rfl) hstat)
    | ok arrival =>
      obtain ⟨reached, e⟩ := arrival
      have hread := h.files.walk_modify_eq_ok target (r := r) (fun _ => rfl) hstat
      rcases Call.guardedChange_uniform ⟨"chmod", some path⟩ o spec with
        ⟨refused, hguard⟩ | ⟨s, parsed, hguard⟩
      · rw [chmod_of_refused hstat (hguard _)]
        exact chmod_of_refused hread (hguard _)
      · cases hchmod : h.files.walk Entry.chmodFault true path with
        | error f =>
          rw [chmod_of_unwritten hstat (hguard _) hchmod]
          exact chmod_of_unwritten hread (hguard _)
            (h.files.walk_modify_eq_error target (fun _ => rfl) hchmod)
        | ok arrival' =>
          have harrives := arrives_of_walks hstat hchmod
          have hne : reached ≠ target := fun heq => hw (target, r) rfl (heq ▸ harrives)
          rw [Entry.written_of_ne r e hne] at hread
          have hreply := chmod_of_arrives (h := h.write (some (target, r))) hread (hguard _)
            (harrives.modify target r)
          rw [chmod_of_arrives hstat (hguard _) harrives, hreply, write_comm]
          rintro _ ⟨rfl⟩ _ ⟨rfl⟩
          exact hne.symm

end Host

end FileSystem

end FileMode
