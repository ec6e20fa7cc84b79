import FileMode.FileSystem.Table
import Mathlib.Data.Nat.Notation
import Mathlib.Tactic.Lemma

/-! The trail of links from a path to the entry at its end. A walk arrives exactly there, unless the
trail is too long or an entry on it is at fault, so that all walks from a path arrive at one
entry. -/

namespace FileMode.FileSystem

namespace Rows

lemma lookup_insert (path p : String) (e : Entry) (rows : Rows) :
    (insert path e rows).lookup p = if p = path then some e else rows.lookup p := by
  fun_induction insert path e rows <;> grind

lemma lookup_erase (path p : String) (rows : Rows) :
    (erase path rows).lookup p = if p = path then none else rows.lookup p := by
  induction rows with
  | nil => simp [erase]
  | cons row rows ih => simp only [erase] at ih; grind [erase]

lemma lookup_modify (path p : String) (change : Entry → Entry) (rows : Rows) :
    (modify path change rows).lookup p =
      if p = path then (rows.lookup p).map change else rows.lookup p := by
  induction rows with
  | nil => simp [modify]
  | cons row rows ih => simp only [modify] at ih; grind [modify]

end Rows

namespace Table

lemma find?_put (t : Table) (path p : String) (e : Entry) :
    (t.put path e).find? p = if p = path then some e else t.find? p :=
  Rows.lookup_insert path p e t.rows

lemma find?_remove (t : Table) (path p : String) :
    (t.remove path).find? p = if p = path then none else t.find? p :=
  Rows.lookup_erase path p t.rows

lemma find?_modify (t : Table) (path p : String) (change : Entry → Entry) :
    (t.modify path change).find? p =
      if p = path then (t.find? p).map change else t.find? p :=
  Rows.lookup_modify path p change t.rows

end Table

/-- The entries that links lead through, the last of them no link itself, and its path. -/
inductive Trail (t : Table) : String → List Entry → String → Entry → Prop
  | arrival {path : String} {e : Entry} : t.find? path = some e → e.link = none →
      Trail t path [e] path e
  | link {path next target : String} {e last : Entry} {es : List Entry} :
      t.find? path = some e → e.link = some next → Trail t next es target last →
      Trail t path (e :: es) target last

namespace Trail

variable {t : Table} {path target target' : String} {es es' : List Entry} {last last' : Entry}

lemma find?_target (h : Trail t path es target last) : t.find? target = some last := by
  induction h with
  | arrival hfind _ => exact hfind
  | link _ _ _ ih => exact ih

lemma last_mem (h : Trail t path es target last) : last ∈ es := by
  induction h with
  | arrival => exact List.mem_singleton_self _
  | link _ _ _ ih => exact List.mem_cons_of_mem _ ih

lemma link_last (h : Trail t path es target last) : last.link = none := by
  induction h with
  | arrival _ hlink => exact hlink
  | link _ _ _ ih => exact ih

lemma first_mem (h : Trail t path es target last) {e : Entry} (hfind : t.find? path = some e) :
    e ∈ es := by
  cases h with
  | arrival hfind' _ =>
    obtain rfl := Option.some.inj (hfind.symm.trans hfind')
    exact List.mem_singleton_self _
  | link hfind' _ _ =>
    obtain rfl := Option.some.inj (hfind.symm.trans hfind')
    exact List.mem_cons_self

lemma unique (h : Trail t path es target last) (h' : Trail t path es' target' last') :
    es = es' ∧ target = target' ∧ last = last' := by
  induction h generalizing es' with
  | arrival hfind hlink =>
    cases h' with
    | arrival hfind' _ =>
      obtain rfl := Option.some.inj (hfind.symm.trans hfind')
      exact ⟨rfl, rfl, rfl⟩
    | link hfind' hlink' _ =>
      obtain rfl := Option.some.inj (hfind.symm.trans hfind')
      cases hlink.symm.trans hlink'
  | link hfind hlink _ ih =>
    cases h' with
    | arrival hfind' hlink' =>
      obtain rfl := Option.some.inj (hfind.symm.trans hfind')
      cases hlink.symm.trans hlink'
    | link hfind' hlink' hrest' =>
      obtain rfl := Option.some.inj (hfind.symm.trans hfind')
      obtain rfl := Option.some.inj (hlink.symm.trans hlink')
      obtain ⟨rfl, rfl, rfl⟩ := ih hrest'
      exact ⟨rfl, rfl, rfl⟩

end Trail

structure Reaches (t : Table) (fault : Entry → Option Fault) (path : String) (es : List Entry)
    (target : String) (last : Entry) : Prop where
  trail : Trail t path es target last
  length_le : es.length ≤ 41
  clear : ∀ e ∈ es, fault e = none

namespace Table

variable {t : Table} {fault : Entry → Option Fault} {follow : Bool} {visits : ℕ}
  {path target : String} {last : Entry}

lemma walkFrom_of_absent (hfind : t.find? path = none) :
    t.walkFrom fault follow (visits + 1) path = .error absent := by
  simp [walkFrom, hfind]

lemma walkFrom_of_fault {e : Entry} {f : Fault} (hfind : t.find? path = some e)
    (hfault : fault e = some f) : t.walkFrom fault follow (visits + 1) path = .error f := by
  simp [walkFrom, hfind, hfault]

lemma walkFrom_of_arrival {e : Entry} (hfind : t.find? path = some e) (hfault : fault e = none)
    (hlink : e.link = none) : t.walkFrom fault follow (visits + 1) path = .ok (path, e) := by
  simp [walkFrom, hfind, hfault, hlink]

lemma walkFrom_of_link {e : Entry} {next : String} (hfind : t.find? path = some e)
    (hfault : fault e = none) (hlink : e.link = some next) :
    t.walkFrom fault true (visits + 1) path = t.walkFrom fault true visits next := by
  simp [walkFrom, hfind, hfault, hlink]

lemma exists_trail_of_walkFrom (h : t.walkFrom fault true visits path = .ok (target, last)) :
    ∃ es, Trail t path es target last ∧ es.length ≤ visits ∧ ∀ e ∈ es, fault e = none := by
  induction visits generalizing path with
  | zero => cases h
  | succ visits ih =>
    cases hfind : t.find? path with
    | none => simp [walkFrom, hfind] at h
    | some e =>
      cases hfault : fault e with
      | some f =>
        rw [walkFrom_of_fault hfind hfault] at h
        cases h
      | none =>
        cases hlink : e.link with
        | none =>
          rw [walkFrom_of_arrival hfind hfault hlink] at h
          obtain ⟨rfl, rfl⟩ := Prod.mk.inj (Except.ok.inj h)
          exact ⟨[e], .arrival hfind hlink, by simp, by simpa using hfault⟩
        | some next =>
          rw [walkFrom_of_link hfind hfault hlink] at h
          obtain ⟨es, htrail, hlength, hclear⟩ := ih h
          exact ⟨e :: es, .link hfind hlink htrail, by simpa using hlength,
            List.forall_mem_cons.mpr ⟨hfault, hclear⟩⟩

lemma walkFrom_of_trail {es : List Entry} (h : Trail t path es target last)
    (hlength : es.length ≤ visits) (hclear : ∀ e ∈ es, fault e = none) :
    t.walkFrom fault true visits path = .ok (target, last) := by
  induction h generalizing visits with
  | arrival hfind hlink =>
    obtain ⟨visits, rfl⟩ := Nat.exists_eq_add_of_le' hlength
    exact walkFrom_of_arrival hfind (hclear _ (by simp)) hlink
  | @link path next target e last es hfind hlink _ ih =>
    obtain ⟨visits, rfl⟩ : ∃ k, visits = k + 1 := by
      refine Nat.exists_eq_add_of_le' ?_
      simp only [List.length_cons] at hlength
      omega
    obtain ⟨hfault, hclear⟩ := List.forall_mem_cons.mp hclear
    rw [walkFrom_of_link hfind hfault hlink]
    exact ih (by simpa using hlength) hclear

lemma walk_eq_ok_iff : t.walk fault true path = .ok (target, last) ↔
    ∃ es, Reaches t fault path es target last := by
  refine ⟨?_, ?_⟩
  · intro h
    obtain ⟨es, htrail, hlength, hclear⟩ := exists_trail_of_walkFrom h
    exact ⟨es, htrail, hlength, hclear⟩
  · rintro ⟨es, htrail, hlength, hclear⟩
    exact walkFrom_of_trail htrail hlength hclear

end Table

namespace Reaches

variable {t : Table} {fault fault' : Entry → Option Fault} {path target target' : String}
  {es es' : List Entry} {last last' : Entry}

lemma walk_eq (h : Reaches t fault path es target last) :
    t.walk fault true path = .ok (target, last) :=
  Table.walk_eq_ok_iff.mpr ⟨es, h⟩

lemma unique (h : Reaches t fault path es target last)
    (h' : Reaches t fault' path es' target' last') : es = es' ∧ target = target' ∧ last = last' :=
  h.trail.unique h'.trail

lemma of_clear (h : Reaches t fault path es target last) (hclear : ∀ e ∈ es, fault' e = none) :
    Reaches t fault' path es target last :=
  ⟨h.trail, h.length_le, hclear⟩

end Reaches

end FileMode.FileSystem
