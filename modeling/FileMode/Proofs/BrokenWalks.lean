import FileMode.Proofs.Links

/-! Where walks break off: after links that they may follow, at a path where nothing is, at an entry
at fault, or before one entry too many. Links that lead only to links make every walk break off. -/

namespace FileMode.FileSystem

inductive Chain (t : Table) : String → List Entry → String → Prop
  | here (path : String) : Chain t path [] path
  | link {path next last : String} {e : Entry} {es : List Entry} : t.find? path = some e →
      e.link = some next → Chain t next es last → Chain t path (e :: es) last

namespace Chain

variable {t : Table} {path last last' : String} {es es' : List Entry}

lemma append (h : Chain t path es last) (h' : Chain t last es' last') :
    Chain t path (es ++ es') last' := by
  induction h with
  | here => exact h'
  | link hfind hlink _ ih => exact .link hfind hlink (ih h')

lemma exists_next (h : Chain t path es last) (hne : es ≠ []) : ∃ e next rest, es = e :: rest ∧
    t.find? path = some e ∧ e.link = some next ∧ Chain t next rest last := by
  cases h with
  | here => exact (hne rfl).elim
  | link hfind hlink hrest => exact ⟨_, _, _, rfl, hfind, hlink, hrest⟩

/-- From every path on the way to a cycle and around it, the cycle is entered again. -/
lemma returns {tail cycle : List Entry} {p : String} (h : Chain t path es last)
    (htail : Chain t path tail p) (hcycle : Chain t p cycle p) (hne : cycle ≠ []) :
    (∀ e ∈ es, e ∈ tail ++ cycle) ∧ ∃ e next, t.find? last = some e ∧ e.link = some next := by
  have hround : ∀ rest, rest ++ cycle ≠ [] :=
    fun rest => List.append_ne_nil_of_right_ne_nil rest hne
  induction h generalizing tail with
  | here =>
    obtain ⟨e, next, -, -, hfind, hlink, -⟩ := (htail.append hcycle).exists_next (hround tail)
    exact ⟨fun _ he => (List.not_mem_nil he).elim, e, next, hfind, hlink⟩
  | link hfind hlink _ ih =>
    obtain ⟨e, next, rest, htotal, hfind', hlink', hrest⟩ :=
      (htail.append hcycle).exists_next (hround tail)
    obtain rfl := Option.some.inj (hfind.symm.trans hfind')
    obtain rfl := Option.some.inj (hlink.symm.trans hlink')
    obtain ⟨hmem, hnext⟩ := ih hrest
    refine ⟨?_, hnext⟩
    intro e' he'
    rcases List.mem_cons.mp he' with rfl | he'
    · rw [htotal]
      exact List.mem_cons_self
    · rcases List.mem_append.mp (hmem e' he') with he' | he'
      · rw [htotal]
        exact List.mem_cons_of_mem _ he'
      · exact List.mem_append_right tail he'

end Chain

def Endless (t : Table) (path : String) : Prop :=
  ∀ es last, Chain t path es last → ∃ e next, t.find? last = some e ∧ e.link = some next

lemma Endless.exists_chain {t : Table} {path : String} (h : Endless t path) (n : ℕ) :
    ∃ es last, Chain t path es last ∧ es.length = n := by
  induction n with
  | zero => exact ⟨[], path, .here path, rfl⟩
  | succ n ih =>
    obtain ⟨es, last, hchain, rfl⟩ := ih
    obtain ⟨e, next, hfind, hlink⟩ := h es last hchain
    exact ⟨es ++ [e], next, hchain.append (.link hfind hlink (.here next)), by simp⟩

/-- The links that a walk follows, past no entry at fault; without leave to follow, none. -/
structure Leads (t : Table) (fault : Entry → Option Fault) (follow : Bool) (path : String)
    (es : List Entry) (last : String) : Prop where
  chain : Chain t path es last
  clear : ∀ e ∈ es, fault e = none
  follows : es ≠ [] → follow = true

inductive Breaks (t : Table) (fault : Entry → Option Fault) (follow : Bool) (visits : ℕ)
    (path : String) : Fault → Prop
  | absent {es : List Entry} {last : String} : Leads t fault follow path es last →
      es.length < visits → t.find? last = none →
      Breaks t fault follow visits path ⟨some 2, some "No such file or directory"⟩
  | atFault {es : List Entry} {last : String} {e : Entry} {f : Fault} :
      Leads t fault follow path es last → es.length < visits → t.find? last = some e →
      fault e = some f → Breaks t fault follow visits path f
  | tooManyLinks {es : List Entry} {last : String} : Leads t fault follow path es last →
      es.length = visits →
      Breaks t fault follow visits path ⟨some 40, some "Too many levels of symbolic links"⟩

variable {t : Table} {fault : Entry → Option Fault} {follow : Bool} {visits : ℕ}
  {path next last : String} {es : List Entry} {e : Entry} {f : Fault}

namespace Leads

lemma here : Leads t fault follow path [] path :=
  ⟨.here path, fun _ he => (List.not_mem_nil he).elim, fun hne => (hne rfl).elim⟩

lemma link (hfind : t.find? path = some e) (hfault : fault e = none) (hlink : e.link = some next)
    (h : Leads t fault true next es last) : Leads t fault true path (e :: es) last :=
  ⟨.link hfind hlink h.chain, List.forall_mem_cons.mpr ⟨hfault, h.clear⟩, fun _ => rfl⟩

lemma walkFrom_eq (h : Leads t fault follow path es last) (visits : ℕ) :
    t.walkFrom fault follow (es.length + visits) path = t.walkFrom fault follow visits last := by
  obtain ⟨hchain, hclear, hfollows⟩ := h
  induction hchain with
  | here => rw [List.length_nil, Nat.zero_add]
  | link hfind hlink _ ih =>
    obtain rfl := hfollows (List.cons_ne_nil _ _)
    obtain ⟨hfault, hclear⟩ := List.forall_mem_cons.mp hclear
    rw [List.length_cons, Nat.add_right_comm, Table.walkFrom_of_link hfind hfault hlink]
    exact ih hclear fun _ => rfl

end Leads

namespace Breaks

lemma link (hfind : t.find? path = some e) (hfault : fault e = none) (hlink : e.link = some next)
    (h : Breaks t fault true visits next f) : Breaks t fault true (visits + 1) path f := by
  cases h with
  | absent hleads hlt hnone =>
    exact .absent (hleads.link hfind hfault hlink) (Nat.succ_lt_succ hlt) hnone
  | atFault hleads hlt hlast hlastFault =>
    exact .atFault (hleads.link hfind hfault hlink) (Nat.succ_lt_succ hlt) hlast hlastFault
  | tooManyLinks hleads hlength =>
    exact .tooManyLinks (hleads.link hfind hfault hlink) (congrArg (· + 1) hlength)

lemma walkFrom_eq (h : Breaks t fault follow visits path f) :
    t.walkFrom fault follow visits path = .error f := by
  cases h with
  | absent hleads hlt hnone =>
    obtain ⟨k, rfl⟩ := Nat.exists_eq_add_of_lt hlt
    rw [Nat.add_assoc, hleads.walkFrom_eq]
    exact Table.walkFrom_of_absent hnone
  | atFault hleads hlt hlast hfault =>
    obtain ⟨k, rfl⟩ := Nat.exists_eq_add_of_lt hlt
    rw [Nat.add_assoc, hleads.walkFrom_eq]
    exact Table.walkFrom_of_fault hlast hfault
  | tooManyLinks hleads hlength =>
    have hwalk := hleads.walkFrom_eq 0
    rw [Nat.add_zero, hlength] at hwalk
    exact hwalk

end Breaks

lemma breaks_of_walkFrom (h : t.walkFrom fault follow visits path = .error f) :
    Breaks t fault follow visits path f := by
  induction visits generalizing path with
  | zero =>
    obtain rfl := Except.error.inj h
    exact .tooManyLinks .here rfl
  | succ visits ih =>
    cases hfind : t.find? path with
    | none =>
      obtain rfl := Except.error.inj ((Table.walkFrom_of_absent hfind).symm.trans h)
      exact .absent .here (Nat.succ_pos visits) hfind
    | some e =>
      cases hfault : fault e with
      | some f' =>
        obtain rfl := Except.error.inj ((Table.walkFrom_of_fault hfind hfault).symm.trans h)
        exact .atFault .here (Nat.succ_pos visits) hfind hfault
      | none =>
        cases hlink : e.link with
        | none => cases (Table.walkFrom_of_arrival hfind hfault hlink).symm.trans h
        | some next =>
          cases follow with
          | false => simp [Table.walkFrom, hfind, hfault, hlink] at h
          | true =>
            rw [Table.walkFrom_of_link hfind hfault hlink] at h
            exact (ih h).link hfind hfault hlink

lemma Table.walk_eq_error_iff :
    t.walk fault follow path = .error f ↔ Breaks t fault follow 41 path f :=
  ⟨breaks_of_walkFrom, Breaks.walkFrom_eq⟩

end FileMode.FileSystem
