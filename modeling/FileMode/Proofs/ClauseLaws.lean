import FileMode.Proofs.NormalForm

namespace FileMode

open FileClass (sticky)

def Operator.written (op : Operator) (covered allowed : Bool) : Option Bool :=
  match op with
  | add => if covered && allowed then some true else none
  | remove => if covered && allowed then some false else none
  | assign => if covered then some allowed else none

namespace Operator

lemma written_covered_or (op : Operator) (a b p : Bool) :
    op.written (a || b) p = (op.written b p).or (op.written a p) := by
  cases op <;> cases a <;> cases b <;> cases p <;> rfl

lemma add_written_or (a p q : Bool) :
    add.written a (p || q) = (add.written a q).or (add.written a p) := by
  cases a <;> cases p <;> cases q <;> rfl

lemma remove_written_or (a p q : Bool) :
    remove.written a (p || q) = (remove.written a q).or (remove.written a p) := by
  cases a <;> cases p <;> cases q <;> rfl

lemma assign_written_or (a p q : Bool) :
    assign.written a (p || q) = (add.written a q).or (assign.written a p) := by
  cases a <;> cases p <;> cases q <;> rfl

lemma assign_written (a p : Bool) :
    assign.written a p = (add.written a p).or (remove.written a true) := by
  cases a <;> cases p <;> rfl

lemma written_false_ne (op : Operator) (a : Bool) : op.written a false ≠ some true := by
  cases op <;> cases a <;> decide

end Operator

def Selector.covers (W : List Selector) (i : ℕ) : Bool := W.any fun s => s.mask.getLsbD i

def Permission.allows (P : List Permission) (i : ℕ) : Bool := P.any fun p => p.mask.getLsbD i

lemma Selector.covers_append (W₁ W₂ : List Selector) (i : ℕ) :
    covers (W₁ ++ W₂) i = (covers W₁ i || covers W₂ i) :=
  List.any_append

lemma Selector.covers_sticky (W : List Selector) :
    covers W sticky = decide (.other ∈ W ∨ .everyone ∈ W) := by
  have hmask : ∀ s : Selector, s.mask.getLsbD sticky = true ↔ s = .other ∨ s = .everyone := by
    intro s
    cases s <;> decide
  rw [Bool.eq_iff_iff, covers, List.any_eq_true, decide_eq_true_eq]
  refine ⟨?_, ?_⟩
  · rintro ⟨s, hs, hbit⟩
    rcases (hmask s).mp hbit with rfl | rfl
    · exact Or.inl hs
    · exact Or.inr hs
  · rintro (hs | hs)
    · exact ⟨_, hs, by decide⟩
    · exact ⟨_, hs, by decide⟩

lemma Permission.allows_append (P₁ P₂ : List Permission) (i : ℕ) :
    allows (P₁ ++ P₂) i = (allows P₁ i || allows P₂ i) :=
  List.any_append

namespace Clause

lemma write?_eq (c : Clause) (i : ℕ) :
    c.write? i = c.operator.written (c.affects i) (c.permits i) := by
  rw [write?]
  cases c.operator <;> rfl

lemma write?_mk {W : List Selector} (hW : W ≠ []) (op : Operator) (P : List Permission) (i : ℕ) :
    write? ⟨W, op, P⟩ i = op.written (Selector.covers W i) (Permission.allows P i) := by
  have haffects : affects ⟨W, op, P⟩ i = Selector.covers W i := if_neg (by simpa using hW)
  rw [write?_eq, haffects]
  rfl

lemma write?_sticky {W : List Selector} (hW : W ≠ []) (op : Operator) (P : List Permission) :
    write? ⟨W, op, P⟩ sticky = op.written (decide (.other ∈ W ∨ .everyone ∈ W)) false := by
  have hallows : Permission.allows P sticky = false := permits_sticky ⟨W, op, P⟩
  rw [write?_mk hW, Selector.covers_sticky, hallows]

lemma lastWrite?_sticky_ne (cs : List Clause) : lastWrite? cs sticky ≠ some true := by
  intro h
  obtain ⟨c, -, hwrite⟩ := List.exists_of_findSome?_eq_some h
  rw [write?_eq, permits_sticky] at hwrite
  exact c.operator.written_false_ne (c.affects sticky) hwrite

lemma getD_lastWrite?_sticky (cs : List Clause) : (lastWrite? cs sticky).getD false = false := by
  cases hlast : lastWrite? cs sticky with
  | none => rfl
  | some b =>
    cases b with
    | false => rfl
    | true => exact (lastWrite?_sticky_ne cs hlast).elim

lemma assign_write? {W : List Selector} (hW : W ≠ []) (P : List Permission) {i : ℕ}
    (hi : i ≠ sticky) : write? ⟨W, .assign, P⟩ i =
      (write? ⟨W, .add, P⟩ i).or (write? ⟨W, .remove, Permission.all⟩ i) := by
  rw [write?_mk hW, write?_mk hW, write?_mk hW]
  cases hcovers : Selector.covers W i with
  | false => rfl
  | true =>
    obtain ⟨s, _, hs⟩ := List.any_eq_true.mp hcovers
    obtain ⟨k, hk⟩ := FileClass.exists_selector_mask (BitVec.lt_of_getLsbD hs)
    obtain ⟨q, hq⟩ := Permission.exists_mask (k := k) (by rw [hk, decide_eq_true rfl]) hi
    have hall : Permission.allows Permission.all i = true :=
      List.any_eq_true.mpr ⟨q, q.mem_all, hq⟩
    rw [hall, Operator.assign_written]

end Clause

/-- The clauses around a place in a text, written so that the whole is read as clauses. -/
structure Context where
  before : List Layout
  after : List Layout
  symbolic : Spec.form (Layout.joined before) = .symbolic

namespace Context

variable (C : Context)

def fill (ts : List Layout) : String := String.ofList (Layout.joined (C.before ++ (ts ++ C.after)))

def applied (ts : List Layout) (m : Mode) : Mode :=
  (Spec.symbolic ((C.before ++ (ts ++ C.after)).map Layout.clause)).apply m

lemma form_fill {t : Layout} (hwho : t.who ≠ []) (ts : List Layout) :
    Spec.form (C.fill (t :: ts)).toList = .symbolic := by
  have hform := C.symbolic
  rw [fill, String.toList_ofList]
  cases hbefore : C.before with
  | nil => rw [List.nil_append, List.cons_append, Layout.form_joined, t.form_chars hwho]
  | cons b before =>
    rw [hbefore, Layout.form_joined] at hform
    rw [List.cons_append, Layout.form_joined, hform]

lemma change_fill {t : Layout} (hwho : t.who ≠ []) (ts : List Layout) (o : Options) (m : Mode) :
    m.change o (C.fill (t :: ts)) = .ok (C.applied (t :: ts) m) := by
  rw [Mode.change_of_symbolic o m (C.form_fill hwho ts), fill, String.toList_ofList,
    Layout.parseAll_joined (by simp)]
  rfl

lemma testBit_applied (ts : List Layout) (m : Mode) (i : ℕ) : (C.applied ts m).toInt.testBit i =
    ((Clause.lastWrite? (C.after.map Layout.clause) i).or
      ((Clause.lastWrite? (ts.map Layout.clause) i).or
        (Clause.lastWrite? (C.before.map Layout.clause) i))).getD (m.toInt.testBit i) := by
  rw [applied, Clause.testBit_apply, List.map_append, List.map_append, Clause.lastWrite?_append,
    Clause.lastWrite?_append, Option.or_assoc]

end Context

def ActsAs (ts us : List Layout) : Prop :=
  ∀ (C : Context) (o : Options) (current : ℤ), ∃ m,
    (Mode.ofInt current).change o (C.fill ts) = .ok m ∧
      (Mode.ofInt current).change o (C.fill us) = .ok m

/-- In every context both are accepted and lead to modes that agree on all bits but the sticky one,
which the first clears where the selectors have it and the second leaves to the context. -/
def ActsAsButSticky (W : List Selector) (ts us : List Layout) : Prop :=
  ∀ (C : Context) (o : Options) (current : ℤ), ∃ m m',
    (Mode.ofInt current).change o (C.fill ts) = .ok m ∧
      (Mode.ofInt current).change o (C.fill us) = .ok m' ∧
      (∀ i, i ≠ sticky → m.toInt.testBit i = m'.toInt.testBit i) ∧
      m'.toInt.testBit sticky = (C.applied [] (.ofInt current)).toInt.testBit sticky ∧
      m.toInt.testBit sticky =
        if .other ∈ W ∨ .everyone ∈ W then false else m'.toInt.testBit sticky

lemma actsAs_of_lastWrite? {t u : Layout} {ts us : List Layout} (ht : t.who ≠ []) (hu : u.who ≠ [])
    (h : ∀ i, Clause.lastWrite? ((t :: ts).map Layout.clause) i =
      Clause.lastWrite? ((u :: us).map Layout.clause) i) : ActsAs (t :: ts) (u :: us) := by
  intro C o current
  refine ⟨_, C.change_fill ht ts o _, ?_⟩
  rw [C.change_fill hu us]
  apply congrArg Except.ok
  apply Bits.mode_eq_of_testBit_eq
  intro i
  rw [C.testBit_applied, C.testBit_applied, h]

section

open Clause (layout)

variable {W W₁ W₂ : List Selector}

lemma actsAs_pair {c d e : Clause} (hc : c.who ≠ []) (hd : d.who ≠ [])
    (h : ∀ i, c.write? i = (e.write? i).or (d.write? i)) :
    ActsAs [c.layout] [d.layout, e.layout] := by
  apply actsAs_of_lastWrite? (Clause.layout_who_ne_nil hc) (Clause.layout_who_ne_nil hd)
  intro i
  rw [List.map_cons, List.map_cons, List.map_cons, List.map_nil, Clause.clause_layout,
    Clause.clause_layout, Clause.clause_layout, Clause.lastWrite?_singleton, Clause.lastWrite?_pair,
    h]

lemma actsAs_selectors (h₁ : W₁ ≠ []) (h₂ : W₂ ≠ []) (op : Operator) (P : List Permission) :
    ActsAs [layout ⟨W₁ ++ W₂, op, P⟩] [layout ⟨W₁, op, P⟩, layout ⟨W₂, op, P⟩] := by
  have hne : W₁ ++ W₂ ≠ [] := List.append_ne_nil_of_left_ne_nil h₁ W₂
  apply actsAs_pair hne h₁
  intro i
  rw [Clause.write?_mk hne, Clause.write?_mk h₁, Clause.write?_mk h₂, Selector.covers_append,
    Operator.written_covered_or]

lemma actsAs_permissions (hW : W ≠ []) {op first second : Operator}
    (hop : ∀ a p q, op.written a (p || q) = (second.written a q).or (first.written a p))
    (P₁ P₂ : List Permission) :
    ActsAs [layout ⟨W, op, P₁ ++ P₂⟩] [layout ⟨W, first, P₁⟩, layout ⟨W, second, P₂⟩] := by
  apply actsAs_pair hW hW
  intro i
  rw [Clause.write?_mk hW, Clause.write?_mk hW, Clause.write?_mk hW, Permission.allows_append, hop]

def everyoneRuns : List (List (Option Selector)) :=
  [[some .everyone], [some .owner, some .group, some .other], [none]]

lemma affected_of_mem_everyoneRuns {who : List (Option Selector)} (h : who ∈ everyoneRuns)
    (op : Operator) (P : List (Option Permission)) :
    (Layout.clause ⟨who, op, P⟩).affected = Selector.everyone.mask := by
  simp only [everyoneRuns, List.mem_cons, List.not_mem_nil, or_false] at h
  rcases h with rfl | rfl | rfl <;> rfl

lemma actsAs_everyone {who who' : List (Option Selector)} (h : who ∈ everyoneRuns)
    (h' : who' ∈ everyoneRuns) (op : Operator) (P : List (Option Permission)) :
    ActsAs [⟨who, op, P⟩] [⟨who', op, P⟩] := by
  have hne : ∀ run ∈ everyoneRuns, run ≠ [] := by decide
  apply actsAs_of_lastWrite? (hne _ h) (hne _ h')
  intro i
  rw [List.map_singleton, List.map_singleton, Clause.lastWrite?_singleton,
    Clause.lastWrite?_singleton, Clause.write?_eq, Clause.write?_eq, ← Clause.getLsbD_affected,
    ← Clause.getLsbD_affected, affected_of_mem_everyoneRuns h, affected_of_mem_everyoneRuns h']
  rfl

lemma actsAsButSticky_assign (hW : W ≠ []) (P : List Permission) :
    ActsAsButSticky W [layout ⟨W, .assign, P⟩]
      [layout ⟨W, .remove, Permission.all⟩, layout ⟨W, .add, P⟩] := by
  intro C o current
  have hwho (op : Operator) (P : List Permission) : (layout ⟨W, op, P⟩).who ≠ [] :=
    Clause.layout_who_ne_nil hW
  have hassign := C.testBit_applied [layout ⟨W, .assign, P⟩] (.ofInt current)
  have hpair := C.testBit_applied [layout ⟨W, .remove, Permission.all⟩, layout ⟨W, .add, P⟩]
    (.ofInt current)
  have hbare := C.testBit_applied [] (.ofInt current) sticky
  simp only [List.map_cons, List.map_nil, Clause.clause_layout, Clause.lastWrite?_singleton,
    Clause.lastWrite?_pair] at hassign hpair
  have hkept : (C.applied [layout ⟨W, .remove, Permission.all⟩, layout ⟨W, .add, P⟩]
      (.ofInt current)).toInt.testBit sticky =
        (C.applied [] (.ofInt current)).toInt.testBit sticky := by
    rw [hpair, hbare, Clause.write?_sticky hW, Clause.write?_sticky hW]
    simp [Operator.written, Clause.lastWrite?]
  refine ⟨_, _, C.change_fill (hwho _ _) [] o _, C.change_fill (hwho _ _) _ o _, ?_, hkept, ?_⟩
  · intro i hi
    rw [hassign, hpair, Clause.assign_write? hW P hi]
  · rw [hkept, hassign, hbare, Clause.write?_sticky hW]
    split
    · next hmem => simp [Operator.written, hmem, Clause.getD_lastWrite?_sticky]
    · next hmem => simp [Operator.written, hmem, Clause.lastWrite?]

theorem change_clause_laws (hW : W ≠ []) (h₁ : W₁ ≠ []) (h₂ : W₂ ≠ []) (op : Operator)
    (P P₁ P₂ : List Permission) :
    ActsAs [layout ⟨W₁ ++ W₂, op, P⟩] [layout ⟨W₁, op, P⟩, layout ⟨W₂, op, P⟩] ∧
    ActsAs [layout ⟨W, .add, P₁ ++ P₂⟩] [layout ⟨W, .add, P₁⟩, layout ⟨W, .add, P₂⟩] ∧
    ActsAs [layout ⟨W, .remove, P₁ ++ P₂⟩] [layout ⟨W, .remove, P₁⟩, layout ⟨W, .remove, P₂⟩] ∧
    ActsAs [layout ⟨W, .assign, P₁ ++ P₂⟩] [layout ⟨W, .assign, P₁⟩, layout ⟨W, .add, P₂⟩] ∧
    (∀ who ∈ everyoneRuns, ∀ who' ∈ everyoneRuns,
      ActsAs [⟨who, op, P.map some⟩] [⟨who', op, P.map some⟩]) ∧
    ActsAsButSticky W [layout ⟨W, .assign, P⟩]
      [layout ⟨W, .remove, Permission.all⟩, layout ⟨W, .add, P⟩] :=
  ⟨actsAs_selectors h₁ h₂ op P, actsAs_permissions hW Operator.add_written_or P₁ P₂,
    actsAs_permissions hW Operator.remove_written_or P₁ P₂,
    actsAs_permissions hW Operator.assign_written_or P₁ P₂,
    fun _ h _ h' => actsAs_everyone h h' op _, actsAsButSticky_assign hW P⟩

def blankAndBare : Context where
  before := [⟨[none], .add, [some .execute]⟩]
  after := [⟨[], .remove, [some .write]⟩]
  symbolic := rfl

theorem change_clause_laws_sticky :
    ([.group, .other] : List Selector) ≠ [] ∧ ([.group] : List Selector) ≠ [] ∧
      ([.other, .everyone] : List Selector) ≠ [] ∧
    blankAndBare.fill [layout ⟨[.group, .other], .assign, [.read, .setId]⟩] = " +x,go=rs,-w" ∧
      (Mode.ofInt 0o1666).change {} " +x,go=rs,-w" = .ok (.ofInt 0o2544) ∧
      (Mode.ofInt 0o1666).change {} " +x,go-rwxs,go+rs,-w" = .ok (.ofInt 0o3544) ∧
      ActsAsButSticky [.group, .other] [layout ⟨[.group, .other], .assign, [.read, .setId]⟩]
        [layout ⟨[.group, .other], .remove, Permission.all⟩,
          layout ⟨[.group, .other], .add, [.read, .setId]⟩] ∧
    ActsAs [layout ⟨[.group, .other, .everyone], .remove, [.read, .setId]⟩]
      [layout ⟨[.group], .remove, [.read, .setId]⟩,
        layout ⟨[.other, .everyone], .remove, [.read, .setId]⟩] := by
  have hW : ([.group, .other] : List Selector) ≠ [] := by simp
  have h₁ : ([.group] : List Selector) ≠ [] := by simp
  have h₂ : ([.other, .everyone] : List Selector) ≠ [] := by simp
  obtain ⟨hselectors, -, -, -, -, hassign⟩ :=
    change_clause_laws hW h₁ h₂ .remove [.read, .setId] [] []
  exact ⟨hW, h₁, h₂, by decide, by decide, by decide, hassign, hselectors⟩

end

end FileMode
