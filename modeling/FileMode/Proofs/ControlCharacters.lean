import FileMode.Proofs.AuditTrail
import FileMode.Proofs.Language
import FileMode.Proofs.PlainText

/-! Which records of the log hold a control character, where no path does. A value that is refused
is quoted, and an accepted text holds none unless it is read leniently slot by slot, where a
character that is no letter asks for nothing. -/

namespace FileMode

def HasControl (s : String) : Prop := ∃ c ∈ s.toList, c < ' '

instance (s : String) : Decidable (HasControl s) :=
  List.decidableBEx (· < ' ') s.toList

lemma hasControl_append (s t : String) : HasControl (s ++ t) ↔ HasControl s ∨ HasControl t := by
  simp only [HasControl, String.toList_append, List.mem_append, or_and_right, exists_or]

lemma hasControl_iff (s : String) : HasControl s ↔ ¬ Plain s.toList := by
  simp [HasControl, Plain]

namespace Language

lemma plain_strictSlots {cs : List Char} (h : StrictSlots cs) : Plain cs := by
  intro c hc
  obtain ⟨i, hi⟩ := List.mem_iff_getElem?.mp hc
  rcases h.2 i c hi with rfl | hletter | ⟨rfl, _⟩
  · decide
  · have hletters : Plain Slot.letters := by decide
    exact hletters c (List.mem_of_getElem? hletter)
  · decide

lemma plain_numeral {cs : List Char} (h : Numeral cs) : Plain cs :=
  .of_zero_le fun c hc => (h.2 c hc).1

lemma plain_spell {α : Type} {L : Lettering α} (hL : ∀ a, ' ' ≤ L.char a)
    (run : List (Option α)) : Plain (L.spell run) := by
  intro c hc
  rcases L.mem_spell hc with rfl | ⟨a, rfl⟩
  · decide
  · exact hL a

lemma plain_layout (t : Layout) : Plain t.chars := by
  have hselectors : ∀ s : Selector, ' ' ≤ Selector.lettering.char s := by
    intro s
    cases s <;> decide
  have hpermissions : ∀ p : Permission, ' ' ≤ Permission.lettering.char p := by
    intro p
    cases p <;> decide
  have hoperator : ' ' ≤ t.operator.char := by
    cases t.operator <;> decide
  exact ((plain_spell hselectors t.who).append (.singleton hoperator)).append
    (plain_spell hpermissions t.permissions)

lemma plain_clauses {cs : List Char} (h : Clauses cs) : Plain cs := by
  have hjoined : [','].intercalate (cs.splitOn ',') = cs := List.intercalate_splitOn ','
  rw [← hjoined]
  refine Plain.intercalate (by decide) ?_
  intro segment hsegment
  obtain ⟨t, rfl⟩ := Grammar.mem_clause_iff.mp (h segment hsegment)
  exact plain_layout t

lemma plain_of_accepted {strict : Bool} {cs : List Char} (h : Accepted strict cs)
    (hread : Spec.form cs = .positional → strict = true) : Plain cs := by
  rw [Accepted] at h
  cases hform : Spec.form cs with
  | positional =>
    rw [hform, hread hform] at h
    exact plain_strictSlots h
  | octal =>
    rw [hform] at h
    exact plain_numeral h
  | symbolic =>
    rw [hform] at h
    exact plain_clauses h

end Language

def Argument.CarriesControl (o : Options) (spec : Argument) : Prop :=
  ∃ s, spec = .text s ∧ Spec.form s.toList = .positional ∧ o.strict = false ∧ HasControl s

lemma Mode.hasControl_iff_of_change {o : Options} {s : String} {m m' : Mode}
    (h : m.change o s = .ok m') : HasControl s ↔ (Argument.text s).CarriesControl o := by
  refine ⟨?_, ?_⟩
  · intro hcontrol
    have haccepted := (Language.change_isOk_iff o s m).mp ⟨m', h⟩
    have hread : ¬ (Spec.form s.toList = .positional → o.strict = true) := fun hread =>
      (hasControl_iff s).mp hcontrol (Language.plain_of_accepted haccepted hread)
    obtain ⟨hform, hstrict⟩ := Classical.not_imp.mp hread
    exact ⟨s, rfl, hform, Bool.eq_false_iff.mpr hstrict, hcontrol⟩
  · rintro ⟨t, hs, -, -, hcontrol⟩
    obtain rfl := Argument.text.inj hs
    exact hcontrol

namespace FileSystem

lemma not_hasControl_spelled (spec : Argument) : ¬ HasControl spec.spelled := by
  rw [hasControl_iff, not_not, Argument.spelled, String.toList_ofList]
  exact Argument.plain_spelling spec

lemma not_hasControl_of_written {width n : ℕ} {s : String} (h : Octal.Written width s n) :
    ¬ HasControl s := by
  rw [hasControl_iff, not_not]
  exact .of_zero_le fun c hc => (h.digits c hc).1

namespace Record

variable (path s : String) (spec : Argument)

lemma hasControl_chmodRefused : HasControl (chmodRefused path spec).text ↔ HasControl path := by
  simp +decide only [chmodRefused, hasControl_append, not_hasControl_spelled, false_or]

lemma hasControl_chmodDone (before after : Perms) :
    HasControl (chmodDone path before after s).text ↔ HasControl path ∨ HasControl s := by
  have hnumeral : ∀ p : Perms, ¬ HasControl (Octal.numeral p.toNat) :=
    fun p => not_hasControl_of_written (Octal.written_numeral _)
  simp +decide only [chmodDone, hasControl_append, hnumeral, false_or, or_false]

lemma hasControl_umaskRefused : ¬ HasControl (umaskRefused spec).text := by
  simp +decide only [umaskRefused, hasControl_append, not_hasControl_spelled, false_or]

lemma hasControl_umaskDone (before after : Mask) :
    HasControl (umaskDone before after s).text ↔ HasControl s := by
  have hnumeral : ∀ mask : Mask, ¬ HasControl mask.numeral :=
    fun mask => not_hasControl_of_written mask.written_numeral.1
  simp +decide only [umaskDone, hasControl_append, hnumeral, false_or, or_false]

end Record

section

variable {h : Host} {path : String} {spec : Argument} {o : Options} {record : Record}

lemma ChmodReply.hasControl_iff {reply : Reply Perms} (hreply : ChmodReply h path spec o reply)
    (hpath : ¬ HasControl path) (hrecord : record ∈ reply.log) :
    HasControl record.text ↔ record.level = .debug ∧ spec.CarriesControl o := by
  cases hreply with
  | refused =>
    obtain rfl := List.mem_singleton.mp hrecord
    rw [Record.hasControl_chmodRefused]
    exact iff_of_false hpath (nomatch ·.1)
  | done _ hspec _ hchange =>
    obtain rfl := List.mem_singleton.mp hrecord
    rw [Record.hasControl_chmodDone, hspec, ← Mode.hasControl_iff_of_change hchange]
    exact ⟨fun hor => ⟨rfl, hor.resolve_left hpath⟩, fun hand => Or.inr hand.2⟩
  | _ => cases hrecord

lemma UmaskReply.hasControl_iff {reply : Reply String} (hreply : UmaskReply h spec o reply)
    (hrecord : record ∈ reply.log) :
    HasControl record.text ↔ record.level = .debug ∧ spec.CarriesControl o := by
  cases hreply with
  | read => cases hrecord
  | refused =>
    obtain rfl := List.mem_singleton.mp hrecord
    exact iff_of_false (Record.hasControl_umaskRefused spec) (nomatch ·.1)
  | done hspec _ hchange =>
    obtain rfl := List.mem_singleton.mp hrecord
    rw [Record.hasControl_umaskDone, hspec, ← Mode.hasControl_iff_of_change hchange]
    exact ⟨fun hcontrol => ⟨rfl, hcontrol⟩, And.right⟩

end

end FileSystem

end FileMode
