import FileMode.Argument
import Mathlib.Data.List.OfFn

namespace FileMode

def Plain (cs : List Char) : Prop := ∀ c ∈ cs, ' ' ≤ c

instance (cs : List Char) : Decidable (Plain cs) := List.decidableBAll (' ' ≤ ·) cs

namespace Plain

variable {c : Char} {cs ds : List Char}

lemma cons (hc : ' ' ≤ c) (h : Plain cs) : Plain (c :: cs) := List.forall_mem_cons.mpr ⟨hc, h⟩

lemma singleton (hc : ' ' ≤ c) : Plain [c] := List.forall_mem_singleton.mpr hc

lemma append (h : Plain cs) (h' : Plain ds) : Plain (cs ++ ds) :=
  List.forall_mem_append.mpr ⟨h, h'⟩

lemma replicate (hc : ' ' ≤ c) (n : ℕ) : Plain (List.replicate n c) :=
  fun _ hmem => List.eq_of_mem_replicate hmem ▸ hc

lemma of_zero_le (h : ∀ d ∈ cs, '0' ≤ d) : Plain cs :=
  fun d hd => Char.le_trans (by decide) (h d hd)

lemma intercalate {separator : List Char} (hseparator : Plain separator)
    {pieces : List (List Char)} (h : ∀ piece ∈ pieces, Plain piece) :
    Plain (separator.intercalate pieces) := by
  induction pieces with
  | nil => exact nofun
  | cons piece pieces ih =>
    obtain ⟨hpiece, hpieces⟩ := List.forall_mem_cons.mp h
    cases pieces with
    | nil =>
      rw [List.intercalate_singleton]
      exact hpiece
    | cons next pieces =>
      rw [List.intercalate_cons_cons]
      exact (hpiece.append hseparator).append (ih hpieces)

end Plain

namespace CharSet

lemma holds_of_lt {b n : ℕ} (bs : List ℕ) (h : n < b) : holds (b :: bs) n = false := by
  simp [holds, Nat.not_le.mpr h]

lemma printable_of_lt_space {c : Char} (h : c.toNat < 0x20) : printable.contains c = false :=
  holds_of_lt _ h

end CharSet

lemma plain_digitChar (d : ℕ) : ' ' ≤ Nat.digitChar d := by
  by_cases hd : d < 16
  · have hall : ∀ d : Fin 16, ' ' ≤ Nat.digitChar d := by decide
    exact hall ⟨d, hd⟩
  · rw [Nat.digitChar_eq_star.mpr (by omega)]
    decide

namespace Quoted

lemma plain_hexDigits (width n : ℕ) : Plain (hexDigits width n) := by
  induction width generalizing n with
  | zero => exact nofun
  | succ width ih => exact (ih (n / 16)).append (.singleton (plain_digitChar _))

lemma plain_codeEscape (n : ℕ) : Plain (codeEscape n) := by
  rw [codeEscape]
  split
  · exact .cons (by decide) (.cons (by decide) (plain_hexDigits 2 n))
  · split
    · exact .cons (by decide) (.cons (by decide) (plain_hexDigits 4 n))
    · exact .cons (by decide) (.cons (by decide) (plain_hexDigits 8 n))

lemma delimiter_plain (cs : List Char) : ' ' ≤ delimiter cs := by
  rw [delimiter]
  split <;> decide

lemma plain_of_printable {c : Char} (h : CharSet.printable.contains c = true) : ' ' ≤ c := by
  apply Char.not_lt.mp
  intro hlt
  rw [CharSet.printable_of_lt_space hlt] at h
  cases h

lemma plain_encodeChar {mark : Char} (hmark : ' ' ≤ mark) (c : Char) :
    Plain (encodeChar mark c) := by
  rw [encodeChar]
  split
  · next hc =>
    have hplain : ' ' ≤ c := by
      rcases hc with rfl | rfl
      · decide
      · exact hmark
    exact .cons (by decide) (.singleton hplain)
  split
  · decide
  split
  · decide
  split
  · decide
  split
  · next hc => exact .singleton (plain_of_printable hc)
  · exact plain_codeEscape _

lemma plain_encode (cs : List Char) : Plain (encode cs) := by
  have hmark := delimiter_plain cs
  refine .cons hmark (.append ?_ (.singleton hmark))
  intro c hc
  obtain ⟨d, _, hc⟩ := List.mem_flatMap.mp hc
  exact plain_encodeChar hmark d c hc

end Quoted

lemma plain_toDigits (n : ℕ) : Plain (Nat.toDigits 10 n) := by
  refine .of_zero_le fun c hc => ?_
  have hdigit := Nat.isDigit_of_mem_toDigits (by decide) (by decide) hc
  rw [Char.isDigit, Bool.and_eq_true, decide_eq_true_eq] at hdigit
  exact hdigit.1

namespace Decimal

lemma plain_digitChars (digits : List (Fin 10)) : Plain (digitChars digits) := by
  intro c hc
  obtain ⟨k, _, rfl⟩ := List.mem_map.mp hc
  exact plain_digitChar k

lemma plain_sign (negative : Bool) : Plain (sign negative) := by
  cases negative <;> decide

lemma plain_positional (exponent : ℤ) {digits : List Char} (h : Plain digits) :
    Plain (positional exponent digits) := by
  cases exponent with
  | ofNat n =>
    have hwhole : Plain ((digits.take (n + 1)).rightpad (n + 1) '0') :=
      .append (fun c hc => h c (List.mem_of_mem_take hc)) (.replicate (by decide) _)
    refine hwhole.append (.cons (by decide) ?_)
    split
    · decide
    · exact fun c hc => h c (List.mem_of_mem_drop hc)
  | negSucc n =>
    exact .cons (by decide) (.cons (by decide) (.append (.replicate (by decide) n) h))

lemma plain_scientific (exponent : ℤ) {lead : Char} {rest : List Char} (hlead : ' ' ≤ lead)
    (hrest : Plain rest) : Plain (scientific exponent lead rest) := by
  have hfraction : Plain (if rest.isEmpty then [] else '.' :: rest) := by
    split
    · exact nofun
    · exact .cons (by decide) hrest
  have hmark : ' ' ≤ if exponent < 0 then '-' else '+' := by
    split <;> decide
  have hexponent : Plain ((Nat.toDigits 10 exponent.natAbs).leftpad 2 '0') :=
    .append (.replicate (by decide) _) (plain_toDigits _)
  exact .cons hlead (hfraction.append (.cons (by decide) (.cons hmark hexponent)))

lemma plain_spelling (d : Decimal) : Plain d.spelling := by
  refine (plain_sign d.negative).append ?_
  split
  · exact plain_positional _ (plain_digitChars _)
  · exact plain_scientific _ (plain_digitChar _) (plain_digitChars _)

end Decimal

lemma Floating.plain_spelling (x : Floating) : Plain x.spelling := by
  cases x with
  | decimal d => exact d.plain_spelling
  | infinite negative => exact (Decimal.plain_sign negative).append (by decide)
  | nan => decide

namespace Argument

lemma plain_intSpelling (n : ℤ) : Plain (intSpelling n) :=
  (Decimal.plain_sign _).append (plain_toDigits _)

lemma separated_eq_intercalate (pieces : List (List Char)) :
    separated pieces = [',', ' '].intercalate pieces := by
  fun_induction separated pieces with
  | case1 => rfl
  | case2 cs => rw [List.intercalate_singleton]
  | case3 cs ds rest ih =>
    rw [ih, List.intercalate_cons_cons, List.append_assoc]
    rfl

lemma plain_separated {pieces : List (List Char)} (h : ∀ piece ∈ pieces, Plain piece) :
    Plain (separated pieces) := by
  rw [separated_eq_intercalate]
  exact Plain.intercalate (by decide) h

mutual

lemma plain_spelling : (a : Argument) → Plain a.spelling
  | .null => by decide
  | .bool true => by decide
  | .bool false => by decide
  | .int n => plain_intSpelling n
  | .float x => x.plain_spelling
  | .text s => Quoted.plain_encode s.toList
  | .list items => by
    rw [spelling]
    exact .cons (by decide) (.append (plain_separated (plain_itemSpellings items)) (by decide))
  | .record keys _ value => by
    rw [spelling]
    refine .cons (by decide) (.append (plain_separated ?_) (by decide))
    rw [List.forall_mem_ofFn_iff]
    exact fun i => .append (Quoted.plain_encode _)
      (.cons (by decide) (.cons (by decide) (plain_spelling (value i))))

lemma plain_itemSpellings : (items : List Argument) → ∀ piece ∈ itemSpellings items, Plain piece
  | [] => nofun
  | a :: items => List.forall_mem_cons.mpr ⟨plain_spelling a, plain_itemSpellings items⟩

end

end Argument

end FileMode
