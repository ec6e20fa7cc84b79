import Mathlib.Data.List.Forall2

namespace FileMode.Traversal

variable {α β ε : Type} {f : α → Except ε β}

lemma map_isOk_iff {x : Except ε α} (g : α → β) : (∃ b, g <$> x = .ok b) ↔ ∃ a, x = .ok a := by
  cases x <;> simp [Functor.map, Except.map]

lemma map_eq_ok_iff {x : Except ε α} (g : α → β) {b : β} :
    g <$> x = .ok b ↔ ∃ a, x = .ok a ∧ g a = b := by
  cases x <;> simp [Functor.map, Except.map]

lemma map_eq_error_iff {x : Except ε α} (g : α → β) {e : ε} :
    g <$> x = .error e ↔ x = .error e := by
  cases x <;> simp [Functor.map, Except.map]

lemma mapM_cons_ok {x : α} {y : β} (xs : List α) (h : f x = .ok y) :
    (x :: xs).mapM f = (xs.mapM f).map (y :: ·) := by
  rw [List.mapM_cons, h]
  change (xs.mapM f >>= fun ys => Except.ok (y :: ys)) = _
  cases xs.mapM f <;> rfl

lemma mapM_cons_error {x : α} {e : ε} (xs : List α) (h : f x = .error e) :
    (x :: xs).mapM f = .error e := by
  rw [List.mapM_cons, h]
  rfl

lemma mapM_map_eq {γ : Type} (g : β → γ) (xs : List α) :
    xs.mapM (fun x => g <$> f x) = List.map g <$> xs.mapM f := by
  induction xs with
  | nil => rfl
  | cons x xs ih =>
    rw [List.mapM_cons, List.mapM_cons, ih]
    cases f x with
    | error e => rfl
    | ok y => cases xs.mapM f <;> rfl

lemma mapM_eq_ok_iff {xs : List α} {ys : List β} :
    xs.mapM f = .ok ys ↔ List.Forall₂ (fun x y => f x = .ok y) xs ys := by
  induction xs generalizing ys with
  | nil =>
    rw [List.forall₂_nil_left_iff]
    exact ⟨fun h => (Except.ok.inj h).symm, fun h => h ▸ rfl⟩
  | cons x xs ih =>
    rw [List.forall₂_cons_left_iff]
    cases hx : f x with
    | error e => simp [mapM_cons_error xs hx]
    | ok y =>
      rw [mapM_cons_ok xs hx]
      cases hxs : xs.mapM f with
      | error e => simp [← ih, hxs, Except.map]
      | ok zs => simp [← ih, hxs, Except.map, eq_comm]

lemma mapM_isOk_iff {xs : List α} : (∃ ys, xs.mapM f = .ok ys) ↔ ∀ x ∈ xs, ∃ y, f x = .ok y := by
  induction xs with
  | nil => exact ⟨fun _ x hx => (List.not_mem_nil hx).elim, fun _ => ⟨[], rfl⟩⟩
  | cons x xs ih =>
    rw [List.forall_mem_cons, ← ih]
    cases hx : f x with
    | error e => simp [mapM_cons_error xs hx]
    | ok y =>
      rw [mapM_cons_ok xs hx]
      cases xs.mapM f <;> simp [Except.map]

lemma exists_mem_of_forall₂ {R : α → β → Prop} {xs : List α} {ys : List β}
    (h : List.Forall₂ R xs ys) {y : β} (hy : y ∈ ys) : ∃ x ∈ xs, R x y := by
  induction h with
  | nil => cases hy
  | @cons x z xs zs hx _ ih =>
    rcases List.mem_cons.mp hy with rfl | hy
    · exact ⟨x, by simp, hx⟩
    · obtain ⟨x', hmem, hx'⟩ := ih hy
      exact ⟨x', by simp [hmem], hx'⟩

lemma exists_mem_of_mapM {xs : List α} {ys : List β} (h : xs.mapM f = .ok ys) {y : β}
    (hy : y ∈ ys) : ∃ x ∈ xs, f x = .ok y :=
  exists_mem_of_forall₂ (mapM_eq_ok_iff.mp h) hy

lemma exists_mem_of_mem {xs : List α} {ys : List β} (h : xs.mapM f = .ok ys) {x : α}
    (hx : x ∈ xs) : ∃ y ∈ ys, f x = .ok y :=
  exists_mem_of_forall₂ (mapM_eq_ok_iff.mp h).flip hx

lemma mapM_eq_error_iff {xs : List α} {e : ε} :
    xs.mapM f = .error e ↔ ∃ before x after, xs = before ++ x :: after ∧
      (∀ a ∈ before, ∃ b, f a = .ok b) ∧ f x = .error e := by
  induction xs with
  | nil =>
    refine ⟨?_, ?_⟩
    · intro h
      cases h
    · rintro ⟨before, x, after, h, _⟩
      simp at h
  | cons x xs ih =>
    refine ⟨?_, ?_⟩
    · intro h
      cases hx : f x with
      | error e' =>
        rw [mapM_cons_error xs hx] at h
        cases h
        exact ⟨[], x, xs, rfl, by simp, hx⟩
      | ok y =>
        rw [mapM_cons_ok xs hx] at h
        cases hxs : xs.mapM f with
        | ok ys => simp [hxs, Except.map] at h
        | error e' =>
          obtain rfl : e' = e := by simpa [hxs, Except.map] using h
          obtain ⟨before, z, after, rfl, hbefore, hz⟩ := ih.mp hxs
          refine ⟨x :: before, z, after, rfl, ?_, hz⟩
          intro a ha
          rcases List.mem_cons.mp ha with rfl | ha
          · exact ⟨y, hx⟩
          · exact hbefore a ha
    · rintro ⟨before, z, after, h, hbefore, hz⟩
      cases before with
      | nil =>
        obtain ⟨rfl, rfl⟩ := List.cons.inj h
        exact mapM_cons_error xs hz
      | cons w before =>
        obtain ⟨rfl, rfl⟩ := List.cons.inj h
        obtain ⟨y, hy⟩ := hbefore x (by simp)
        have htail := ih.mpr ⟨before, z, after, rfl, fun a ha => hbefore a (by simp [ha]), hz⟩
        rw [mapM_cons_ok _ hy, htail]
        rfl

end FileMode.Traversal
