import Mathlib

/-!
# Computations that may fail

How a computation of `Except` goes through: a bind goes through when both its steps do, a
conditional when its condition selects a branch that does, and a map over a list when its
function goes through on every item (`forall₂_of_mapM_eq_ok`, `mapM_eq_ok_of_forall₂`).
-/

namespace CatalogSync

variable {ε α β γ : Type}

theorem bind_eq_ok_iff {x : Except ε α} {f : α → Except ε β} {b : β} :
    (x >>= f) = .ok b ↔ ∃ a, x = .ok a ∧ f a = .ok b := by
  cases x <;> simp [bind, Except.bind]

theorem ite_error_eq_ok_iff {p : Prop} [Decidable p] {a : Except ε α} {e : ε} {b : α} :
    (if p then a else .error e) = .ok b ↔ p ∧ a = .ok b := by
  by_cases hp : p <;> simp [hp]

theorem ite_eq_ok_of_error_iff {p : Prop} [Decidable p] {a : Except ε α} {e : ε} {b : α} :
    (if p then .error e else a) = .ok b ↔ ¬p ∧ a = .ok b := by
  by_cases hp : p <;> simp [hp]

theorem ite_ok_eq_ok_iff {p : Prop} [Decidable p] {a b : α} {e : ε} :
    (if p then (Except.ok a : Except ε α) else .error e) = .ok b ↔ p ∧ a = b := by
  by_cases hp : p <;> simp [hp]

theorem ite_ok_error_bind {p : Prop} [Decidable p] {a : α} {e : ε} {f : α → Except ε β} :
    ((if p then .ok a else .error e) >>= f) = if p then f a else .error e := by
  by_cases hp : p <;> simp [hp, bind, Except.bind]

theorem throw_eq_error (e : ε) : (throw e : Except ε α) = .error e := rfl

theorem error_bind (e : ε) (f : α → Except ε β) : (Except.error e >>= f) = .error e := rfl

theorem pure_eq_ok (a : α) : (pure a : Except ε α) = .ok a := rfl

/-- A map that goes through gives, item by item, what its function gives. -/
theorem forall₂_of_mapM_eq_ok {f : α → Except ε β} :
    ∀ {xs : List α} {ys : List β}, xs.mapM f = .ok ys → List.Forall₂ (fun x y => f x = .ok y) xs ys
  | [], ys, h => by
    simp only [List.mapM_nil, pure, Except.pure, Except.ok.injEq] at h
    subst h
    exact .nil
  | x :: xs, ys, h => by
    rw [List.mapM_cons, bind_eq_ok_iff] at h
    obtain ⟨y, hy, h⟩ := h
    rw [bind_eq_ok_iff] at h
    obtain ⟨ys', hys', h⟩ := h
    simp only [pure, Except.pure, Except.ok.injEq] at h
    subst h
    exact .cons hy (forall₂_of_mapM_eq_ok hys')

/-- A map goes through when its function goes through on every item. -/
theorem mapM_eq_ok_of_forall₂ {f : α → Except ε β} :
    ∀ {xs : List α} {ys : List β}, List.Forall₂ (fun x y => f x = .ok y) xs ys → xs.mapM f = .ok ys
  | [], [], _ => rfl
  | x :: xs, y :: ys, h => by
    obtain ⟨hy, hys⟩ := List.forall₂_cons.mp h
    simp [List.mapM_cons, hy, mapM_eq_ok_of_forall₂ hys, bind, Except.bind, pure, Except.pure]

theorem exists_forall₂_iff {R : α → β → Prop} :
    ∀ {xs : List α}, (∃ ys, List.Forall₂ R xs ys) ↔ ∀ x ∈ xs, ∃ y, R x y
  | [] => by simp
  | x :: xs => by
    simp only [List.mem_cons, forall_eq_or_imp, ← exists_forall₂_iff]
    constructor
    · rintro ⟨_ | ⟨y, ys⟩, h⟩
      · cases h
      · obtain ⟨hxy, hrest⟩ := List.forall₂_cons.mp h
        exact ⟨⟨y, hxy⟩, ys, hrest⟩
    · rintro ⟨⟨y, hxy⟩, ys, hrest⟩
      exact ⟨y :: ys, List.Forall₂.cons hxy hrest⟩

theorem exists_of_mem_forall₂ {R : α → β → Prop} {xs : List α} {ys : List β}
    (h : List.Forall₂ R xs ys) {y : β} (hy : y ∈ ys) : ∃ x ∈ xs, R x y := by
  induction h with
  | nil => simp at hy
  | @cons x y' xs ys hxy _ ih =>
    rcases List.mem_cons.mp hy with rfl | hy
    · exact ⟨x, by simp, hxy⟩
    · obtain ⟨x', hx', hR⟩ := ih hy
      exact ⟨x', by simp [hx'], hR⟩

theorem map_eq_of_forall₂ {R : α → β → Prop} {xs : List α} {ys : List β}
    (h : List.Forall₂ R xs ys) {f : α → γ} {g : β → γ} (hR : ∀ x y, R x y → g y = f x) :
    ys.map g = xs.map f := by
  induction h with
  | nil => rfl
  | cons hxy _ ih => rw [List.map_cons, List.map_cons, hR _ _ hxy, ih]

end CatalogSync
