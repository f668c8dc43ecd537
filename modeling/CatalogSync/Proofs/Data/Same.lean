import Mathlib
import CatalogSync.Data.Value

/-!
# Equal values

`Value.same` is the equality of data values under which a configuration's names are compared:
a replication names its sites by values equal to theirs, and the sites of a configuration are
kept under their names as under the keys of a dictionary. Booleans, integers and doubles
compare as numbers, exactly: a double stands for a rational or an infinity
(`Numeric.exact`), and two numbers are equal when they stand for the same one
(`compare?_eq_iff`); not a number equals nothing, itself included.

On values that can be hashed, those with no list, mapping or set inside, equality is
symmetric and transitive (`same_symm`, `same_trans`), and equal values are both set or both
unset (`truthy_eq_of_same`). Lists and mappings are left out: a set with a repeated member is
equal to a set without one but not the other way round.
-/

namespace CatalogSync

namespace Binary64

/-- The rational number an exact fraction stands for. -/
def fractionValue (p : Int × Nat) : ℚ := p.1 / p.2

theorem fraction_den_pos (negative : Bool) (m : Nat) (e : Int) :
    0 < (Decoded.fraction negative m e).2 := by
  unfold Decoded.fraction
  split_ifs <;> simp

theorem compareFractions_eq_iff {a b : Int × Nat} (ha : 0 < a.2) (hb : 0 < b.2) :
    compareFractions a b = .eq ↔ fractionValue a = fractionValue b := by
  unfold compareFractions fractionValue
  rw [compare_eq_iff_eq, div_eq_div_iff (by exact_mod_cast ha.ne') (by exact_mod_cast hb.ne')]
  simp only [Int.ofNat_eq_natCast]
  norm_cast

theorem fractionValue_eq_zero_iff (negative : Bool) (m : Nat) (e : Int) :
    fractionValue (Decoded.fraction negative m e) = 0 ↔ m = 0 := by
  have hden := fraction_den_pos negative m e
  unfold fractionValue
  rw [div_eq_zero_iff]
  simp only [Nat.cast_eq_zero, hden.ne', or_false, Int.cast_eq_zero]
  unfold Decoded.fraction
  split_ifs <;> simp

end Binary64

namespace Stamp

theorem same_symm {a b : Stamp} (h : a.same b = true) : b.same a = true := by
  unfold same at h ⊢
  cases ha : a.offset <;> cases hb : b.offset <;> simp_all

theorem same_trans {a b c : Stamp} (hab : a.same b = true) (hbc : b.same c = true) :
    a.same c = true := by
  unfold same at hab hbc ⊢
  cases ha : a.offset <;> cases hb : b.offset <;> cases hc : c.offset <;> simp_all

end Stamp

namespace Value

/-! ## Numbers by their exact values -/

/-- The exact number a number stands for: a rational, an infinity (`true` for the negative
one), or nothing for not a number. -/
def Numeric.exact : Numeric → Option (Bool ⊕ ℚ)
  | .int n => some (.inr n)
  | .float x =>
    match Binary64.decode x with
    | .nan => none
    | .infinite negative => some (.inl negative)
    | .finite negative m e =>
      some (.inr (Binary64.fractionValue (Binary64.Decoded.fraction negative m e)))

theorem compareInt_eq_iff {x : Float} {i : Int} :
    Binary64.compareInt x i = some .eq ↔ (Numeric.float x).exact = some (.inr i) := by
  cases hx : Binary64.decode x with
  | nan => simp [Binary64.compareInt, Numeric.exact, hx]
  | infinite negative => cases negative <;> simp [Binary64.compareInt, Numeric.exact, hx]
  | finite negative m e =>
    simp only [Binary64.compareInt, Numeric.exact, hx, Option.some.injEq, Sum.inr.injEq]
    rw [Binary64.compareFractions_eq_iff (Binary64.fraction_den_pos _ _ _) (by simp)]
    simp [Binary64.fractionValue]

theorem compareFloat_eq_iff {x y : Float} :
    Binary64.compareFloat x y = some .eq ↔
      ∃ v, (Numeric.float x).exact = some v ∧ (Numeric.float y).exact = some v := by
  cases hx : Binary64.decode x with
  | nan => simp [Binary64.compareFloat, Numeric.exact, hx]
  | infinite a =>
    cases hy : Binary64.decode y with
    | nan => simp [Binary64.compareFloat, Numeric.exact, hx, hy]
    | infinite b => cases a <;> cases b <;> simp [Binary64.compareFloat, Numeric.exact, hx, hy]
    | finite b n f => cases a <;> simp [Binary64.compareFloat, Numeric.exact, hx, hy]
  | finite a m e =>
    cases hy : Binary64.decode y with
    | nan => simp [Binary64.compareFloat, Numeric.exact, hx, hy]
    | infinite b => cases b <;> simp [Binary64.compareFloat, Numeric.exact, hx, hy]
    | finite b n f =>
      simp only [Binary64.compareFloat, Numeric.exact, hx, hy, Option.some.injEq]
      rw [Binary64.compareFractions_eq_iff (Binary64.fraction_den_pos _ _ _)
        (Binary64.fraction_den_pos _ _ _)]
      simp [eq_comm]

/-- Two numbers compare equal exactly when they stand for one exact number; not a number
equals nothing. -/
theorem compare?_eq_iff {x y : Numeric} :
    x.compare? y = some .eq ↔ ∃ v, x.exact = some v ∧ y.exact = some v := by
  cases x with
  | int a =>
    cases y with
    | int b =>
      simp [Numeric.compare?, Numeric.exact]
      exact eq_comm
    | float y =>
      have hswap : ∀ o : Option Ordering, o.map Ordering.swap = some .eq ↔ o = some .eq := by
        intro o
        rcases o with _ | _ | _ | _ <;> simp [Ordering.swap]
      simp only [Numeric.compare?, hswap, compareInt_eq_iff]
      simp [Numeric.exact, eq_comm]
  | float x =>
    cases y with
    | int b =>
      simp only [Numeric.compare?, compareInt_eq_iff]
      simp [Numeric.exact]
    | float y => exact compareFloat_eq_iff

theorem compare?_eq_symm {x y : Numeric} (h : x.compare? y = some .eq) :
    y.compare? x = some .eq := by
  obtain ⟨v, hx, hy⟩ := compare?_eq_iff.mp h
  exact compare?_eq_iff.mpr ⟨v, hy, hx⟩

theorem compare?_eq_trans {x y z : Numeric} (hxy : x.compare? y = some .eq)
    (hyz : y.compare? z = some .eq) : x.compare? z = some .eq := by
  obtain ⟨v, hx, hy⟩ := compare?_eq_iff.mp hxy
  obtain ⟨w, hy', hz⟩ := compare?_eq_iff.mp hyz
  have hvw : v = w := Option.some.inj (hy.symm.trans hy')
  exact compare?_eq_iff.mpr ⟨v, hx, hvw ▸ hz⟩

theorem truthy_iff_of_numeric? {a : Value} {x : Numeric} (h : a.numeric? = some x) :
    a.truthy = true ↔ x.exact ≠ some (.inr 0) := by
  cases a with
  | bool b =>
    simp only [numeric?, Option.some.injEq] at h
    subst h
    cases b <;> simp [truthy, Numeric.exact]
  | int n =>
    simp only [numeric?, Option.some.injEq] at h
    subst h
    simp [truthy, Numeric.exact]
  | float f =>
    simp only [numeric?, Option.some.injEq] at h
    subst h
    cases hf : Binary64.decode f with
    | nan => simp [truthy, Binary64.isZero, Numeric.exact, hf]
    | infinite negative => simp [truthy, Binary64.isZero, Numeric.exact, hf]
    | finite negative m e =>
      simp [truthy, Binary64.isZero, Numeric.exact, hf, Binary64.fractionValue_eq_zero_iff]
  | _ => simp [numeric?] at h

/-! ## Equal values -/

@[simp] theorem same_null : same .null .null = true := rfl
@[simp] theorem same_str (s t : String) : same (.str s) (.str t) = (s == t) := rfl
@[simp] theorem same_date (y m d y' m' d' : Nat) :
    same (.date y m d) (.date y' m' d') = (y == y' && m == m' && d == d') := rfl
@[simp] theorem same_stamp (s t : Stamp) : same (.stamp s) (.stamp t) = s.same t := rfl
@[simp] theorem same_bytes (a b : List UInt8) : same (.bytes a) (.bytes b) = (a == b) := rfl
@[simp] theorem same_tuple (xs ys : List Value) :
    same (.tuple xs) (.tuple ys) = sameItems xs ys := rfl

@[simp] theorem sameItems_nil : sameItems [] [] = true := rfl
@[simp] theorem sameItems_cons (x y : Value) (xs ys : List Value) :
    sameItems (x :: xs) (y :: ys) = (same x y && sameItems xs ys) := rfl
@[simp] theorem sameItems_nil_cons (y : Value) (ys : List Value) :
    sameItems [] (y :: ys) = false := rfl
@[simp] theorem sameItems_cons_nil (x : Value) (xs : List Value) :
    sameItems (x :: xs) [] = false := rfl

theorem same_numeric {a b : Value} {x y : Numeric} (ha : a.numeric? = some x)
    (hb : b.numeric? = some y) : same a b = (x.compare? y == some .eq) := by
  cases a <;> cases b <;> cases ha <;> cases hb <;> rfl

/-! What a value equal to a given one is: the same kind of value, a number for a number. -/

theorem eq_null_of_same {c : Value} (h : same .null c = true) : c = .null := by
  cases c with
  | null => rfl
  | _ => cases h

theorem eq_str_of_same {s : String} {c : Value} (h : same (.str s) c = true) : c = .str s := by
  cases c with
  | str t => rw [same_str, beq_iff_eq] at h; rw [h]
  | _ => cases h

theorem eq_date_of_same {y m d : Nat} {c : Value} (h : same (.date y m d) c = true) :
    c = .date y m d := by
  cases c with
  | date y' m' d' =>
    simp only [same_date, Bool.and_eq_true, beq_iff_eq] at h
    obtain ⟨⟨rfl, rfl⟩, rfl⟩ := h
    rfl
  | _ => cases h

theorem eq_stamp_of_same {s : Stamp} {c : Value} (h : same (.stamp s) c = true) :
    ∃ t, c = .stamp t ∧ s.same t = true := by
  cases c with
  | stamp t => exact ⟨t, rfl, h⟩
  | _ => cases h

theorem eq_bytes_of_same {b : List UInt8} {c : Value} (h : same (.bytes b) c = true) :
    c = .bytes b := by
  cases c with
  | bytes b' => rw [same_bytes, beq_iff_eq] at h; rw [h]
  | _ => cases h

theorem eq_tuple_of_same {xs : List Value} {c : Value} (h : same (.tuple xs) c = true) :
    ∃ ys, c = .tuple ys ∧ sameItems xs ys = true := by
  cases c with
  | tuple ys => exact ⟨ys, rfl, h⟩
  | _ => cases h

theorem numeric_of_same {a c : Value} {x : Numeric} (ha : a.numeric? = some x)
    (h : same a c = true) : ∃ y, c.numeric? = some y ∧ x.compare? y = some .eq := by
  cases hc : c.numeric? with
  | none => cases a <;> cases ha <;> cases c <;> first | cases h | cases hc
  | some y => exact ⟨y, rfl, by rwa [same_numeric ha hc, beq_iff_eq] at h⟩

theorem unhashableIn_eq_none {xs : List Value} :
    unhashable?.unhashableIn xs = none ↔ ∀ x ∈ xs, x.unhashable? = none := by
  induction xs with
  | nil => simp [unhashable?.unhashableIn]
  | cons x xs ih => simp [unhashable?.unhashableIn, ih]

theorem length_eq_of_sameItems {xs ys : List Value} (h : sameItems xs ys = true) :
    xs.length = ys.length := by
  induction xs generalizing ys with
  | nil => cases ys <;> simp_all
  | cons x xs ih =>
    cases ys with
    | nil => simp at h
    | cons y ys =>
      simp only [sameItems_cons, Bool.and_eq_true] at h
      simp [ih h.2]

theorem sameItems_symm_of {xs ys : List Value}
    (hsymm : ∀ x ∈ xs, ∀ y, same x y = true → same y x = true) (h : sameItems xs ys = true) :
    sameItems ys xs = true := by
  induction xs generalizing ys with
  | nil => cases ys <;> simp_all
  | cons x xs ih =>
    cases ys with
    | nil => simp at h
    | cons y ys =>
      simp only [sameItems_cons, Bool.and_eq_true] at h ⊢
      exact ⟨hsymm x (by simp) y h.1, ih (fun x' hx' => hsymm x' (by simp [hx'])) h.2⟩

theorem sameItems_trans_of {xs ys zs : List Value}
    (htrans : ∀ x ∈ xs, ∀ y ∈ ys, ∀ z, same x y = true → same y z = true → same x z = true)
    (hxy : sameItems xs ys = true) (hyz : sameItems ys zs = true) : sameItems xs zs = true := by
  induction xs generalizing ys zs with
  | nil => cases ys <;> cases zs <;> simp_all
  | cons x xs ih =>
    cases ys with
    | nil => simp at hxy
    | cons y ys =>
      cases zs with
      | nil => simp at hyz
      | cons z zs =>
        simp only [sameItems_cons, Bool.and_eq_true] at hxy hyz ⊢
        exact ⟨htrans x (by simp) y (by simp) z hxy.1 hyz.1,
          ih (fun x' hx' y' hy' => htrans x' (by simp [hx']) y' (by simp [hy'])) hxy.2 hyz.2⟩

/-- Equality of values that can be hashed is symmetric. -/
theorem same_symm {a b : Value} (ha : a.unhashable? = none) (h : same a b = true) :
    same b a = true := by
  match a, ha with
  | .null, _ => rw [eq_null_of_same h]; exact same_null
  | .bool _, _ | .int _, _ | .float _, _ =>
    obtain ⟨y, hy, hxy⟩ := numeric_of_same rfl h
    rw [same_numeric hy rfl, compare?_eq_symm hxy]
    rfl
  | .str s, _ => rw [eq_str_of_same h]; simp
  | .date .., _ => rw [eq_date_of_same h]; simp
  | .stamp s, _ =>
    obtain ⟨t, rfl, hst⟩ := eq_stamp_of_same h
    simpa using Stamp.same_symm hst
  | .bytes _, _ => rw [eq_bytes_of_same h]; simp
  | .tuple xs, ha =>
    obtain ⟨ys, rfl, hitems⟩ := eq_tuple_of_same h
    have hmembers := unhashableIn_eq_none.mp ha
    rw [same_tuple]
    exact sameItems_symm_of (fun x hx y hxy => same_symm (hmembers x hx) hxy) hitems
termination_by sizeOf a
decreasing_by
  have := List.sizeOf_lt_of_mem hx
  simp only [tuple.sizeOf_spec]
  omega


/-- Equality of values that can be hashed is transitive. -/
theorem same_trans {a b c : Value} (ha : a.unhashable? = none) (hb : b.unhashable? = none)
    (hab : same a b = true) (hbc : same b c = true) : same a c = true := by
  match a, ha with
  | .null, _ => rw [eq_null_of_same hab] at hbc; exact hbc
  | .bool _, _ | .int _, _ | .float _, _ =>
    obtain ⟨y, hy, hxy⟩ := numeric_of_same rfl hab
    obtain ⟨z, hz, hyz⟩ := numeric_of_same hy hbc
    rw [same_numeric rfl hz, compare?_eq_trans hxy hyz]
    rfl
  | .str s, _ => rw [eq_str_of_same hab] at hbc; exact hbc
  | .date .., _ => rw [eq_date_of_same hab] at hbc; exact hbc
  | .stamp s, _ =>
    obtain ⟨t, rfl, hst⟩ := eq_stamp_of_same hab
    obtain ⟨u, rfl, htu⟩ := eq_stamp_of_same hbc
    simpa using Stamp.same_trans hst htu
  | .bytes _, _ => rw [eq_bytes_of_same hab] at hbc; exact hbc
  | .tuple xs, ha =>
    obtain ⟨ys, rfl, hxy⟩ := eq_tuple_of_same hab
    obtain ⟨zs, rfl, hyz⟩ := eq_tuple_of_same hbc
    have hxs := unhashableIn_eq_none.mp ha
    have hys := unhashableIn_eq_none.mp hb
    rw [same_tuple]
    exact sameItems_trans_of (fun x hx y hy z h₁ h₂ => same_trans (hxs x hx) (hys y hy) h₁ h₂)
      hxy hyz
termination_by sizeOf a
decreasing_by
  have := List.sizeOf_lt_of_mem hx
  simp only [tuple.sizeOf_spec]
  omega

/-- Equal values that can be hashed are both set or both unset. -/
theorem truthy_eq_of_same {a b : Value} (ha : a.unhashable? = none) (h : same a b = true) :
    a.truthy = b.truthy := by
  match a, ha with
  | .null, _ => rw [eq_null_of_same h]
  | .bool _, _ | .int _, _ | .float _, _ =>
    obtain ⟨y, hy, hxy⟩ := numeric_of_same rfl h
    obtain ⟨v, hx, hy'⟩ := compare?_eq_iff.mp hxy
    rw [Bool.eq_iff_iff, truthy_iff_of_numeric? rfl, truthy_iff_of_numeric? hy, hx, hy']
  | .str s, _ => rw [eq_str_of_same h]
  | .date .., _ => rw [eq_date_of_same h]
  | .stamp s, _ =>
    obtain ⟨t, rfl, -⟩ := eq_stamp_of_same h
    rfl
  | .bytes _, _ => rw [eq_bytes_of_same h]
  | .tuple xs, _ =>
    obtain ⟨ys, rfl, hitems⟩ := eq_tuple_of_same h
    have hlen := length_eq_of_sameItems hitems
    cases xs <;> cases ys <;> simp_all [truthy]

end Value

end CatalogSync
