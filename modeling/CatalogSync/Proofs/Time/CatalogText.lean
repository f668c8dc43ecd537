import Mathlib
import CatalogSync.Catalog.Where
import CatalogSync.Sql.Bind
import CatalogSync.Proofs.Time.Calendar

/-!
# Catalog times

A catalog stores a time as its catalog text (`Stamp.catalogText`): the time moved to the UTC
clock, a time without an offset read as UTC, and written `YYYY-MM-DDTHH:MM:SS.ffffff+00:00`.
The text has one width and one layout for every time of the years 1 to 9999, so that comparing
catalog texts as strings compares the times; a query asks for `modified > ?` of the texts on
that ground. Here it is proved: of two times in range, the catalog text of the earlier one
comes first, the texts are equal exactly when the times are the same instant, and reading a
catalog text back gives the time on the UTC clock (`catalog_texts_order_as_instants`).

The order is carried in three steps. Padded decimal digits of one width are ordered as the
numbers they write (`paddedDigits_lt`), so runs of them between the same separators are ordered
as their numbers, the first number first (`runs_lt`). The fields of a time, year first, are
ordered as the time (`numbers_lt_numbers`), which rests on the calendar (`ordinal_lt_iff`). And
the catalog text writes the fields in such runs (`toList_isoMicros`).

## Main definitions

* `Stamp.paddedDigits`: the last `k` decimal digits of a number.
* `Stamp.runs`: numbers written in runs of fixed widths, each followed by its separator.
* `Stamp.Fields.Valid`: fields of a time of the years 1 to 9999.
* `Stamp.Fields.numbers`: the numbers an ISO text writes of the fields, year first.
-/

namespace CatalogSync

namespace Stamp

/-! ## Padded digits -/

/-- The last `k` decimal digits of `n`, the most significant first. -/
def paddedDigits : Nat → Nat → List Char
  | 0, _ => []
  | k + 1, n => paddedDigits k (n / 10) ++ [Nat.digitChar (n % 10)]

@[simp] theorem length_paddedDigits (k n : Nat) : (paddedDigits k n).length = k := by
  induction k generalizing n with
  | zero => rfl
  | succ k ih => simp [paddedDigits, ih]

theorem paddedDigits_zero (k : Nat) : paddedDigits k 0 = List.replicate k '0' := by
  induction k with
  | zero => rfl
  | succ k ih => simp [paddedDigits, ih, List.replicate_succ', Nat.digitChar]

theorem length_toDigits_le {k n : Nat} (hk : 1 ≤ k) (h : n < 10 ^ k) :
    (Nat.toDigits 10 n).length ≤ k := by
  induction k generalizing n with
  | zero => omega
  | succ k ih =>
    rw [Nat.toDigits_eq_if (by decide)]
    split
    · simp only [List.length_singleton]
      omega
    · have hk' : 1 ≤ k := by
        rcases k with _ | k
        · simp at h; omega
        · omega
      have hq : n / 10 < 10 ^ k := by rw [Nat.pow_succ] at h; omega
      have := ih hk' hq
      simp only [List.length_append, List.length_singleton]
      omega

theorem toList_pad {k n : Nat} (hk : 1 ≤ k) (h : n < 10 ^ k) :
    (pad k n).toList = paddedDigits k n := by
  simp only [pad, String.toList_append, String.toList_ofList]
  change List.replicate (k - (String.ofList (Nat.toDigits 10 n)).length) '0' ++
    (String.ofList (Nat.toDigits 10 n)).toList = paddedDigits k n
  rw [String.length_ofList, String.toList_ofList]
  induction k generalizing n with
  | zero => omega
  | succ k ih =>
    rw [Nat.toDigits_eq_if (by decide)]
    split
    · next hn =>
      simp [paddedDigits, Nat.div_eq_of_lt hn, paddedDigits_zero, Nat.mod_eq_of_lt hn]
    · next hn =>
      have hk' : 1 ≤ k := by
        rcases k with _ | k
        · simp at h; omega
        · omega
      have hq : n / 10 < 10 ^ k := by rw [Nat.pow_succ] at h; omega
      have hlen := length_toDigits_le hk' hq
      rw [paddedDigits, ← ih hk' hq]
      simp only [List.length_append, List.length_singleton, List.append_assoc]
      congr 2
      omega

theorem lt_of_toList_lt {s t : String} (h : s.toList < t.toList) : s < t := h

theorem append_lt_append_of_lt {α : Type} [LT α] {l l' r r' : List α} (h : l < l')
    (hlen : l.length = l'.length) : l ++ r < l' ++ r' := by
  induction h with
  | nil => simp at hlen
  | rel hab => exact List.Lex.rel hab
  | cons _ ih => exact List.Lex.cons (ih (by simpa using hlen))

theorem digitChar_lt_digitChar {a b : Nat} (hb : b < 10) (h : a < b) :
    Nat.digitChar a < Nat.digitChar b := by
  rw [Char.lt_def, UInt32.lt_iff_toNat_lt]
  change (Nat.digitChar a).toNat < (Nat.digitChar b).toNat
  rw [Nat.toNat_digitChar_of_lt_ten (by omega), Nat.toNat_digitChar_of_lt_ten hb]
  omega

/-- Written to the same number of places, a smaller number comes first. -/
theorem paddedDigits_lt {k a b : Nat} (hb : b < 10 ^ k) (h : a < b) :
    paddedDigits k a < paddedDigits k b := by
  induction k generalizing a b with
  | zero => simp at hb; omega
  | succ k ih =>
    simp only [paddedDigits]
    have hq : b / 10 < 10 ^ k := by rw [Nat.pow_succ] at hb; omega
    rcases Nat.lt_or_ge (a / 10) (b / 10) with hlt | hge
    · exact append_lt_append_of_lt (ih hq hlt) (by simp)
    · -- the leading digits agree, so the last one decides
      have heq : a / 10 = b / 10 := by omega
      rw [heq]
      exact List.append_left_lt (List.Lex.rel (digitChar_lt_digitChar (Nat.mod_lt _ (by decide))
        (by omega)))

/-! ## Runs of digits -/

/-- Numbers written in runs of fixed widths, each run followed by its separator. -/
def runs : List (Nat × Char) → List Nat → List Char
  | (k, c) :: shape, n :: ns => paddedDigits k n ++ c :: runs shape ns
  | _, _ => []

theorem ascii_paddedDigits {k n : Nat} : ∀ c ∈ paddedDigits k n, c.toNat < 128 := by
  induction k generalizing n with
  | zero => simp [paddedDigits]
  | succ k ih =>
    intro c hc
    rcases List.mem_append.mp hc with hc | hc
    · exact ih c hc
    · rw [List.mem_singleton.mp hc, Nat.toNat_digitChar_of_lt_ten (Nat.mod_lt _ (by decide))]
      omega

theorem ascii_runs {shape : List (Nat × Char)} {ns : List Nat}
    (hshape : ∀ p ∈ shape, p.2.toNat < 128) : ∀ c ∈ runs shape ns, c.toNat < 128 := by
  induction shape generalizing ns with
  | nil => simp [runs]
  | cons p shape ih =>
    obtain ⟨k, c⟩ := p
    cases ns with
    | nil => simp [runs]
    | cons n ns =>
      intro d hd
      simp only [runs, List.mem_append, List.mem_cons] at hd
      rcases hd with hd | rfl | hd
      · exact ascii_paddedDigits d hd
      · exact hshape (k, d) (by simp)
      · exact ih (fun p hp => hshape p (by simp [hp])) d hd

/-- Numbers that fit the widths of a shape, one number for each run. -/
def Fit (shape : List (Nat × Char)) (ns : List Nat) : Prop :=
  List.Forall₂ (fun p n => n < 10 ^ p.1) shape ns

theorem length_runs {shape : List (Nat × Char)} {ns : List Nat} (h : Fit shape ns) :
    (runs shape ns).length = (shape.map (·.1 + 1)).sum := by
  induction h with
  | nil => rfl
  | cons _ _ ih =>
    simp only [runs, List.length_append, length_paddedDigits, List.length_cons, ih, List.map_cons,
      List.sum_cons]
    omega

/-- Runs of one shape are ordered as the numbers they write, the first number first. -/
theorem runs_lt {shape : List (Nat × Char)} {ns ns' : List Nat} (h : Fit shape ns)
    (h' : Fit shape ns') (hlt : ns < ns') : runs shape ns < runs shape ns' := by
  induction h generalizing ns' with
  | nil => cases h'; simp at hlt
  | @cons p n shape ns hn _ ih =>
    cases h' with
    | @cons _ n' _ ns'' hn' hrest =>
      obtain ⟨k, c⟩ := p
      simp only [runs]
      rcases List.cons_lt_cons_iff.mp hlt with hhead | ⟨rfl, htail⟩
      · exact append_lt_append_of_lt (paddedDigits_lt hn' hhead) (by simp)
      · exact List.append_left_lt (List.Lex.cons (ih hrest htail))

/-! ## The fields of a time in range -/

theorem fields_eq (s : Stamp) : s.fields =
    { year := (Calendar.ofOrdinal (s.wall / microsPerDay + 1)).1,
      month := (Calendar.ofOrdinal (s.wall / microsPerDay + 1)).2.1,
      day := (Calendar.ofOrdinal (s.wall / microsPerDay + 1)).2.2,
      hour := (s.wall % microsPerDay).toNat / 3600000000,
      minute := (s.wall % microsPerDay).toNat / 60000000 % 60,
      second := (s.wall % microsPerDay).toNat / 1000000 % 60,
      micro := (s.wall % microsPerDay).toNat % 1000000 } := by
  have hdiv : s.wall.fdiv microsPerDay = s.wall / microsPerDay := by
    simp [Int.fdiv_eq_ediv, microsPerDay]
  have hrest : s.wall - s.wall / microsPerDay * microsPerDay = s.wall % microsPerDay := by
    rw [Int.emod_def, Int.mul_comm]
  simp only [fields, hdiv, hrest]

/-- Fields of a time of the years 1 to 9999: a date and a time of day. -/
structure Fields.Valid (f : Fields) : Prop where
  year_pos : 1 ≤ f.year
  year_le : f.year ≤ 9999
  date : Calendar.IsDate f.year f.month f.day
  hour : f.hour < 24
  minute : f.minute < 60
  second : f.second < 60
  micro : f.micro < 1000000

theorem wallInRange_iff {w : Int} :
    wallInRange w = true ↔ 0 ≤ w ∧ w < lastOrdinal * microsPerDay := by
  simp [wallInRange]

theorem valid_fields {s : Stamp} (h : wallInRange s.wall = true) : s.fields.Valid := by
  rw [wallInRange_iff] at h
  have hdays : 1 ≤ s.wall / microsPerDay + 1 := by simp [microsPerDay]; omega
  have hlast : s.wall / microsPerDay + 1 ≤ lastOrdinal := by
    simp [microsPerDay, lastOrdinal] at h ⊢
    omega
  obtain ⟨hy, hd, -⟩ := Calendar.ofOrdinal_spec hdays
  have hrest : (s.wall % microsPerDay).toNat < 86400000000 := by simp [microsPerDay]; omega
  rw [fields_eq]
  exact ⟨hy, Calendar.year_ofOrdinal_le hdays hlast, hd, by simp only; omega, by simp only; omega,
    by simp only; omega, by simp only; omega⟩

theorem ofFields_fields {s : Stamp} (h : wallInRange s.wall = true) :
    ofFields s.fields.year s.fields.month s.fields.day s.fields.hour s.fields.minute
      s.fields.second s.fields.micro s.offset = .ok s := by
  obtain ⟨hy1, hy9, ⟨hm1, hm12, hd1, hdm⟩, hh, hmi, hs, hus⟩ := valid_fields h
  rw [wallInRange_iff] at h
  have hdays : 1 ≤ s.wall / microsPerDay + 1 := by simp [microsPerDay]; omega
  obtain ⟨-, -, hord⟩ := Calendar.ofOrdinal_spec hdays
  simp only [ofFields]
  rw [if_neg (by omega), if_neg (by omega), if_neg (by simp; omega), if_neg (by omega),
    if_neg (by omega), if_neg (by omega), if_neg (by omega)]
  rw [fields_eq]
  simp only [Int.toNat_natCast]
  show Except.ok (⟨_, s.offset⟩ : Stamp) = .ok ⟨s.wall, s.offset⟩
  rw [Except.ok.injEq, Stamp.mk.injEq, hord]
  refine ⟨?_, rfl⟩
  have hrest : 0 ≤ s.wall % microsPerDay := Int.emod_nonneg _ (by decide)
  simp only [microsPerDay] at hrest ⊢
  omega

theorem div_lt_or_mod_lt {r r' q : Nat} (h : r < r') :
    r / q < r' / q ∨ r / q = r' / q ∧ r % q < r' % q := by
  rcases Nat.lt_or_ge (r / q) (r' / q) with hq | hq
  · exact .inl hq
  · have hle : r / q ≤ r' / q := Nat.div_le_div_right (Nat.le_of_lt h)
    have heq : r / q = r' / q := Nat.le_antisymm hle hq
    refine .inr ⟨heq, ?_⟩
    have := Nat.div_add_mod r q
    have := Nat.div_add_mod r' q
    rw [heq] at *
    omega

theorem clock_lt {r r' : Nat} (h : r < r') :
    r / 3600000000 < r' / 3600000000 ∨ r / 3600000000 = r' / 3600000000 ∧
    (r / 60000000 % 60 < r' / 60000000 % 60 ∨ r / 60000000 % 60 = r' / 60000000 % 60 ∧
    (r / 1000000 % 60 < r' / 1000000 % 60 ∨ r / 1000000 % 60 = r' / 1000000 % 60 ∧
      r % 1000000 < r' % 1000000)) := by
  -- each field is what is left of the one above it, divided by its own unit
  have e1 : ∀ x : Nat, x / 60000000 % 60 = x % 3600000000 / 60000000 := by intro x; omega
  have e2 : ∀ x : Nat, x / 1000000 % 60 = x % 3600000000 % 60000000 / 1000000 := by
    intro x; omega
  have e3 : ∀ x : Nat, x % 1000000 = x % 3600000000 % 60000000 % 1000000 := by intro x; omega
  rw [e1, e1, e2, e2, e3 r, e3 r']
  rcases div_lt_or_mod_lt (q := 3600000000) h with h1 | ⟨h1, h1'⟩
  · exact .inl h1
  refine .inr ⟨h1, ?_⟩
  rcases div_lt_or_mod_lt (q := 60000000) h1' with h2 | ⟨h2, h2'⟩
  · exact .inl h2
  exact .inr ⟨h2, div_lt_or_mod_lt h2'⟩

/-- The numbers an ISO text writes of the fields, year first. -/
def Fields.numbers (f : Fields) : List Nat :=
  [f.year.toNat, f.month, f.day, f.hour, f.minute, f.second, f.micro]

/-- Of two times in range, the earlier one has the smaller fields, compared year first. -/
theorem numbers_lt_numbers {a b : Stamp} (ha : wallInRange a.wall = true)
    (hb : wallInRange b.wall = true) (h : a.wall < b.wall) :
    a.fields.numbers < b.fields.numbers := by
  have hva := valid_fields ha
  have hvb := valid_fields hb
  rw [wallInRange_iff] at ha hb
  simp only [Fields.numbers, List.cons_lt_cons_iff, List.not_lt_nil, and_false, or_false]
  rcases Int.lt_or_le (a.wall / microsPerDay) (b.wall / microsPerDay) with hdays | hdays
  · -- an earlier day: the dates decide
    have hda : 1 ≤ a.wall / microsPerDay + 1 := by simp [microsPerDay]; omega
    have hdb : 1 ≤ b.wall / microsPerDay + 1 := by simp [microsPerDay]; omega
    have hbefore := (Calendar.ordinal_lt_iff hva.date hvb.date).mp (by
      rw [fields_eq, fields_eq, (Calendar.ofOrdinal_spec hda).2.2,
        (Calendar.ofOrdinal_spec hdb).2.2]
      omega)
    have := hva.year_pos
    simp only [Calendar.Before] at hbefore
    omega
  · -- the same day: the time of day decides
    have hsame : a.wall / microsPerDay = b.wall / microsPerDay := by
      simp only [microsPerDay] at hdays ⊢
      omega
    rw [fields_eq, fields_eq, hsame]
    simp only [Nat.lt_irrefl, false_or, true_and]
    apply clock_lt
    simp only [microsPerDay] at hsame ⊢
    omega

/-! ## Catalog texts -/

/-- The widths of the numbers of a catalog text, and the separator after each. -/
def catalogShape : List (Nat × Char) :=
  [(4, '-'), (2, '-'), (2, 'T'), (2, ':'), (2, ':'), (2, '.'), (6, '+')]

theorem offsetText_zero : offsetText 0 = "+00:00" := by decide

theorem daysInMonth_le (y : Int) (m : Nat) : Calendar.daysInMonth y m ≤ 31 := by
  unfold Calendar.daysInMonth
  split <;> (try split) <;> omega

theorem fit_numbers {f : Fields} (hf : f.Valid) : Fit catalogShape f.numbers := by
  obtain ⟨hy1, hy9, ⟨-, hm, -, hd⟩, hh, hmi, hs, hus⟩ := hf
  have hdim := daysInMonth_le f.year f.month
  refine .cons (by simp; omega) (.cons (by simp; omega) (.cons (by simp; omega)
    (.cons (by simp; omega) (.cons (by simp; omega) (.cons (by simp; omega)
      (.cons (by simp; omega) .nil))))))

/-- The catalog text of a UTC time writes its numbers in runs of fixed widths. -/
theorem toList_isoMicros {s : Stamp} (hs : s.offset = some 0) (hf : s.fields.Valid) :
    s.isoMicros.toList = runs catalogShape s.fields.numbers ++ "00:00".toList := by
  obtain ⟨hy1, hy9, ⟨-, hm, -, hd⟩, hh, hmi, hsec, hus⟩ := hf
  have hdim := daysInMonth_le s.fields.year s.fields.month
  simp only [isoMicros, clockText, hs, offsetText_zero, true_or, if_true, String.toList_append]
  rw [toList_pad (by decide) (show s.fields.year.toNat < 10 ^ 4 by omega),
    toList_pad (by decide) (show s.fields.month < 10 ^ 2 by omega),
    toList_pad (by decide) (show s.fields.day < 10 ^ 2 by omega),
    toList_pad (by decide) (show s.fields.hour < 10 ^ 2 by omega),
    toList_pad (by decide) (show s.fields.minute < 10 ^ 2 by omega),
    toList_pad (by decide) (show s.fields.second < 10 ^ 2 by omega),
    toList_pad (by decide) (show s.fields.micro < 10 ^ 6 by omega)]
  simp [runs, catalogShape, Fields.numbers]

theorem isoMicros_lt_isoMicros {w w' : Int} (h : wallInRange w = true)
    (h' : wallInRange w' = true) (hlt : w < w') :
    (⟨w, some 0⟩ : Stamp).isoMicros < (⟨w', some 0⟩ : Stamp).isoMicros := by
  have hv := valid_fields (s := ⟨w, some 0⟩) h
  have hv' := valid_fields (s := ⟨w', some 0⟩) h'
  apply lt_of_toList_lt
  rw [toList_isoMicros rfl hv, toList_isoMicros rfl hv']
  exact append_lt_append_of_lt (runs_lt (fit_numbers hv) (fit_numbers hv')
    (numbers_lt_numbers (a := ⟨w, some 0⟩) (b := ⟨w', some 0⟩) h h' hlt))
    (by rw [length_runs (fit_numbers hv), length_runs (fit_numbers hv')])

theorem catalogText_eq {t : Stamp} (h : wallInRange t.instant = true) :
    t.catalogText = .ok (⟨t.instant, some 0⟩ : Stamp).isoMicros := by
  cases ho : t.offset with
  | none =>
    have hi : t.instant = t.wall := by simp [instant, ho]
    rw [hi] at h ⊢
    simp [catalogText, isAware, ho, toUtc, instant, h, bind, Except.bind, pure, Except.pure]
  | some o =>
    simp [catalogText, isAware, ho, toUtc, h, bind, Except.bind, pure, Except.pure]

end Stamp

/-! ## Reading a catalog text back -/

namespace Iso

theorem toList_loop (bs : ByteArray) (i : Nat) (r : List UInt8) (hi : i ≤ bs.size) :
    ByteArray.toList.loop bs i r = r.reverse ++ bs.data.toList.drop i := by
  rw [ByteArray.toList.loop]
  split
  · next hlt =>
    rw [toList_loop bs (i + 1) _ hlt]
    have hlen : i < bs.data.toList.length := by simpa using hlt
    have hget : bs.get! i = bs.data.toList[i] := by
      simp [ByteArray.get!, hlt]
    rw [hget, List.reverse_cons, List.append_assoc, List.singleton_append,
      ← List.drop_eq_getElem_cons]
  · next hge =>
    have : bs.data.toList.drop i = [] := List.drop_eq_nil_of_le (by simp; omega)
    simp [this]
termination_by bs.size - i

theorem byteArray_toList (bs : ByteArray) : bs.toList = bs.data.toList := by
  simp [ByteArray.toList, toList_loop bs 0 [] (Nat.zero_le _)]

theorem bytes_ascii {s : String} (h : ∀ c ∈ s.toList, c.toNat < 128) :
    bytes s = (s.toList.map Char.toNat).toArray := by
  simp only [bytes, String.toUTF8_eq_toByteArray, ← String.utf8Encode_toList, byteArray_toList]
  generalize s.toList = l at h
  induction l with
  | nil => simp [List.utf8Encode_nil]
  | cons c l ih =>
    have hc : c.utf8Size = 1 := by
      rw [Char.utf8Size_eq_one_iff, UInt32.le_iff_toNat_le]
      have : c.toNat < 128 := h c (by simp)
      show c.toNat ≤ 127
      omega
    have ih' := ih (fun d hd => h d (by simp [hd]))
    rw [List.utf8Encode_cons, List.utf8Encode_singleton, String.utf8EncodeChar_eq_singleton hc]
    simp only [ByteArray.toList_data_append, List.data_toByteArray] at ih' ⊢
    simp at ih' ⊢
    refine ⟨?_, by simpa using congrArg Array.toList ih'⟩
    have : c.toNat < 128 := h c (by simp)
    simp only [Char.toUInt8, UInt32.toNat_toUInt8]
    change c.toNat % 256 = c.toNat
    omega

end Iso

namespace Stamp

@[simp] theorem toNat_digitChar_mod (x : Nat) :
    (Nat.digitChar (x % 10)).toNat = 48 + x % 10 :=
  Nat.toNat_digitChar_of_lt_ten (Nat.mod_lt _ (by decide))

@[simp] theorem digitCode_le (x : Nat) : 48 + x % 10 ≤ 57 := by omega

theorem digitCode_eq_of_lt {x c : Nat} (hc : c < 48) : (48 + x % 10 = c) ↔ False :=
  ⟨by omega, False.elim⟩

theorem digitCode_eq_of_gt {x c : Nat} (hc : 57 < c) : (48 + x % 10 = c) ↔ False :=
  ⟨by omega, False.elim⟩

theorem codes_catalogText (y m d h mi s us : Nat) :
    ((runs catalogShape [y, m, d, h, mi, s, us] ++ "00:00".toList).map Char.toNat).toArray =
      #[48 + y / 1000 % 10, 48 + y / 100 % 10, 48 + y / 10 % 10, 48 + y % 10, 45,
        48 + m / 10 % 10, 48 + m % 10, 45, 48 + d / 10 % 10, 48 + d % 10, 84,
        48 + h / 10 % 10, 48 + h % 10, 58, 48 + mi / 10 % 10, 48 + mi % 10, 58,
        48 + s / 10 % 10, 48 + s % 10, 46,
        48 + us / 100000 % 10, 48 + us / 10000 % 10, 48 + us / 1000 % 10, 48 + us / 100 % 10,
        48 + us / 10 % 10, 48 + us % 10, 43, 48, 48, 58, 48, 48] := by
  simp [runs, catalogShape, paddedDigits, Nat.div_div_eq_div_mul]

theorem ofIso_catalogText {y m d h mi s us : Nat} (hy : y < 10000) (hm : m < 100)
    (hd : d < 100) (hh : h < 100) (hmi : mi < 100) (hs : s < 100) (hus : us < 1000000) :
    ofIso (String.ofList (runs catalogShape [y, m, d, h, mi, s, us] ++ "00:00".toList)) =
      ofFields y m d h mi s us (some 0) := by
  have hcodes := codes_catalogText y m d h mi s us
  have hascii : ∀ c ∈ (String.ofList (runs catalogShape [y, m, d, h, mi, s, us] ++
      "00:00".toList)).toList, c.toNat < 128 := by
    rw [String.toList_ofList]
    have hoffset : ∀ c ∈ "00:00".toList, c.toNat < 128 := by simp
    intro c hc
    rcases List.mem_append.mp hc with hrun | hoff
    · exact ascii_runs (by decide) c hrun
    · exact hoffset c hoff
  rw [ofIso, Iso.bytes_ascii hascii, String.toList_ofList, hcodes]
  set b := #[48 + y / 1000 % 10, 48 + y / 100 % 10, 48 + y / 10 % 10, 48 + y % 10, 45,
    48 + m / 10 % 10, 48 + m % 10, 45, 48 + d / 10 % 10, 48 + d % 10, 84,
    48 + h / 10 % 10, 48 + h % 10, 58, 48 + mi / 10 % 10, 48 + mi % 10, 58,
    48 + s / 10 % 10, 48 + s % 10, 46,
    48 + us / 100000 % 10, 48 + us / 10000 % 10, 48 + us / 1000 % 10, 48 + us / 100 % 10,
    48 + us / 10 % 10, 48 + us % 10, 43, 48, 48, 58, 48, 48] with hb
  -- what the reader looks at: the separators, the digit runs and where the offset starts
  obtain ⟨hsize, h4, h5, h7, h10, h13, h16, h19, h26, h29, h32⟩ : b.size = 32 ∧
      Iso.at? b 4 = 45 ∧ Iso.at? b 5 ≠ 87 ∧ Iso.at? b 7 = 45 ∧ Iso.at? b 10 = 84 ∧
      Iso.at? b 13 = 58 ∧ Iso.at? b 16 = 58 ∧ Iso.at? b 19 = 46 ∧ Iso.at? b 26 = 43 ∧
      Iso.at? b 29 = 58 ∧ Iso.at? b 32 = 0 := by
    simp [b, Iso.at?, digitCode_eq_of_gt]
  have hzone : (if decide (Iso.at? b 11 = 90 ∨ Iso.at? b 11 = 43 ∨ Iso.at? b 11 = 45) = true
      then 11
      else (List.find? (fun i => decide (Iso.at? b i = 90 ∨ Iso.at? b i = 43 ∨ Iso.at? b i = 45))
        (List.map (fun x => x + 11 + 1) (List.range (32 - min 32 (11 + 1))))).getD
          (max 32 (11 + 1))) = 26 := by
    simp [b, Iso.at?, List.range_succ, digitCode_eq_of_gt, digitCode_eq_of_lt]
  obtain ⟨dy, dm, dd, dh, dmi, ds, dus, dz1, dz2⟩ : Iso.digits b 0 4 = some y ∧
      Iso.digits b 5 2 = some m ∧ Iso.digits b 8 2 = some d ∧ Iso.digits b 11 2 = some h ∧
      Iso.digits b 14 2 = some mi ∧ Iso.digits b 17 2 = some s ∧
      Iso.digits b 20 6 = some us ∧ Iso.digits b 27 2 = some 0 ∧ Iso.digits b 30 2 = some 0 := by
    simp only [b, Iso.digits, List.range_succ, List.range_zero, List.nil_append, Iso.at?,
      Iso.isDigitByte]
    simp
    omega
  clear_value b
  clear hb
  have hdate : Iso.dateEnd b = some 10 := by simp [Iso.dateEnd, hsize, h4, h5]
  have hread : Iso.readDate b 10 = some ((y : Int), m, d) := by
    simp [Iso.readDate, dy, h4, h5, dm, h7, dd]
  have hclock : Iso.readClock b 11 26 =
      some { hour := h, minute := mi, second := s, micro := us, trailing := true } := by
    have hrange : List.range 7 = [0, 1, 2, 3, 4, 5, 6] := rfl
    simp [Iso.readClock, Iso.readClock.go, dh, h13, dmi, h16, ds, h19, Iso.readFraction, dus,
      hsize, hrange, h26, Iso.isDigitByte]
  have hoffset : Iso.readClock b 27 32 = some { trailing := false } := by
    simp [Iso.readClock, Iso.readClock.go, dz1, h29, dz2, h32]
  have htime : Iso.readTime b 11 =
      some ({ hour := h, minute := mi, second := s, micro := us, trailing := true },
        some (0, 0)) := by
    simp only [Iso.readTime, hsize]
    rw [hzone]
    simp [hclock, h26, hoffset]
  simp [hdate, hread, hsize, h10, Iso.sequenceLength, htime]

theorem ofIso_isoMicros {w : Int} (h : wallInRange w = true) :
    ofIso (⟨w, some 0⟩ : Stamp).isoMicros = .ok ⟨w, some 0⟩ := by
  have hv := valid_fields (s := ⟨w, some 0⟩) h
  obtain ⟨hy1, hy9, ⟨-, hm, -, hd⟩, hh, hmi, hsec, hus⟩ := hv
  have hdim := daysInMonth_le (⟨w, some 0⟩ : Stamp).fields.year (⟨w, some 0⟩ : Stamp).fields.month
  rw [← String.ofList_toList (s := isoMicros _), toList_isoMicros rfl (valid_fields h),
    Fields.numbers, ofIso_catalogText (by omega) (by omega) (by omega) (by omega) (by omega)
      (by omega) (by omega), Int.toNat_of_nonneg (by omega)]
  exact ofFields_fields (s := ⟨w, some 0⟩) h

end Stamp

/-- Catalog texts compare as the times they stand for. Of two times whose instants fall in the
years 1 to 9999, a time without an offset read as UTC, the catalog text of the earlier instant
comes first as a string, the two texts are equal exactly when the instants are, and the text
reads back as a stored time to the same instant on the UTC clock. -/
theorem catalog_texts_order_as_instants (a b : Stamp) (ha : Stamp.wallInRange a.instant = true)
    (hb : Stamp.wallInRange b.instant = true) :
    ∃ ta tb, a.catalogText = .ok ta ∧ b.catalogText = .ok tb ∧
      (ta < tb ↔ a.instant < b.instant) ∧ (ta = tb ↔ a.instant = b.instant) ∧
      Sql.storedStamp (.text ta) = .ok (some ⟨a.instant, some 0⟩) := by
  refine ⟨_, _, Stamp.catalogText_eq ha, Stamp.catalogText_eq hb, ⟨fun hlt => ?_,
    Stamp.isoMicros_lt_isoMicros ha hb⟩, ⟨fun heq => ?_, fun h => by rw [h]⟩, ?_⟩
  · rcases Int.lt_trichotomy a.instant b.instant with h | h | h
    · exact h
    · rw [h] at hlt
      exact absurd hlt (String.lt_irrefl _)
    · exact absurd hlt (String.lt_asymm (Stamp.isoMicros_lt_isoMicros hb ha h))
  · -- equal texts read back to equal times
    have hread := congrArg Stamp.ofIso heq
    rw [Stamp.ofIso_isoMicros ha, Stamp.ofIso_isoMicros hb] at hread
    injection hread with hread
    injection hread
  · have hne : (⟨a.instant, some 0⟩ : Stamp).isoMicros ≠ "" := by
      intro h
      have hlist := congrArg String.toList h
      rw [Stamp.toList_isoMicros rfl (Stamp.valid_fields (s := ⟨a.instant, some 0⟩) ha)] at hlist
      simp at hlist
    simp [Sql.storedStamp, Sql.truthOf, Stamp.ofIso_isoMicros ha, hne]

/-- Noon two hours east of UTC is ten o'clock UTC, an hour before eleven o'clock read without an
offset, and so its catalog text comes first. -/
theorem catalog_texts_order_two_clocks :
    Stamp.wallInRange
        (⟨(Calendar.ordinal 2024 6 1 - 1) * microsPerDay + 12 * 3600000000, some 7200000000⟩ :
          Stamp).instant = true ∧
      Stamp.wallInRange
        (⟨(Calendar.ordinal 2024 6 1 - 1) * microsPerDay + 11 * 3600000000, none⟩ : Stamp).instant
        = true ∧
      ∃ ta tb,
        (⟨(Calendar.ordinal 2024 6 1 - 1) * microsPerDay + 12 * 3600000000, some 7200000000⟩ :
          Stamp).catalogText = .ok ta ∧
        (⟨(Calendar.ordinal 2024 6 1 - 1) * microsPerDay + 11 * 3600000000, none⟩ :
          Stamp).catalogText = .ok tb ∧
        (ta < tb ↔
          (⟨(Calendar.ordinal 2024 6 1 - 1) * microsPerDay + 12 * 3600000000, some 7200000000⟩ :
            Stamp).instant <
          (⟨(Calendar.ordinal 2024 6 1 - 1) * microsPerDay + 11 * 3600000000, none⟩ :
            Stamp).instant) ∧
        (ta = tb ↔
          (⟨(Calendar.ordinal 2024 6 1 - 1) * microsPerDay + 12 * 3600000000, some 7200000000⟩ :
            Stamp).instant =
          (⟨(Calendar.ordinal 2024 6 1 - 1) * microsPerDay + 11 * 3600000000, none⟩ :
            Stamp).instant) ∧
        Sql.storedStamp (.text ta) = .ok (some ⟨(⟨(Calendar.ordinal 2024 6 1 - 1) * microsPerDay +
          12 * 3600000000, some 7200000000⟩ : Stamp).instant, some 0⟩) :=
  ⟨by decide, by decide, catalog_texts_order_as_instants _ _ (by decide) (by decide)⟩

end CatalogSync
