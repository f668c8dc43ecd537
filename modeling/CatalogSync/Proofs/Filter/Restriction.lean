import CatalogSync.Proofs.Filter.Selection

/-!
# The ids a predicate restricts to

A node without a query language reads only the id lists of a predicate
(`Predicate.restrictedIds`): a conjunction lets through the ids every restricting part lets
through, a disjunction the ids some part lets through once every part restricts, and any other
condition lets every id through. This module says what that reading is worth against what a
predicate means (`Predicate.holds`), whatever native conditions and times are read as:

* it never turns away a record the predicate holds for (`admits_of_holds`);
* for a predicate made of id lists alone, it lets through exactly the records the predicate
  holds for (`holds_of_admits`);
* it exists for every predicate whose disjunctions all have parts (`restrictedIds_ok`): a
  disjunction of nothing has no union to take;
* for the predicate of a retry pass it is the list of failed ids (`restrictedIds_failedItems`).

## Main definitions

* `Predicate.holds`: whether a predicate holds for a record, conditions other than id lists and
  their combinations read by any function.
* `Predicate.anyOfsHaveParts`, `Predicate.idsOnly`: the shapes of predicates the statements
  above need.
* `Predicate.admits`: whether a restriction lets a record's id through.
-/

namespace CatalogSync.Predicate

mutual
/-- Whether a predicate holds for a record: an absent predicate holds for every record, an id
list for the records with one of its ids, a conjunction when all parts hold, a disjunction when
some part does, and any other condition as `leaf` reads it. -/
def holds (leaf : Predicate → Record → Bool) (r : Record) : Option Predicate → Bool
  | none => true
  | some (.idIn ids) => ids.contains r.ident
  | some (.allOf ps) => holdsAll leaf r ps
  | some (.anyOf ps) => holdsAny leaf r ps
  | some p => leaf p r

/-- Whether every part holds for a record. -/
def holdsAll (leaf : Predicate → Record → Bool) (r : Record) : List (Option Predicate) → Bool
  | [] => true
  | p :: ps => holds leaf r p && holdsAll leaf r ps

/-- Whether some part holds for a record. -/
def holdsAny (leaf : Predicate → Record → Bool) (r : Record) : List (Option Predicate) → Bool
  | [] => false
  | p :: ps => holds leaf r p || holdsAny leaf r ps
end

mutual
/-- Whether a predicate is made of the kinds nodes understand and each of its disjunctions has
a part, as the builder makes them. -/
def anyOfsHaveParts : Option Predicate → Bool
  | some (.allOf ps) => anyOfsHavePartsAll ps
  | some (.anyOf ps) => !ps.isEmpty && anyOfsHavePartsAll ps
  | some .unknown => false
  | _ => true

/-- Whether every part has the shape `anyOfsHaveParts` asks for. -/
def anyOfsHavePartsAll : List (Option Predicate) → Bool
  | [] => true
  | p :: ps => anyOfsHaveParts p && anyOfsHavePartsAll ps
end

mutual
/-- Whether a predicate is built of id lists alone, with absent parts allowed. -/
def idsOnly : Option Predicate → Bool
  | none => true
  | some (.idIn _) => true
  | some (.allOf ps) => idsOnlyAll ps
  | some (.anyOf ps) => idsOnlyAll ps
  | some _ => false

/-- Whether every part is built of id lists alone. -/
def idsOnlyAll : List (Option Predicate) → Bool
  | [] => true
  | p :: ps => idsOnly p && idsOnlyAll ps
end

section Holds

variable (leaf : Predicate → Record → Bool) (r : Record)

@[simp] theorem holdsAll_eq_all (ps : List (Option Predicate)) :
    holdsAll leaf r ps = ps.all (holds leaf r) := by
  induction ps with
  | nil => simp [holdsAll]
  | cons p ps ih => simp [holdsAll, ih]

@[simp] theorem holdsAny_eq_any (ps : List (Option Predicate)) :
    holdsAny leaf r ps = ps.any (holds leaf r) := by
  induction ps with
  | nil => simp [holdsAny]
  | cons p ps ih => simp [holdsAny, ih]

end Holds

/-! ## Restrictions -/

/-- Whether a restriction lets a record's id through; no restriction lets every id through. -/
def admits (ids : Option (List String)) (r : Record) : Bool := ids.all (·.contains r.ident)

@[simp] theorem admits_none (r : Record) : admits none r = true := rfl

@[simp] theorem admits_some (s : List String) (r : Record) :
    admits (some s) r = s.contains r.ident :=
  rfl

@[simp] theorem filter_admits_none (rs : List Record) : rs.filter (admits none) = rs :=
  List.filter_eq_self.mpr fun _ _ => rfl

@[simp] theorem mem_idSet {x : String} {ids : List String} : x ∈ idSet ids ↔ x ∈ ids := by
  simp [idSet, List.mem_eraseDups, List.mem_mergeSort]

theorem mem_foldl_filter {x : String} (rs : List (List String)) (acc : List String) :
    x ∈ rs.foldl (fun acc s => acc.filter (s.contains ·)) acc ↔ x ∈ acc ∧ ∀ s ∈ rs, x ∈ s := by
  induction rs generalizing acc with
  | nil => simp
  | cons s rs ih =>
    rw [List.foldl_cons, ih]
    simp [and_assoc]

/-- The restriction of a conjunction whose parts restrict to `xs`: the ids every restricting
part lets through, or none when no part restricts. -/
def meet (xs : List (Option (List String))) : Option (List String) :=
  match xs.filterMap id with
  | [] => none
  | s :: rest => some (rest.foldl (fun acc t => acc.filter (t.contains ·)) s)

/-- The restriction of a disjunction whose parts restrict to `xs`: the ids some part lets
through, or none when some part does not restrict. -/
def join (xs : List (Option (List String))) : Option (List String) :=
  if xs.any Option.isNone then none else some (idSet (xs.filterMap id).flatten)

theorem admits_meet (xs : List (Option (List String))) (r : Record) :
    admits (meet xs) r = true ↔ ∀ x ∈ xs, admits x r = true := by
  have hall : (∀ x ∈ xs, admits x r = true) ↔ ∀ s ∈ xs.filterMap id, r.ident ∈ s := by
    constructor
    · intro h s hs
      obtain ⟨x, hx, rfl⟩ : ∃ x ∈ xs, x = some s := by simpa using hs
      simpa using h _ hx
    · rintro h (_ | s) hx
      · rfl
      · simpa using h s (by simpa using hx)
  rw [hall, meet]
  split
  · rename_i hnil
    rw [hnil]
    simp
  · rename_i s rest hcons
    rw [admits_some, List.contains_iff_mem, mem_foldl_filter, hcons]
    simp

theorem admits_join (xs : List (Option (List String))) (r : Record) :
    admits (join xs) r = true ↔ ∃ x ∈ xs, admits x r = true := by
  unfold join
  split
  · rename_i hnone
    obtain ⟨x, hx, hnone⟩ := List.any_eq_true.mp hnone
    simp only [admits_none, true_iff]
    exact ⟨x, hx, by simp_all⟩
  · rename_i hsome
    simp only [admits_some, List.contains_iff_mem, mem_idSet, List.mem_flatten,
      List.mem_filterMap, id]
    constructor
    · rintro ⟨s, ⟨x, hx, hxs⟩, hr⟩
      exact ⟨x, hx, by simp_all⟩
    · rintro ⟨x, hx, hr⟩
      rcases x with _ | s
      · exact absurd (List.any_eq_true.mpr ⟨none, hx, rfl⟩) hsome
      · exact ⟨s, ⟨some s, hx, rfl⟩, by simpa using hr⟩

/-! ## The restriction of each kind of predicate -/

@[simp] theorem restrictedIds_idIn (ids : List String) :
    restrictedIds (some (.idIn ids)) = .ok (some (idSet ids)) := by
  simp only [restrictedIds]

theorem restrictedIds_allOf (ps : List (Option Predicate)) :
    restrictedIds (some (.allOf ps)) = (restrictedAll ps).map meet := by
  simp only [restrictedIds, bind, Except.bind, pure, Except.pure]
  rcases restrictedAll ps with e | xs
  · rfl
  · simp only [Except.map, meet]
    cases xs.filterMap id <;> rfl

theorem restrictedIds_anyOf (ps : List (Option Predicate)) :
    restrictedIds (some (.anyOf ps)) = (restrictedAll ps).bind fun xs =>
      if xs.isEmpty then
        .error (.wrongKind "descriptor 'union' of 'frozenset' object needs an argument")
      else .ok (join xs) := by
  simp only [restrictedIds, bind, Except.bind, pure, Except.pure]
  rcases restrictedAll ps with e | xs
  · rfl
  · simp only [join]
    split
    · rfl
    · split <;> rfl

theorem restrictedAll_cons {p : Option Predicate} {ps : List (Option Predicate)}
    {xs : List (Option (List String))} (h : restrictedAll (p :: ps) = .ok xs) :
    ∃ x xs', restrictedIds p = .ok x ∧ restrictedAll ps = .ok xs' ∧ xs = x :: xs' := by
  simp only [restrictedAll, bind, Except.bind, pure, Except.pure] at h
  split at h
  · cases h
  · split at h
    · cases h
    · cases h
      exact ⟨_, _, ‹_›, ‹_›, rfl⟩

theorem restrictedIds_allOf_ok {ps : List (Option Predicate)} {ids : Option (List String)}
    (h : restrictedIds (some (.allOf ps)) = .ok ids) :
    ∃ xs, restrictedAll ps = .ok xs ∧ ids = meet xs := by
  rw [restrictedIds_allOf] at h
  rcases hr : restrictedAll ps with e | xs <;> rw [hr] at h
  · cases h
  · cases h
    exact ⟨xs, rfl, rfl⟩

theorem restrictedIds_anyOf_ok {ps : List (Option Predicate)} {ids : Option (List String)}
    (h : restrictedIds (some (.anyOf ps)) = .ok ids) :
    ∃ xs, restrictedAll ps = .ok xs ∧ ids = join xs := by
  rw [restrictedIds_anyOf] at h
  rcases hr : restrictedAll ps with e | xs <;> rw [hr] at h
  · cases h
  · simp only [Except.bind] at h
    split at h
    · cases h
    · cases h
      exact ⟨xs, rfl, rfl⟩

/-! ## Restrictions against what predicates mean -/

section Meaning

variable (leaf : Predicate → Record → Bool) (r : Record)

mutual
/-- A record a predicate holds for passes its restriction, whatever `leaf` reads native
conditions and times as. -/
theorem admits_of_holds : ∀ (p : Option Predicate) {ids : Option (List String)},
    restrictedIds p = .ok ids → holds leaf r p = true → admits ids r = true
  | none, ids, h, _ => by simp only [restrictedIds] at h; cases h; rfl
  | some (.idIn ids), _, h, hp => by
    simp only [restrictedIds] at h
    cases h
    simpa [holds] using hp
  | some (.allOf ps), ids, h, hp => by
    obtain ⟨xs, hxs, rfl⟩ := restrictedIds_allOf_ok h
    exact (admits_meet xs r).mpr ((admitsAll_of_holds ps hxs).1 (by simpa [holds] using hp))
  | some (.anyOf ps), ids, h, hp => by
    obtain ⟨xs, hxs, rfl⟩ := restrictedIds_anyOf_ok h
    exact (admits_join xs r).mpr ((admitsAll_of_holds ps hxs).2 (by simpa [holds] using hp))
  | some (.native _), ids, h, _ | some (.modifiedAfter _), ids, h, _
  | some .unknown, ids, h, _ => by simp only [restrictedIds] at h; cases h; rfl

theorem admitsAll_of_holds : ∀ (ps : List (Option Predicate)) {xs : List (Option (List String))},
    restrictedAll ps = .ok xs →
      (holdsAll leaf r ps = true → ∀ x ∈ xs, admits x r = true) ∧
      (holdsAny leaf r ps = true → ∃ x ∈ xs, admits x r = true)
  | [], xs, h => by simp only [restrictedAll] at h; cases h; simp
  | p :: ps, xs, h => by
    obtain ⟨x, xs', hx, hxs', rfl⟩ := restrictedAll_cons h
    have hp := admits_of_holds p hx
    have hps := admitsAll_of_holds ps hxs'
    simp only [holdsAll, holdsAny, Bool.and_eq_true, Bool.or_eq_true, List.mem_cons,
      forall_eq_or_imp, exists_eq_or_imp]
    exact ⟨fun ⟨h₁, h₂⟩ => ⟨hp h₁, hps.1 h₂⟩, fun h => h.imp hp hps.2⟩
end

mutual
/-- A predicate built of id lists alone holds for every record its restriction lets through. -/
theorem holds_of_admits : ∀ (p : Option Predicate) {ids : Option (List String)},
    idsOnly p = true → restrictedIds p = .ok ids → admits ids r = true → holds leaf r p = true
  | none, _, _, _, _ => by simp only [holds]
  | some (.idIn ids), _, _, h, hp => by
    simp only [restrictedIds] at h
    cases h
    simpa [holds] using hp
  | some (.allOf ps), ids, ho, h, hp => by
    obtain ⟨xs, hxs, rfl⟩ := restrictedIds_allOf_ok h
    have hall := (holdsAll_of_admits ps (by simpa [idsOnly] using ho) hxs).1
      ((admits_meet xs r).mp hp)
    simpa [holds] using hall
  | some (.anyOf ps), ids, ho, h, hp => by
    obtain ⟨xs, hxs, rfl⟩ := restrictedIds_anyOf_ok h
    have hany := (holdsAll_of_admits ps (by simpa [idsOnly] using ho) hxs).2
      ((admits_join xs r).mp hp)
    simpa [holds] using hany
  | some (.native _), _, ho, _, _ | some (.modifiedAfter _), _, ho, _, _
  | some .unknown, _, ho, _, _ => by simp [idsOnly] at ho

theorem holdsAll_of_admits : ∀ (ps : List (Option Predicate)) {xs : List (Option (List String))},
    idsOnlyAll ps = true → restrictedAll ps = .ok xs →
      ((∀ x ∈ xs, admits x r = true) → holdsAll leaf r ps = true) ∧
      ((∃ x ∈ xs, admits x r = true) → holdsAny leaf r ps = true)
  | [], xs, _, h => by simp only [restrictedAll] at h; cases h; simp
  | p :: ps, xs, ho, h => by
    obtain ⟨x, xs', hx, hxs', rfl⟩ := restrictedAll_cons h
    simp only [idsOnlyAll, Bool.and_eq_true] at ho
    have hp := holds_of_admits p ho.1 hx
    have hps := holdsAll_of_admits ps ho.2 hxs'
    simp only [holdsAll, holdsAny, Bool.and_eq_true, Bool.or_eq_true, List.mem_cons,
      forall_eq_or_imp, exists_eq_or_imp]
    exact ⟨fun ⟨h₁, h₂⟩ => ⟨hp h₁, hps.1 h₂⟩, fun h => h.imp hp hps.2⟩
end

end Meaning

mutual
/-- A predicate whose disjunctions all have parts has a restriction. -/
theorem restrictedIds_ok : ∀ p : Option Predicate, anyOfsHaveParts p = true →
    ∃ ids, restrictedIds p = .ok ids
  | none, _ => ⟨none, by simp only [restrictedIds]⟩
  | some (.idIn ids), _ => ⟨some (idSet ids), restrictedIds_idIn ids⟩
  | some (.allOf ps), h => by
    obtain ⟨xs, hxs, -⟩ := restrictedAll_ok ps (by simpa [anyOfsHaveParts] using h)
    exact ⟨meet xs, by rw [restrictedIds_allOf, hxs]; rfl⟩
  | some (.anyOf ps), h => by
    simp only [anyOfsHaveParts, Bool.and_eq_true, Bool.not_eq_true',
      List.isEmpty_eq_false_iff] at h
    obtain ⟨xs, hxs, hlen⟩ := restrictedAll_ok ps h.2
    -- as many restrictions as parts, so at least one: the union has an argument
    have hne : xs.isEmpty = false := by
      cases xs with
      | nil => exact absurd (List.length_eq_zero_iff.mp hlen.symm) h.1
      | cons => rfl
    exact ⟨join xs, by rw [restrictedIds_anyOf, hxs]; simp [Except.bind, hne]⟩
  | some (.native _), _ | some (.modifiedAfter _), _ => ⟨none, by simp only [restrictedIds]⟩
  | some .unknown, h => by simp [anyOfsHaveParts] at h

theorem restrictedAll_ok : ∀ ps : List (Option Predicate), anyOfsHavePartsAll ps = true →
    ∃ xs, restrictedAll ps = .ok xs ∧ xs.length = ps.length
  | [], _ => ⟨[], by simp only [restrictedAll], rfl⟩
  | p :: ps, h => by
    simp only [anyOfsHavePartsAll, Bool.and_eq_true] at h
    obtain ⟨x, hx⟩ := restrictedIds_ok p h.1
    obtain ⟨xs, hxs, hlen⟩ := restrictedAll_ok ps h.2
    exact ⟨x :: xs, by simp [restrictedAll, hx, hxs, bind, Except.bind, pure, Except.pure],
      by simp [hlen]⟩
end

/-! ## The predicate of a retry pass -/

/-- The predicate of a retry pass restricts to the failed ids, whatever the base condition. -/
theorem restrictedIds_failedItems {base : Option String} {failed : List String}
    {p : Option Predicate} (h : failedItems base failed = .ok p) :
    restrictedIds p = .ok (some (idSet failed)) := by
  rw [failedItems_eq (ne_nil_of_failedItems h)] at h
  cases h
  -- a native base condition lets every id through, so the id list alone restricts
  cases hb : nativeOf? base with
  | none => simp [allOfParts, collapse]
  | some q =>
    have hq : restrictedIds (some q) = .ok none := by
      unfold nativeOf? at hb
      split at hb
      · cases hb
      · split at hb
        · cases hb
        · cases hb
          simp only [restrictedIds]
    simp only [allOfParts, collapse, List.filterMap_cons, id, List.filterMap_nil,
      List.map_cons, List.map_nil, restrictedIds_allOf, restrictedAll, hq, restrictedIds_idIn,
      bind, Except.bind, pure, Except.pure]
    rfl

theorem filter_admits_idSet (rs : List Record) (failed : List String) :
    rs.filter (admits (some (idSet failed))) = rs.filter fun r => failed.contains r.ident :=
  List.filter_congr fun r _ => by simp

end CatalogSync.Predicate
