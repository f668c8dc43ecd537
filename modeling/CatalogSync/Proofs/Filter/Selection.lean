import CatalogSync.Filter.Builder
import CatalogSync.Node.Record

/-!
# What a predicate selects

Nodes read predicates in their own query languages; the engine only builds them. Here a
predicate is given the meaning every node agrees on (`Predicate.selects`): an absent predicate
selects every record, a conjunction selects what all its parts select, a disjunction what some
part selects, an id list the records with one of its ids, and a time the records modified
strictly after it. A native condition is read by any function `native` of its text and the
record, since no two nodes read it alike.

The builder collapses what it builds, and the run asks its source twice: once for the records
whose pushes failed before (`Predicate.failedItems`) and once for those modified after the
watermark (`Predicate.changeSet`). The plan of a replication shows one predicate instead
(`Predicate.compose`). `compose_selects_either` says that this predicate selects exactly the
records one of the two queries would, under every reading of native conditions.
-/

namespace CatalogSync.Predicate

mutual
/-- Whether a predicate selects a record, native conditions read by `native`; an absent
predicate selects every record, and a predicate of no kind nodes understand selects none. -/
def selects (native : String → Record → Bool) (r : Record) : Option Predicate → Bool
  | none => true
  | some (.native e) => native e r
  | some (.modifiedAfter t) => r.modified.any fun m => (m.after t).toOption == some true
  | some (.idIn ids) => ids.contains r.ident
  | some (.allOf ps) => selectsAll native r ps
  | some (.anyOf ps) => selectsAny native r ps
  | some .unknown => false

/-- Whether every part selects a record. -/
def selectsAll (native : String → Record → Bool) (r : Record) : List (Option Predicate) → Bool
  | [] => true
  | p :: ps => selects native r p && selectsAll native r ps

/-- Whether some part selects a record. -/
def selectsAny (native : String → Record → Bool) (r : Record) : List (Option Predicate) → Bool
  | [] => false
  | p :: ps => selects native r p || selectsAny native r ps
end

section Selects

variable (native : String → Record → Bool) (r : Record)

@[simp] theorem selectsAll_eq_all (ps : List (Option Predicate)) :
    selectsAll native r ps = ps.all (selects native r) := by
  induction ps with
  | nil => simp [selectsAll]
  | cons p ps ih => simp [selectsAll, ih]

@[simp] theorem selectsAny_eq_any (ps : List (Option Predicate)) :
    selectsAny native r ps = ps.any (selects native r) := by
  induction ps with
  | nil => simp [selectsAny]
  | cons p ps ih => simp [selectsAny, ih]

theorem all_selects_present (ps : List (Option Predicate)) :
    ps.all (selects native r) = (ps.filterMap id).all fun p => selects native r (some p) := by
  induction ps with
  | nil => rfl
  | cons p ps ih => cases p <;> simp [ih, selects]

@[simp] theorem selects_allOfParts (ps : List (Option Predicate)) :
    selects native r (allOfParts ps) = ps.all (selects native r) := by
  rw [all_selects_present]
  unfold allOfParts collapse
  split
  · rename_i h
    rw [h, List.all_nil, selects]
  · rename_i p h
    rw [h, List.all_cons, List.all_nil, Bool.and_true]
  · simp [selects, Function.comp_def]

theorem selects_anyOfParts_pair (a b : Predicate) :
    selects native r (anyOfParts [some a, some b]) =
      (selects native r (some a) || selects native r (some b)) := by
  simp [anyOfParts, collapse, selects]

theorem failedItems_eq {base : Option String} {failed : List String} (h : failed ≠ []) :
    failedItems base failed = .ok (allOfParts [nativeOf? base, some (.idIn failed)]) := by
  have hne : failed.isEmpty = false := List.isEmpty_eq_false_iff.mpr h
  unfold failedItems idsOf
  simp only [hne, Bool.false_eq_true, if_false]
  rfl

theorem failedItems_error {base : Option String} :
    ∃ f, failedItems base [] = .error f :=
  ⟨_, rfl⟩

theorem ne_nil_of_failedItems {base : Option String} {failed : List String}
    {p : Option Predicate} (h : failedItems base failed = .ok p) : failed ≠ [] := by
  rintro rfl
  obtain ⟨f, hf⟩ : ∃ f, failedItems base [] = .error f := failedItems_error
  rw [hf] at h
  cases h

end Selects

/-- The one predicate of a plan selects exactly the records that one of the two queries of the
next run selects: the records whose pushes failed before, when there are any, and the records
modified after the watermark. Whatever the base condition, the watermark, the failed ids and the
reading of native conditions, composing the predicate never fails. -/
theorem compose_selects_either (native : String → Record → Bool) (base : Option String)
    (mark : Option Stamp) (failed : List String) :
    ∃ p, compose base mark failed = .ok p ∧ ∀ r,
      selects native r p =
        ((failedItems base failed).toOption.any (selects native r) ||
          selects native r (changeSet base mark)) := by
  by_cases hfailed : failed = []
  -- no failed ids: the plan is the change set, and no failed-items query is issued
  · subst hfailed
    obtain ⟨f, hf⟩ : ∃ f, failedItems base [] = .error f := failedItems_error
    refine ⟨changeSet base mark, by cases mark <;> rfl, fun r => ?_⟩
    simp [hf, Except.toOption]
  rw [failedItems_eq hfailed]
  cases mark with
  -- no watermark: the change set is the base condition, which takes in the failed ids
  | none =>
    refine ⟨changeSet base none, rfl, fun r => ?_⟩
    simp only [changeSet, Except.toOption, Option.any_some, selects_allOfParts, List.all_cons,
      List.all_nil, Option.map_none, selects, Bool.and_true]
    cases selects native r (nativeOf? base) <;> simp
  -- both: the base condition distributes over the two halves
  | some w =>
    refine ⟨allOfParts [nativeOf? base, anyOfParts [some (.idIn failed), some (.modifiedAfter w)]],
      ?_, fun r => ?_⟩
    · have hne : failed.isEmpty = false := List.isEmpty_eq_false_iff.mpr hfailed
      simp only [compose, idsOf, hne, Bool.false_eq_true, if_false]
      rfl
    · simp only [changeSet, Except.toOption, Option.any_some, selects_allOfParts,
        selects_anyOfParts_pair, List.all_cons, List.all_nil, Option.map_some, Bool.and_true]
      cases selects native r (nativeOf? base) <;> simp

end CatalogSync.Predicate
