import CatalogSync.Proofs.Filter.Restriction
import CatalogSync.Proofs.Hdfs.Pages

/-!
# The ids a file-system node keeps

A file-system node has no query language: it lists its files, sorts them by modification time,
makes their records, and keeps those whose ids the predicate's id lists let through
(`query_run`). With what `Predicate.Restriction` says of that reading, a query never drops a
listed file whose record the predicate holds for, and for the predicate of a retry pass it keeps
exactly the files with a failed id (`requested_ids_keep_what_the_predicate_selects`).
-/

namespace CatalogSync.Hdfs

open Predicate

variable {σ : Type}

/-- A query whose files were listed, sorted and made into records answers those records that
the predicate's restriction lets through, in order. -/
theorem query_run (send : Send (StateM σ)) (n : Node) {p : Option Predicate}
    {after : Option Stamp} {w w' : σ} {files sorted : List Value} {recs : List Record}
    {ids : Option (List String)} (hfiles : (n.files send after).run.run w = (.ok files, w'))
    (hsort : sortByTime files = .ok sorted) (hrec : sorted.mapM n.createRecord = .ok recs)
    (hids : restrictedIds p = .ok ids) :
    (n.query send p after).run.run w =
      (.ok { records := recs.filter (admits ids), context := "Failed to query remote system" },
        w') := by
  unfold Node.query
  rw [run_bind, hfiles]
  simp only [hsort, hrec, hids, lift, pure_bind]
  cases ids with
  | none => rw [filter_admits_none]; rfl
  | some s => rfl

/-- What a file-system node keeps of a predicate. Every predicate whose disjunctions all have
parts has a restriction, and whatever native conditions and times are read as, each record the
predicate holds for passes it; a predicate of id lists alone holds for exactly the records that
pass. So a query whose files were listed, sorted and made into records answers a listing that
keeps every one of them the predicate holds for, and, for the predicate of a retry pass, exactly
those whose id failed, in order. -/
theorem requested_ids_keep_what_the_predicate_selects (leaf : Predicate → Record → Bool)
    {p : Option Predicate} (hp : anyOfsHaveParts p = true) :
    ∃ ids, restrictedIds p = .ok ids ∧
      (∀ r, holds leaf r p = true → admits ids r = true) ∧
      (idsOnly p = true → ∀ r, admits ids r = holds leaf r p) ∧
      ∀ {σ : Type} (send : Send (StateM σ)) (n : Node) (after : Option Stamp) (w w' : σ)
        (files sorted : List Value) (recs : List Record),
        (n.files send after).run.run w = (.ok files, w') → sortByTime files = .ok sorted →
        sorted.mapM n.createRecord = .ok recs →
        ∃ l, (n.query send p after).run.run w = (.ok l, w') ∧
          (∀ r ∈ recs, holds leaf r p = true → r ∈ l.records) ∧
          ∀ base failed, failedItems base failed = .ok p →
            l.records = recs.filter fun r => failed.contains r.ident := by
  obtain ⟨ids, hids⟩ := restrictedIds_ok p hp
  refine ⟨ids, hids, fun r hr => admits_of_holds leaf r p hids hr, fun ho r => ?_,
    fun send n after w w' files sorted recs hfiles hsort hrec => ?_⟩
  · cases h : holds leaf r p
    · -- a record the predicate does not hold for is turned away
      cases ha : admits ids r
      · rfl
      · rw [holds_of_admits leaf r p ho hids ha] at h
        cases h
    · exact admits_of_holds leaf r p hids h
  · refine ⟨_, query_run send n hfiles hsort hrec hids, fun r hr hholds => ?_,
      fun base failed hfailed => ?_⟩
    · exact List.mem_filter.mpr ⟨hr, admits_of_holds leaf r p hids hholds⟩
    · rw [restrictedIds_failedItems hfailed] at hids
      cases hids
      exact filter_admits_idSet recs failed

/-- The predicate of a retry pass over a native condition and the failed ids `a` and `b`. -/
def retryOfTwo : Option Predicate :=
  some (.allOf [some (.native "size > 0"), some (.idIn ["a", "b"])])

/-- The retry predicate of `a` and `b` has a restriction, and lets through every record it
holds for, however its native condition is read. -/
theorem retry_of_two_restricts_to_its_ids :
    anyOfsHaveParts retryOfTwo = true ∧ ∃ ids, restrictedIds retryOfTwo = .ok ids ∧
      ∀ r, holds (fun _ _ => true) r retryOfTwo = true → admits ids r = true := by
  have hp : anyOfsHaveParts retryOfTwo = true := by
    simp [retryOfTwo, anyOfsHaveParts, anyOfsHavePartsAll]
  obtain ⟨ids, hids, hsound, -⟩ := requested_ids_keep_what_the_predicate_selects (fun _ _ => true) hp
  exact ⟨hp, ids, hids, hsound⟩

end CatalogSync.Hdfs
