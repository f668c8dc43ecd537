import Mathlib.Data.List.DropRight
import CatalogSync.Proofs.Filter.Selection

/-!
# Predicates as the builder makes them

The translations of a predicate into a node's query language take for granted, without checking
it, that the predicate has the shape the builder gives it (`Predicate.wellFormed`): no absent part
inside a conjunction or a disjunction, at least two parts in each, at least one id in each id
list, and each native condition trimmed and not blank. Whatever the builder is given, as long as
the parts handed to it are its own work, what it hands back is absent or well formed, and so is
every predicate a run or a plan asks with (`builder_makes_well_formed_predicates`).

What the combinations mean is read with `Predicate.selects`, under which an absent predicate
selects every record. A conjunction selects what all of its parts select, absent parts included
(`selects_allOfParts`). A disjunction drops its absent parts just as a conjunction does,
although an absent part of a disjunction would select everything: it selects what its present
parts select, and every record when there is none (`selects_anyOfParts`). So a disjunction of an
absent part and an id list selects only the ids (`disjunction_drops_an_absent_part`).

## Main definitions

* `Predicate.isWellFormed`: whether a predicate is well formed.
* `Predicate.wellFormed`: whether a predicate is absent or well formed.
* `Predicate.partsWellFormed`: whether the parts of a combination are present and well formed.
-/

namespace CatalogSync

/-! ## Trimmed texts -/

namespace Text

theorem toList_trim (s : String) :
    (trim s).toList = (s.toList.dropWhile isBlank).rdropWhile isBlank :=
  String.toList_ofList

theorem dropWhile_rdropWhile_dropWhile {α : Type} (p : α → Bool) (l : List α) :
    ((l.dropWhile p).rdropWhile p).dropWhile p = (l.dropWhile p).rdropWhile p := by
  have hfront := List.dropWhile_idempotent p l
  rw [List.dropWhile_eq_self_iff] at hfront ⊢
  intro hl
  -- what is left at the back is a prefix, so it starts where the whole list does
  have hpre := List.rdropWhile_prefix p (l.dropWhile p)
  rw [hpre.getElem hl]
  exact hfront (Nat.lt_of_lt_of_le hl hpre.length_le)

theorem mem_dropWhile_of_not {α : Type} {p : α → Bool} {c : α} (hc : p c = false) :
    ∀ {l : List α}, c ∈ l → c ∈ l.dropWhile p
  | x :: xs, h => by
    rw [List.dropWhile_cons]
    split
    · rcases List.mem_cons.mp h with rfl | h
      · rename_i hx
        rw [hc] at hx
        cases hx
      · exact mem_dropWhile_of_not hc h
    · exact h

theorem mem_rdropWhile_of_not {α : Type} {p : α → Bool} {c : α} (hc : p c = false)
    {l : List α} (h : c ∈ l) : c ∈ l.rdropWhile p := by
  rw [List.rdropWhile, List.mem_reverse]
  exact mem_dropWhile_of_not hc (List.mem_reverse.mpr h)

@[simp] theorem trim_trim (s : String) : trim (trim s) = trim s := by
  apply String.ext
  rw [toList_trim, toList_trim, dropWhile_rdropWhile_dropWhile, List.rdropWhile_idempotent]

theorem isBlankText_trim {s : String} (h : isBlankText s = false) : isBlankText (trim s) = false := by
  obtain ⟨c, hc, hblank⟩ := List.all_eq_false.mp h
  have hkept : c ∈ (trim s).toList := by
    rw [toList_trim]
    exact mem_rdropWhile_of_not (by simpa using hblank) (mem_dropWhile_of_not (by simpa using hblank) hc)
  exact List.all_eq_false.mpr ⟨c, hkept, hblank⟩

end Text

namespace Predicate

/-! ## Well-formed predicates -/

mutual
/-- Whether a predicate is well formed: a native condition trimmed and not blank, an id list with
an id, and a conjunction or a disjunction of at least two parts, each present and well formed. A
predicate of no kind nodes understand is not well formed. -/
def isWellFormed : Predicate → Bool
  | .native e => Text.trim e == e && !Text.isBlankText e
  | .modifiedAfter _ => true
  | .idIn ids => !ids.isEmpty
  | .allOf ps => 2 ≤ ps.length && partsWellFormed ps
  | .anyOf ps => 2 ≤ ps.length && partsWellFormed ps
  | .unknown => false

/-- Whether a predicate is absent or well formed. -/
def wellFormed : Option Predicate → Bool
  | none => true
  | some p => isWellFormed p

/-- Whether every part is present and well formed. -/
def partsWellFormed : List (Option Predicate) → Bool
  | [] => true
  | p :: ps => p.isSome && wellFormed p && partsWellFormed ps
end

@[simp] theorem wellFormed_none : wellFormed none = true := rfl

@[simp] theorem wellFormed_some (p : Predicate) : wellFormed (some p) = isWellFormed p := rfl

@[simp] theorem isWellFormed_native (e : String) :
    isWellFormed (.native e) = (Text.trim e == e && !Text.isBlankText e) := rfl

@[simp] theorem isWellFormed_modifiedAfter (t : Stamp) : isWellFormed (.modifiedAfter t) = true :=
  rfl

@[simp] theorem isWellFormed_idIn (ids : List String) : isWellFormed (.idIn ids) = !ids.isEmpty :=
  rfl

@[simp] theorem isWellFormed_allOf (ps : List (Option Predicate)) :
    isWellFormed (.allOf ps) = (2 ≤ ps.length && partsWellFormed ps) := rfl

@[simp] theorem isWellFormed_anyOf (ps : List (Option Predicate)) :
    isWellFormed (.anyOf ps) = (2 ≤ ps.length && partsWellFormed ps) := rfl

@[simp] theorem partsWellFormed_nil : partsWellFormed [] = true := rfl

@[simp] theorem partsWellFormed_cons (p : Option Predicate) (ps : List (Option Predicate)) :
    partsWellFormed (p :: ps) = (p.isSome && wellFormed p && partsWellFormed ps) := rfl

@[simp] theorem partsWellFormed_map_some (ps : List Predicate) :
    partsWellFormed (ps.map some) = ps.all fun p => isWellFormed p := by
  induction ps with
  | nil => rfl
  | cons p ps ih => simp [ih]

/-! ## The builder's steps -/

theorem nativeOf?_some (e : String) :
    nativeOf? (some e) = if Text.isBlankText e then none else some (.native (Text.trim e)) := rfl

theorem idsOf_eq (ids : List String) :
    idsOf ids = if ids.isEmpty then .error (.invalid "IdIn requires at least one id")
      else .ok (.idIn ids) := rfl

theorem anyOfParts_eq (parts : List (Option Predicate)) :
    anyOfParts parts = collapse .anyOf parts := rfl

theorem collapse_cases (kind : List (Option Predicate) → Predicate)
    (parts : List (Option Predicate)) :
    (parts.filterMap id = [] ∧ collapse kind parts = none) ∨
      (∃ p, parts.filterMap id = [p] ∧ collapse kind parts = some p) ∨
      ∃ p q rest, parts.filterMap id = p :: q :: rest ∧
        collapse kind parts = some (kind ((p :: q :: rest).map some)) := by
  unfold collapse
  split
  · rename_i hnil
    exact .inl ⟨hnil, rfl⟩
  · rename_i p hone
    exact .inr (.inl ⟨p, hone, rfl⟩)
  · rename_i ps hnil hone
    -- what is neither empty nor single has two parts ahead of the rest
    match hps : parts.filterMap id, hnil, hone with
    | [], hnil, _ => exact absurd rfl hnil
    | [p], _, hone => exact absurd rfl (hone p)
    | p :: q :: rest, _, _ => exact .inr (.inr ⟨p, q, rest, rfl, rfl⟩)

/-! ## What the builder makes -/

theorem wellFormed_nativeOf? (e : Option String) : wellFormed (nativeOf? e) = true := by
  cases e with
  | none => rfl
  | some e =>
    rw [nativeOf?_some]
    cases hblank : Text.isBlankText e with
    | true => rfl
    | false => simp [Text.isBlankText_trim hblank]

theorem wellFormed_idsOf {ids : List String} {p : Predicate} (h : idsOf ids = .ok p) :
    wellFormed (some p) = true := by
  rw [idsOf_eq] at h
  cases hempty : ids.isEmpty with
  | true => simp [hempty] at h
  | false =>
    simp only [hempty, Bool.false_eq_true, if_false, Except.ok.injEq] at h
    subst h
    simp [hempty]

theorem wellFormed_collapse {kind : List (Option Predicate) → Predicate}
    (hkind : ∀ ps : List Predicate, 2 ≤ ps.length → (∀ p ∈ ps, isWellFormed p = true) →
      isWellFormed (kind (ps.map some)) = true)
    {parts : List (Option Predicate)} (hparts : ∀ p ∈ parts, wellFormed p = true) :
    wellFormed (collapse kind parts) = true := by
  have hpresent : ∀ p ∈ parts.filterMap id, isWellFormed p = true := by
    intro p hp
    obtain ⟨q, hq, rfl⟩ := List.mem_filterMap.mp hp
    exact hparts _ hq
  rcases collapse_cases kind parts with ⟨-, hc⟩ | ⟨p, hone, hc⟩ | ⟨p, q, rest, hmany, hc⟩
  · rw [hc]
    rfl
  · rw [hc, wellFormed_some]
    exact hpresent p (by rw [hone]; exact List.mem_singleton_self p)
  · rw [hc, wellFormed_some]
    rw [hmany] at hpresent
    exact hkind _ (by simp) hpresent

theorem wellFormed_allOfParts {parts : List (Option Predicate)}
    (h : ∀ p ∈ parts, wellFormed p = true) : wellFormed (allOfParts parts) = true :=
  wellFormed_collapse (fun ps hlen hps => by simpa [hlen] using hps) h

theorem wellFormed_anyOfParts {parts : List (Option Predicate)}
    (h : ∀ p ∈ parts, wellFormed p = true) : wellFormed (anyOfParts parts) = true :=
  wellFormed_collapse (fun ps hlen hps => by simpa [hlen] using hps) h

theorem wellFormed_failedItems {base : Option String} {failed : List String}
    {p : Option Predicate} (h : failedItems base failed = .ok p) : wellFormed p = true := by
  have hne := ne_nil_of_failedItems h
  rw [failedItems_eq hne] at h
  cases h
  apply wellFormed_allOfParts
  simp only [List.mem_cons, List.not_mem_nil, or_false]
  rintro q (rfl | rfl)
  · exact wellFormed_nativeOf? base
  · simpa using hne

theorem wellFormed_changeSet (base : Option String) (mark : Option Stamp) :
    wellFormed (changeSet base mark) = true := by
  apply wellFormed_allOfParts
  simp only [List.mem_cons, List.not_mem_nil, or_false]
  rintro q (rfl | rfl)
  · exact wellFormed_nativeOf? base
  · cases mark <;> rfl

theorem compose_some (base : Option String) (w : Stamp) (failed : List String) :
    compose base (some w) failed =
      if failed.isEmpty then .ok (changeSet base (some w))
      else (idsOf failed).map fun ids =>
        allOfParts [nativeOf? base, anyOfParts [some ids, some (.modifiedAfter w)]] := by
  show (if failed.isEmpty then _ else _) = _
  split
  · rfl
  · cases idsOf failed <;> rfl

theorem wellFormed_compose {base : Option String} {mark : Option Stamp} {failed : List String}
    {p : Option Predicate} (h : compose base mark failed = .ok p) : wellFormed p = true := by
  cases mark with
  | none =>
    cases h
    exact wellFormed_changeSet base none
  | some w =>
    rw [compose_some] at h
    split at h
    · cases h
      exact wellFormed_changeSet base (some w)
    · cases hids : idsOf failed with
      | error e => rw [hids] at h; cases h
      | ok ids =>
        rw [hids] at h
        cases h
        apply wellFormed_allOfParts
        simp only [List.mem_cons, List.not_mem_nil, or_false]
        rintro q (rfl | rfl)
        · exact wellFormed_nativeOf? base
        · apply wellFormed_anyOfParts
          simp only [List.mem_cons, List.not_mem_nil, or_false]
          rintro q (rfl | rfl)
          · exact wellFormed_idsOf hids
          · rfl

/-! ## What a disjunction selects -/

section Selects

variable (native : String → Record → Bool) (r : Record)

/-- A disjunction the builder makes selects what one of its present parts selects, and every
record when no part is present: its absent parts are dropped. -/
theorem selects_anyOfParts (parts : List (Option Predicate)) :
    selects native r (anyOfParts parts) =
      ((parts.filterMap id).isEmpty ||
        (parts.filterMap id).any fun p => selects native r (some p)) := by
  rw [anyOfParts_eq]
  rcases collapse_cases .anyOf parts with ⟨hnil, hc⟩ | ⟨p, hone, hc⟩ | ⟨p, q, rest, hmany, hc⟩
  · rw [hc, hnil]
    simp [selects]
  · rw [hc, hone]
    simp
  -- two parts or more: the disjunction of them all
  · rw [hc, hmany]
    simp [selects, Function.comp_def]

end Selects

/-- What the builder makes is absent or well formed: the native conditions, times and id lists
it makes, the conjunctions and disjunctions it makes of parts that are absent or well formed, and
the predicates of the two queries of a run and of a plan. A conjunction it makes selects what
all its parts select, an absent part selecting every record; a disjunction selects what one of
its present parts selects, and every record when no part is present. -/
theorem builder_makes_well_formed_predicates :
    (∀ e, wellFormed (nativeOf? e) = true) ∧
    (∀ t, wellFormed (some (.modifiedAfter t)) = true) ∧
    (∀ ids p, idsOf ids = .ok p → wellFormed (some p) = true) ∧
    (∀ parts, (∀ p ∈ parts, wellFormed p = true) →
      wellFormed (allOfParts parts) = true ∧ wellFormed (anyOfParts parts) = true) ∧
    (∀ base failed p, failedItems base failed = .ok p → wellFormed p = true) ∧
    (∀ base mark, wellFormed (changeSet base mark) = true) ∧
    (∀ base mark failed p, compose base mark failed = .ok p → wellFormed p = true) ∧
    ∀ (native : String → Record → Bool) (r : Record) (parts : List (Option Predicate)),
      selects native r (allOfParts parts) = parts.all (selects native r) ∧
      selects native r (anyOfParts parts) =
        ((parts.filterMap id).isEmpty ||
          (parts.filterMap id).any fun p => selects native r (some p)) :=
  ⟨wellFormed_nativeOf?, fun _ => rfl, fun _ _ => wellFormed_idsOf,
    fun _ h => ⟨wellFormed_allOfParts h, wellFormed_anyOfParts h⟩,
    fun _ _ _ => wellFormed_failedItems, wellFormed_changeSet, fun _ _ _ _ => wellFormed_compose,
    fun native r parts => ⟨selects_allOfParts native r parts, selects_anyOfParts native r parts⟩⟩

/-- A disjunction of an absent part, which selects every record, and the id list `[a]` is the id
list alone, so it does not select the record `b`, which its absent part selects. -/
theorem disjunction_drops_an_absent_part :
    anyOfParts [none, some (.idIn ["a"])] = some (.idIn ["a"]) ∧
      [none, some (.idIn ["a"])].any
        (selects (fun _ _ => true) { id := .str "b", modified := none }) = true ∧
      selects (fun _ _ => true) { id := .str "b", modified := none }
        (anyOfParts [none, some (.idIn ["a"])]) = false := by
  refine ⟨rfl, by simp [selects], ?_⟩
  rw [show anyOfParts [none, some (.idIn ["a"])] = some (.idIn ["a"]) from rfl]
  simp [selects, Record.ident, Value.display, Value.render]

end Predicate

end CatalogSync
