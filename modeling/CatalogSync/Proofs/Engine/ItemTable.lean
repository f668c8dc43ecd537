import CatalogSync.Proofs.Engine.Bookkeeping

/-!
# The item table and the failure counts it holds

The item store files at most one item under each key. Read off a log, the store is a table
that only the saves it took change (`Log.table`); it answers truthfully when every read hands
back what the table files under the key asked for and every failure list names only records
whose items failed, fewer times than the limit (`Log.Truthful`). A source keeps to the ids of a
failed-items query when it lists no other records for it (`Log.KeepsToIds`). That the store's
file changes only by its saves, its reads and the catalogs' operations leaving it as it was, is
proved of the store's statements in `Proofs/Store/Frame`; what its reads hand back is assumed.

Against such a store and source, a push turns the item of its record into the one it saves as
`Item.Follows` says: the key stays; a success files the record's versions and clears the
failures; a refusal adds one failure, or restarts the count at one once it reached the retry
limit. The retry pass asks only for records whose items failed fewer times than the limit, so
only the change pass can find a count at the limit. Every table a run passes through then files
items whose counts lie between zero and the limit (`Table.Bounded`), run after run
(`failure_counts_stay_within_the_limit`).
-/

namespace CatalogSync

deriving instance DecidableEq for Tally
deriving instance DecidableEq for Item

namespace Item

/-- Whether an item failed a whole number of times, at least once and fewer than `limit`. -/
def retriable (limit : Int) (j : Item) : Bool :=
  match j.failureCount with
  | .whole n => 0 < n && n < limit
  | _ => false

/-- Whether an item failed a whole number of times, at most `limit`. -/
def Within (limit : Int) (j : Item) : Prop :=
  ∃ n, j.failureCount = .whole n ∧ 0 ≤ n ∧ n ≤ limit

/-- How a push of the record `r` may turn the item `i` it found into the item `j` it saves: the
key stays; a success files the record's versions and clears the failures; a refusal keeps the
versions and counts one more failure, or one once the count reached `limit`. -/
def Follows (limit : Int) (r : Record) (i j : Item) : Prop :=
  j.key = i.key ∧
    (j.metadataModified = r.modified ∧ j.resourceModified = r.resourceModified ∧
        j.failureCount = .whole 0 ∨
      j.metadataModified = i.metadataModified ∧ j.resourceModified = i.resourceModified ∧
        ∃ n, i.failureCount = .whole n ∧ j.failureCount = .whole (if limit ≤ n then 1 else n + 1))

variable {limit : Int} {r : Record} {i j : Item}

theorem follows_succeeded (limit : Int) (r : Record) (i : Item) :
    i.Follows limit r (i.succeeded r.modified r.resourceModified) :=
  ⟨rfl, .inl ⟨rfl, rfl, rfl⟩⟩

/-- A refusal of an item with a whole count keeps every field but the count, which grows by
one, or starts again at one once it reached `limit`, unless the push is a retry: a retry adds one
failure where the change pass would restart the count, and finds the count below the limit. -/
theorem refusal_of_whole {n : Int} {retry : Bool} (hi : i.failureCount = .whole n)
    (hr : i.refusal limit retry = .ok j) (hretry : retry = true → n < limit) :
    j = { i with failureCount := .whole (if limit ≤ n then 1 else n + 1), updatedAt := none } := by
  simp only [refusal, failed, hi, Tally.atLeast, bind, Except.bind, pure, Except.pure] at hr
  cases retry with
  | true =>
    have hlt := hretry rfl
    simp only [Bool.not_true, Bool.and_false, Bool.false_eq_true, if_false, Tally.next] at hr
    cases hr
    rw [if_neg (by omega)]
  | false =>
    by_cases hle : limit ≤ n
    · have hd : decide (n ≥ limit) = true := decide_eq_true (by omega)
      simp only [hd, Bool.not_false, Bool.and_self, if_true] at hr
      cases hr
      rw [if_pos hle]
    · have hd : decide (n ≥ limit) = false := decide_eq_false (by omega)
      simp only [hd, Tally.next] at hr
      cases hr
      rw [if_neg hle]

theorem follows_refusal {n : Int} {retry : Bool} (hi : i.failureCount = .whole n)
    (hr : i.refusal limit retry = .ok j) (hretry : retry = true → n < limit) :
    i.Follows limit r j := by
  rw [refusal_of_whole hi hr hretry]
  exact ⟨rfl, .inr ⟨rfl, rfl, n, hi, rfl⟩⟩

theorem Follows.within (h : i.Follows limit r j) (hi : i.Within limit) (hl : 1 ≤ limit) :
    j.Within limit := by
  obtain ⟨n, hn, h0, hle⟩ := hi
  rcases h.2 with ⟨-, -, hj⟩ | ⟨-, -, m, hm, hj⟩
  · exact ⟨0, hj, Int.le_refl 0, by omega⟩
  · rw [hn] at hm
    cases hm
    by_cases hlim : limit ≤ n
    · exact ⟨1, by rw [hj, if_pos hlim], by omega, hl⟩
    · exact ⟨n + 1, by rw [hj, if_neg hlim], by omega, by omega⟩

end Item

namespace Sync

/-! ## The table of the item store -/

/-- What the item store holds: at most one item under each key. -/
abbrev Table := String × String × String × String → Option Item

namespace Table

/-- The table after `j` is saved: `j` filed under its key, in place of what was there. -/
def file (T : Table) (j : Item) : Table := fun k => if k = j.key then some j else T k

theorem file_of_ne {T : Table} {j : Item} {k : String × String × String × String}
    (h : k ≠ j.key) : T.file j k = T k :=
  if_neg h

/-- Whether every item the table files under a key of the replication is filed under its own key
and failed a whole number of times, at most the retry limit. -/
def Bounded (config : Replication) (T : Table) : Prop :=
  ∀ id j, T (config.keyOf id) = some j → j.key = config.keyOf id ∧ j.Within config.retryLimit

/-- Whether the item filed for the record with id `id`, if any, failed a whole number of times,
fewer than the retry limit. -/
def Pending (config : Replication) (T : Table) (id : String) : Prop :=
  ∀ j, T (config.keyOf id) = some j → ∃ n, j.failureCount = .whole n ∧ n < config.retryLimit

variable {config : Replication} {T : Table}

theorem Bounded.file (h : T.Bounded config) {j : Item} (hj : j.Within config.retryLimit) :
    (T.file j).Bounded config := by
  intro id j' hj'
  unfold Table.file at hj'
  split at hj'
  · rename_i hk
    cases hj'
    exact ⟨hk.symm, hj⟩
  · exact h id j' hj'

theorem Bounded.itemOf (h : T.Bounded config) (hl : 0 ≤ config.retryLimit) (r : Record) :
    (config.itemOf r (T (config.keyOf r.ident))).key = config.keyOf r.ident ∧
      (config.itemOf r (T (config.keyOf r.ident))).Within config.retryLimit := by
  cases hT : T (config.keyOf r.ident) with
  | none => exact ⟨rfl, 0, rfl, Int.le_refl 0, hl⟩
  | some i => exact h r.ident i hT

end Table

/-- The table after an event: a save the store took files its item, and nothing else changes
it. -/
def Event.filed (T : Table) : Event → Table
  | .call (.store (.saveItem j (.ok ()))) => T.file j
  | _ => T

theorem Event.filed_of_saved {e : Event} (h : e.saved = none) (T : Table) : e.filed T = T := by
  unfold Event.filed
  split
  · simp [Event.saved] at h
  · rfl

namespace Log

/-- The table after the events of a log, from the table `T` before them. -/
def table (T : Table) (l : Log) : Table := l.foldl Event.filed T

@[simp] theorem table_nil (T : Table) : table T [] = T := rfl

@[simp] theorem table_cons (T : Table) (e : Event) (l : Log) :
    table T (e :: l) = table (e.filed T) l :=
  rfl

@[simp] theorem table_append (T : Table) (l₁ l₂ : Log) :
    table T (l₁ ++ l₂) = table (table T l₁) l₂ :=
  List.foldl_append

theorem table_unsaved {l : Log} (h : l.saves = []) (T : Table) : l.table T = T := by
  induction l with
  | nil => rfl
  | cons e l ih =>
    rw [saves_cons, List.append_eq_nil_iff, Option.toList_eq_nil_iff] at h
    rw [table_cons, Event.filed_of_saved h.1, ih h.2]

/-- Whether every event of a log satisfies `Q` with the table before it. -/
def Along (Q : Table → Event → Prop) : Table → Log → Prop
  | _, [] => True
  | T, e :: l => Q T e ∧ Along Q (e.filed T) l

instance decAlong (Q : Table → Event → Prop) [∀ T e, Decidable (Q T e)] :
    ∀ (T : Table) (l : Log), Decidable (Along Q T l)
  | _, [] => isTrue trivial
  | T, e :: l =>
    have := decAlong Q (e.filed T) l
    inferInstanceAs (Decidable (Q T e ∧ Along Q (e.filed T) l))

variable {Q Q' : Table → Event → Prop} {P : Table → Prop} {T : Table} {l l₁ l₂ : Log}

theorem along_append : Along Q T (l₁ ++ l₂) ↔ Along Q T l₁ ∧ Along Q (l₁.table T) l₂ := by
  induction l₁ generalizing T with
  | nil => simp [Along]
  | cons e l ih => simp [Along, ih, and_assoc]

theorem Along.mono (h : Along Q T l) (hQ : ∀ T e, Q T e → Q' T e) : Along Q' T l := by
  induction l generalizing T with
  | nil => trivial
  | cons e l ih => exact ⟨hQ T e h.1, ih h.2⟩

theorem along_unsaved (hl : l.saves = []) (hQ : ∀ e ∈ l, Q T e) : Along Q T l := by
  induction l with
  | nil => trivial
  | cons e l ih =>
    rw [saves_cons, List.append_eq_nil_iff, Option.toList_eq_nil_iff] at hl
    refine ⟨hQ e List.mem_cons_self, ?_⟩
    rw [Event.filed_of_saved hl.1]
    exact ih hl.2 fun x hx => hQ x (List.mem_cons_of_mem e hx)

/-- Whether `P` holds of every table a log passes through, the first and the last included. -/
def Keeps (P : Table → Prop) (T : Table) (l : Log) : Prop :=
  Along (fun T _ => P T) T l ∧ P (l.table T)

theorem Keeps.first (h : Keeps P T l) : P T := by
  cases l with
  | nil => exact h.2
  | cons e l => exact h.1.1

theorem keeps_append : Keeps P T (l₁ ++ l₂) ↔ Keeps P T l₁ ∧ Keeps P (l₁.table T) l₂ := by
  unfold Keeps
  rw [along_append, table_append]
  constructor
  · rintro ⟨⟨h₁, h₂⟩, h₃⟩
    exact ⟨⟨h₁, Keeps.first ⟨h₂, h₃⟩⟩, h₂, h₃⟩
  · rintro ⟨⟨h₁, -⟩, h₂, h₃⟩
    exact ⟨⟨h₁, h₂⟩, h₃⟩

theorem keeps_unsaved (hl : l.saves = []) (h : P T) : Keeps P T l :=
  ⟨along_unsaved hl fun _ _ => h, by rwa [table_unsaved hl]⟩

end Log

/-! ## What the store and the source answer -/

/-- Whether the item store answered an event as a store holding the table `T`: a read hands back
what is filed under the key asked for, and a failure list names only records whose items failed,
fewer times than the limit. -/
def Event.answeredBy (T : Table) : Event → Bool
  | .call (.store (.getItem config id source destination (.ok ans))) =>
    decide (ans = T (config, id, source, destination))
  | .call (.store (.failureList config limit source destination (.ok ids))) =>
    ids.all fun id => (T (config, id, source, destination)).any (Item.retriable limit)
  | _ => true

/-- Whether the item store answered the events of a log as a store holding `T` before them, that
only the saves of the log change. -/
def Log.Truthful (T : Table) (l : Log) : Prop := l.Along (fun T e => e.answeredBy T = true) T

/-- The ids a failed-items predicate limits a query to. -/
def Predicate.failedIds? : Option Predicate → Option (List String)
  | some (.idIn ids) => some ids
  | some (.allOf [some (.native _), some (.idIn ids)]) => some ids
  | _ => none

theorem Predicate.failedIds?_of_failedItems {base : Option String} {failed : List String}
    {p : Option Predicate} (h : Predicate.failedItems base failed = .ok p) :
    Predicate.failedIds? p = some failed := by
  unfold Predicate.failedItems at h
  split at h
  · cases h
  rename_i hne
  simp only [Predicate.idsOf, hne, bind, Except.bind, pure, Except.pure] at h
  cases h
  cases hb : Predicate.nativeOf? base with
  | none => rfl
  | some q =>
    have hq : ∃ e, q = .native e := by
      unfold Predicate.nativeOf? at hb
      split at hb
      · cases hb
      · split at hb
        · cases hb
        · cases hb
          exact ⟨_, rfl⟩
    obtain ⟨e, rfl⟩ := hq
    rfl

theorem Predicate.failedItems_of_bind {cond : Except Failure (Option String)}
    {failed : List String} {p : Option Predicate}
    (h : (cond >>= fun base => Predicate.failedItems base failed) = .ok p) :
    ∃ base, Predicate.failedItems base failed = .ok p := by
  rcases cond with _ | base
  · cases h
  · exact ⟨base, h⟩

/-- Whether a listing the source answered keeps to the ids its query asked for, when the query
asked for failed items. -/
def Event.keepsToIds : Event → Bool
  | .call (.site .source (.query p _ (.ok ls))) =>
    match Predicate.failedIds? p with
    | some ids => ls.records.all fun r => ids.contains r.ident
    | none => true
  | _ => true

/-- Whether every listing of a log keeps to the ids its query asked for. -/
def Log.KeepsToIds (l : Log) : Prop := ∀ e ∈ l, e.keepsToIds = true

instance (T : Table) (l : Log) : Decidable (l.Truthful T) :=
  inferInstanceAs (Decidable (l.Along (fun T e => e.answeredBy T = true) T))

instance (l : Log) : Decidable l.KeepsToIds :=
  inferInstanceAs (Decidable (∀ e ∈ l, e.keepsToIds = true))

end Sync

namespace Replication

open Sync

/-- Whether the item an event saves, if any, follows from the item the table `T` files for a
record of `rs`. -/
def Refiles (config : Replication) (rs : List Record) (T : Table) (e : Event) : Prop :=
  ∀ j, e.saved = some j →
    ∃ r ∈ rs, (config.itemOf r (T (config.keyOf r.ident))).Follows config.retryLimit r j

theorem refiles_unsaved {config : Replication} {rs : List Record} {T : Table}
    {e : Event} (h : e.saved = none) : config.Refiles rs T e := by
  intro j hj
  rw [h] at hj
  cases hj

theorem refiles_mono {config : Replication} {rs rs' : List Record} {T : Table}
    {e : Event} (h : config.Refiles rs T e) (hsub : rs ⊆ rs') : config.Refiles rs' T e := by
  intro j hj
  obtain ⟨r, hr, hf⟩ := h j hj
  exact ⟨r, hsub hr, hf⟩

end Replication

namespace Sync

/-! ## Stretches of log that save nothing -/

namespace Log

variable {Q : Table → Event → Prop} {P : Table → Prop} {T : Table} {pre post l l₁ l₂ : Log}

theorem saved_of_unsaved (h : l.saves = []) {e : Event} (he : e ∈ l) : e.saved = none :=
  List.filterMap_eq_nil_iff.mp h e he

theorem table_around (hpre : pre.saves = []) (hpost : post.saves = []) (e : Event) (T : Table) :
    (pre ++ e :: post).table T = e.filed T := by
  rw [table_append, table_unsaved hpre, table_cons, table_unsaved hpost]

@[simp] theorem along_cons {e : Event} :
    Along Q T (e :: l) ↔ Q T e ∧ Along Q (e.filed T) l :=
  Iff.rfl

theorem keeps_cons {e : Event} : Keeps P T (e :: l) ↔ P T ∧ Keeps P (e.filed T) l := by
  simp [Keeps, and_assoc]

theorem Keeps.after_unsaved (hpre : pre.saves = []) (h : Keeps P T l) : Keeps P T (pre ++ l) :=
  keeps_append.mpr ⟨keeps_unsaved hpre h.first, by rwa [table_unsaved hpre]⟩

theorem Along.after_unsaved (hpre : pre.saves = []) (hQ : ∀ e ∈ pre, Q T e) (h : Along Q T l) :
    Along Q T (pre ++ l) :=
  along_append.mpr ⟨along_unsaved hpre hQ, by rwa [table_unsaved hpre]⟩

theorem truthful_append : Truthful T (l₁ ++ l₂) ↔ Truthful T l₁ ∧ Truthful (l₁.table T) l₂ :=
  along_append

theorem Truthful.drop (hpre : pre.saves = []) (h : Truthful T (pre ++ l)) : Truthful T l := by
  have := (truthful_append.mp h).2
  rwa [table_unsaved hpre] at this

/-- The records the queries of a log were answered with, in order. -/
def listedRecords (l : Log) : List Record := l.listings.flatMap Listing.records

@[simp] theorem listedRecords_append (l₁ l₂ : Log) :
    (l₁ ++ l₂).listedRecords = l₁.listedRecords ++ l₂.listedRecords := by
  simp [listedRecords]

end Log

theorem Event.answeredBy_readsItem {config : Replication} {r : Record} {stored : Option Item}
    {T : Table} :
    (config.readsItem r (.ok stored)).answeredBy T = true ↔ stored = T (config.keyOf r.ident) := by
  simp [Replication.readsItem, Event.answeredBy, Replication.keyOf]

/-! ## A push -/

variable {config : Replication} {retry : Bool} {r : Record} {st : RunStatus}
  {stored : Option Item} {p : Log} {res : Except Failure (Option RunState)}

theorem PushLog.saves_once (h : PushLog config retry r st stored p res) :
    p.saves = [] ∨ ∃ (pre : Log) (j : Item) (ans : Except Failure Unit) (post : Log),
      p = pre ++ .call (.store (.saveItem j ans)) :: post ∧
      pre.saves = [] ∧ post.saves = [] ∧
      (j = (config.itemOf r stored).succeeded r.modified r.resourceModified ∨
        (config.itemOf r stored).refusal config.retryLimit retry = .ok j) := by
  cases h with
  | skipped => exact .inl rfl
  | stopped hch => exact .inl hch.saves
  | @took ch t₁ t₂ b ans hch ht₁ ht₂ =>
    refine .inr ⟨ch ++ t₁ ++ [.status (st.recordPush b)] ++ t₂, _, ans, [], by simp, ?_, rfl,
      .inl rfl⟩
    simp [hch.saves, ht₁, ht₂, Event.saved]
  | uncounted hch ht => exact .inl (by simp [hch.saves, ht, Event.saved])
  | @refused ch t₁ t₂ probes i ans _ hch ht₁ ht₂ hi hprobes =>
    refine .inr ⟨ch ++ t₁ ++ [.status st.recordPushFailure] ++ t₂, i, ans, probes, by simp, ?_,
      (Log.probes_neutral hprobes).1, .inr hi⟩
    simp [hch.saves, ht₁, ht₂, Event.saved]

theorem PushLog.follows {T : Table} (hN : 1 ≤ config.retryLimit) (hB : T.Bounded config)
    (hretry : retry = true → T.Pending config r.ident) {j : Item}
    (hj : j = (config.itemOf r (T (config.keyOf r.ident))).succeeded r.modified r.resourceModified ∨
      (config.itemOf r (T (config.keyOf r.ident))).refusal config.retryLimit retry = .ok j) :
    (config.itemOf r (T (config.keyOf r.ident))).Follows config.retryLimit r j := by
  rcases hj with rfl | hr
  · exact Item.follows_succeeded _ _ _
  obtain ⟨n, hn, -, -⟩ := (hB.itemOf (by omega) r).2
  refine Item.follows_refusal hn hr fun hre => ?_
  -- a retry: the item filed, if any, failed fewer times than the limit; a new one never failed
  cases hT : T (config.keyOf r.ident) with
  | none =>
    rw [hT] at hn
    cases hn
    omega
  | some i =>
    obtain ⟨m, hm, hlt⟩ := hretry hre i hT
    rw [hT] at hn
    rw [show config.itemOf r (some i) = i from rfl, hm] at hn
    cases hn
    exact hlt

theorem PushLog.refiles (h : PushLog config retry r st stored p res) (hN : 1 ≤ config.retryLimit)
    {T : Table} (hB : T.Bounded config) (hstored : stored = T (config.keyOf r.ident))
    (hretry : retry = true → T.Pending config r.ident) :
    p.Keeps (Table.Bounded config) T ∧ p.Along (config.Refiles [r]) T ∧
      ∀ k ≠ config.keyOf r.ident, p.table T k = T k := by
  subst hstored
  rcases h.saves_once with hp | ⟨pre, j, ans, post, rfl, hpre, hpost, hj⟩
  · refine ⟨Log.keeps_unsaved hp hB,
      Log.along_unsaved hp fun e he => Replication.refiles_unsaved (Log.saved_of_unsaved hp he),
      fun k _ => by rw [Log.table_unsaved hp]⟩
  have hf := PushLog.follows hN hB hretry hj
  have hjw : j.Within config.retryLimit := hf.within (hB.itemOf (by omega) r).2 hN
  have hjk : j.key = config.keyOf r.ident := hf.1.trans (hB.itemOf (by omega) r).1
  -- the save changes the table under the key of `j` alone, if the store took it
  have hsave : ∀ k ≠ config.keyOf r.ident,
      (Event.call (.store (.saveItem j ans))).filed T k = T k := by
    intro k hk
    rcases ans with _ | ⟨⟩
    · rfl
    · exact Table.file_of_ne (hjk ▸ hk)
  have hbounded : ((Event.call (.store (.saveItem j ans))).filed T).Bounded config := by
    rcases ans with _ | ⟨⟩
    · exact hB
    · exact hB.file hjw
  refine ⟨Log.Keeps.after_unsaved hpre ?_, Log.Along.after_unsaved hpre
    (fun e he => Replication.refiles_unsaved (Log.saved_of_unsaved hpre he)) ⟨?_, ?_⟩,
    fun k hk => by rw [Log.table_around hpre hpost, hsave k hk]⟩
  · exact Log.keeps_cons.mpr ⟨hB, Log.keeps_unsaved hpost hbounded⟩
  · intro j' hj'
    cases hj'
    exact ⟨r, List.mem_singleton_self r, hf⟩
  · exact Log.along_unsaved hpost fun e he =>
      Replication.refiles_unsaved (Log.saved_of_unsaved hpost he)

/-! ## A sweep -/

/-- A push in a sweep, after events that save nothing: its read hands back what the table files
under the key of its record, so the push keeps the table bounded and changes it under that key
alone, and the store answers the rest of the log from the table the push leaves. -/
theorem PushLog.refiles_after {pre rest : Log} (h : PushLog config retry r st stored p res)
    (hN : 1 ≤ config.retryLimit) {T : Table} (hB : T.Bounded config) (hpre : pre.saves = [])
    (htruth : (pre ++ config.readsItem r (.ok stored) :: (p ++ rest)).Truthful T)
    (hretry : retry = true → T.Pending config r.ident) :
    (pre ++ config.readsItem r (.ok stored) :: p).Keeps (Table.Bounded config) T ∧
      (pre ++ config.readsItem r (.ok stored) :: p).Along (config.Refiles [r]) T ∧
      (pre ++ config.readsItem r (.ok stored) :: p).table T = p.table T ∧
      (∀ k ≠ config.keyOf r.ident, p.table T k = T k) ∧ rest.Truthful (p.table T) := by
  obtain ⟨hans, htail⟩ := Log.along_cons.mp (htruth.drop hpre)
  have hread : (pre ++ [config.readsItem r (.ok stored)]).saves = [] := by
    simp [hpre, Replication.readsItem, Event.saved]
  have hsplit : pre ++ config.readsItem r (.ok stored) :: p =
      (pre ++ [config.readsItem r (.ok stored)]) ++ p := by
    simp
  obtain ⟨hkeeps, halong, hframe⟩ := h.refiles hN hB (Event.answeredBy_readsItem.mp hans) hretry
  refine ⟨?_, ?_, by rw [hsplit, Log.table_append, Log.table_unsaved hread], hframe,
    (Log.along_append.mp htail).2⟩
  · rw [hsplit]
    exact hkeeps.after_unsaved hread
  · refine Log.Along.after_unsaved hpre
      (fun e he => Replication.refiles_unsaved (Log.saved_of_unsaved hpre he)) ?_
    exact ⟨Replication.refiles_unsaved rfl, halong⟩

theorem unsaved_before {t t' : Log} (ht : t.Quiet) (ht' : t'.Quiet) (seen : Bool) :
    (t ++ [Event.checkpoint seen] ++ t').saves = [] := by
  simp [ht, ht', Event.saved]

variable {rs : List Record} {done : List String} {seg : Log}
  {sres : Except Failure (Option RunState × List String)}

/-- A sweep against a truthful store keeps every table it passes through bounded, and saves only
items that follow the ones filed for records of its listing, when its retries push only records
whose items failed fewer times than the limit. -/
theorem Sweep.refiles (hN : 1 ≤ config.retryLimit) (h : Sweep config retry rs done st seg sres) :
    ∀ {T : Table}, T.Bounded config → seg.Truthful T →
      (retry = true → ∀ r ∈ rs, r.ident ∉ done → T.Pending config r.ident) →
      seg.Keeps (Table.Bounded config) T ∧ seg.Along (config.Refiles rs) T := by
  have hunsaved : ∀ {l : Log} {T : Table} {rs : List Record}, l.saves = [] → T.Bounded config →
      l.Keeps (Table.Bounded config) T ∧ l.Along (config.Refiles rs) T := fun hl hB =>
    ⟨Log.keeps_unsaved hl hB,
      Log.along_unsaved hl fun e he => Replication.refiles_unsaved (Log.saved_of_unsaved hl he)⟩
  induction h with
  | nil => exact fun hB _ _ => hunsaved rfl hB
  | canceled ht => exact fun hB _ _ => hunsaved (by simp [ht, Event.saved]) hB
  | unread ht _ ht' =>
    exact fun hB _ _ => hunsaved (by simp [ht, ht', Event.saved, Replication.readsItem]) hB
  | @seen r rest done st t seg sres ht _ _ ih =>
    intro T hB htruth hpend
    have hpre : (t ++ [Event.checkpoint false]).saves = [] := by simp [ht, Event.saved]
    obtain ⟨hk, ha⟩ := ih hB (htruth.drop hpre) fun hre r' hr' hd =>
      hpend hre r' (List.mem_cons_of_mem _ hr') hd
    refine ⟨hk.after_unsaved hpre, Log.Along.after_unsaved hpre
      (fun e he => Replication.refiles_unsaved (Log.saved_of_unsaved hpre he))
      (ha.mono fun _ _ h => Replication.refiles_mono h (List.subset_cons_self _ _))⟩
  | @stopped r rest done st t t' p stored res ht hnew ht' hpush =>
    intro T hB htruth hpend
    have hseg : t ++ [.checkpoint false] ++ t' ++ [config.readsItem r (.ok stored)] ++ p =
        (t ++ [.checkpoint false] ++ t') ++ config.readsItem r (.ok stored) :: (p ++ []) := by
      simp
    rw [hseg] at htruth
    obtain ⟨hk, ha, -⟩ := hpush.refiles_after hN hB (unsaved_before ht ht' false) htruth
      fun hre => hpend hre r List.mem_cons_self hnew
    rw [hseg, List.append_nil]
    have hsub : [r] ⊆ r :: rest := by simp
    exact ⟨hk, ha.mono fun _ _ h => Replication.refiles_mono h hsub⟩
  | @pushed r rest done st t t' p seg stored sres ht hnew ht' hpush hrest ih =>
    intro T hB htruth hpend
    have hseg : t ++ [.checkpoint false] ++ t' ++ [config.readsItem r (.ok stored)] ++ p ++ seg =
        (t ++ [.checkpoint false] ++ t') ++ config.readsItem r (.ok stored) :: (p ++ seg) := by
      simp
    rw [hseg] at htruth
    obtain ⟨hk, ha, htable, hframe, hrest_truth⟩ := hpush.refiles_after hN hB
      (unsaved_before ht ht' false) htruth fun hre => hpend hre r List.mem_cons_self hnew
    have hB' : (p.table T).Bounded config := by
      rw [← htable]
      exact hk.2
    -- the records after `r` keep their items: the push changed the table under the key of `r`
    have hpend' : retry = true → ∀ r' ∈ rest, r'.ident ∉ r.ident :: done →
        (p.table T).Pending config r'.ident := by
      intro hre r' hr' hd j hj
      have hne : r'.ident ≠ r.ident := fun h => hd (h ▸ List.mem_cons_self)
      rw [hframe _ fun hk => hne (config.keyOf_injective hk)] at hj
      exact hpend hre r' (List.mem_cons_of_mem _ hr') (fun h => hd (List.mem_cons_of_mem _ h)) j hj
    obtain ⟨ihk, iha⟩ := ih hB' hrest_truth hpend'
    rw [show t ++ [.checkpoint false] ++ t' ++ [config.readsItem r (.ok stored)] ++ p ++ seg =
      ((t ++ [.checkpoint false] ++ t') ++ config.readsItem r (.ok stored) :: p) ++ seg by simp]
    have hsub : [r] ⊆ r :: rest := by simp
    refine ⟨Log.keeps_append.mpr ⟨hk, by rwa [htable]⟩,
      Log.along_append.mpr ⟨ha.mono fun _ _ h => Replication.refiles_mono h hsub, ?_⟩⟩
    rw [htable]
    exact iha.mono fun _ _ h => Replication.refiles_mono h (List.subset_cons_self _ _)

/-! ## The passes of a run -/

theorem Log.Aloof.saves {seg : Log} (h : seg.Aloof) : seg.saves = [] :=
  List.filterMap_eq_nil_iff.mpr fun e he => (Event.aloof_facts (h.1 e he)).2.2.1

/-- A pass against a truthful store and a source that keeps to the ids asked keeps every table it
passes through bounded, and saves only items that follow the ones filed for records it listed,
when a retry asks for failed items whose records are pending. -/
theorem PassLog.refiles {pred : Option Predicate} {after : Option Stamp}
    (hN : 1 ≤ config.retryLimit) (h : PassLog config pred after retry done st seg sres)
    {T : Table} (hB : T.Bounded config) (htruth : seg.Truthful T) (hids : seg.KeepsToIds)
    (hpend : retry = true → ∃ ids, Predicate.failedIds? pred = some ids ∧
      ∀ id ∈ ids, id ∉ done → T.Pending config id) :
    seg.Keeps (Table.Bounded config) T ∧ seg.Along (config.Refiles seg.listedRecords) T := by
  cases h with
  | unlisted hseg =>
    exact ⟨Log.keeps_unsaved hseg.saves hB, Log.along_unsaved hseg.saves fun e he =>
      Replication.refiles_unsaved (Log.saved_of_unsaved hseg.saves he)⟩
  | @listed t sw tail l res' _ ht hsweep htail hres =>
    let q : Event := .call (.site .source (.query pred after (.ok l)))
    -- the listing keeps to the ids asked: a retry sweeps records whose items are pending
    have hpend' : retry = true → ∀ r ∈ l.records, r.ident ∉ done → T.Pending config r.ident := by
      intro hre r hr hd
      obtain ⟨ids, hp, hall⟩ := hpend hre
      have hq : q.keepsToIds = true := hids q (by simp [q])
      simp only [q, Event.keepsToIds, hp, List.all_eq_true, List.contains_iff_mem] at hq
      exact hall _ (hq r hr) hd
    have hpre : (t ++ [q]).saves = [] := by simp [ht, q, Event.saved]
    have hsub : l.records ⊆ (t ++ [q] ++ (sw ++ tail)).listedRecords := fun x hx => by
      simp [Log.listedRecords, Log.listings, q, Event.listing, hx]
    rw [List.append_assoc] at htruth ⊢
    obtain ⟨hk, ha⟩ := hsweep.refiles hN hB (Log.truthful_append.mp (htruth.drop hpre)).1 hpend'
    have htail_saves := htail.saves
    refine ⟨Log.Keeps.after_unsaved hpre
      (Log.keeps_append.mpr ⟨hk, Log.keeps_unsaved htail_saves hk.2⟩),
      Log.Along.after_unsaved hpre
        (fun e he => Replication.refiles_unsaved (Log.saved_of_unsaved hpre he))
        (Log.along_append.mpr ⟨ha.mono fun _ _ h => Replication.refiles_mono h hsub, ?_⟩)⟩
    exact Log.along_unsaved htail_saves fun e he =>
      Replication.refiles_unsaved (Log.saved_of_unsaved htail_saves he)

/-- What a stretch of a run does to the item table: against a store that answers truthfully and a
source that keeps to the ids asked, it keeps every table it passes through bounded, and saves
only items that follow the ones filed for records it listed. -/
def Refiled (config : Replication) (seg : Log) : Prop :=
  ∀ T : Table, T.Bounded config → seg.Truthful T → seg.KeepsToIds →
    seg.Keeps (Table.Bounded config) T ∧ seg.Along (config.Refiles seg.listedRecords) T

namespace Refiled

variable {seg₁ seg₂ : Log}

theorem unsaved (h : seg.saves = []) : Refiled config seg := fun _ hB _ _ =>
  ⟨Log.keeps_unsaved h hB,
    Log.along_unsaved h fun _ he => Replication.refiles_unsaved (Log.saved_of_unsaved h he)⟩

theorem append (h₁ : Refiled config seg₁) (h₂ : Refiled config seg₂) :
    Refiled config (seg₁ ++ seg₂) := by
  intro T hB htruth hids
  obtain ⟨ht₁, ht₂⟩ := Log.truthful_append.mp htruth
  obtain ⟨hk₁, ha₁⟩ := h₁ T hB ht₁ fun e he => hids e (List.mem_append_left _ he)
  obtain ⟨hk₂, ha₂⟩ := h₂ _ hk₁.2 ht₂ fun e he => hids e (List.mem_append_right _ he)
  refine ⟨Log.keeps_append.mpr ⟨hk₁, hk₂⟩, Log.along_append.mpr ⟨?_, ?_⟩⟩
  · exact ha₁.mono fun _ _ h => Replication.refiles_mono h (by simp)
  · exact ha₂.mono fun _ _ h => Replication.refiles_mono h (by simp)

end Refiled

variable {σ : Type} {c : Collaborators σ} {s s' : Scene σ}

theorem Refiled.after {s₁ : Scene σ} {pre : Log} (hlog : s₁.log = s.log ++ pre)
    (hpre : Refiled config pre) (h : ∃ seg, s'.log = s₁.log ++ seg ∧ Refiled config seg) :
    ∃ seg, s'.log = s.log ++ seg ∧ Refiled config seg := by
  obtain ⟨seg, hseg, hr⟩ := h
  exact ⟨pre ++ seg, by rw [hseg, hlog, List.append_assoc], hpre.append hr⟩

theorem Refiled.stay : ∃ seg, s.log = s.log ++ seg ∧ Refiled config seg :=
  ⟨[], by simp, .unsaved rfl⟩

theorem changes_refiled (hN : 1 ≤ config.retryLimit) (done : List String)
    {res : Except Failure (Option RunState)}
    (h : exec (changes (observe c) config done) s = (res, s')) :
    ∃ seg, s'.log = s.log ++ seg ∧ Refiled config seg := by
  unfold changes watermark at h
  obtain ⟨mark, s₁, hmark, h⟩ := bind_exec h
  obtain ⟨os, s₀, hos, hread⟩ := bind_exec hmark
  obtain ⟨t, ht, hlog₀⟩ := call_inv hos
  have hs₁ : s₁ = s₀ := by
    rcases ofExcept_bind_cases hread with ⟨_, -, -, rfl⟩ | ⟨v, -, hv⟩
    · rfl
    · rw [exec_ofExcept] at hv
      exact (Prod.mk.inj hv).2.symm
  subst hs₁
  refine Refiled.after (by rw [hlog₀, List.append_assoc]) (.unsaved (by simp [ht, Event.saved])) ?_
  rcases ofExcept_bind_cases h with ⟨_, -, -, rfl⟩ | ⟨mark, -, h⟩
  · exact Refiled.stay
  rcases ofExcept_bind_cases h with ⟨_, -, -, rfl⟩ | ⟨base, -, h⟩
  · exact Refiled.stay
  obtain ⟨x, s₂, hrep, h⟩ := bind_exec h
  obtain ⟨seg, hseg, hpass⟩ := replicate_passLog config _ mark false done hrep
  have hs' : s' = s₂ := by
    rcases ofExcept_bind_cases h with ⟨_, -, -, rfl⟩ | ⟨⟨stopped, d⟩, -, hk⟩
    · rfl
    · dsimp only at hk
      rw [exec_pure] at hk
      exact (Prod.mk.inj hk).2.symm
  subst hs'
  exact ⟨seg, hseg, fun T hB htruth hids =>
    hpass.refiles hN hB htruth hids fun h => absurd h Bool.false_ne_true⟩

theorem retry_refiled (hN : 1 ≤ config.retryLimit) {failed : List String}
    {pred : Option Predicate} {base : Option String} {t : Log} {seg : Log}
    {sres : Except Failure (Option RunState × List String)}
    (hpred : Predicate.failedItems base failed = .ok pred) (ht : t.Quiet) (seen : Bool)
    (hpass : PassLog config pred none true [] st seg sres) :
    Refiled config ([.call (.store (.failureList config.id config.retryLimit
      config.source.display config.destination.display (.ok failed)))] ++ t ++
      [.checkpoint seen] ++ seg) := by
  intro T hB htruth hids
  let fl : Event := .call (.store (.failureList config.id config.retryLimit
    config.source.display config.destination.display (.ok failed)))
  -- the store named only records whose items failed fewer times than the limit
  have hpend : ∀ id ∈ failed, T.Pending config id := by
    intro id hid j hj
    have hfl : fl.answeredBy T = true := (Log.along_cons.mp htruth).1
    simp only [fl, Event.answeredBy, List.all_eq_true] at hfl
    have := hfl id hid
    rw [show (config.id, id, config.source.display, config.destination.display) =
      config.keyOf id from rfl, hj] at this
    simp only [Option.any_some, Item.retriable] at this
    split at this
    · rename_i n hn
      exact ⟨n, hn, by simp at this; omega⟩
    · cases this
  have hpre : Log.saves ([fl] ++ t ++ [Event.checkpoint seen]) = [] := by
    simp [fl, ht, Event.saved]
  obtain ⟨hk, ha⟩ := hpass.refiles hN hB (htruth.drop hpre)
    (fun e he => hids e (List.mem_append_right _ he))
    fun _ => ⟨failed, Predicate.failedIds?_of_failedItems hpred, fun id hid _ => hpend id hid⟩
  exact ⟨hk.after_unsaved hpre, Log.Along.after_unsaved hpre
    (fun e he => Replication.refiles_unsaved (Log.saved_of_unsaved hpre he))
    (ha.mono fun _ _ h => Replication.refiles_mono h
      (by rw [Log.listedRecords_append]; exact List.subset_append_right _ _))⟩

theorem passes_refiled (hN : 1 ≤ config.retryLimit) {res : Except Failure (Option RunState)}
    (h : exec (passes (observe c) config) s = (res, s')) :
    ∃ seg, s'.log = s.log ++ seg ∧ Refiled config seg := by
  unfold passes at h
  obtain ⟨t₁, s₁, ht₁, hlog₁, h⟩ := isCanceled_bind_inv h
  refine Refiled.after (by rw [hlog₁, List.append_assoc]) (.unsaved (by simp [ht₁, Event.saved])) ?_
  split at h
  · obtain ⟨-, rfl⟩ := Prod.mk.inj h
    exact Refiled.stay
  -- the failure list
  obtain ⟨failed, s₂, hlist, h⟩ := bind_exec h
  obtain ⟨t₂, ht₂, hlog₂⟩ := call_inv hlist
  have ht₂' : Refiled config t₂ := .unsaved (by simp [ht₂])
  rcases ofExcept_bind_cases h with ⟨_, rfl, -, rfl⟩ | ⟨ids, hids, hk⟩
  · exact ⟨_, by rw [hlog₂, List.append_assoc], .unsaved (by simp [ht₂, Event.saved])⟩
  subst hids
  obtain ⟨t₃, s₃, ht₃, hlog₃, h⟩ := isCanceled_bind_inv hk
  have hlog₃' : s₃.log = s₁.log ++ (t₂ ++
      ([.call (.store (.failureList config.id config.retryLimit config.source.display
        config.destination.display (.ok ids)))] ++ t₃ ++
        [.checkpoint (s₂.log ++ t₃).canceled])) := by
    rw [hlog₃, hlog₂]
    simp
  have hbefore : Refiled config (t₂ ++
      ([.call (.store (.failureList config.id config.retryLimit config.source.display
        config.destination.display (.ok ids)))] ++ t₃ ++
        [.checkpoint (s₂.log ++ t₃).canceled])) :=
    .unsaved (by simp [ht₂, ht₃, Event.saved])
  split at h
  · obtain ⟨-, rfl⟩ := Prod.mk.inj h
    exact ⟨_, hlog₃', hbefore⟩
  dsimp only at h
  split at h
  case isFalse => exact Refiled.after hlog₃' hbefore (changes_refiled hN [] h)
  -- the retry pass, over the records the failure list names
  rcases ofExcept_bind_cases h with ⟨_, -, -, rfl⟩ | ⟨pred, hpred, h⟩
  · exact ⟨_, hlog₃', hbefore⟩
  obtain ⟨base, hbase⟩ := Predicate.failedItems_of_bind hpred
  obtain ⟨x, s₄, hrep, h⟩ := bind_exec h
  obtain ⟨seg, hseg, hpass⟩ := replicate_passLog config pred none true [] hrep
  have hretry := ht₂'.append (retry_refiled hN hbase ht₃ (s₂.log ++ t₃).canceled hpass)
  have hlog₄ : s₄.log = s₁.log ++ (t₂ ++
      ([.call (.store (.failureList config.id config.retryLimit config.source.display
        config.destination.display (.ok ids)))] ++ t₃ ++
        [.checkpoint (s₂.log ++ t₃).canceled] ++ seg)) := by
    rw [hseg, hlog₃']
    simp
  rcases ofExcept_bind_cases h with ⟨_, -, -, rfl⟩ | ⟨⟨stopped, retried⟩, -, hk⟩
  · exact ⟨_, hlog₄, hretry⟩
  dsimp only at hk
  split at hk
  · obtain ⟨-, rfl⟩ := Prod.mk.inj hk
    exact ⟨_, hlog₄, hretry⟩
  -- the change pass, after a look at the request to stop
  obtain ⟨t₅, s₅, ht₅, hlog₅, hk⟩ := isCanceled_bind_inv hk
  refine Refiled.after hlog₄ hretry (Refiled.after (by rw [hlog₅, List.append_assoc])
    (.unsaved (by simp [ht₅, Event.saved])) ?_)
  split at hk
  · obtain ⟨-, rfl⟩ := Prod.mk.inj hk
    exact Refiled.stay
  · exact changes_refiled hN retried hk

/-! ## Runs after runs -/

theorem sync_refiled (hN : 1 ≤ config.retryLimit) (s : Scene σ) :
    ∃ seg, (exec (sync (observe c) config) s).2.log = s.log ++ seg ∧ Refiled config seg := by
  rcases h : exec (sync (observe c) config) s with ⟨r, s'⟩
  obtain ⟨s₁, r₂, s₂, pre, post, hpass, hpre_log, hpost_log, hpre, hpost, -, -⟩ := sync_frame h
  obtain ⟨seg, hseg, hr⟩ := passes_refiled hN hpass
  refine ⟨pre ++ seg ++ post, by rw [hpost_log, hseg, hpre_log]; simp, ?_⟩
  exact ((Refiled.unsaved hpre.saves).append hr).append (.unsaved hpost.saves)

/-- The scene after `n` runs of a replication, one after another. -/
def runs (c : Collaborators σ) (config : Replication) : Nat → Scene σ → Scene σ
  | 0, s => s
  | n + 1, s => runs c config n (exec (sync (observe c) config) s).2

theorem runs_refiled (hN : 1 ≤ config.retryLimit) :
    ∀ (n : Nat) (s : Scene σ), ∃ seg, (runs c config n s).log = s.log ++ seg ∧ Refiled config seg
  | 0, _ => Refiled.stay
  | n + 1, s => by
    obtain ⟨seg₁, h₁, hr₁⟩ := sync_refiled (c := c) hN s
    obtain ⟨seg₂, h₂, hr₂⟩ := runs_refiled hN n (exec (sync (observe c) config) s).2
    exact ⟨seg₁ ++ seg₂, by rw [runs, h₂, h₁, List.append_assoc], hr₁.append hr₂⟩

end Sync

/-- A replication that retries a failed record until it failed twice. -/
def Replication.twice : Replication := { Replication.sample with retryLimit := 2 }

namespace Sync

variable {σ : Type}

/-- An item store that keeps its items in a list, the latest save first, and a history that
remembers nothing. -/
def Ledger.remembering : Ledger (Op (List Item)) where
  getItem config id source destination := do
    return (← get).find? fun i => decide (i.key = (config, id, source, destination))
  failureList config limit source destination := do
    return ((← get).filter fun i => decide (i.configId = config ∧ i.source = source ∧
      i.destination = destination) && i.retriable limit).map Item.metadataId
  saveItem j := modify fun items => j :: items.filter fun i => decide (i.key ≠ j.key)
  outcomes _ := pure []
  addOutcome _ := pure ()

/-- A site that lists `a` and `b`, keeping to the ids a failed-items query asks for, holds
nothing, and takes every change but the creation of `a`. -/
def Endpoint.refusingA : Endpoint (Op (List Item)) where
  isAvailable := pure true
  query p _ := pure
    { records := [bareRecord "a", bareRecord "b"].filter fun r =>
        (Predicate.failedIds? p).all fun ids => ids.contains r.ident,
      context := "" }
  holds _ := pure false
  createMetadata r := pure (r.ident != "a")
  updateMetadata _ := pure true
  deleteMetadata _ := pure true
  createResource _ := pure true
  updateResource _ := pure true
  readResource r := pure { record := r, content := [] }

/-- Both sites as `Endpoint.refusingA`, and a store that remembers its items. -/
def Collaborators.refusingA : Collaborators (List Item) where
  source := .refusingA
  destination := .refusingA
  ledger := .remembering
  clock _ := { wall := 0, offset := some 0 }
  elsewhere w _ := (w, false)

/-- The scene before any run, with an empty item store. -/
def Scene.emptyStore : Scene (List Item) where
  world := []
  log := []
  faithful := Log.faithful_nil

end Sync

end CatalogSync
