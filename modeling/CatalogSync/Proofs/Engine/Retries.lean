import CatalogSync.Proofs.Engine.Listings

/-!
# A record the destination refuses, run after run

Follow one record, by its id `a`, through runs that all complete their passes. The source
holds it live and unchanged, modified at `m` (`Log.HoldsLive`), the destination takes no write
of it (`Log.RefusesWritesOf`), the item store answers as its table and names the record in its
failure list while its item failed fewer times than the limit (`Log.ListsRetriable`), and the
history keeps the ends of the runs it counts (`Log.Remembers`).

A run pushes the record at most once, and then saves its refusal (`sync_tracks`): in the retry
pass when its item failed fewer times than the limit, in the change pass when the change query
lists it. The first run finds it in its change query and counts one failure; each run after it
retries the record until its count reaches the limit, and the change queries of those runs ask
only for records changed after the first run ended, which it is not. So the record is pushed in
the first `min k N` of `k` runs, once each, and its count after `j` runs is `min j N`
(`refused_record_is_retried_until_the_limit`).

A record the source reports deleted is skipped instead while it has no item, as a deletion never
replicated (`unreplicated_deletion_is_skipped`): three runs that list such a record save no item
for it (`deleted_record_is_never_retried`).
-/

namespace CatalogSync.Stamp

/-! ## Later ends -/

/-- Where a stamp falls among the stamps of its kind: its instant if it has an offset, its wall
time if not. -/
def rank (s : Stamp) : Int := if s.isAware then s.instant else s.wall

/-- Whether `a` is of the kind of `b` and not later. -/
def AtMost (a b : Stamp) : Prop := a.isAware = b.isAware ∧ a.rank ≤ b.rank

variable {a b x y : Stamp} {o : Ordering}

theorem AtMost.refl (a : Stamp) : a.AtMost a := ⟨rfl, Int.le_refl _⟩

theorem AtMost.trans (h₁ : a.AtMost b) (h₂ : b.AtMost x) : a.AtMost x :=
  ⟨h₁.1.trans h₂.1, Int.le_trans h₁.2 h₂.2⟩

theorem compare?_eq_ok :
    compare? a b = .ok o ↔ a.isAware = b.isAware ∧ compare a.rank b.rank = o := by
  unfold compare? rank isAware
  rcases ha : a.offset with _ | p <;> rcases hb : b.offset with _ | q <;> simp

theorem after_eq_ok_false : a.after b = .ok false ↔ a.AtMost b := by
  unfold after AtMost
  rcases h : compare? a b with e | o
  · constructor
    · intro h'
      cases h'
    · rintro ⟨hk, -⟩
      have := compare?_eq_ok.mpr ⟨hk, rfl⟩
      rw [h] at this
      cases this
  · obtain ⟨hk, rfl⟩ := compare?_eq_ok.mp h
    show Except.ok (compare a.rank b.rank == .gt) = .ok false ↔ _
    simp [hk, Int.compare_ne_gt]

theorem latest_fold {xs : List Stamp} {best y : Stamp}
    (h : xs.foldlM (fun (best : Stamp) x => do
      if (← compare? x best) == Ordering.gt then pure x else pure best) best = .ok y) :
    best.AtMost y ∧ ∀ x ∈ xs, x.AtMost y := by
  induction xs generalizing best with
  | nil =>
    cases h
    exact ⟨.refl _, by simp⟩
  | cons x xs ih =>
    rw [List.foldlM_cons] at h
    rcases hc : compare? x best with e | o
    · rw [hc] at h
      cases h
    obtain ⟨hk, rfl⟩ := compare?_eq_ok.mp hc
    rw [hc] at h
    dsimp only [bind, Except.bind] at h
    by_cases hgt : compare x.rank best.rank = .gt
    · have hb : best.AtMost x := ⟨hk.symm, Int.le_of_lt (Int.compare_eq_gt.mp hgt)⟩
      rw [hgt] at h
      obtain ⟨h₁, h₂⟩ := ih h
      exact ⟨hb.trans h₁, List.forall_mem_cons.mpr ⟨h₁, h₂⟩⟩
    · have hx : x.AtMost best := ⟨hk, Int.compare_ne_gt.mp hgt⟩
      rw [if_neg (by simpa using hgt)] at h
      obtain ⟨h₁, h₂⟩ := ih h
      exact ⟨h₁, List.forall_mem_cons.mpr ⟨hx.trans h₁, h₂⟩⟩

theorem latest_atMost {xs : List Stamp} {mark : Option Stamp} (h : latest xs = .ok mark)
    (hx : x ∈ xs) : ∃ y, mark = some y ∧ x.AtMost y := by
  cases xs with
  | nil => cases hx
  | cons z zs =>
    rw [latest] at h
    rcases hf : zs.foldlM (fun (best : Stamp) x => do
      if (← compare? x best) == Ordering.gt then pure x else pure best) z with e | y
    · rw [hf] at h
      cases h
    rw [hf] at h
    cases h
    obtain ⟨hz, hzs⟩ := latest_fold hf
    rcases List.mem_cons.mp hx with rfl | hx
    · exact ⟨y, rfl, hz⟩
    · exact ⟨y, rfl, hzs x hx⟩

end CatalogSync.Stamp

namespace CatalogSync.Sync

/-! ## What the collaborators answer about one record -/

namespace Event

/-- The id of the record a write is for: the record written, or the record whose content is
written. -/
def writtenId : Event → Option String
  | .call (.site .destination (.createMetadata r _))
  | .call (.site .destination (.updateMetadata r _))
  | .call (.site .destination (.deleteMetadata r _)) => some r.ident
  | .call (.site .destination (.createResource res _))
  | .call (.site .destination (.updateResource res _)) => some res.record.ident
  | _ => none

/-- Whether the source answered an event as a catalog holding, under the id `a`, one live record
modified at `m`: every record it lists with that id, and the content it reads for one, is that
record's; a query for failed records with `a` among their ids lists it; and a query for the
records changed after a time lists it only if `m` is later. -/
def holdsLive (a : String) (m : Stamp) : Event → Bool
  | .call (.site .source (.query p after (.ok ls))) =>
    ls.records.all (fun r => r.ident != a || (r.modified == some m && !r.deleted)) &&
      ((Predicate.failedIds? p).all (fun ids => !ids.contains a) ||
        ls.records.any (·.ident == a)) &&
      after.all fun x => ls.records.all fun r => r.ident != a || (m.after x).toOption == some true
  | .call (.site .source (.readResource r (.ok res))) => r.ident != a || res.record.ident == a
  | _ => true

/-- Whether the item store's failure list names `a` whenever the table `T` files an item for it
that failed, fewer times than the limit. -/
def namesRetriable (a : String) (T : Table) : Event → Bool
  | .call (.store (.failureList config limit source destination (.ok ids))) =>
    !(T (config, a, source, destination)).any (Item.retriable limit) || ids.contains a
  | _ => true

/-- The end of a run that an event adds to the history, when the run counts for the watermark
and the history took it. -/
def counted : Event → Option Stamp
  | .call (.store (.addOutcome o (.ok ()))) =>
    if o.state.countsForWatermark then some o.endTime else none
  | _ => none

/-- Whether a read of the history handed back, among the ends of the runs it counts, each of
`ends`. -/
def recalls (ends : List Stamp) : Event → Bool
  | .call (.store (.outcomes _ (.ok os))) =>
    ends.all fun x => ((os.filter (·.state.countsForWatermark)).map (·.endTime)).contains x
  | _ => true

end Event

namespace Log

/-- Whether the source answered every event of a log as a catalog holding, under the id `a`,
one live record modified at `m`. -/
def HoldsLive (a : String) (m : Stamp) (l : Log) : Prop := ∀ e ∈ l, e.holdsLive a m = true

/-- Whether the destination took no write of a record with id `a`, or of its content. -/
def RefusesWritesOf (a : String) (l : Log) : Prop :=
  ∀ e ∈ l, e.writtenId = some a → e.isTaken = false

/-- Whether every failure list of a log names `a` while the table, as the saves before it left
it, files an item for `a` that failed fewer times than the limit. -/
def ListsRetriable (a : String) (T : Table) (l : Log) : Prop :=
  l.Along (fun T e => e.namesRetriable a T = true) T

/-- Whether every read of the history in a log handed back the ends of the counted runs added
before it: `ends` before the log, and those the log adds. -/
def Remembers : List Stamp → Log → Prop
  | _, [] => True
  | ends, e :: l => e.recalls ends = true ∧ Remembers (ends ++ e.counted.toList) l

instance decRemembers : ∀ (ends : List Stamp) (l : Log), Decidable (Remembers ends l)
  | _, [] => isTrue trivial
  | ends, e :: l =>
    have := decRemembers (ends ++ e.counted.toList) l
    inferInstanceAs (Decidable (e.recalls ends = true ∧ _))

instance (a : String) (m : Stamp) (l : Log) : Decidable (l.HoldsLive a m) :=
  inferInstanceAs (Decidable (∀ e ∈ l, e.holdsLive a m = true))

instance (a : String) (l : Log) : Decidable (l.RefusesWritesOf a) :=
  inferInstanceAs (Decidable (∀ e ∈ l, e.writtenId = some a → e.isTaken = false))

instance (a : String) (T : Table) (l : Log) : Decidable (l.ListsRetriable a T) :=
  inferInstanceAs (Decidable (l.Along (fun T e => e.namesRetriable a T = true) T))

variable {a : String} {m : Stamp} {l l₁ l₂ : Log}

theorem HoldsLive.sub (h : l₂.HoldsLive a m) (hs : l₁ ⊆ l₂) : l₁.HoldsLive a m :=
  fun e he => h e (hs he)

theorem RefusesWritesOf.sub (h : l₂.RefusesWritesOf a) (hs : l₁ ⊆ l₂) : l₁.RefusesWritesOf a :=
  fun e he => h e (hs he)

end Log

/-- Whether the table files an item for `a` that failed, fewer times than the limit. -/
def Table.Retriable (config : Replication) (T : Table) (a : String) : Prop :=
  (T (config.keyOf a)).any (Item.retriable config.retryLimit) = true

/-! ## A push the destination refuses -/

variable {config : Replication} {retry : Bool} {r : Record} {st : RunStatus}
  {stored : Option Item} {p : Log} {a : String} {m : Stamp}

theorem ChangeLog.taken_write {ch : Log} {b : Int} (h : ChangeLog r ch (some b)) :
    ∃ e ∈ ch, e.isTaken = true ∧ e.WritesFor r ch := by
  obtain ⟨e, he, htaken⟩ := List.any_eq_true.mp h.taken
  exact ⟨e, he, htaken, h.forRecord e he (Event.isTaken_isWrite htaken)⟩

theorem Event.writtenId_of_writesFor {e : Event} {ch : Log} (hw : e.isWrite = true)
    (hf : e.WritesFor r ch) (hsrc : ch.HoldsLive r.ident m) : e.writtenId = some r.ident := by
  unfold Event.isWrite at hw
  split at hw
  all_goals first
    | (simp only [Event.WritesFor] at hf; subst hf; rfl)
    | skip
  · have := hsrc _ hf
    simpa [Event.holdsLive, Event.writtenId] using this
  · have := hsrc _ hf
    simpa [Event.holdsLive, Event.writtenId] using this
  · cases hw

theorem PushLog.saves_refusal {res : Except Failure (Option RunState)}
    (h : PushLog config retry r st stored p res) (hres : res = .ok none)
    (hdel : r.deleted = false) (hw : p.RefusesWritesOf r.ident) (hsrc : p.HoldsLive r.ident m) :
    ∃ (pre : Log) (i : Item) (post : Log),
      p = pre ++ .call (.store (.saveItem i (.ok ()))) :: post ∧ pre.saves = [] ∧
        post.saves = [] ∧ (config.itemOf r stored).refusal config.retryLimit retry = .ok i := by
  cases h with
  | skipped _ hdel' => rw [hdel] at hdel'; cases hdel'
  | stopped _ hres' => exact absurd hres hres'
  | uncounted => cases hres
  | @took ch t₁ t₂ b ans hch ht₁ ht₂ =>
    -- the destination took a write of the record: it refuses them all
    obtain ⟨e, he, htaken, hfor⟩ := hch.taken_write
    have hsub : ch ⊆ ch ++ t₁ ++ [.status (st.recordPush b)] ++ t₂ ++
        [.call (.store (.saveItem ((config.itemOf r stored).succeeded r.modified
          r.resourceModified) ans))] := by
      intro x hx
      simp [hx]
    have hid := Event.writtenId_of_writesFor (Event.isTaken_isWrite htaken) hfor (hsrc.sub hsub)
    rw [hw e (hsub he) hid] at htaken
    cases htaken
  | @refused ch t₁ t₂ probes i ans _ hch ht₁ ht₂ hi hprobes hsaved =>
    obtain rfl := hsaved none hres
    refine ⟨ch ++ t₁ ++ [.status st.recordPushFailure] ++ t₂, i, probes, by simp, ?_,
      (Log.probes_neutral hprobes).1, hi⟩
    simp [hch.saves, ht₁, ht₂, Event.saved]

theorem Table.Bounded.refusal_key {T : Table} (hB : T.Bounded config) (hN : 1 ≤ config.retryLimit)
    (ha : r.ident = a) {i : Item}
    (hi : (config.itemOf r (T (config.keyOf a))).refusal config.retryLimit retry = .ok i) :
    i.key = config.keyOf a := by
  subst ha
  exact (Item.key_refusal hi).trans (hB.itemOf (by omega) r).1

/-! ## A sweep -/

variable {rs : List Record} {done : List String} {seg : Log}
  {sres : Except Failure (Option RunState × List String)}

/-- What a stretch of log over the records `rs` did to the item of the record with id `a`, from
the table `T`, with the ids `done` processed before: if `rs` names `a` and `a` was not processed,
the last change of the item of `a` filed its refusal; otherwise the item was left as it was. -/
structure Refused (config : Replication) (a : String) (retry : Bool) (done : List String)
    (T : Table) (rs : List Record) (seg : Log) : Prop where
  filed : a ∈ rs.map Record.ident → a ∉ done → ∃ r ∈ rs, r.ident = a ∧ ∃ i,
    (config.itemOf r (T (config.keyOf a))).refusal config.retryLimit retry = .ok i ∧
    seg.table T (config.keyOf a) = some i
  kept : ¬(a ∈ rs.map Record.ident ∧ a ∉ done) →
    seg.table T (config.keyOf a) = T (config.keyOf a)

/-- A sweep that returned without stopping, over live records with id `a` whose writes the
destination refuses, filed the refusal of the item of `a` if it pushed `a`, and left it alone
otherwise. -/
theorem Sweep.tracks (hN : 1 ≤ config.retryLimit) (h : Sweep config retry rs done st seg sres) :
    ∀ {T : Table} {d : List String}, sres = .ok (none, d) → T.Bounded config → seg.Truthful T →
      (retry = true → ∀ r ∈ rs, r.ident ∉ done → T.Pending config r.ident) →
      (∀ r ∈ rs, r.ident = a → r.deleted = false) → seg.RefusesWritesOf a → seg.HoldsLive a m →
      Refused config a retry done T rs seg := by
  induction h with
  | nil => exact fun _ _ _ _ _ _ _ => ⟨fun h => absurd h (by simp), fun _ => rfl⟩
  | canceled => exact fun h => by cases h
  | unread => exact fun h => by cases h
  | @stopped r rest done st t t' p stored res _ _ _ _ hres =>
    intro T d hsres
    rcases res with _ | _ | k
    · cases hsres
    · exact absurd rfl hres
    · cases hsres
  | @seen r rest done st t seg sres ht hdone _ ih =>
    intro T d hsres hB htruth hpend hlive hw hsrc
    have hpre : (t ++ [Event.checkpoint false]).saves = [] := by simp [ht, Event.saved]
    obtain ⟨ih₁, ih₂⟩ := ih hsres hB (htruth.drop hpre)
      (fun hre r' hr' hd => hpend hre r' (List.mem_cons_of_mem _ hr') hd)
      (fun r' hr' => hlive r' (List.mem_cons_of_mem _ hr'))
      (hw.sub (List.subset_append_right _ _)) (hsrc.sub (List.subset_append_right _ _))
    have htable : (t ++ [Event.checkpoint false] ++ seg).table T = seg.table T := by
      rw [Log.table_append, Log.table_unsaved hpre]
    -- `r` was processed before, so `a` is new in the listing exactly when it is new in the rest
    have hiff : a ∈ (r :: rest).map Record.ident ∧ a ∉ done ↔
        a ∈ rest.map Record.ident ∧ a ∉ done := by
      constructor
      · rintro ⟨hmem, hnot⟩
        rcases List.mem_cons.mp (List.map_cons ▸ hmem) with heq | hmem
        · exact absurd (heq ▸ hdone) hnot
        · exact ⟨hmem, hnot⟩
      · rintro ⟨hmem, hnot⟩
        exact ⟨List.mem_cons_of_mem _ hmem, hnot⟩
    refine ⟨fun hmem hnot => ?_, fun hn => htable ▸ ih₂ fun h => hn (hiff.mpr h)⟩
    obtain ⟨r', hr', hid, hi⟩ := ih₁ (hiff.mp ⟨hmem, hnot⟩).1 hnot
    exact ⟨r', List.mem_cons_of_mem _ hr', hid, htable ▸ hi⟩
  | @pushed r rest done st t t' p seg stored sres ht hnew ht' hpush hrest ih =>
    intro T d hsres hB htruth hpend hlive hw hsrc
    have hpre := unsaved_before ht ht' false
    have hseg : t ++ [.checkpoint false] ++ t' ++ [config.readsItem r (.ok stored)] ++ p ++ seg =
        (t ++ [.checkpoint false] ++ t') ++ config.readsItem r (.ok stored) :: (p ++ seg) := by
      simp
    rw [hseg] at htruth hw hsrc ⊢
    have hretry : retry = true → T.Pending config r.ident :=
      fun hre => hpend hre r List.mem_cons_self hnew
    have hstored : stored = T (config.keyOf r.ident) :=
      Event.answeredBy_readsItem.mp (Log.along_cons.mp (htruth.drop hpre)).1
    obtain ⟨hk, -, htable, hframe, hrest_truth⟩ :=
      hpush.refiles_after hN hB hpre htruth hretry
    have hB' : (p.table T).Bounded config := by
      rw [← htable]
      exact hk.2
    have hpend' : retry = true → ∀ r' ∈ rest, r'.ident ∉ r.ident :: done →
        (p.table T).Pending config r'.ident := by
      intro hre r' hr' hd j hj
      have hne : r'.ident ≠ r.ident := fun h => hd (h ▸ List.mem_cons_self)
      rw [hframe _ fun hk => hne (config.keyOf_injective hk)] at hj
      exact hpend hre r' (List.mem_cons_of_mem _ hr') (fun h => hd (List.mem_cons_of_mem _ h)) j hj
    have hsub : p ++ seg ⊆ (t ++ [.checkpoint false] ++ t') ++
        config.readsItem r (.ok stored) :: (p ++ seg) := fun x hx => by simp [hx]
    obtain ⟨ih₁, ih₂⟩ := ih hsres hB' hrest_truth hpend'
      (fun r' hr' => hlive r' (List.mem_cons_of_mem _ hr'))
      (hw.sub fun x hx => hsub (List.mem_append_right _ hx))
      (hsrc.sub fun x hx => hsub (List.mem_append_right _ hx))
    have htotal : Log.table T ((t ++ [Event.checkpoint false] ++ t') ++
        config.readsItem r (.ok stored) :: (p ++ seg)) = seg.table (p.table T) := by
      rw [show (t ++ [Event.checkpoint false] ++ t') ++ config.readsItem r (.ok stored) ::
        (p ++ seg) = ((t ++ [Event.checkpoint false] ++ t') ++ config.readsItem r (.ok stored) ::
          p) ++ seg by simp, Log.table_append, htable]
    rw [← htotal] at ih₁ ih₂
    by_cases hra : r.ident = a
    -- the push of `a`: it saved its refusal, and the rest of the sweep skips `a`
    · subst hra
      obtain ⟨pre, i, post, rfl, hpre_saves, hpost_saves, hi⟩ := hpush.saves_refusal rfl
        (hlive r List.mem_cons_self rfl)
        (hw.sub fun x hx => hsub (List.mem_append_left _ hx))
        (hsrc.sub fun x hx => hsub (List.mem_append_left _ hx))
      rw [hstored] at hi
      have hkey := hB.refusal_key hN rfl hi
      have hfiled : (pre ++ .call (.store (.saveItem i (.ok ()))) :: post).table T
          (config.keyOf r.ident) = some i := by
        rw [Log.table_around hpre_saves hpost_saves]
        show T.file i (config.keyOf r.ident) = some i
        rw [← hkey]
        exact if_pos rfl
      refine ⟨fun _ _ => ⟨r, List.mem_cons_self, rfl, i, hi, ?_⟩, fun hn => ?_⟩
      · rw [ih₂ fun h => h.2 List.mem_cons_self, hfiled]
      · exact absurd ⟨by simp, hnew⟩ hn
    -- another record: its push leaves the item of `a` alone
    · have hkey : p.table T (config.keyOf a) = T (config.keyOf a) :=
        hframe _ fun hk => hra (config.keyOf_injective hk).symm
      have hiff : a ∈ (r :: rest).map Record.ident ∧ a ∉ done ↔
          a ∈ rest.map Record.ident ∧ a ∉ r.ident :: done := by
        simp only [List.map_cons, List.mem_cons, not_or]
        constructor
        · rintro ⟨heq | hmem, hnot⟩
          · exact absurd heq.symm hra
          · exact ⟨hmem, fun h => hra h.symm, hnot⟩
        · rintro ⟨hmem, -, hnot⟩
          exact ⟨.inr hmem, hnot⟩
      refine ⟨fun hmem hnot => ?_, fun hn => ?_⟩
      · obtain ⟨r', hr', hid, i, hi, htab⟩ := ih₁ (hiff.mp ⟨hmem, hnot⟩).1
          (hiff.mp ⟨hmem, hnot⟩).2
        rw [hkey] at hi
        exact ⟨r', List.mem_cons_of_mem _ hr', hid, i, hi, htab⟩
      · rw [ih₂ fun h => hn (hiff.mpr h), hkey]

/-! ## A pass -/

theorem count_fresh (ids done : List String) (a : String) :
    ((ids.removeAll done).eraseDups).count a = if a ∈ ids ∧ a ∉ done then 1 else 0 := by
  rw [(nodup_eraseDups _).count]
  simp [List.mem_eraseDups, List.removeAll]

/-- What a pass over the listing `ls` did to the record with id `a`, from the table `T`, with
the ids `done` processed before: it listed the ids of `ls`, pushed `a` once if `ls` names it and
it was not processed before, and never otherwise. -/
structure PassTracked (config : Replication) (a : String) (retry : Bool) (done : List String)
    (T : Table) (ls : Listing) (seg : Log) : Prop
    extends Refused config a retry done T ls.records seg where
  listed : seg.listedIds = ls.records.map Record.ident
  count : seg.pushedIds.count a = if a ∈ ls.records.map Record.ident ∧ a ∉ done then 1 else 0

theorem PassTracked.offBooks_append {T : Table} {ls : Listing} {pre : Log} (hpre : pre.OffBooks)
    (h : PassTracked config a retry done T ls seg) :
    PassTracked config a retry done T ls (pre ++ seg) := by
  have htable : (pre ++ seg).table T = seg.table T := by
    rw [Log.table_append, Log.table_unsaved hpre.saves]
  refine ⟨⟨fun hmem hnot => ?_, fun hn => ?_⟩, ?_, ?_⟩
  · obtain ⟨r, hr, hid, i, hi, htab⟩ := h.filed hmem hnot
    exact ⟨r, hr, hid, i, hi, by rw [htable, htab]⟩
  · rw [htable, h.kept hn]
  · rw [Log.listedIds_append, hpre.listedIds, List.nil_append, h.listed]
  · rw [Log.pushedIds_append, hpre.pushedIds, List.nil_append, h.count]

/-- A pass that returned without stopping, over live records with id `a` whose writes the
destination refuses, pushed `a` once if its listing named it and it was not processed before,
and then filed its refusal; otherwise it neither pushed `a` nor changed its item. -/
theorem PassLog.tracks {pred : Option Predicate} {after : Option Stamp}
    (hN : 1 ≤ config.retryLimit) (h : PassLog config pred after retry done st seg sres)
    {T : Table} {d : List String} (hsres : sres = .ok (none, d)) (hB : T.Bounded config)
    (htruth : seg.Truthful T) (hids : seg.KeepsToIds)
    (hpend : retry = true → ∃ ids, Predicate.failedIds? pred = some ids ∧
      ∀ id ∈ ids, id ∉ done → T.Pending config id)
    (hw : seg.RefusesWritesOf a) (hsrc : seg.HoldsLive a m) :
    ∃ ls : Listing, .call (.site .source (.query pred after (.ok ls))) ∈ seg ∧
      PassTracked config a retry done T ls seg := by
  cases h with
  | unlisted _ hres =>
    have := (hres _ hsres).1
    cases this
  | @listed t sw tail l res' _ ht hsweep htail hres =>
    let q : Event := .call (.site .source (.query pred after (.ok l)))
    obtain ⟨stopped', rfl, hnone⟩ := hres none d hsres
    obtain rfl := hnone rfl
    obtain ⟨hp, hi⟩ := @PassLog.listed_views pred after _ _ _ _ ht hsweep.listings htail
    have hpushed := (hsweep.returned).2 rfl
    -- the listing keeps to the ids asked: a retry sweeps records whose items are pending
    have hpend' : retry = true → ∀ r ∈ l.records, r.ident ∉ done → T.Pending config r.ident := by
      intro hre r hr hd
      obtain ⟨ids, hpid, hall⟩ := hpend hre
      have hq : q.keepsToIds = true := hids q (by simp [q])
      simp only [q, Event.keepsToIds, hpid, List.all_eq_true, List.contains_iff_mem] at hq
      exact hall _ (hq r hr) hd
    -- the listing holds the record with id `a` live
    have hlive : ∀ r ∈ l.records, r.ident = a → r.deleted = false := by
      intro r hr hra
      have hq : q.holdsLive a m = true := hsrc q (by simp [q])
      simp only [q, Event.holdsLive, Bool.and_eq_true, List.all_eq_true] at hq
      have := hq.1.1 r hr
      simp_all
    have hpre : (t ++ [q]).saves = [] := by simp [ht, q, Event.saved]
    rw [List.append_assoc] at htruth hw hsrc ⊢
    have hsw_truth := (Log.truthful_append.mp (htruth.drop hpre)).1
    have hsub : sw ⊆ t ++ [q] ++ (sw ++ tail) := fun x hx => by simp [hx]
    have hsw := hsweep.tracks hN rfl hB hsw_truth hpend' hlive (hw.sub hsub) (hsrc.sub hsub)
    have htable : (t ++ [q] ++ (sw ++ tail)).table T = sw.table T := by
      rw [Log.table_append, Log.table_unsaved hpre, Log.table_append,
        Log.table_unsaved htail.saves]
    refine ⟨l, by simp, ⟨fun hmem hnot => ?_, fun hn => ?_⟩, by rw [← List.append_assoc]; exact hi,
      by rw [← List.append_assoc, hp, hpushed, count_fresh]⟩
    · obtain ⟨r, hr, hid, i, hi', htab⟩ := hsw.filed hmem hnot
      exact ⟨r, hr, hid, i, hi', by rw [htable, htab]⟩
    · rw [htable, hsw.kept hn]

/-! ## The change pass -/

namespace Log

/-- The ends of the runs counting for the watermark whose outcomes a log added to the history. -/
def countedEnds (l : Log) : List Stamp := l.filterMap Event.counted

@[simp] theorem countedEnds_append (l₁ l₂ : Log) :
    (l₁ ++ l₂).countedEnds = l₁.countedEnds ++ l₂.countedEnds :=
  List.filterMap_append

theorem Quiet.countedEnds {t : Log} (ht : t.Quiet) : t.countedEnds = [] :=
  List.filterMap_eq_nil_iff.mpr fun e he => by rw [ht e he]; rfl

theorem remembers_append {ends : List Stamp} {l₁ l₂ : Log} :
    Remembers ends (l₁ ++ l₂) ↔ Remembers ends l₁ ∧ Remembers (ends ++ l₁.countedEnds) l₂ := by
  induction l₁ generalizing ends with
  | nil => simp [Remembers, countedEnds]
  | cons e l ih =>
    simp only [List.cons_append, Remembers, ih, countedEnds, List.filterMap_cons]
    cases e.counted <;> simp [and_assoc]

end Log

theorem unlisted_of_recalled {name : Value} {os : List RunOutcome} {ends : List Stamp}
    {mark : Option Stamp} {p : Option Predicate} {ls : Listing}
    (hlatest : Stamp.latest ((os.filter (·.state.countsForWatermark)).map (·.endTime)) = .ok mark)
    (hrec : (Event.call (.store (.outcomes name (.ok os)))).recalls ends = true)
    (hq : (Event.call (.site .source (.query p mark (.ok ls)))).holdsLive a m = true)
    (hx : ∃ x ∈ ends, m.after x = .ok false) : a ∉ ls.records.map Record.ident := by
  obtain ⟨x, hx, hm⟩ := hx
  have hmem : x ∈ (os.filter (·.state.countsForWatermark)).map (·.endTime) := by
    simp only [Event.recalls, List.all_eq_true, List.contains_iff_mem] at hrec
    exact hrec x hx
  obtain ⟨y, rfl, hxy⟩ := Stamp.latest_atMost hlatest hmem
  have hmy : m.after y = .ok false :=
    Stamp.after_eq_ok_false.mpr ((Stamp.after_eq_ok_false.mp hm).trans hxy)
  simp only [Event.holdsLive, Bool.and_eq_true, Option.all_some, List.all_eq_true, hmy,
    Except.toOption, bne_iff_ne, ne_eq, Bool.or_eq_true] at hq
  intro ha
  obtain ⟨r, hr, rfl⟩ := List.mem_map.mp ha
  simpa using hq.2 r hr

variable {σ : Type} {c : Collaborators σ} {s s' : Scene σ}

/-- A change pass that did not stop read the history and asked for the records changed after
the latest end it found there: if the history recalled an end no earlier than `m`, the change
query did not list `a`. -/
theorem changes_tracks (hN : 1 ≤ config.retryLimit)
    (h : exec (changes (observe c) config done) s = (.ok none, s')) :
    ∃ seg, s'.log = s.log ++ seg ∧ ∀ (ends : List Stamp) (T : Table), seg.Remembers ends →
      T.Bounded config → seg.Truthful T → seg.KeepsToIds → seg.RefusesWritesOf a →
      seg.HoldsLive a m →
      ∃ ls : Listing, ((∃ x ∈ ends, m.after x = .ok false) → a ∉ ls.records.map Record.ident) ∧
        PassTracked config a false done T ls seg := by
  unfold changes watermark at h
  obtain ⟨mark, s₁, hmark, h₁⟩ := bind_answered_inv h
  obtain ⟨os, s₀, hos, hread⟩ := bind_answered_inv hmark
  obtain ⟨hlatest, rfl⟩ := ofExcept_inv hread
  obtain ⟨t₁, ht₁, hlog₁⟩ := call_inv hos
  obtain ⟨base, s₂, hcond, h₂⟩ := bind_answered_inv h₁
  obtain ⟨-, rfl⟩ := ofExcept_inv hcond
  obtain ⟨⟨stopped, d⟩, s₃, hrep, h₃⟩ := bind_answered_inv h₂
  rw [exec_pure] at h₃
  obtain ⟨hstop, rfl⟩ := Prod.mk.inj h₃
  cases hstop
  obtain ⟨seg, hseg, hpass⟩ := replicate_passLog config _ mark false done hrep
  let o : Event := .call (.store (.outcomes config.name (.ok os)))
  have hpre : (t₁ ++ [o]).OffBooks := (Log.OffBooks.of_quiet ht₁).append (.single rfl)
  refine ⟨t₁ ++ [o] ++ seg, by rw [hseg, hlog₁]; simp [o], ?_⟩
  intro ends T hrem hB htruth hids hw hsrc
  have hsub : seg ⊆ t₁ ++ [o] ++ seg := List.subset_append_right _ _
  obtain ⟨ls, hq, htr⟩ := hpass.tracks hN rfl hB (htruth.drop hpre.saves)
    (fun e he => hids e (hsub he)) (fun h => absurd h Bool.false_ne_true) (hw.sub hsub)
    (hsrc.sub hsub)
  -- the history, read before anything was counted in this pass, recalled every end of `ends`
  have hrec : o.recalls ends = true := by
    have := (Log.remembers_append.mp hrem).1
    rw [Log.remembers_append, ht₁.countedEnds, List.append_nil] at this
    exact this.2.1
  exact ⟨ls, unlisted_of_recalled hlatest hrec (hsrc _ (hsub hq)), htr.offBooks_append hpre⟩

/-! ## The retry pass -/

theorem Table.Retriable.pending {T : Table} {id : String} (h : T.Retriable config id) :
    T.Pending config id := by
  intro j hj
  unfold Table.Retriable at h
  rw [hj] at h
  simp only [Option.any_some, Item.retriable] at h
  split at h
  · rename_i n hn
    exact ⟨n, hn, by simp at h; omega⟩
  · cases h

/-- A failure list the store answered from `T`, and that names `a` whenever `T` files a retriable
item for it, names only records whose items are retriable, and names `a` exactly when its item
is. -/
theorem failureList_names {failed : List String} {T : Table}
    (htruth : (Event.call (.store (.failureList config.id config.retryLimit config.source.display
      config.destination.display (.ok failed)))).answeredBy T = true)
    (hnames : (Event.call (.store (.failureList config.id config.retryLimit config.source.display
      config.destination.display (.ok failed)))).namesRetriable a T = true) :
    (∀ id ∈ failed, T.Retriable config id) ∧ (a ∈ failed ↔ T.Retriable config a) := by
  have hall : ∀ id ∈ failed, T.Retriable config id := by
    simp only [Event.answeredBy, List.all_eq_true] at htruth
    exact htruth
  refine ⟨hall, ⟨hall a, fun hr => ?_⟩⟩
  simp only [Event.namesRetriable, Bool.or_eq_true, Bool.not_eq_true',
    List.contains_iff_mem] at hnames
  rcases hnames with h | h
  · exact absurd hr (by simp [Table.Retriable, Replication.keyOf, h])
  · exact h

theorem listed_iff_asked {failed : List String} {pred : Option Predicate} {after : Option Stamp}
    {ls : Listing} (hpred : Predicate.failedIds? pred = some failed)
    (hsrc : (Event.call (.site .source (.query pred after (.ok ls)))).holdsLive a m = true)
    (hids : (Event.call (.site .source (.query pred after (.ok ls)))).keepsToIds = true) :
    a ∈ ls.records.map Record.ident ↔ a ∈ failed := by
  constructor
  · intro ha
    obtain ⟨r, hr, rfl⟩ := List.mem_map.mp ha
    simp only [Event.keepsToIds, hpred, List.all_eq_true, List.contains_iff_mem] at hids
    exact hids r hr
  · intro ha
    simp only [Event.holdsLive, hpred, Bool.and_eq_true, Option.all_some, Bool.or_eq_true,
      Bool.not_eq_true', List.any_eq_true, beq_iff_eq] at hsrc
    rcases hsrc.1.2 with hn | ⟨r, hr, rfl⟩
    · simp [ha] at hn
    · exact List.mem_map_of_mem hr

/-! ## Both passes -/

theorem Log.OffBooks.nil : Log.OffBooks [] := fun _ h => by cases h

namespace Log

/-- What the collaborators answered in a log, for the record with id `a`: the item store as a
store holding `T` that only the saves of the log change, whose failure lists name `a` while its
item is retriable; the source keeping to the ids asked and holding `a` live, modified at `m`;
the destination refusing every write of `a`; and the history recalling `ends` and the ends the
log adds. -/
structure Scenario (a : String) (m : Stamp) (ends : List Stamp) (T : Table) (l : Log) : Prop where
  truthful : l.Truthful T
  keepsToIds : l.KeepsToIds
  listsRetriable : l.ListsRetriable a T
  remembers : l.Remembers ends
  refuses : l.RefusesWritesOf a
  holdsLive : l.HoldsLive a m

instance (a : String) (m : Stamp) (ends : List Stamp) (T : Table) (l : Log) :
    Decidable (l.Scenario a m ends T) :=
  decidable_of_iff (l.Truthful T ∧ l.KeepsToIds ∧ l.ListsRetriable a T ∧ l.Remembers ends ∧
      l.RefusesWritesOf a ∧ l.HoldsLive a m)
    ⟨fun ⟨h₁, h₂, h₃, h₄, h₅, h₆⟩ => ⟨h₁, h₂, h₃, h₄, h₅, h₆⟩,
      fun h => ⟨h.1, h.2, h.3, h.4, h.5, h.6⟩⟩

variable {a : String} {m : Stamp} {ends : List Stamp} {T : Table} {l l₁ l₂ : Log}

theorem Scenario.split (h : (l₁ ++ l₂).Scenario a m ends T) :
    l₁.Scenario a m ends T ∧ l₂.Scenario a m (ends ++ l₁.countedEnds) (l₁.table T) := by
  have h₁ : l₁ ⊆ l₁ ++ l₂ := List.subset_append_left _ _
  have h₂ : l₂ ⊆ l₁ ++ l₂ := List.subset_append_right _ _
  obtain ⟨ht₁, ht₂⟩ := truthful_append.mp h.truthful
  obtain ⟨hl₁, hl₂⟩ := along_append.mp h.listsRetriable
  obtain ⟨hr₁, hr₂⟩ := remembers_append.mp h.remembers
  exact ⟨⟨ht₁, fun e he => h.keepsToIds e (h₁ he), hl₁, hr₁, h.refuses.sub h₁,
      h.holdsLive.sub h₁⟩,
    ⟨ht₂, fun e he => h.keepsToIds e (h₂ he), hl₂, hr₂, h.refuses.sub h₂, h.holdsLive.sub h₂⟩⟩

theorem Along.of_unsaved_prefix {Q : Table → Event → Prop} {pre : Log} {e : Event}
    (hpre : pre.saves = []) (h : Along Q T (pre ++ e :: l)) : Q T e := by
  have := (along_append.mp h).2
  rw [table_unsaved hpre] at this
  exact this.1

end Log

variable {ends : List Stamp} {T : Table}

/-- What a stretch of a run did to the record with id `a`, from the table `T`, when the history
had recalled `ends` before it: it listed the record when its item was retriable, and, when one of
`ends` is no earlier than `m`, only then; it pushed the record once when it listed it, and never
otherwise; and it left the refusal of the item it found, counted as a retry when that item was
retriable, or the item it found when it did not list the record. -/
structure Tracked (config : Replication) (a : String) (m : Stamp) (ends : List Stamp) (T : Table)
    (seg : Log) : Prop where
  retried : T.Retriable config a → a ∈ seg.listedIds
  settled : (∃ x ∈ ends, m.after x = .ok false) → a ∈ seg.listedIds → T.Retriable config a
  count : seg.pushedIds.count a = if a ∈ seg.listedIds then 1 else 0
  filed : a ∈ seg.listedIds → ∃ r : Record, r.ident = a ∧ ∃ i,
    (config.itemOf r (T (config.keyOf a))).refusal config.retryLimit
      ((T (config.keyOf a)).any (Item.retriable config.retryLimit)) = .ok i ∧
    seg.table T (config.keyOf a) = some i
  kept : a ∉ seg.listedIds → seg.table T (config.keyOf a) = T (config.keyOf a)

theorem Tracked.around {pre post : Log} (hpre : pre.OffBooks) (hpost : post.OffBooks)
    (h : Tracked config a m ends T seg) : Tracked config a m ends T (pre ++ seg ++ post) := by
  have hlisted : (pre ++ seg ++ post).listedIds = seg.listedIds := by
    simp [hpre.listedIds, hpost.listedIds]
  have htable : (pre ++ seg ++ post).table T = seg.table T := by
    rw [Log.table_append, Log.table_append, Log.table_unsaved hpre.saves,
      Log.table_unsaved hpost.saves]
  refine ⟨fun hr => hlisted ▸ h.retried hr, fun hx ha => h.settled hx (hlisted ▸ ha), ?_,
    fun ha => ?_, fun ha => ?_⟩
  · simp only [Log.pushedIds_append, hpre.pushedIds, hpost.pushedIds, List.nil_append,
      List.append_nil, hlisted, h.count]
  · obtain ⟨r, hr, i, hi, htab⟩ := h.filed (hlisted ▸ ha)
    exact ⟨r, hr, i, hi, by rw [htable, htab]⟩
  · rw [htable, h.kept (hlisted ▸ ha)]

theorem PassTracked.skipped (T : Table) :
    PassTracked config a retry done T { records := [], context := "" } [] :=
  ⟨⟨fun h => by simp at h, fun _ => rfl⟩, rfl, by simp⟩

theorem PassTracked.mem_pushed {ls : Listing} (h : PassTracked config a retry done T ls seg) :
    a ∈ seg.pushedIds ↔ a ∈ ls.records.map Record.ident ∧ a ∉ done := by
  rw [← List.count_pos_iff, h.count]
  split
  · exact iff_of_true Nat.one_pos ‹_›
  · exact iff_of_false (Nat.lt_irrefl 0) ‹_›

/-- The retry pass, then events off the books, then the change pass skipping the ids the retry
pass pushed: when the retry pass lists the record exactly when its item is retriable, and the
change pass does not list it after a recalled end no earlier than `m`, the record is listed once
in all, pushed once, and its refusal filed as a retry exactly when its item was retriable. -/
theorem PassTracked.tracked {lsr lsc : Listing} {segr mid segc : Log} {retried : List String}
    (hr : PassTracked config a true [] T lsr segr)
    (hasked : a ∈ lsr.records.map Record.ident ↔ T.Retriable config a) (hmid : mid.OffBooks)
    (hretried : a ∈ retried ↔ a ∈ segr.pushedIds)
    (hc : PassTracked config a false retried (segr.table T) lsc segc)
    (hunlisted : (∃ x ∈ ends, m.after x = .ok false) → a ∉ lsc.records.map Record.ident) :
    Tracked config a m ends T (segr ++ mid ++ segc) := by
  have hpushed : a ∈ retried ↔ a ∈ lsr.records.map Record.ident := by
    rw [hretried, hr.mem_pushed]
    simp
  have hlisted : (segr ++ mid ++ segc).listedIds =
      lsr.records.map Record.ident ++ lsc.records.map Record.ident := by
    simp [hr.listed, hmid.listedIds, hc.listed]
  have htable : (segr ++ mid ++ segc).table T = segc.table (segr.table T) := by
    rw [Log.table_append, Log.table_append, Log.table_unsaved hmid.saves]
  refine ⟨fun h => ?_, fun hx ha => ?_, ?_, fun ha => ?_, fun ha => ?_⟩
  · rw [hlisted]
    exact List.mem_append_left _ (hasked.mpr h)
  · rw [hlisted, List.mem_append] at ha
    exact hasked.mp (ha.resolve_right (hunlisted hx))
  · simp only [Log.pushedIds_append, hmid.pushedIds, List.count_append, hr.count, hc.count,
      hlisted, List.mem_append, hpushed]
    by_cases h₁ : a ∈ lsr.records.map Record.ident <;>
      by_cases h₂ : a ∈ lsc.records.map Record.ident <;> simp [h₁, h₂]
  · rw [hlisted, List.mem_append] at ha
    rw [htable]
    by_cases h₁ : a ∈ lsr.records.map Record.ident
    -- the retry pass filed the refusal, and the change pass skipped the record
    · obtain ⟨r, -, hid, i, hi, htab⟩ := hr.filed h₁ (by simp)
      have hretriable : (T (config.keyOf a)).any (Item.retriable config.retryLimit) = true :=
        hasked.mp h₁
      rw [hretriable]
      exact ⟨r, hid, i, hi, by rw [hc.kept fun h => h.2 (hpushed.mpr h₁), htab]⟩
    -- the retry pass left the item alone, and the change pass filed the refusal
    · obtain ⟨r, -, hid, i, hi, htab⟩ :=
        hc.filed (ha.resolve_left h₁) fun h => h₁ (hpushed.mp h)
      have hsame : segr.table T (config.keyOf a) = T (config.keyOf a) := hr.kept fun h => h₁ h.1
      have hnot : (T (config.keyOf a)).any (Item.retriable config.retryLimit) = false :=
        Bool.eq_false_iff.mpr (mt hasked.mpr h₁)
      rw [hsame] at hi
      rw [hnot]
      exact ⟨r, hid, i, hi, htab⟩
  · rw [hlisted, List.mem_append, not_or] at ha
    rw [htable, hc.kept fun h => ha.2 h.1, hr.kept fun h => ha.1 h.1]

/-- Passes that returned without stopping, against collaborators that answered as the scenario
of a refused record, listed the record when its item was retriable, and, after a recalled end no
earlier than `m`, only then; they pushed it once when they listed it, and filed its refusal. -/
theorem passes_tracks (hN : 1 ≤ config.retryLimit)
    (h : exec (passes (observe c) config) s = (.ok none, s')) :
    ∃ seg, s'.log = s.log ++ seg ∧ ∀ (ends : List Stamp) (T : Table), T.Bounded config →
      seg.Scenario a m ends T → Tracked config a m ends T seg := by
  obtain ⟨failed, pre, post, s₃, hpre, hpost, hlog₃, hrest⟩ := passes_unstopped_inv h
  -- the steps before the retry pass: looks at the request to stop, and the failure list
  let fl : Event := .call (.store (.failureList config.id config.retryLimit
    config.source.display config.destination.display (.ok failed)))
  have hbefore : (pre ++ fl :: post).OffBooks :=
    hpre.offBooks.append ((Log.OffBooks.single (e := fl) rfl).append hpost.offBooks)
  -- what the failure list said of the record, against a truthful store
  have hlist : ∀ ends T, (pre ++ fl :: post).Scenario a m ends T →
      (∀ id ∈ failed, T.Retriable config id) ∧ (a ∈ failed ↔ T.Retriable config a) :=
    fun _ _ hsc => failureList_names
      (Log.Along.of_unsaved_prefix hpre.offBooks.saves hsc.truthful)
      (Log.Along.of_unsaved_prefix hpre.offBooks.saves hsc.listsRetriable)
  rcases hrest with ⟨hnil, h⟩ | ⟨pred, retried, s₅, mid, s₆, hpred, hrep, hmid, hlog₆, h⟩
  case inl =>
    -- no failed record: the change pass runs alone
    obtain ⟨segc, hsegc, hc⟩ := changes_tracks (a := a) (m := m) hN h
    refine ⟨(pre ++ fl :: post) ++ ([] ++ [] ++ segc), by rw [hsegc, hlog₃]; simp [fl], ?_⟩
    intro ends T hB hsc
    obtain ⟨hX, hrest⟩ := hsc.split
    rw [Log.table_unsaved hbefore.saves, List.nil_append, List.nil_append] at hrest
    have hasked : a ∈ ({ records := [], context := "" } : Listing).records.map Record.ident ↔
        T.Retriable config a := by
      simpa [hnil] using (hlist ends T hX).2
    obtain ⟨lsc, hunl, hct⟩ := hc _ T hrest.remembers hB hrest.truthful hrest.keepsToIds
      hrest.refuses hrest.holdsLive
    have := (PassTracked.tracked (PassTracked.skipped T) hasked Log.OffBooks.nil
      (by simp) hct fun ⟨x, hx, hm⟩ => hunl ⟨x, List.mem_append_left _ hx, hm⟩).around
      hbefore Log.OffBooks.nil
    rwa [List.append_nil] at this
  -- the retry pass, over the records the failure list names
  obtain ⟨base, hbase⟩ := Predicate.failedItems_of_bind hpred
  have hids := Predicate.failedIds?_of_failedItems hbase
  obtain ⟨segr, hsegr, hpassr⟩ := replicate_passLog config pred none true [] hrep
  -- the change pass, skipping the ids the retry pass pushed
  obtain ⟨segc, hsegc, hc⟩ := changes_tracks (a := a) (m := m) hN h
  refine ⟨(pre ++ fl :: post) ++ (segr ++ mid ++ segc), ?_, ?_⟩
  · rw [hsegc, hlog₆, hsegr, hlog₃]
    simp [fl]
  intro ends T hB hsc
  obtain ⟨hX, hrest⟩ := hsc.split
  rw [Log.table_unsaved hbefore.saves] at hrest
  obtain ⟨hrm, hsc'⟩ := hrest.split
  obtain ⟨hsr, -⟩ := hrm.split
  rw [Log.table_append, Log.table_unsaved hmid.offBooks.saves] at hsc'
  obtain ⟨hall, hfl⟩ := hlist ends T hX
  have hpend : true = true → ∃ ids, Predicate.failedIds? pred = some ids ∧
      ∀ id ∈ ids, id ∉ [] → T.Pending config id :=
    fun _ => ⟨failed, hids, fun id hid _ => (hall id hid).pending⟩
  obtain ⟨lsr, hq, hr⟩ := hpassr.tracks hN rfl hB hsr.truthful hsr.keepsToIds hpend hsr.refuses
    hsr.holdsLive
  have hasked : a ∈ lsr.records.map Record.ident ↔ T.Retriable config a :=
    (listed_iff_asked hids (hsr.holdsLive _ hq) (hsr.keepsToIds _ hq)).trans hfl
  -- the table the retry pass leaves is bounded, and the change pass starts from it
  have hB' : (segr.table T).Bounded config :=
    (hpassr.refiles hN hB hsr.truthful hsr.keepsToIds hpend).1.2
  have hretried : a ∈ retried ↔ a ∈ segr.pushedIds := by
    rw [hpassr.returned.1]
    simp
  obtain ⟨lsc, hunl, hct⟩ := hc _ (segr.table T) hsc'.remembers hB' hsc'.truthful
    hsc'.keepsToIds hsc'.refuses hsc'.holdsLive
  have hunl' : (∃ x ∈ ends, m.after x = .ok false) → a ∉ lsc.records.map Record.ident :=
    fun ⟨x, hx, hm⟩ => hunl ⟨x, by simp [hx], hm⟩
  have := (PassTracked.tracked hr hasked hmid.offBooks hretried hct hunl').around hbefore
    Log.OffBooks.nil
  rwa [List.append_nil] at this

/-! ## A run -/

/-- A run that returned a state counting for the watermark, against collaborators that answered
as the scenario of a refused record, did to the record what its passes did; the history took the
end of its status. -/
theorem sync_tracks (hN : 1 ≤ config.retryLimit) {seg : Log}
    (h : exec (sync (observe c) config) s = (.ok st, s'))
    (hst : st.state.countsForWatermark = true) (hseg : s'.log = s.log ++ seg) :
    (∃ e, st.endTime = some e ∧ e ∈ seg.countedEnds) ∧
      ∀ (ends : List Stamp) (T : Table), T.Bounded config → seg.Scenario a m ends T →
        Tracked config a m ends T seg := by
  obtain ⟨s₁, s₂, stopped, segp, b, hpass, -, hstop, ⟨t₁, tm₀, t₂, ht₁, ht₂, hlog₁, -⟩, t, t₁',
    tm, t₂', t₃', o, ht, ht₁', ht₂', ht₃', hst', hof, hlog⟩ := sync_ok_inv h
  obtain rfl := unstopped_of_counts hstop (by rw [hst']) hst
  obtain ⟨segq, hsegq, htrack⟩ := passes_tracks (a := a) (m := m) hN hpass
  let added : Event := .call (.store (.addOutcome o (.ok ())))
  let pre : Log := t₁ ++ [.clock tm₀] ++ t₂ ++
    [.status { RunStatus.fresh config.name with startTime := some tm₀, state := .running }]
  let post : Log := t ++ [.clear] ++ t₁' ++ [.clock tm] ++ t₂' ++ [.status st] ++ t₃' ++ [added]
  have hpre : pre.OffBooks :=
    (((Log.OffBooks.of_quiet ht₁).append (.single rfl)).append (.of_quiet ht₂)).append
      (.single rfl)
  have hpost : post.OffBooks :=
    (((((((Log.OffBooks.of_quiet ht).append (.single rfl)).append (.of_quiet ht₁')).append
      (.single rfl)).append (.of_quiet ht₂')).append (.single rfl)).append (.of_quiet ht₃')).append
      (.single rfl)
  have hpre_ends : pre.countedEnds = [] := by
    simp only [pre, Log.countedEnds_append, ht₁.countedEnds, ht₂.countedEnds]
    rfl
  obtain rfl : seg = pre ++ segq ++ post := by
    refine List.append_cancel_left (hseg.symm.trans ?_)
    rw [hlog, hsegq, hlog₁]
    simp [pre, post, added]
  -- the history took the outcome, whose end is the end of the status
  obtain ⟨hostate, -, -, -, -, hoend⟩ := RunOutcome.ofStatus_fields hof
  have hend : st.endTime = some tm := by rw [hst']
  have hotm : o.endTime = tm := Option.some.inj (hoend.symm.trans hend)
  refine ⟨⟨tm, hend, ?_⟩, fun ends T hB hsc => ?_⟩
  · have hcounted : added.counted = some tm := by
      simp [added, Event.counted, hostate, hst, hotm]
    simp only [Log.countedEnds, List.mem_filterMap]
    exact ⟨added, by simp [post], hcounted⟩
  · obtain ⟨hps, -⟩ := hsc.split
    obtain ⟨-, hq⟩ := hps.split
    rw [Log.table_unsaved hpre.saves, hpre_ends, List.append_nil] at hq
    exact (htrack ends T hB hq).around hpre hpost

/-! ## Runs after runs -/

theorem Tracked.first (h : Tracked config a m ends T seg) (hN : 1 ≤ config.retryLimit)
    (hnone : T (config.keyOf a) = none) (hlisted : a ∈ seg.listedIds) :
    seg.pushedIds.count a = 1 ∧
      ∃ i, seg.table T (config.keyOf a) = some i ∧ i.failureCount = .whole 1 := by
  obtain ⟨r, -, i, hi, htab⟩ := h.filed hlisted
  rw [hnone] at hi
  -- the refusal of a new item, which counts no failure, and not as a retry
  have hnew := Item.refusal_of_whole (n := 0) rfl hi fun h => by cases h
  refine ⟨by rw [h.count, if_pos hlisted], i, htab, ?_⟩
  rw [hnew, if_neg (by omega)]
  rfl

/-- A stretch from an item that failed `n` times, at least once, after a recalled end no earlier
than `m`: below the limit the record is retried once and its count grows by one; from the limit
on it is neither listed nor pushed, and its item stays. -/
theorem Tracked.next (h : Tracked config a m ends T seg) {i : Item} {n : Int}
    (hi : T (config.keyOf a) = some i) (hn : i.failureCount = .whole n) (h1 : 1 ≤ n)
    (hx : ∃ x ∈ ends, m.after x = .ok false) :
    seg.pushedIds.count a = (if n < config.retryLimit then 1 else 0) ∧
      ∃ i', seg.table T (config.keyOf a) = some i' ∧
        i'.failureCount = .whole (if n < config.retryLimit then n + 1 else n) := by
  have hretriable : (T (config.keyOf a)).any (Item.retriable config.retryLimit) =
      decide (n < config.retryLimit) := by
    simp only [hi, Option.any_some, Item.retriable, hn, show (0 : Int) < n by omega, decide_true,
      Bool.true_and]
  by_cases hlt : n < config.retryLimit
  -- below the limit the item is retriable: the run retries the record
  · have hlisted : a ∈ seg.listedIds := h.retried (by simp [Table.Retriable, hretriable, hlt])
    obtain ⟨r, -, i', hi', htab⟩ := h.filed hlisted
    rw [hretriable, decide_eq_true hlt, hi] at hi'
    have hnext := Item.refusal_of_whole hn hi' fun _ => hlt
    refine ⟨by rw [h.count, if_pos hlisted, if_pos hlt], i', htab, ?_⟩
    rw [hnext, if_neg (by omega), if_pos hlt]
  -- at the limit it is not, and the change query no longer lists the record
  · have hnot : a ∉ seg.listedIds := fun hl => hlt (by
      simpa [Table.Retriable, hretriable] using h.settled hx hl)
    exact ⟨by rw [h.count, if_neg hnot, if_neg hlt], i, by rw [h.kept hnot, hi],
      by rw [if_neg hlt, hn]⟩

/-- The stretch of log a run of a replication adds to the scene `s`. -/
def runLog (c : Collaborators σ) (config : Replication) (s : Scene σ) : Log :=
  (exec (sync (observe c) config) s).2.log.drop s.log.length

/-- The stretches of log that `n` runs of a replication add, one after another, from the scene
`s`. -/
def runLogs (c : Collaborators σ) (config : Replication) : Nat → Scene σ → List Log
  | 0, _ => []
  | n + 1, s => runLog c config s :: runLogs c config n (exec (sync (observe c) config) s).2

theorem runLog_extends (s : Scene σ) :
    (exec (sync (observe c) config) s).2.log = s.log ++ runLog c config s := by
  unfold runLog
  rcases h : exec (sync (observe c) config) s with ⟨r, s'⟩
  obtain ⟨run, -, -, -, -, -, -, hlog, -⟩ := sync_runLog h
  rw [hlog, List.drop_left]

theorem runs_log (n : Nat) (s : Scene σ) :
    ∀ j ≤ n, (runs c config j s).log = s.log ++ ((runLogs c config n s).take j).flatten := by
  induction n generalizing s with
  | zero => intro j hj; simp [Nat.le_zero.mp hj, runs]
  | succ n ih =>
    intro j hj
    cases j with
    | zero => simp [runs]
    | succ j =>
      rw [runs, ih _ j (by omega), runLog_extends s]
      simp [runLogs]

/-- A run that returned a state counting for the watermark: the history took the end of its
status; and, from a bounded table, against collaborators that answered as the scenario of a
refused record, what it did to the record, and the bounded table it left. -/
theorem runLog_tracks (hN : 1 ≤ config.retryLimit) {s : Scene σ}
    (hst : (exec (sync (observe c) config) s).1 = .ok st)
    (hcounts : st.state.countsForWatermark = true) :
    (∃ e, st.endTime = some e ∧ e ∈ (runLog c config s).countedEnds) ∧
      ∀ (ends : List Stamp) (T : Table), T.Bounded config →
        (runLog c config s).Scenario a m ends T →
        Tracked config a m ends T (runLog c config s) ∧
          (Log.table T (runLog c config s)).Bounded config := by
  obtain ⟨hend, htrack⟩ := sync_tracks (a := a) (m := m) hN (Prod.ext hst rfl) hcounts
    (runLog_extends s)
  refine ⟨hend, fun ends T hB hsc => ⟨htrack ends T hB hsc, ?_⟩⟩
  -- the table a run leaves is bounded
  obtain ⟨seg, hseg, hr⟩ := sync_refiled (c := c) hN s
  obtain rfl : seg = runLog c config s :=
    List.append_cancel_left (hseg.symm.trans (runLog_extends s))
  exact (hr T hB hsc.truthful hsc.keepsToIds).1.2

theorem counts_succ (j₀ k : Nat) (N : Int) :
    (List.range (k + 1)).map (fun j => if ((j₀ + j : Nat) : Int) < N then 1 else 0) =
      (if (j₀ : Int) < N then 1 else 0) ::
        (List.range k).map (fun j => if ((j₀ + 1 + j : Nat) : Int) < N then 1 else 0) := by
  rw [List.range_succ_eq_map, List.map_cons, List.map_map]
  congr 1
  refine List.map_congr_left fun j _ => ?_
  simp only [Function.comp_apply]
  rw [Nat.add_assoc, Nat.add_comm 1 j]

/-- The runs after the first, from an item that failed `min j₀ N` times, once the history
recalls an end no earlier than `m`: each retries the record while its count is below the limit,
raising the count by one, and leaves it alone from then on. -/
theorem runs_retry (hN : 1 ≤ config.retryLimit) (k : Nat) :
    ∀ (s : Scene σ) (j₀ : Nat) (ends : List Stamp) (T : Table) (i : Item), 1 ≤ j₀ →
      T.Bounded config → T (config.keyOf a) = some i →
      i.failureCount = .whole (min (j₀ : Int) config.retryLimit) →
      (∃ x ∈ ends, m.after x = .ok false) →
      (∀ j < k, ∃ st, (exec (sync (observe c) config) (runs c config j s)).1 = .ok st ∧
        st.state.countsForWatermark = true) →
      Log.Scenario a m ends T (runLogs c config k s).flatten →
      (runLogs c config k s).map (fun seg => seg.pushedIds.count a) =
          (List.range k).map (fun j => if ((j₀ + j : Nat) : Int) < config.retryLimit then 1 else 0) ∧
        ∀ j ≤ k, ∃ i, Log.table T ((runLogs c config k s).take j).flatten (config.keyOf a) = some i ∧
          i.failureCount = .whole (min ((j₀ + j : Nat) : Int) config.retryLimit) := by
  induction k with
  | zero =>
    intro s j₀ ends T i _ _ hi hcount _ _ _
    exact ⟨rfl, fun j hj => ⟨i, by simp [Nat.le_zero.mp hj, runLogs, hi], by
      simpa [Nat.le_zero.mp hj] using hcount⟩⟩
  | succ k ih =>
    intro s j₀ ends T i h1 hB hi hcount hx hok hsc
    obtain ⟨st, hst, hcounts⟩ := hok 0 (Nat.zero_lt_succ k)
    have hst : (exec (sync (observe c) config) s).1 = .ok st := hst
    have hsc : Log.Scenario a m ends T (runLog c config s ++
        (runLogs c config k (exec (sync (observe c) config) s).2).flatten) := hsc
    obtain ⟨hsc₁, hsc'⟩ := hsc.split
    obtain ⟨htr, hB'⟩ := (runLog_tracks (a := a) (m := m) hN hst hcounts).2 ends T hB hsc₁
    -- the first of these runs, from the count `min j₀ N`
    obtain ⟨hpushed, i', hi', hcount'⟩ := htr.next hi hcount (by omega) hx
    have hcount₁ : i'.failureCount = .whole (min ((j₀ + 1 : Nat) : Int) config.retryLimit) := by
      rw [hcount']
      congr 1
      split <;> omega
    -- the runs after it, from the count `min (j₀ + 1) N`
    obtain ⟨hmap, htables⟩ := ih _ (j₀ + 1) _ _ i' (by omega) hB' hi' hcount₁
      (by obtain ⟨x, hx, hm⟩ := hx; exact ⟨x, List.mem_append_left _ hx, hm⟩)
      (fun j hj => hok (j + 1) (by omega)) hsc'
    refine ⟨?_, fun j hj => ?_⟩
    · rw [counts_succ, ← hmap, runLogs, List.map_cons, hpushed]
      congr 1
      split <;> split <;> omega
    · cases j with
      | zero => exact ⟨i, by simp [hi], by simpa using hcount⟩
      | succ j =>
        obtain ⟨i'', hi'', hcount''⟩ := htables j (by omega)
        refine ⟨i'', by simpa [runLogs] using hi'', ?_⟩
        rw [hcount'']
        congr 3
        omega

theorem countP_range_lt (N : Int) (hN : 0 ≤ N) (k : Nat) :
    (((List.range k).countP fun j : Nat => decide ((j : Int) < N) : Nat) : Int) =
      min (k : Int) N := by
  induction k with
  | zero => simp; omega
  | succ k ih =>
    rw [List.range_succ, List.countP_append, Int.natCast_add, ih]
    by_cases hk : (k : Int) < N <;> simp [hk] <;> omega

theorem countP_pushed {segs : List Log} {k : Nat} {N : Int} (hN : 0 ≤ N)
    (h : segs.map (fun seg => seg.pushedIds.count a) =
      (List.range k).map fun j : Nat => if (j : Int) < N then 1 else 0) :
    ((segs.countP fun seg => a ∈ seg.pushedIds : Nat) : Int) = min (k : Int) N := by
  have hpos : (segs.countP fun seg => a ∈ seg.pushedIds) =
      (segs.map fun seg => seg.pushedIds.count a).countP (0 < ·) := by
    rw [List.countP_map]
    congr 1
    funext seg
    simp [List.count_pos_iff]
  rw [hpos, h, List.countP_map, ← countP_range_lt N hN k]
  congr 2
  funext j
  by_cases hj : (j : Int) < N <;> simp [hj]

/-- An item store that keeps its items in a list, the latest save first, and a history that
keeps the outcomes added to it, the latest first. -/
def Ledger.keeping : Ledger (Op (List Item × List RunOutcome)) where
  getItem config id source destination := do
    return (← get).1.find? fun i => decide (i.key = (config, id, source, destination))
  failureList config limit source destination := do
    return ((← get).1.filter fun i => decide (i.configId = config ∧ i.source = source ∧
      i.destination = destination) && i.retriable limit).map Item.metadataId
  saveItem j := modify fun w => (j :: w.1.filter fun i => decide (i.key ≠ j.key), w.2)
  outcomes _ := do return (← get).2
  addOutcome o := modify fun w => (w.1, o :: w.2)

/-- The record `a`, modified at noon. -/
def noonRecord : Record := { id := .str "a", modified := some noon }

/-- A site that holds the record `r`, listing it for a query that asks for its id, if the query
asks for ids, and for the records modified after a time before it; it takes no change. -/
def Endpoint.refusing {σ : Type} (r : Record) : Endpoint (Op σ) where
  isAvailable := pure true
  query p after := pure
    { records := [r].filter fun r => (Predicate.failedIds? p).all (·.contains r.ident) &&
        Record.newerThan after r,
      context := "" }
  holds _ := pure false
  createMetadata _ := pure false
  updateMetadata _ := pure false
  deleteMetadata _ := pure false
  createResource _ := pure false
  updateResource _ := pure false
  readResource r := pure { record := r, content := [] }

/-- Both sites holding the record `r` and refusing every change, a clock that always shows noon,
and a store that keeps items and outcomes. -/
def Collaborators.refusing (r : Record) : Collaborators (List Item × List RunOutcome) where
  source := .refusing r
  destination := .refusing r
  ledger := .keeping
  clock _ := noon
  elsewhere w _ := (w, false)

/-- The scene before any run: no item, no outcome, nothing logged. -/
def Scene.archive : Scene (List Item × List RunOutcome) where
  world := ([], [])
  log := []
  faithful := Log.faithful_nil

/-- A deleted record, modified at noon. -/
def deletedRecord : Record := { id := .str "a", modified := some noon, deleted := true }

end CatalogSync.Sync
