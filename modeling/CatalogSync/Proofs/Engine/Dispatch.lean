import CatalogSync.Proofs.Engine.Frame

/-!
# Which write a push makes

After reading the item of its record, a push changes the destination in one of a few ways. The
choice is made by the item, by whether the record is a tombstone, by whether the destination
still holds the record, by whether the replication copies content, and by the times of the
content. This module writes that choice down as a table of change logs and proves that every
run of a push follows it, whatever the sites and the item store answer:

* `Creates`: a record is created with its metadata alone, or its content is read from the
  source and created with it;
* `Updates`: the destination is asked whether it holds the record; a record it lost is created
  again; of one it holds, the content is read and updated when it is newer than the content
  pushed last, and the metadata alone is updated otherwise;
* `Dispatch`: a tombstone never replicated is skipped, a replicated one deleted, a new record
  created and a replicated one updated.

`push_dispatch` says that every push reads the item, follows one row of `Dispatch`, and after
the change only counts, saves and probes (a frame of `Proofs/Engine/Frame`). Content is read
whole, so the read that precedes a content write serves that write alone. A tombstone whose item
read finds none is skipped in every run: its push ends at the read, writing, counting and saving
nothing (`unreplicated_deletion_is_skipped`).
-/

namespace CatalogSync

/-- Whether a push of `r` copies its content: the replication copies content and the record
has some. -/
def Replication.copiesContent (config : Replication) (r : Record) : Bool :=
  !config.metadataOnly && r.hasResource

/-- Whether the content of `r` is newer than the content pushed last with the item `i`: a time
missing on either side counts as newer, and times of different kinds cannot be compared. -/
def Record.contentNewer (r : Record) (i : Item) : Except Failure Bool :=
  match r.resourceModified, i.resourceModified with
  | some a, some b => a.after b
  | _, _ => .ok true

/-- Whether an update of `r` over the item `i` copies content: when the push copies content,
whether it is newer. -/
def Replication.contentChanged (config : Replication) (r : Record) (i : Item) :
    Except Failure Bool :=
  if config.copiesContent r then r.contentNewer i else .ok false

theorem Replication.copiesContent_eq_false {config : Replication} {r : Record} :
    config.copiesContent r = false ↔ (config.metadataOnly || !r.hasResource) = true := by
  unfold copiesContent
  cases config.metadataOnly <;> cases r.hasResource <;> decide

theorem Sync.update_comparison (config : Replication) (r : Record) (i : Item) :
    (if config.metadataOnly then .ok false else Sync.resourceChanged r i) =
      config.contentChanged r i := by
  unfold Replication.contentChanged Replication.copiesContent Sync.resourceChanged
    Record.contentNewer
  cases config.metadataOnly <;> cases r.hasResource <;> rfl

end CatalogSync

namespace CatalogSync.Sync

variable {σ : Type}

/-! ## The table -/

/-- How creating `r` on the destination goes, with the requests to stop before its calls: its
metadata alone is created, or its content is read from the source and created with it, unless
the read fails. -/
inductive Creates (config : Replication) (r : Record) : Log → Prop
  | metadata {t : Log} {ans : Except Failure Bool} (hcopy : config.copiesContent r = false)
      (ht : t.Quiet) :
      Creates config r (t ++ [.call (.site .destination (.createMetadata r ans))])
  | unread {t : Log} {e : Failure} (hcopy : config.copiesContent r = true) (ht : t.Quiet) :
      Creates config r (t ++ [.call (.site .source (.readResource r (.error e)))])
  | content {t t' : Log} {res : Resource} {ans : Except Failure Bool}
      (hcopy : config.copiesContent r = true) (ht : t.Quiet) (ht' : t'.Quiet) :
      Creates config r (t ++ [.call (.site .source (.readResource r (.ok res)))] ++ t' ++
        [.call (.site .destination (.createResource res ans))])

/-- How updating `r` over its item `i` goes: the destination is asked whether it holds `r`, and
an answer that fails ends the update. A record it lost is created again. Of one it holds, the
content is read and updated when the update copies content, and the metadata alone is updated
otherwise; content times that cannot be compared end the update before any write. -/
inductive Updates (config : Replication) (r : Record) (i : Item) : Log → Prop
  | unasked {t : Log} {e : Failure} (ht : t.Quiet) :
      Updates config r i (t ++ [.call (.site .destination (.holds r (.error e)))])
  | recreated {t ch : Log} (ht : t.Quiet) (hc : Creates config r ch) :
      Updates config r i (t ++ [.call (.site .destination (.holds r (.ok false)))] ++ ch)
  | incomparable {t : Log} {e : Failure} (ht : t.Quiet)
      (hcmp : config.contentChanged r i = .error e) :
      Updates config r i (t ++ [.call (.site .destination (.holds r (.ok true)))])
  | metadata {t t' : Log} {ans : Except Failure Bool} (ht : t.Quiet) (ht' : t'.Quiet)
      (hcmp : config.contentChanged r i = .ok false) :
      Updates config r i (t ++ [.call (.site .destination (.holds r (.ok true)))] ++ t' ++
        [.call (.site .destination (.updateMetadata r ans))])
  | unread {t t' : Log} {e : Failure} (ht : t.Quiet) (ht' : t'.Quiet)
      (hcmp : config.contentChanged r i = .ok true) :
      Updates config r i (t ++ [.call (.site .destination (.holds r (.ok true)))] ++ t' ++
        [.call (.site .source (.readResource r (.error e)))])
  | content {t t' t'' : Log} {res : Resource} {ans : Except Failure Bool} (ht : t.Quiet)
      (ht' : t'.Quiet) (ht'' : t''.Quiet) (hcmp : config.contentChanged r i = .ok true) :
      Updates config r i (t ++ [.call (.site .destination (.holds r (.ok true)))] ++ t' ++
        [.call (.site .source (.readResource r (.ok res)))] ++ t'' ++
        [.call (.site .destination (.updateResource res ans))])

/-- The change a push of `r` makes after reading the item `stored`. -/
inductive Dispatch (config : Replication) (r : Record) : Option Item → Log → Prop
  /-- A tombstone never replicated: nothing. -/
  | skipped (hdel : r.deleted = true) : Dispatch config r none []
  /-- A record never replicated is created. -/
  | created {ch : Log} (hdel : r.deleted = false) (hc : Creates config r ch) :
      Dispatch config r none ch
  /-- A replicated tombstone is deleted. -/
  | deleted {i : Item} {t : Log} {ans : Except Failure Bool} (hdel : r.deleted = true)
      (ht : t.Quiet) :
      Dispatch config r (some i) (t ++ [.call (.site .destination (.deleteMetadata r ans))])
  /-- A replicated record is updated. -/
  | updated {i : Item} {ch : Log} (hdel : r.deleted = false) (hu : Updates config r i ch) :
      Dispatch config r (some i) ch

/-- Whether an event asks the destination whether it holds a record. -/
def Event.asksHolds : Event → Bool
  | .call (.site .destination (.holds ..)) => true
  | _ => false

/-- Whether an event may follow the change of a push: a request to stop, a status set, a save
of an item or a probe of a site. -/
def Event.settlesPush : Event → Bool
  | .cancel | .status _ | .call (.store (.saveItem ..)) | .call (.site _ (.isAvailable _)) => true
  | _ => false

theorem Event.asksHolds_of_settlesPush {e : Event} (h : e.settlesPush = true) :
    e.asksHolds = false := by
  rcases e with _ | _ | _ | _ | _ | ⟨_ | _, call⟩ | call
  all_goals first | rfl | (cases call <;> first | rfl | cases h)

theorem Log.Quiet.any_asksHolds {t : Log} (ht : t.Quiet) : t.any Event.asksHolds = false :=
  ht.any rfl

theorem Creates.asks_nothing {config : Replication} {r : Record} {ch : Log}
    (h : Creates config r ch) : ch.any Event.asksHolds = false := by
  cases h with
  | metadata _ ht => simp [ht.any_asksHolds, Event.asksHolds]
  | unread _ ht => simp [ht.any_asksHolds, Event.asksHolds]
  | content _ ht ht' => simp [ht.any_asksHolds, ht'.any_asksHolds, Event.asksHolds]

theorem Dispatch.asks_of_updated {config : Replication} {r : Record} {stored : Option Item}
    {ch : Log} (h : Dispatch config r stored ch) (hask : ch.any Event.asksHolds = true) :
    stored.isSome = true ∧ r.deleted = false := by
  cases h with
  | skipped => cases hask
  | created _ hc => rw [hc.asks_nothing] at hask; cases hask
  | deleted _ ht => simp [ht.any_asksHolds, Event.asksHolds] at hask
  | updated hdel => exact ⟨rfl, hdel⟩

/-! ## Runs of a change -/

section Change

variable {c : Collaborators σ} {s s' : Scene σ}

theorem create_creates (config : Replication) (r : Record) {a : Except Failure (Bool × Int)}
    (h : exec (create (observe c) config r) s = (a, s')) :
    ∃ ch, s'.log = s.log ++ ch ∧ Creates config r ch := by
  unfold create at h
  split at h
  · rename_i hmeta
    obtain ⟨t, ans, ht, hlog, -⟩ := call_pure_inv h
    exact ⟨_, by simpa using hlog, .metadata (Replication.copiesContent_eq_false.mpr hmeta) ht⟩
  rename_i hcontent
  have hcopy : config.copiesContent r = true := by
    simpa [Replication.copiesContent] using hcontent
  rcases bind_inv h with ⟨e, hread, rfl⟩ | ⟨res, s₁, hread, hwrite⟩
  -- the content could not be read
  · obtain ⟨t, ht, hlog⟩ := call_inv hread
    exact ⟨_, by simpa using hlog, .unread hcopy ht⟩
  obtain ⟨t, ht, hlog⟩ := call_inv hread
  obtain ⟨t', ans, ht', hlog', -⟩ := call_pure_inv hwrite
  exact ⟨_, by rw [hlog', hlog]; simp only [List.append_assoc]; rfl,
    .content hcopy ht ht'⟩

theorem update_updates (config : Replication) (r : Record) (i : Item)
    {a : Except Failure (Bool × Int)} (h : exec (update (observe c) config r i) s = (a, s')) :
    ∃ ch, s'.log = s.log ++ ch ∧ Updates config r i ch := by
  unfold update at h
  rcases bind_inv h with ⟨e, hheld, rfl⟩ | ⟨held, s₁, hheld, h⟩
  · obtain ⟨t, ht, hlog⟩ := call_inv hheld
    exact ⟨_, by simpa using hlog, .unasked ht⟩
  obtain ⟨t, ht, hlog⟩ := call_inv hheld
  split at h
  -- a record the destination lost is created again
  · obtain rfl : held = false := by simpa using ‹(!held) = true›
    obtain ⟨ch, hch, hc⟩ := create_creates config r h
    exact ⟨_, by rw [hch, hlog]; simp only [List.append_assoc]; rfl,
      .recreated ht hc⟩
  obtain rfl : held = true := by simpa using ‹¬(!held) = true›
  rw [update_comparison] at h
  rcases bind_inv h with ⟨e, hcmp, rfl⟩ | ⟨changed, s₂, hcmp, hk⟩
  -- content times that cannot be compared: the update fails before writing
  · obtain ⟨hcmp', rfl⟩ := Prod.mk.inj ((exec_ofExcept _ _).symm.trans hcmp)
    exact ⟨_, by simpa using hlog, .incomparable ht hcmp'⟩
  obtain ⟨hcmp', rfl⟩ := ofExcept_inv hcmp
  split at hk
  · obtain rfl : changed = false := by simpa using ‹(!changed) = true›
    obtain ⟨t', ans, ht', hlog', -⟩ := call_pure_inv hk
    exact ⟨_, by rw [hlog', hlog]; simp only [List.append_assoc]; rfl,
      .metadata ht ht' hcmp'⟩
  obtain rfl : changed = true := by simpa using ‹¬(!changed) = true›
  rcases bind_inv hk with ⟨e, hread, rfl⟩ | ⟨res, s₃, hread, hwrite⟩
  · obtain ⟨t', ht', hlog'⟩ := call_inv hread
    exact ⟨_, by rw [hlog', hlog]; simp only [List.append_assoc]; rfl,
      .unread ht ht' hcmp'⟩
  obtain ⟨t', ht', hlog'⟩ := call_inv hread
  obtain ⟨t'', ans, ht'', hlog'', -⟩ := call_pure_inv hwrite
  exact ⟨_, by rw [hlog'', hlog', hlog]; simp only [List.append_assoc]; rfl,
    .content ht ht' ht'' hcmp'⟩

theorem handled_scene {x : Run σ (Option (Bool × Int))}
    {a : Except Failure (Option (Bool × Int))}
    (h : exec (tryCatchThe Failure x fun f =>
      if f.isLinkLoss then Pure.pure none else if f.isNode then Pure.pure (some (false, 0))
      else throwThe Failure f) s = (a, s')) :
    ∃ a', exec x s = (a', s') := by
  rcases tryCatch_inv h with ⟨v, hv, -⟩ | ⟨f, s₁, hf, hh⟩
  · exact ⟨_, hv⟩
  suffices hs : s' = s₁ by exact ⟨_, hs ▸ hf⟩
  split at hh
  · exact (Prod.mk.inj hh).2.symm
  split at hh
  · exact (Prod.mk.inj hh).2.symm
  · exact (Prod.mk.inj hh).2.symm

end Change

/-! ## A whole push -/

section Push

variable {c : Collaborators σ} {s s' : Scene σ}

/-- Every push reads the item of its record, after requests to stop, and then changes the
destination as one row of `Dispatch` says; after the change it only counts, saves and probes.
A tombstone never replicated ends the push right after the read, and the run goes on. -/
theorem push_dispatch (config : Replication) (retry : Bool) (r : Record)
    {res : Except Failure (Option RunState)}
    (h : exec (push (observe c) config retry r) s = (res, s')) :
    ∃ t ans rest, t.Quiet ∧ s'.log = s.log ++ t ++ [config.readsItem r ans] ++ rest ∧
      match ans with
      | .error _ => rest = []
      | .ok stored => (stored = none → r.deleted = true → rest = [] ∧ res = .ok none) ∧
          ∃ ch post, rest = ch ++ post ∧ Dispatch config r stored ch ∧
            ∀ e ∈ post, e.settlesPush = true := by
  unfold push at h
  rcases bind_inv h with ⟨e, hget, rfl⟩ | ⟨stored, s₁, hget, h⟩
  -- the item could not be read
  · obtain ⟨t, ht, hlog⟩ := call_inv hget
    exact ⟨t, .error e, [], ht, by simpa [Replication.readsItem] using hlog, rfl⟩
  obtain ⟨t, ht, hlog⟩ := call_inv hget
  suffices hrest : ∃ rest, s'.log = s₁.log ++ rest ∧
      (stored = none → r.deleted = true → rest = [] ∧ res = .ok none) ∧
      ∃ ch post, rest = ch ++ post ∧ Dispatch config r stored ch ∧
        ∀ e ∈ post, e.settlesPush = true by
    obtain ⟨rest, hrest, hd⟩ := hrest
    exact ⟨t, .ok stored, rest, ht, by rw [hrest, hlog]; rfl, hd⟩
  split at h
  · rename_i hskip
    obtain ⟨hres, rfl⟩ := Prod.mk.inj h
    simp only [Bool.and_eq_true, Option.isNone_iff_eq_none] at hskip
    obtain ⟨rfl, hdel⟩ := hskip
    exact ⟨[], by simp, fun _ _ => ⟨rfl, hres.symm⟩, [], [], rfl, .skipped hdel, by simp⟩
  rename_i hgo
  obtain ⟨a, s₂, hatt, h⟩ := bind_exec h
  -- the change, by the item and the tombstone
  obtain ⟨ch, hlogc, hd⟩ : ∃ ch, s₂.log = s₁.log ++ ch ∧ Dispatch config r stored ch := by
    obtain ⟨a', hbody⟩ := handled_scene hatt
    rcases stored with _ | i <;> cases hdel : r.deleted
    · simp only [hdel, Option.isSome_none, Operation.classify] at hbody
      obtain ⟨a'', hcreate, -⟩ := bind_some_inv hbody
      obtain ⟨ch, hlogc, hc⟩ := create_creates config r hcreate
      exact ⟨ch, hlogc, .created hdel hc⟩
    · simp [hdel] at hgo
    · simp only [hdel, Option.isSome_some, Operation.classify] at hbody
      obtain ⟨a'', hupd, -⟩ := bind_some_inv hbody
      obtain ⟨ch, hlogc, hu⟩ := update_updates config r i hupd
      exact ⟨ch, hlogc, .updated hdel hu⟩
    · simp only [hdel, Option.isSome_some, Operation.classify] at hbody
      obtain ⟨t', ans, ht', hlog', -⟩ := call_pure_inv hbody
      exact ⟨_, by simpa using hlog', .deleted hdel ht'⟩
  -- after the change: counts, saves and probes
  obtain ⟨post, hpost, hsettles⟩ : ∃ post, s'.log = s₂.log ++ post ∧
      ∀ e ∈ post, e.settlesPush = true := by
    rcases a with e | _ | ⟨pushed, bytes⟩
    · rw [exec_bind, exec_ofExcept] at h
      obtain ⟨-, rfl⟩ := Prod.mk.inj h
      exact ⟨[], by simp, by simp⟩
    · rw [exec_ofExcept_bind] at h
      obtain ⟨-, rfl⟩ := Prod.mk.inj h
      exact ⟨[], by simp, by simp⟩
    rw [exec_ofExcept_bind] at h
    refine Adds.exec_log ?_ h
    dsimp only
    split
    · exact (Adds.status rfl).bind fun _ => (Adds.setStatus rfl rfl).bind fun _ =>
        (Adds.call rfl fun _ => rfl).bind fun _ => .pure _
    -- a refusal is counted, its item saved or its count raised, and both sites probed
    · refine (Adds.status rfl).bind fun _ => (Adds.setStatus rfl rfl).bind fun _ => ?_
      split
      all_goals
        refine Adds.bind (by first | exact Adds.call rfl fun _ => rfl | exact .throw _)
          fun _ => ?_
        refine (Adds.call rfl fun _ => rfl).bind fun _ => ?_
        split
        · exact .pure _
        refine (Adds.call rfl fun _ => rfl).bind fun _ => ?_
        split <;> exact .pure _
  refine ⟨ch ++ post, by rw [hpost, hlogc, List.append_assoc], fun hnone hdel => ?_,
    ch, post, rfl, hd, hsettles⟩
  simp [hnone, hdel] at hgo

/-- A push of a record the source reports deleted, in any run and whatever the sites and the item
store answer: when the read of its item finds none, the record is a deletion never replicated,
and the push ends right after the read with the run going on. Nothing is written to the
destination, no push or refusal is counted and no item is saved. -/
theorem unreplicated_deletion_is_skipped (c : Collaborators σ) (config : Replication)
    (retry : Bool) (r : Record) (s : Scene σ) (hdel : r.deleted = true) :
    ∃ t ans rest, t.Quiet ∧
      (exec (push (observe c) config retry r) s).2.log =
        s.log ++ t ++ [config.readsItem r ans] ++ rest ∧
      (ans = .ok none → rest = [] ∧ (exec (push (observe c) config retry r) s).1 = .ok none ∧
        (exec (push (observe c) config retry r) s).2.log.status = s.log.status) := by
  rcases hx : exec (push (observe c) config retry r) s with ⟨res, s'⟩
  obtain ⟨t, ans, rest, ht, hlog, hrest⟩ := push_dispatch config retry r hx
  refine ⟨t, ans, rest, ht, hlog, ?_⟩
  rintro rfl
  obtain ⟨rfl, hres⟩ := hrest.1 rfl hdel
  -- what is left of the push is its looks at the request to stop and the read
  refine ⟨rfl, hres, ?_⟩
  rw [hlog, List.append_nil, Log.status_append, ht.status]
  rfl

theorem unreplicated_tombstone_is_skipped :
    ({ id := .str "a", modified := none, deleted := true } : Record).deleted = true ∧
      ∃ t ans rest, t.Quiet ∧
        (exec (push (observe .idle) .sample false
          { id := .str "a", modified := none, deleted := true }) .empty).2.log =
          Scene.empty.log ++ t ++
            [Replication.sample.readsItem { id := .str "a", modified := none, deleted := true } ans] ++
            rest ∧
        (ans = .ok none → rest = [] ∧ (exec (push (observe .idle) .sample false
            { id := .str "a", modified := none, deleted := true }) .empty).1 = .ok none ∧
          (exec (push (observe .idle) .sample false
            { id := .str "a", modified := none, deleted := true }) .empty).2.log.status =
            Scene.empty.log.status) :=
  ⟨rfl, unreplicated_deletion_is_skipped .idle .sample false _ .empty rfl⟩

end Push

end CatalogSync.Sync
