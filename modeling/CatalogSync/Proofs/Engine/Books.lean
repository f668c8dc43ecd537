import CatalogSync.Proofs.Engine.Sweep

/-!
# The books of the pushes

A run keeps three records of its pushes: the writes the destination receives, the counters of
its status, and the items it saves. This module reads off a stretch of log that they agree
(`Accounts`):

* every write belongs to the push begun last before it, and a push writes at most once
  (`Log.writers`);
* the bytes the status counts are the bytes of content the destination took;
* when every item the store handed back was filed under the key asked for and counted a whole,
  non-negative number of failures, the pushes counted are the saves of items with no failure,
  the refusals counted are the other saves, and every save is filed under the key of its push.

A push keeps its books along every path of `PushLog` (`PushLog.accounts`), and a sweep along
every path of `Sweep` (`Sweep.accounts`).
-/

namespace CatalogSync.Sync

/-! ## Which push a write belongs to -/

namespace Log

/-- The pushes the writes of a log belong to, in order: each write belongs to the push begun
last before it, or to `cur` when none began before it in the log. -/
def writers (cur : Option String) : Log → List (Option String)
  | [] => []
  | e :: rest =>
    match e.pushedId with
    | some id => writers (some id) rest
    | none => if e.isWrite then cur :: writers cur rest else writers cur rest

variable {cur : Option String} {l l₁ l₂ : Log}

theorem writers_unwritten (h : ∀ e ∈ l, e.pushedId = none ∧ e.isWrite = false) :
    l.writers cur = [] := by
  induction l with
  | nil => rfl
  | cons e rest ih =>
    obtain ⟨hp, hw⟩ := h e (by simp)
    simp [writers, hp, hw, ih fun x hx => h x (by simp [hx])]

theorem writers_unpushed (h : ∀ e ∈ l, e.pushedId = none) :
    l.writers cur = List.replicate (l.countP Event.isWrite) cur := by
  induction l with
  | nil => rfl
  | cons e rest ih =>
    have hrest := ih fun x hx => h x (by simp [hx])
    cases hw : e.isWrite <;> simp [writers, h e (by simp), hw, hrest, List.replicate_succ]

theorem writers_append (h₂ : ∀ x, l₂.writers x = l₂.writers none) :
    (l₁ ++ l₂).writers cur = l₁.writers cur ++ l₂.writers none := by
  induction l₁ generalizing cur with
  | nil => exact h₂ cur
  | cons e rest ih =>
    simp only [List.cons_append, writers]
    split
    · exact ih
    · split <;> simp [ih]

end Log

/-! ## Items the store hands back -/

end CatalogSync.Sync

namespace CatalogSync.Item

/-- An item handed back for `key`: filed under that key, with a whole, non-negative count of
failures. -/
def Sound (key : String × String × String × String) (i : Item) : Prop :=
  i.key = key ∧ ∃ n, 0 ≤ n ∧ i.failureCount = .whole n

instance (key : String × String × String × String) (i : Item) : Decidable (i.Sound key) :=
  match h : i.failureCount with
  | .whole n => decidable_of_iff (i.key = key ∧ 0 ≤ n) (by simp [Sound, h])
  | .real _ => isFalse (by simp [Sound, h])
  | .text _ => isFalse (by simp [Sound, h])
  | .bytes _ => isFalse (by simp [Sound, h])

theorem Sound.refusal_ok {key : String × String × String × String} {i : Item} (h : i.Sound key)
    (limit : Int) (retry : Bool) :
    ∃ j n, i.refusal limit retry = .ok j ∧ 0 < n ∧ j.failureCount = .whole n := by
  obtain ⟨-, n, hn, hcount⟩ := h
  unfold Item.refusal Item.failed
  simp only [hcount, Tally.atLeast, bind, Except.bind]
  cases decide (n ≥ limit) && !retry
  · exact ⟨_, n + 1, rfl, by omega, rfl⟩
  · exact ⟨_, 1, rfl, by omega, rfl⟩

@[simp] theorem cleared_succeeded (i : Item) (m r : Option Stamp) :
    (i.succeeded m r).cleared = true :=
  rfl

theorem cleared_of_whole {i : Item} {n : Int} (h : i.failureCount = .whole n) :
    i.cleared = (n == 0) := by
  simp [cleared, h]

end CatalogSync.Item

theorem CatalogSync.Replication.itemOf_sound (config : Replication) (r : Record)
    {stored : Option Item} (h : ∀ i, stored = some i → i.Sound (config.keyOf r.ident)) :
    (config.itemOf r stored).Sound (config.keyOf r.ident) := by
  cases stored with
  | none => exact ⟨rfl, 0, Int.le_refl 0, rfl⟩
  | some i => exact h i rfl

namespace CatalogSync.Sync

open scoped List

/-- Whether a read of the item store handed back a sound item, or nothing. -/
def Event.SoundRead : Event → Prop
  | .call (.store (.getItem config id source destination (.ok (some i)))) =>
    i.Sound (config, id, source, destination)
  | _ => True

instance : DecidablePred Event.SoundRead
  | .call (.store (.getItem config id source destination (.ok (some i)))) =>
    inferInstanceAs (Decidable (i.Sound (config, id, source, destination)))
  | .call (.store (.getItem _ _ _ _ (.ok none))) | .call (.store (.getItem _ _ _ _ (.error _)))
  | .call (.store (.failureList ..)) | .call (.store (.saveItem ..))
  | .call (.store (.outcomes ..)) | .call (.store (.addOutcome ..)) | .call (.site ..)
  | .cancel | .checkpoint _ | .clear | .clock _ | .status _ => isTrue trivial

/-- Every item the store handed back in a log was sound. -/
def Log.SoundReads (l : Log) : Prop := ∀ e ∈ l, e.SoundRead

instance (l : Log) : Decidable l.SoundReads := inferInstanceAs (Decidable (∀ e ∈ l, e.SoundRead))

theorem Log.SoundReads.append {l₁ l₂ : Log} (h : (l₁ ++ l₂).SoundReads) :
    l₁.SoundReads ∧ l₂.SoundReads :=
  ⟨fun e he => h e (List.mem_append_left _ he), fun e he => h e (List.mem_append_right _ he)⟩

/-! ## Events that leave the books alone -/

/-- Whether an event leaves the books of the pushes alone: requests to stop and looks at them,
the clock, probes, queries, and the calls to the store that neither read nor save an item. -/
def Event.aloof : Event → Bool
  | .cancel | .checkpoint _ | .clock _ | .clear => true
  | .call (.site _ (.isAvailable _)) | .call (.site _ (.query ..)) => true
  | .call (.store (.failureList ..)) | .call (.store (.outcomes ..))
  | .call (.store (.addOutcome ..)) => true
  | _ => false

theorem Event.aloof_facts {e : Event} (h : e.aloof = true) :
    e.pushedId = none ∧ e.isWrite = false ∧ e.saved = none ∧ e.SoundRead ∧
      ∀ st, e.setsStatus st = st := by
  rcases e with _ | _ | _ | _ | _ | ⟨_ | _, call⟩ | call
  all_goals first
    | (cases call <;> simp_all [aloof, pushedId, isWrite, saved, SoundRead, setsStatus])
    | simp_all [aloof, pushedId, isWrite, saved, SoundRead, setsStatus]

/-! ## Books that agree -/

/-- What a stretch `seg` of a run shows of its pushes, from the status `st` before it: the
writes each belong to a push begun in it, at most one to a push; the bytes counted are the
bytes the destination took; and, when the store's reads were sound, the pushes and refusals
counted are the saves of items with no failure and with failures, each under the key of its
push. -/
structure Accounts (config : Replication) (st : RunStatus) (seg : Log) : Prop where
  led : ∀ cur, seg.writers cur = seg.writers none
  owned : seg.writers none <+ seg.pushedIds.map some
  bytes : (seg.foldl Event.setsStatus st).pushBytes = st.pushBytes + seg.movedBytes
  books : seg.SoundReads →
    (seg.foldl Event.setsStatus st).pushCount =
        st.pushCount + (seg.saves.filter Item.cleared).length ∧
      (seg.foldl Event.setsStatus st).pushFailCount =
        st.pushFailCount + (seg.saves.filter fun i => !i.cleared).length ∧
      seg.saves.map Item.key <+ seg.pushedIds.map config.keyOf

namespace Accounts

variable {config : Replication} {st : RunStatus} {seg seg₁ seg₂ : Log}

theorem append (h₁ : Accounts config st seg₁)
    (h₂ : Accounts config (seg₁.foldl Event.setsStatus st) seg₂) :
    Accounts config st (seg₁ ++ seg₂) where
  led cur := by rw [Log.writers_append h₂.led, Log.writers_append h₂.led, h₁.led]
  owned := by
    rw [Log.writers_append h₂.led, Log.pushedIds_append, List.map_append]
    exact h₁.owned.append h₂.owned
  bytes := by
    rw [List.foldl_append, h₂.bytes, h₁.bytes, Log.movedBytes_append]
    omega
  books hsound := by
    obtain ⟨hs₁, hs₂⟩ := hsound.append
    obtain ⟨hc₁, hf₁, hk₁⟩ := h₁.books hs₁
    obtain ⟨hc₂, hf₂, hk₂⟩ := h₂.books hs₂
    refine ⟨?_, ?_, ?_⟩
    · rw [List.foldl_append, hc₂, hc₁, Log.saves_append, List.filter_append, List.length_append]
      omega
    · rw [List.foldl_append, hf₂, hf₁, Log.saves_append, List.filter_append, List.length_append]
      omega
    · rw [Log.saves_append, Log.pushedIds_append, List.map_append, List.map_append]
      exact hk₁.append hk₂

theorem aloof (h : ∀ e ∈ seg, e.aloof = true) : Accounts config st seg := by
  have hfacts := fun e he => Event.aloof_facts (h e he)
  have hwriters : ∀ cur, seg.writers cur = [] := fun _ =>
    Log.writers_unwritten fun e he => ⟨(hfacts e he).1, (hfacts e he).2.1⟩
  have hpushed : seg.pushedIds = [] :=
    List.filterMap_eq_nil_iff.mpr fun e he => (hfacts e he).1
  have hsaves : seg.saves = [] := List.filterMap_eq_nil_iff.mpr fun e he => (hfacts e he).2.2.1
  have hbytes : seg.movedBytes = 0 := (Log.unwritten fun e he => (hfacts e he).2.1).2
  have hstatus : seg.foldl Event.setsStatus st = st :=
    Log.foldl_unset (fun e he => (hfacts e he).2.2.2.2) st
  exact {
    led := fun cur => by rw [hwriters, hwriters]
    owned := by simp [hwriters]
    bytes := by simp [hstatus, hbytes]
    books := fun _ => by simp [hstatus, hsaves, hpushed] }

end Accounts

/-! ## The books of a push -/

theorem ChangeLog.saves {r : Record} {ch : Log} {took : Option Int} (h : ChangeLog r ch took) :
    ch.saves = [] :=
  List.filterMap_eq_nil_iff.mpr fun e he => (Event.inChange_facts (h.inChange e he)).2.1

theorem ChangeLog.foldl_status {r : Record} {ch : Log} {took : Option Int}
    (h : ChangeLog r ch took) (st : RunStatus) : ch.foldl Event.setsStatus st = st :=
  Log.foldl_unset (fun e he => (Event.inChange_facts (h.inChange e he)).2.2.2.2) st

theorem Log.Quiet.foldl_status {t : Log} (ht : t.Quiet) (st : RunStatus) :
    t.foldl Event.setsStatus st = st :=
  Log.foldl_unset (fun e he => by rw [ht e he]; exact fun _ => rfl) st

theorem Log.probes_neutral {l : Log} (h : ∀ e ∈ l, e.isProbe = true) :
    l.saves = [] ∧ l.countP Event.isWrite = 0 ∧ l.movedBytes = 0 ∧
      ∀ st, l.foldl Event.setsStatus st = st := by
  have hcases : ∀ e ∈ l, e = .cancel ∨ ∃ side ans, e = .call (.site side (.isAvailable ans)) :=
    fun e he => by
      have := h e he
      unfold Event.isProbe at this
      split at this
      · exact .inl rfl
      · exact .inr ⟨_, _, rfl⟩
      · cases this
  have hw : ∀ e ∈ l, e.isWrite = false := fun e he => by
    rcases hcases e he with rfl | ⟨side, _, rfl⟩
    · rfl
    · cases side <;> rfl
  refine ⟨List.filterMap_eq_nil_iff.mpr fun e he => ?_,
    List.countP_eq_zero.mpr fun e he => by simp [hw e he], (Log.unwritten hw).2,
    Log.foldl_unset fun e he => ?_⟩
  all_goals rcases hcases e he with rfl | ⟨_, _, rfl⟩
  all_goals first | rfl | exact fun _ => rfl

namespace Accounts

variable {config : Replication} {st : RunStatus} {r : Record} {stored : Option Item} {p : Log}

/-- A push keeps the books when, after its read, it begins no other push, writes at most once,
counts the bytes the destination took, and, reading soundly, counts its saves by their failures
and files them under its key. -/
theorem push (hp : ∀ e ∈ p, e.pushedId = none) (hw : p.countP Event.isWrite ≤ 1)
    (hbytes : (p.foldl Event.setsStatus st).pushBytes = st.pushBytes + p.movedBytes)
    (hbooks : (∀ i, stored = some i → i.Sound (config.keyOf r.ident)) →
      (p.foldl Event.setsStatus st).pushCount =
          st.pushCount + (p.saves.filter Item.cleared).length ∧
        (p.foldl Event.setsStatus st).pushFailCount =
          st.pushFailCount + (p.saves.filter fun i => !i.cleared).length ∧
        p.saves.map Item.key <+ [config.keyOf r.ident]) :
    Accounts config st (config.readsItem r (.ok stored) :: p) := by
  have hwriters : ∀ cur, Log.writers cur (config.readsItem r (.ok stored) :: p) =
      List.replicate (p.countP Event.isWrite) (some r.ident) := fun cur => by
    simp [Log.writers, Log.writers_unpushed hp]
  have hpushed : Log.pushedIds (config.readsItem r (.ok stored) :: p) = [r.ident] := by
    simp [List.filterMap_eq_nil_iff.mpr hp, Log.pushedIds]
  refine ⟨fun cur => by rw [hwriters, hwriters], ?_, ?_, fun hsound => ?_⟩
  · rw [hwriters, hpushed]
    rcases Nat.le_one_iff_eq_zero_or_eq_one.mp hw with h | h <;> simp [h]
  · simpa [Replication.readsItem, Event.movedBytes, Event.setsStatus] using hbytes
  · have hread := hsound _ List.mem_cons_self
    obtain ⟨hc, hf, hk⟩ := hbooks fun i hi => by
      subst hi
      exact hread
    refine ⟨by simpa [Replication.readsItem, Event.saved, Event.setsStatus] using hc,
      by simpa [Replication.readsItem, Event.saved, Event.setsStatus] using hf, ?_⟩
    rw [hpushed]
    simpa [Replication.readsItem, Event.saved] using hk

theorem aloof_append {pre : Log} (hpre : ∀ e ∈ pre, e.aloof = true) (h : Accounts config st seg) :
    Accounts config st (pre ++ seg) := by
  refine (aloof hpre).append ?_
  rwa [Log.foldl_unset fun e he => (Event.aloof_facts (hpre e he)).2.2.2.2]

theorem unread {e : Failure} : Accounts config st [config.readsItem r (.error e)] where
  led _ := rfl
  owned := by simp [Log.writers, Replication.readsItem, Event.pushedId]
  bytes := by simp [Replication.readsItem, Event.setsStatus, Event.movedBytes]
  books _ := by simp [Replication.readsItem, Event.setsStatus, Event.saved]

end Accounts

/-- A push keeps the books along every path of `PushLog`. -/
theorem PushLog.accounts {retry : Bool} {res : Except Failure (Option RunState)}
    (h : PushLog config retry r st stored p res) :
    Accounts config st (config.readsItem r (.ok stored) :: p) := by
  have hp : ∀ e ∈ p, e.pushedId = none := fun e he => (Event.inPush_facts (h.inPush e he)).1
  cases h with
  | skipped => exact Accounts.push hp (by simp) (by simp) fun _ => by simp
  | stopped hch _ =>
    refine Accounts.push hp hch.writeOnce ?_ fun _ => ?_
    · simp [hch.foldl_status, hch.moved]
    · simp [hch.foldl_status, hch.saves]
  | took hch ht₁ ht₂ =>
    refine Accounts.push hp ?_ ?_ fun hsound => ?_
    · simpa [List.countP_append, ht₁.countP (p := Event.isWrite) rfl, ht₂.countP (p := Event.isWrite) rfl, Event.isWrite] using
        hch.writeOnce
    · simp [List.foldl_append, hch.foldl_status, ht₁.foldl_status, ht₂.foldl_status, hch.moved,
        ht₁, ht₂, Event.setsStatus, Event.movedBytes, RunStatus.recordPush]
    · simp [List.foldl_append, hch.foldl_status, ht₁.foldl_status, ht₂.foldl_status, hch.saves,
        ht₁, ht₂, Event.setsStatus, Event.saved, RunStatus.recordPush, List.filter_cons,
        (config.itemOf_sound r hsound).1]
  | uncounted hch ht he =>
    refine Accounts.push hp ?_ ?_ fun hsound => ?_
    · simpa [List.countP_append, ht.countP (p := Event.isWrite) rfl, Event.isWrite] using hch.writeOnce
    · simp [List.foldl_append, hch.foldl_status, ht.foldl_status, hch.moved, ht,
        Event.setsStatus, Event.movedBytes, RunStatus.recordPushFailure]
    -- a sound item always takes one more failure
    · obtain ⟨j, n, hj, -, -⟩ := (config.itemOf_sound r hsound).refusal_ok config.retryLimit retry
      rw [he] at hj
      cases hj
  | @refused _ _ _ _ i _ _ hch ht₁ ht₂ hi hprobes =>
    obtain ⟨hsaves, hwrites, hbytes, hstatus⟩ := Log.probes_neutral hprobes
    refine Accounts.push hp ?_ ?_ fun hsound => ?_
    · simpa [List.countP_append, ht₁.countP (p := Event.isWrite) rfl, ht₂.countP (p := Event.isWrite) rfl, hwrites, Event.isWrite] using
        hch.writeOnce
    · simp [List.foldl_append, hch.foldl_status, ht₁.foldl_status, ht₂.foldl_status, hstatus,
        hch.moved, hbytes, ht₁, ht₂, Event.setsStatus, Event.movedBytes,
        RunStatus.recordPushFailure]
    · have hsound' := config.itemOf_sound r hsound
      obtain ⟨j, n, hj, hn, hcount⟩ := hsound'.refusal_ok config.retryLimit retry
      rw [hi] at hj
      rw [← Except.ok.inj hj] at hcount
      have hkey : i.key = config.keyOf r.ident := (Item.key_refusal hi).trans hsound'.1
      have hcleared : i.cleared = false := by
        rw [Item.cleared_of_whole hcount]
        simpa using Int.ne_of_gt hn
      simp [List.foldl_append, hch.foldl_status, ht₁.foldl_status, ht₂.foldl_status, hstatus,
        hch.saves, hsaves, ht₁, ht₂, Event.setsStatus, Event.saved, RunStatus.recordPushFailure,
        hcleared, hkey]

theorem aloof_before {t t' : Log} (ht : t.Quiet) (ht' : t'.Quiet) (seen : Bool) :
    ∀ e ∈ t ++ [.checkpoint seen] ++ t', e.aloof = true := by
  intro e he
  simp only [List.mem_append, List.mem_singleton] at he
  rcases he with (he | rfl) | he
  · rw [ht e he]; rfl
  · rfl
  · rw [ht' e he]; rfl

/-- A sweep keeps the books along every one of its paths. -/
theorem Sweep.accounts {retry : Bool} {rs : List Record} {done : List String} {seg : Log}
    {res : Except Failure (Option RunState × List String)}
    (h : Sweep config retry rs done st seg res) : Accounts config st seg := by
  induction h with
  | nil => exact Accounts.aloof (by simp)
  | canceled ht =>
    exact Accounts.aloof fun e he => aloof_before ht Log.quiet_nil true e (by simpa using he)
  | seen ht _ _ ih =>
    simpa using Accounts.aloof_append (aloof_before ht Log.quiet_nil false) ih
  | unread ht _ ht' => exact Accounts.aloof_append (aloof_before ht ht' false) Accounts.unread
  | stopped ht _ ht' hpush =>
    simpa using Accounts.aloof_append (aloof_before ht ht' false) hpush.accounts
  | pushed ht _ ht' hpush _ ih =>
    have := Accounts.aloof_append (aloof_before ht ht' false) (hpush.accounts.append ih)
    simpa [Replication.readsItem, Event.setsStatus] using this

end CatalogSync.Sync
