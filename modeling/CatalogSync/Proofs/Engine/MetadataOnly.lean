import CatalogSync.Proofs.Engine.Dispatch

/-!
# Replications of metadata only

A replication that copies metadata only never touches content: no run of it reads content from
a site, and none creates or updates content on one. The reason is in the table of
`Proofs/Engine/Dispatch`: such a replication copies no content of any record, so a creation
writes metadata alone, and an update finds no content changed, also on the way through an
update whose record the destination lost and which creates it again. The rest of a run makes no
content call at all.

The main statement, `push_writes_what_its_item_calls_for`, puts the two together: every push
follows the table and asks the destination whether it holds a record only for a replicated
record that is no tombstone, and every run of a replication of metadata only moves no content.
-/

namespace CatalogSync.Sync

variable {σ α : Type}

/-- Whether an event leaves all content where it is: it reads no content from a site and
creates or updates none on one. -/
def Event.movesNoContent : Event → Bool
  | .call (.site _ (.readResource ..)) | .call (.site _ (.createResource ..))
  | .call (.site _ (.updateResource ..)) => false
  | _ => true

theorem Event.movesNoContent_of_settlesPush {e : Event} (h : e.settlesPush = true) :
    e.movesNoContent = true := by
  rcases e with _ | _ | _ | _ | _ | ⟨_ | _, call⟩ | call
  all_goals first | rfl | (cases call <;> first | rfl | cases h)

theorem Log.Quiet.all_movesNoContent {t : Log} (ht : t.Quiet) :
    t.all Event.movesNoContent = true :=
  List.all_eq_true.mpr fun e he => by rw [ht e he]; rfl

/-! ## The table, when only metadata is copied -/

section Table

variable {config : Replication} (hmeta : config.metadataOnly = true)
include hmeta

theorem Creates.movesNoContent {r : Record} {ch : Log} (h : Creates config r ch) :
    ch.all Event.movesNoContent = true := by
  cases h with
  | metadata _ ht => simp [ht.all_movesNoContent, Event.movesNoContent]
  | unread hcopy | content hcopy => simp [Replication.copiesContent, hmeta] at hcopy

theorem Updates.movesNoContent {r : Record} {i : Item} {ch : Log} (h : Updates config r i ch) :
    ch.all Event.movesNoContent = true := by
  -- copying metadata only, no content counts as changed
  have hsame : config.contentChanged r i = .ok false := by
    simp [Replication.contentChanged, Replication.copiesContent, hmeta]
  cases h with
  | unasked ht => simp [ht.all_movesNoContent, Event.movesNoContent]
  | recreated ht hc =>
    simp [ht.all_movesNoContent, hc.movesNoContent hmeta, Event.movesNoContent]
  | metadata ht ht' =>
    simp [ht.all_movesNoContent, ht'.all_movesNoContent, Event.movesNoContent]
  | incomparable _ hcmp | unread _ _ hcmp | content _ _ _ hcmp =>
    rw [hsame] at hcmp
    cases hcmp

theorem Dispatch.movesNoContent {r : Record} {stored : Option Item} {ch : Log}
    (h : Dispatch config r stored ch) : ch.all Event.movesNoContent = true := by
  cases h with
  | skipped => rfl
  | created _ hc => exact hc.movesNoContent hmeta
  | deleted _ ht => simp [ht.all_movesNoContent, Event.movesNoContent]
  | updated _ hu => exact hu.movesNoContent hmeta

end Table

/-! ## Runs that move no content -/

section Runs

variable {c : Collaborators σ} {config : Replication}

theorem push_movesNoContent (hmeta : config.metadataOnly = true) (retry : Bool) (r : Record) :
    Adds Event.movesNoContent (push (observe c) config retry r) := by
  intro s
  rcases hx : exec (push (observe c) config retry r) s with ⟨res, s'⟩
  obtain ⟨t, ans, rest, ht, hlog, hrest⟩ := push_dispatch config retry r hx
  refine ⟨t ++ [config.readsItem r ans] ++ rest, by rw [hlog]; simp only [List.append_assoc], ?_⟩
  rw [← List.all_eq_true]
  have hpre : (t ++ [config.readsItem r ans]).all Event.movesNoContent = true := by
    simp [ht.all_movesNoContent, Replication.readsItem, Event.movesNoContent]
  rcases ans with e | stored
  · rw [hrest, List.append_nil, hpre]
  obtain ⟨-, ch, post, rfl, hd, hpost⟩ := hrest
  have hpost' : post.all Event.movesNoContent = true :=
    List.all_eq_true.mpr fun e he => Event.movesNoContent_of_settlesPush (hpost e he)
  rw [← List.append_assoc, List.all_append, List.all_append, hpre, hd.movesNoContent hmeta,
    hpost']
  rfl

theorem replicate_movesNoContent (hmeta : config.metadataOnly = true) (p : Option Predicate)
    (after : Option Stamp) (retry : Bool) (done : List String) :
    Adds Event.movesNoContent (replicate (observe c) config p after retry done) := by
  intro s
  rcases hx : exec (replicate (observe c) config p after retry done) s with ⟨res, s'⟩
  obtain ⟨t, ans, seg, ht, hlog, hseg⟩ := replicate_after_query rfl (fun _ => rfl) (fun _ => rfl)
    (push_movesNoContent hmeta retry) hx
  exact ⟨_, by rw [hlog]; simp only [List.append_assoc],
    Adds.quiet_then_all rfl ht (e := .call (.site .source (.query p after ans))) rfl hseg⟩

theorem changes_movesNoContent (hmeta : config.metadataOnly = true) (done : List String) :
    Adds Event.movesNoContent (changes (observe c) config done) := by
  unfold changes watermark
  refine ((Adds.call rfl fun _ => rfl).bind fun _ => .ofExcept _).bind fun mark => ?_
  refine (Adds.ofExcept _).bind fun base => ?_
  exact (replicate_movesNoContent hmeta _ mark false done).bind fun _ => .pure _

theorem passes_movesNoContent (hmeta : config.metadataOnly = true) :
    Adds Event.movesNoContent (passes (observe c) config) := by
  unfold passes
  refine (Adds.isCanceled rfl fun _ => rfl).bind fun _ => ?_
  split
  · exact .pure _
  refine (Adds.call rfl fun _ => rfl).bind fun failed => ?_
  refine (Adds.isCanceled rfl fun _ => rfl).bind fun _ => ?_
  split
  · exact .pure _
  split
  case isFalse => exact changes_movesNoContent hmeta []
  -- the retry pass, then the change pass unless the retry pass or a request stopped the run
  refine (Adds.ofExcept _).bind fun p => ?_
  refine (replicate_movesNoContent hmeta p none true []).bind fun _ => ?_
  split
  split
  · exact .pure _
  refine (Adds.isCanceled rfl fun _ => rfl).bind fun _ => ?_
  split
  · exact .pure _
  · exact changes_movesNoContent hmeta _

theorem sync_movesNoContent (hmeta : config.metadataOnly = true) :
    Adds Event.movesNoContent (sync (observe c) config) := by
  unfold sync
  refine (startRun_adds rfl (fun _ => rfl) (fun _ => rfl)).bind fun _ => ?_
  refine ((passes_movesNoContent hmeta).tryCatch
    (failRun_adds rfl (fun _ => rfl) (fun _ => rfl) rfl)).bind fun _ => ?_
  exact (Adds.clearCanceled rfl rfl).bind fun _ =>
    finishRun_adds rfl (fun _ => rfl) (fun _ => rfl) (fun _ _ => rfl) _

end Runs

/-! ## What a push writes -/

/-- What a push writes. Every push reads the item of its record and then changes the
destination as one row of `Dispatch` says, with nothing but counts, saves and probes after the
change; a tombstone never replicated ends the push right after the read, with nothing counted
or saved. Only a replicated record that is no tombstone makes the push ask the destination
whether it holds the record. And a run of a replication of metadata only reads, creates and
updates no content. -/
theorem push_writes_what_its_item_calls_for (c : Collaborators σ) (config : Replication) :
    (∀ (retry : Bool) (r : Record) (s : Scene σ), ∃ t ans rest, t.Quiet ∧
      (exec (push (observe c) config retry r) s).2.log =
        s.log ++ t ++ [config.readsItem r ans] ++ rest ∧
      match ans with
      | .error _ => rest = []
      | .ok stored => (stored = none → r.deleted = true → rest = []) ∧
          (∃ ch post, rest = ch ++ post ∧ Dispatch config r stored ch ∧
            ∀ e ∈ post, e.settlesPush = true) ∧
          ∀ e ∈ rest, e.asksHolds = true → stored.isSome = true ∧ r.deleted = false) ∧
    (config.metadataOnly = true → ∀ s : Scene σ, ∃ run,
      (exec (sync (observe c) config) s).2.log = s.log ++ run ∧
        ∀ e ∈ run, e.movesNoContent = true) := by
  refine ⟨fun retry r s => ?_, fun hmeta => sync_movesNoContent hmeta⟩
  rcases hx : exec (push (observe c) config retry r) s with ⟨res, s'⟩
  obtain ⟨t, ans, rest, ht, hlog, hrest⟩ := push_dispatch config retry r hx
  refine ⟨t, ans, rest, ht, hlog, ?_⟩
  rcases ans with e | stored
  · exact hrest
  obtain ⟨hskip, ch, post, rfl, hd, hpost⟩ := hrest
  refine ⟨fun hnone hdel => (hskip hnone hdel).1, ⟨ch, post, rfl, hd, hpost⟩,
    fun e he hask => hd.asks_of_updated ?_⟩
  -- only the change asks: nothing after it does
  rcases List.mem_append.mp he with he | he
  · exact List.any_eq_true.mpr ⟨e, he, hask⟩
  · rw [Event.asksHolds_of_settlesPush (hpost e he)] at hask
    cases hask

/-- The sample replication, copying metadata only. -/
def metadataOnlySample : Replication := { Replication.sample with metadataOnly := true }

/-- Sites where a record with content was replicated before and is still held: the source lists
`a`, with content, the item store holds an item for it, and the destination holds it. -/
def Collaborators.holdingContent : Collaborators Unit :=
  { Collaborators.idle with
    source := { Endpoint.idle with
      query := fun _ _ => pure
        { records := [{ id := .str "a", modified := none, resourceUri := some "a.bin" }],
          context := "" } }
    destination := { Endpoint.idle with holds := fun _ => pure true }
    ledger := { Ledger.idle with
      getItem := fun config id source destination =>
        pure (some { configId := config, metadataId := id, source, destination }) } }

/-- Copying metadata only, the update of a record with content reads and writes no content. -/
theorem metadata_only_update_moves_no_content :
    metadataOnlySample.metadataOnly = true ∧ ∃ run,
      (exec (sync (observe .holdingContent) metadataOnlySample) Scene.empty).2.log =
        Scene.empty.log ++ run ∧ ∀ e ∈ run, e.movesNoContent = true :=
  ⟨rfl, (push_writes_what_its_item_calls_for .holdingContent metadataOnlySample).2 rfl
    Scene.empty⟩

/-- Copying content, the same sites see the content of `a` read and updated. -/
example : ((exec (sync (observe .holdingContent) .sample) Scene.empty).2.log.all
    Event.movesNoContent) = false := by
  decide +kernel

end CatalogSync.Sync
