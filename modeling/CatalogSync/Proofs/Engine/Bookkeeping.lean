import CatalogSync.Proofs.Engine.PassLog
import CatalogSync.Proofs.Engine.Outcome

/-!
# The books of a run

A run starts its status with no push counted, runs its passes and closes: it finishes or fails
the status, which keeps what was counted, and adds an outcome to the history. Neither the start
nor the close pushes, writes, saves or lists anything (`sync_frame`). With the books the passes
keep (`passes_booked`), the books of a whole run agree (`pushes_keep_their_books`): the ids it
pushes are the first ids its two listings give, each once; every write to the destination
belongs to one push, and no push writes twice; the bytes counted are the bytes the destination
took; and, as long as the item store hands back what it was given, the pushes and refusals
counted are the saves, each under the key of its own push.

An item store that hands back other items breaks the last of these: a count of minus one makes
a refused push save an item with no failure, and a count that is no whole number makes a refused
push raise before it saves (`miscounted_items_break_the_books`).
-/

namespace CatalogSync

/-- The counters of a status: pushes, refusals and bytes. -/
def RunStatus.counters (st : RunStatus) : Int × Int × Int :=
  (st.pushCount, st.pushFailCount, st.pushBytes)

theorem Replication.keyOf_injective (config : Replication) {a b : String}
    (h : config.keyOf a = config.keyOf b) : a = b :=
  (Prod.mk.inj (Prod.mk.inj h).2).1

end CatalogSync

namespace CatalogSync.Sync

open scoped List

/-! ## Events off the books -/

/-- Whether an event begins no push, writes nothing, saves nothing and lists nothing. -/
def Event.offBooks (e : Event) : Bool :=
  e.pushedId.isNone && !e.isWrite && e.saved.isNone && e.listing.isNone

/-- A stretch of log whose events are all off the books. -/
def Log.OffBooks (l : Log) : Prop := ∀ e ∈ l, e.offBooks = true

namespace Log.OffBooks

variable {l l₁ l₂ : Log}

theorem append (h₁ : l₁.OffBooks) (h₂ : l₂.OffBooks) : (l₁ ++ l₂).OffBooks := fun e he =>
  (List.mem_append.mp he).elim (h₁ e) (h₂ e)

theorem of_quiet {t : Log} (ht : t.Quiet) : t.OffBooks := fun e he => by rw [ht e he]; rfl

theorem single {e : Event} (h : e.offBooks = true) : Log.OffBooks [e] := by
  simpa [Log.OffBooks] using h

theorem facts (h : l.OffBooks) {e : Event} (he : e ∈ l) :
    e.pushedId = none ∧ e.isWrite = false ∧ e.saved = none ∧ e.listing = none := by
  simpa [Event.offBooks, and_assoc] using h e he

theorem pushedIds (h : l.OffBooks) : l.pushedIds = [] :=
  List.filterMap_eq_nil_iff.mpr fun _ he => (h.facts he).1

theorem saves (h : l.OffBooks) : l.saves = [] :=
  List.filterMap_eq_nil_iff.mpr fun _ he => (h.facts he).2.2.1

theorem listedIds (h : l.OffBooks) : l.listedIds = [] := by
  have hl : l.listings = [] := List.filterMap_eq_nil_iff.mpr fun _ he => (h.facts he).2.2.2
  simp [Log.listedIds, hl]

theorem movedBytes (h : l.OffBooks) : l.movedBytes = 0 :=
  (Log.unwritten fun _ he => (h.facts he).2.1).2

theorem writers (h : l.OffBooks) (cur : Option String) : l.writers cur = [] :=
  Log.writers_unwritten fun _ he => ⟨(h.facts he).1, (h.facts he).2.1⟩

theorem around {pre seg post : Log} (hpre : pre.OffBooks) (hpost : post.OffBooks)
    (hled : ∀ cur, seg.writers cur = seg.writers none) :
    (pre ++ seg ++ post).pushedIds = seg.pushedIds ∧
      (pre ++ seg ++ post).listedIds = seg.listedIds ∧
      (pre ++ seg ++ post).saves = seg.saves ∧
      (pre ++ seg ++ post).movedBytes = seg.movedBytes ∧
      (pre ++ seg ++ post).writers none = seg.writers none := by
  refine ⟨by simp [hpre.pushedIds, hpost.pushedIds], by simp [hpre.listedIds, hpost.listedIds],
    by simp [hpre.saves, hpost.saves], by simp [hpre.movedBytes, hpost.movedBytes], ?_⟩
  have hpost' : ∀ x, post.writers x = post.writers none := fun x => by
    rw [hpost.writers, hpost.writers]
  rw [Log.writers_append hpost', Log.writers_append hled, hpre.writers, hpost.writers]
  simp

end Log.OffBooks

/-! ## Around the passes -/

section Frame

variable {σ : Type} {c : Collaborators σ} {config : Replication} {s s' : Scene σ}

/-- Every run of `sync` starts its status with nothing counted, runs its passes and closes with
the counters the passes left; neither the start nor the close is on the books. -/
theorem sync_frame {r : Except Failure RunStatus} (h : exec (sync (observe c) config) s = (r, s')) :
    ∃ s₁ r₂ s₂ pre post, exec (passes (observe c) config) s₁ = (r₂, s₂) ∧
      s₁.log = s.log ++ pre ∧ s'.log = s₂.log ++ post ∧ pre.OffBooks ∧ post.OffBooks ∧
      s₁.log.status.counters = (0, 0, 0) ∧ s'.log.status.counters = s₂.log.status.counters := by
  obtain ⟨s₁, r₂, s₂, hstart, hpass, hclose⟩ := sync_inv h
  obtain ⟨-, t₁, tm, t₂, ht₁, ht₂, hlog₁⟩ := startRun_inv hstart
  obtain ⟨seg, b, hspan, hsettle⟩ := passes_settles (c := c) config s₁
  rw [hpass] at hspan hsettle
  have hcounts := passes_counts hlog₁ hspan
  -- the start: a clock reading and the status started at it, with nothing counted
  obtain ⟨pre, hpre_log, hpre⟩ : ∃ pre, s₁.log = s.log ++ pre ∧ pre.OffBooks :=
    ⟨_, by rw [hlog₁]; simp only [List.append_assoc]; rfl,
      (((Log.OffBooks.of_quiet ht₁).append (.single (e := .clock tm) rfl)).append
        (.of_quiet ht₂)).append (.single (e := .status _) rfl)⟩
  have hzero : s₁.log.status.counters = (0, 0, 0) := by
    rw [hlog₁, Log.status_append]
    rfl
  refine ⟨s₁, r₂, s₂, pre, ?_⟩
  rcases r₂ with f | stopped
  -- the passes failed: the status may be marked failed, which keeps its counters
  · obtain ⟨e, -, hfail⟩ := hclose
    obtain ⟨-, mid, t, ht, hlog, hmid⟩ := failRun_inv hcounts.state hfail
    have hmid' : Log.OffBooks mid ∧ (s₂.log ++ mid).status.counters = s₂.log.status.counters := by
      split at hmid
      · obtain ⟨t₁', tm', t₂', failed, ht₁', ht₂', hfailed, rfl⟩ := hmid
        rw [RunStatus.fail_running _ _ hcounts.state] at hfailed
        refine ⟨(((Log.OffBooks.of_quiet ht₁').append (.single rfl)).append
          (.of_quiet ht₂')).append (.single rfl), ?_⟩
        rw [← List.append_assoc, Log.status_append, ← Except.ok.inj hfailed]
        rfl
      · subst hmid
        exact ⟨by simp [Log.OffBooks], by simp⟩
    refine ⟨mid ++ t ++ [.clear], hpass, hpre_log, by rw [hlog]; simp, hpre,
      (hmid'.1.append (.of_quiet ht)).append (.single rfl), hzero, ?_⟩
    rw [hlog, Log.status_append, ht.status]
    exact hmid'.2
  -- the passes returned: the status is finished, with its counters
  · obtain ⟨t, s₃, ht, hlog₃, hfin⟩ := hclose
    have hstatus₃ : s₃.log.status = s₂.log.status := by
      rw [hlog₃, Log.status_append, ht.status]
      rfl
    rw [← hstatus₃] at hcounts
    obtain ⟨hstop, -⟩ : stopped = b.ended.or seg.brokenTail ∧ _ := id hsettle
    rw [← Stage.run_findSome rfl hspan.stage] at hstop
    obtain ⟨t₁', tm', t₂', st, t₃', o, ans, ht₁', ht₂', ht₃', hst, -, hlog', -⟩ :=
      finishRun_inv hcounts.state (fun k hk => Log.verdict_kind (hstop ▸ hk)) hfin
    have hstatus : s'.log.status = st := by
      rw [hlog', Log.status_append, ht₃'.status, Log.status_append]
      rfl
    refine ⟨t ++ [.clear] ++ t₁' ++ [.clock tm'] ++ t₂' ++ [.status st] ++ t₃' ++
      [.call (.store (.addOutcome o ans))], hpass, hpre_log, by rw [hlog', hlog₃]; simp, hpre, ?_,
      hzero, ?_⟩
    · exact ((((((((Log.OffBooks.of_quiet ht).append (.single rfl)).append
        (.of_quiet ht₁')).append (.single rfl)).append (.of_quiet ht₂')).append
        (.single rfl)).append (.of_quiet ht₃')).append (.single rfl))
    · rw [hstatus, hst, ← hstatus₃]
      rfl

end Frame

/-! ## The books of a run -/

/-- Every run keeps the books of its pushes, whatever the sites and the item store answer and
wherever requests to stop arrive. Its log `run` pushes the first ids of its listings, in the
order listed and each once, so the ids of the retry listing before those the change listing
adds. Every write to the destination belongs to a push, and no push writes twice. The bytes the
status counts are the bytes of content the destination took. When every item the store handed
back was sound, the pushes counted are the saves of items with no failure, the pushes and
refusals counted together are all the saves, and the saves are filed, in the order of the
pushes, under the keys of the records pushed, no key twice. -/
theorem pushes_keep_their_books {σ : Type} (c : Collaborators σ) (config : Replication)
    (s : Scene σ) :
    let s' := (exec (sync (observe c) config) s).2
    ∃ run, s'.log = s.log ++ run ∧
      run.pushedIds <+: run.listedIds.eraseDups ∧ run.pushedIds.Nodup ∧
      run.writers none <+ run.pushedIds.map some ∧
      s'.log.status.pushBytes = run.movedBytes ∧
      (run.SoundReads →
        s'.log.status.pushCount = (run.saves.filter Item.cleared).length ∧
        s'.log.status.pushCount + s'.log.status.pushFailCount = run.saves.length ∧
        run.saves.map Item.key <+ run.pushedIds.map config.keyOf ∧
        (run.saves.map Item.key).Nodup) := by
  intro s'
  obtain ⟨s₁, r₂, s₂, pre, post, hpass, hpre_log, hpost_log, hpre, hpost, hzero, hsame⟩ :=
    sync_frame (show exec (sync (observe c) config) s = ((exec (sync (observe c) config) s).1, s')
      from rfl)
  obtain ⟨seg, hseg, hacc, hdedup⟩ := passes_booked config hpass
  obtain ⟨hpushed, hlisted, hsaves, hbytes, hwriters⟩ := Log.OffBooks.around hpre hpost hacc.led
  -- the counters are those the passes reached from none
  have hcounters : s'.log.status.counters =
      (seg.foldl Event.setsStatus s₁.log.status).counters := by
    rw [hsame, hseg, Log.status_foldl]
  simp only [RunStatus.counters, Prod.mk.injEq] at hcounters hzero
  have hprefix : seg.pushedIds <+: seg.listedIds.eraseDups := by
    simpa [Log.Dedup] using hdedup
  have hnodup : seg.pushedIds.Nodup := hprefix.sublist.nodup (nodup_eraseDups _)
  refine ⟨pre ++ seg ++ post, by rw [hpost_log, hseg, hpre_log]; simp, ?_, ?_, ?_, ?_, ?_⟩
  · rwa [hpushed, hlisted]
  · rwa [hpushed]
  · rw [hwriters, hpushed]
    exact hacc.owned
  · rw [hbytes, hcounters.2.2, hacc.bytes, hzero.2.2, Int.zero_add]
  -- with sound reads, the counters are the saves
  intro hsound
  obtain ⟨hcount, hfail, hkeys⟩ := hacc.books (hsound.append.1.append.2)
  rw [hsaves, hpushed]
  refine ⟨by rw [hcounters.1, hcount, hzero.1, Int.zero_add], ?_, hkeys, ?_⟩
  · rw [hcounters.1, hcounters.2.1, hcount, hfail, hzero.1, hzero.2.1,
      List.length_eq_countP_add_countP Item.cleared (l := seg.saves)]
    simp [List.countP_eq_length_filter]
  · exact hkeys.nodup
      (List.Pairwise.map config.keyOf (fun _ _ hab hk => hab (config.keyOf_injective hk)) hnodup)

/-- A record with an id and no time. -/
def bareRecord (id : String) : Record := { id := .str id, modified := none }

/-- The idle collaborators, with a source that lists `a`, `a` again and `b`. -/
def Collaborators.repeating : Collaborators Unit :=
  { Collaborators.idle with
    source := { Endpoint.idle with
      query := fun _ _ => pure
        { records := [bareRecord "a", bareRecord "a", bareRecord "b"], context := "" } } }

/-- A listing that names `a` twice: the run reads only sound items, pushes `a` and `b` once each,
and counts its two pushes as its saves of items with no failure. -/
theorem repeated_listing_keeps_its_books :
    (exec (sync (observe .repeating) .sample) Scene.empty).2.log.SoundReads ∧
      (exec (sync (observe .repeating) .sample) Scene.empty).2.log.status.pushCount = 2 ∧
      (exec (sync (observe .repeating) .sample) Scene.empty).2.log.status.pushCount =
        ((exec (sync (observe .repeating) .sample) Scene.empty).2.log.saves.filter
          Item.cleared).length := by
  obtain ⟨run, hrun, -, -, -, -, hbooks⟩ :=
    pushes_keep_their_books .repeating .sample Scene.empty
  have hlog : (exec (sync (observe .repeating) .sample) Scene.empty).2.log = run := by
    rw [hrun]
    rfl
  have hsound : run.SoundReads := by
    rw [← hlog]
    decide +kernel
  have hcount := (hbooks hsound).1
  rw [← hlog] at hsound hcount
  exact ⟨hsound, by decide +kernel, hcount⟩

/-- An item store that hands back, under the key asked for, an item counting minus one failure
for `a` and a text for any other record. -/
def Ledger.miscounting : Ledger (Op Unit) :=
  { Ledger.idle with
    getItem := fun config id source destination => pure (some
      { configId := config, metadataId := id, source, destination,
        failureCount := if id = "a" then .whole (-1) else .text "x" }) }

/-- A source that lists `a` and `b`, a destination that refuses to create records, and the
miscounting item store. -/
def Collaborators.miscounting : Collaborators Unit :=
  { Collaborators.idle with
    source := { Endpoint.idle with
      query := fun _ _ => pure { records := [bareRecord "a", bareRecord "b"], context := "" } }
    destination := { Endpoint.idle with createMetadata := fun _ => pure false }
    ledger := .miscounting }

/-- An item store whose counts are not whole, non-negative numbers breaks the books. Both pushes
are refused and counted so; the refusal of `a`, counted minus one, saves an item with no failure,
and the refusal of `b`, counted by a text, raises before it saves. The run counts no push and two
refusals against one save, of an item with no failure. -/
theorem miscounted_items_break_the_books :
    let s' := (exec (sync (observe .miscounting) .sample) Scene.empty).2
    s'.log.status.pushCount = 0 ∧ s'.log.status.pushFailCount = 2 ∧
      s'.log.saves.length = 1 ∧ (s'.log.saves.filter Item.cleared).length = 1 := by
  decide +kernel

end CatalogSync.Sync
