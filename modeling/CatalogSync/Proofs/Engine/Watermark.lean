import CatalogSync.Proofs.Engine.Outcome

/-!
# The watermark and the change query

The change pass of a run asks the source for the records modified after the watermark: the
end of the latest run in the history that completed its pass. The run's own end, read from
the clock when it finishes, becomes the watermark of the next run.

Every run that completes its pass reads the history, asks the source once with the watermark
it found, and only then reads the clock for its end (`change_listing_precedes_end_time`); no
listing follows that query. A record written after the source answered, and stamped by the
same clock before the run ended, is listed by neither this run nor any later one, whose
change queries ask only for what came after this run's end. `late_write_is_never_listed`
runs two such runs against a catalog written to once, right after the first query.

Passes that did not stop are opened once (`passes_unstopped_inv`): two looks at the request to
stop around the failure list, then the change pass alone, when the list was empty, or the retry
pass over the records it names, another look, and the change pass.
-/

namespace CatalogSync.Sync

/-! ## Looks at the request to stop -/

/-- A stretch of log that only looks at the request to stop: requests seen arriving, and
checkpoints. -/
def Log.Checks (l : Log) : Prop := ∀ e ∈ l, e = .cancel ∨ ∃ b, e = .checkpoint b

namespace Log.Checks

variable {l l₁ l₂ : Log}

theorem of_quiet (ht : l.Quiet) : l.Checks := fun e he => .inl (ht e he)

theorem checkpoint (b : Bool) : Log.Checks [.checkpoint b] := by
  simp [Log.Checks]

theorem append (h₁ : l₁.Checks) (h₂ : l₂.Checks) : (l₁ ++ l₂).Checks := fun e he =>
  (List.mem_append.mp he).elim (h₁ e) (h₂ e)

end Log.Checks

/-! ## The steps of a pass that did not stop -/

section Listed

variable {σ : Type} {c : Collaborators σ} {config : Replication} {s s' : Scene σ}

theorem ask_answered_inv {p : Option Predicate} {after : Option Stamp} {l : Listing}
    (h : exec (ask (observe c) p after) s = (.ok (.ok l), s')) :
    ∃ t, Log.Quiet t ∧ s'.log = s.log ++ t ++ [.call (.site .source (.query p after (.ok l)))] ∧
      ∃ w w', (c.source.query p after).run.run w = (.ok l, w') := by
  unfold ask at h
  rcases tryCatch_inv h with ⟨v, hq, hv⟩ | ⟨f, s₁, -, hf⟩
  · cases hv
    obtain ⟨l', s₁, hcall, hpure⟩ := bind_answered_inv hq
    rw [exec_pure] at hpure
    obtain ⟨hl, rfl⟩ := Prod.mk.inj hpure
    cases hl
    obtain ⟨t, ht, hlog⟩ := call_inv hcall
    exact ⟨t, ht, hlog, _, _, call_world hcall⟩
  -- the handler answers the state a failed query ends the run in, or raises
  · split at hf
    · cases hf
    split at hf
    · obtain ⟨_, _, -, hpure⟩ := bind_answered_inv hf
      cases hpure
    · cases hf

theorem ask_listed_inv {p : Option Predicate} {after : Option Stamp} {l : Listing}
    (h : exec (ask (observe c) p after) s = (.ok (.ok l), s')) :
    ∃ t, Log.Quiet t ∧ s'.log = s.log ++ t ++ [.call (.site .source (.query p after (.ok l)))] := by
  obtain ⟨t, ht, hlog, -⟩ := ask_answered_inv h
  exact ⟨t, ht, hlog⟩

theorem replicate_listed_inv {p : Option Predicate} {after : Option Stamp} {retry : Bool}
    {done done' : List String}
    (h : exec (replicate (observe c) config p after retry done) s = (.ok (none, done'), s')) :
    ∃ t l, ∃ rest : Log, Log.Quiet t ∧ rest.listings = [] ∧
      s'.log = s.log ++ t ++ .call (.site .source (.query p after (.ok l))) :: rest := by
  unfold replicate at h
  obtain ⟨v, s₁, hask, h⟩ := bind_answered_inv h
  rcases v with st | l
  · cases h
  obtain ⟨t, ht, hlog₁⟩ := ask_listed_inv hask
  obtain ⟨⟨stopped, d⟩, s₂, hpush, h⟩ := bind_answered_inv h
  obtain ⟨seg, -, hlog₂, -, -, hseg⟩ :=
    (pushAll_moves (c := c) config retry l.records done (a := .idle) rfl).exec_log hpush
  dsimp only at h
  split at h
  · rename_i hs
    obtain ⟨hstop, -⟩ := Prod.mk.inj h
    cases hstop
    cases hs
  split at h
  · obtain ⟨-, rfl⟩ := Prod.mk.inj h
    refine ⟨t, l, seg, ht, hseg, ?_⟩
    rw [hlog₂, hlog₁]
    simp only [List.append_assoc, List.singleton_append]
  -- a listing that broke off ends the run in the state its failure gives
  · obtain ⟨_, _, -, h⟩ := bind_answered_inv h
    obtain ⟨_, _, -, hpure⟩ := bind_answered_inv h
    cases hpure

/-- A change pass that did not stop read the history, computed the watermark from it and asked
the source for the records of the base condition modified after it, with nothing in between;
nothing it did after listed anything. -/
theorem changes_listed_inv {done : List String}
    (h : exec (changes (observe c) config done) s = (.ok none, s')) :
    ∃ t₁ os t₂ mark base l, ∃ rest : Log, Log.Quiet t₁ ∧ Log.Quiet t₂ ∧ rest.listings = [] ∧
      Stamp.latest ((os.filter (·.state.countsForWatermark)).map (·.endTime)) = .ok mark ∧
      config.baseCondition = .ok base ∧
      s'.log = s.log ++ t₁ ++ .call (.store (.outcomes config.name (.ok os))) :: t₂ ++
        .call (.site .source (.query (Predicate.changeSet base mark) mark (.ok l))) :: rest := by
  unfold changes watermark at h
  obtain ⟨mark, s₁, hmark, h₁⟩ := bind_answered_inv h
  obtain ⟨os, s₀, hos, hread⟩ := bind_answered_inv hmark
  obtain ⟨hlatest, rfl⟩ := ofExcept_inv hread
  obtain ⟨t₁, ht₁, hlog₁⟩ := call_inv hos
  obtain ⟨base, s₂, hcond, h₂⟩ := bind_answered_inv h₁
  obtain ⟨hbase, rfl⟩ := ofExcept_inv hcond
  obtain ⟨⟨stopped, d⟩, s₃, hrep, h₃⟩ := bind_answered_inv h₂
  rw [exec_pure] at h₃
  obtain ⟨hstop, rfl⟩ := Prod.mk.inj h₃
  cases hstop
  obtain ⟨t₂, l, rest, ht₂, hrest, hlog₂⟩ := replicate_listed_inv hrep
  refine ⟨t₁, os, t₂, mark, base, l, rest, ht₁, ht₂, hrest, hlatest, hbase, ?_⟩
  rw [hlog₂, hlog₁]
  simp only [Function.comp_apply, List.append_assoc, List.cons_append, List.nil_append]

/-- Passes that returned without stopping looked at the request to stop around the failure
list; then, when the list was empty, the change pass ran alone, and otherwise the retry pass ran
over the ids it names, with the predicate the base condition and the list give, without
stopping, the passes looked again, and the change pass ran,
skipping the ids the retry pass processed. -/
theorem passes_unstopped_inv (h : exec (passes (observe c) config) s = (.ok none, s')) :
    ∃ (failed : List String) (pre post : Log) (s₃ : Scene σ), pre.Checks ∧ post.Checks ∧
      s₃.log = s.log ++ (pre ++ .call (.store (.failureList config.id config.retryLimit
        config.source.display config.destination.display (.ok failed))) :: post) ∧
      (failed = [] ∧ exec (changes (observe c) config []) s₃ = (.ok none, s') ∨
        ∃ (pred : Option Predicate) (retried : List String) (s₅ : Scene σ) (mid : Log)
          (s₆ : Scene σ),
          (config.baseCondition >>= fun base => Predicate.failedItems base failed) = .ok pred ∧
          exec (replicate (observe c) config pred none true []) s₃ =
            (.ok (none, retried), s₅) ∧
          mid.Checks ∧ s₆.log = s₅.log ++ mid ∧
          exec (changes (observe c) config retried) s₆ = (.ok none, s')) := by
  unfold passes at h
  obtain ⟨seen₁, s₁, hseen₁, h⟩ := bind_answered_inv h
  obtain ⟨t₁, ht₁, -, hlog₁⟩ := isCanceled_inv hseen₁
  generalize (s.log ++ t₁).canceled = b₁ at hlog₁
  split at h
  · cases h
  obtain ⟨failed, s₂, hfailed, h⟩ := bind_answered_inv h
  obtain ⟨t₂, ht₂, hlog₂⟩ := call_inv hfailed
  obtain ⟨seen₃, s₃, hseen₃, h⟩ := bind_answered_inv h
  obtain ⟨t₃, ht₃, -, hlog₃⟩ := isCanceled_inv hseen₃
  generalize (s₂.log ++ t₃).canceled = b₃ at hlog₃
  split at h
  · cases h
  refine ⟨failed, t₁ ++ [.checkpoint b₁] ++ t₂, t₃ ++ [.checkpoint b₃], s₃,
    ((Log.Checks.of_quiet ht₁).append (.checkpoint b₁)).append (.of_quiet ht₂),
    (Log.Checks.of_quiet ht₃).append (.checkpoint b₃), ?_, ?_⟩
  · rw [hlog₃, hlog₂, hlog₁]
    simp
  dsimp only at h
  split at h
  case isFalse hempty => exact .inl ⟨by simpa using hempty, h⟩
  -- the retry pass, over the records the failure list names
  obtain ⟨pred, s₄, hpred, hretry⟩ := bind_answered_inv h
  obtain ⟨hpred', rfl⟩ := ofExcept_inv hpred
  obtain ⟨⟨stopped, retried⟩, s₅, hrep, h⟩ := bind_answered_inv hretry
  dsimp only at h
  split at h
  · rename_i hs
    obtain ⟨hstop, -⟩ := Prod.mk.inj h
    cases hstop
    cases hs
  rename_i hs
  obtain rfl : stopped = none := by simpa using hs
  obtain ⟨seen₆, s₆, hseen₆, h⟩ := bind_answered_inv h
  obtain ⟨t₆, ht₆, -, hlog₆⟩ := isCanceled_inv hseen₆
  generalize (s₅.log ++ t₆).canceled = b₆ at hlog₆
  split at h
  · cases h
  exact .inr ⟨pred, retried, s₅, t₆ ++ [.checkpoint b₆], s₆, hpred', hrep,
    (Log.Checks.of_quiet ht₆).append (.checkpoint b₆), by rw [hlog₆, List.append_assoc], h⟩

theorem passes_listed_inv (h : exec (passes (observe c) config) s = (.ok none, s')) :
    ∃ done s₁, s.log <+: s₁.log ∧ exec (changes (observe c) config done) s₁ = (.ok none, s') := by
  obtain ⟨failed, pre, post, s₃, -, -, hlog₃, hrest⟩ := passes_unstopped_inv h
  rcases hrest with ⟨-, hc⟩ | ⟨pred, retried, s₅, mid, s₆, -, hrep, -, hlog₆, hc⟩
  · exact ⟨[], s₃, by rw [hlog₃]; exact List.prefix_append _ _, hc⟩
  -- the retry pass only adds to the log
  obtain ⟨seg, -, hlog₅, -⟩ :=
    (replicate_settles (c := c) (a := .admitted) (by decide) rfl config pred none true []).exec_log
      hrep
  refine ⟨retried, s₆, ?_, hc⟩
  rw [hlog₆, hlog₅, hlog₃]
  simp only [List.append_assoc]
  exact List.prefix_append _ _

end Listed

/-! ## The end of a run comes after its change listing -/

/-- A run that ends in a state counting for the watermark read the history and, with only
requests to stop in between, asked the source for the records of the base condition modified
after the watermark it found there. After that query answered, the run read no listing; it
read its end from the clock, and the history took its outcome, ending then. -/
theorem change_listing_precedes_end_time {σ : Type} (c : Collaborators σ) (config : Replication)
    {s s' : Scene σ} {st : RunStatus} (h : exec (sync (observe c) config) s = (.ok st, s'))
    (hmark : st.state.countsForWatermark = true) :
    ∃ before os t mark base l, ∃ rest : Log, ∃ tm, Log.Quiet t ∧
      s'.log = s.log ++ before ++ .call (.store (.outcomes config.name (.ok os))) :: t ++
        .call (.site .source (.query (Predicate.changeSet base mark) mark (.ok l))) :: rest ∧
      Stamp.latest ((os.filter (·.state.countsForWatermark)).map (·.endTime)) = .ok mark ∧
      config.baseCondition = .ok base ∧
      rest.listings = [] ∧ Event.clock tm ∈ rest ∧ st.endTime = some tm ∧
      ∃ o, RunOutcome.ofStatus (.str config.id) config.name st = .ok o ∧ o.endTime = tm ∧
        Event.call (.store (.addOutcome o (.ok ()))) ∈ rest := by
  obtain ⟨s₁, s₂, stopped, seg, b, hpass, -, hstop, ⟨u₁, tm₀, u₂, -, -, hlog₁, -⟩, t, t₁, tm, t₂,
    t₃, o, ht, ht₁, ht₂, ht₃, hst, hof, hlog⟩ := sync_ok_inv h
  -- a run stopped early ends canceled or with a lost connection, which do not count
  obtain rfl : stopped = none := by
    rcases hk : stopped with _ | k
    · rfl
    have hstate : st.state = k := by rw [hst, hk]; rfl
    rcases Log.verdict_kind (hstop ▸ hk) with rfl | rfl <;>
      simp [hstate, RunState.countsForWatermark] at hmark
  obtain ⟨done, s₃, ⟨pre, hpre⟩, hchanges⟩ := passes_listed_inv hpass
  obtain ⟨t₄, os, t₅, mark, base, l, rest, -, ht₅, hrest, hlatest, hbase, hlog₃⟩ :=
    changes_listed_inv hchanges
  have hend : st.endTime = some tm := by rw [hst]
  obtain ⟨-, -, -, -, -, hoend⟩ := RunOutcome.ofStatus_fields hof
  have hbefore : s.log <+: s₃.log := by
    rw [← hpre, hlog₁]
    simp only [List.append_assoc]
    exact List.prefix_append _ _
  obtain ⟨before, hbefore⟩ := hbefore
  refine ⟨before ++ t₄, os, t₅, mark, base, l, rest ++ (t ++ [.clear] ++ t₁ ++ [.clock tm] ++ t₂ ++
      [.status st] ++ t₃ ++ [.call (.store (.addOutcome o (.ok ())))]), tm, ht₅, ?_, hlatest,
      hbase, ?_, by simp, hend, o, hof, Option.some.inj (hoend.symm.trans hend), by simp⟩
  · rw [hlog, hlog₃, ← hbefore]
    simp only [List.append_assoc, List.cons_append]
  -- the steps that close the run read no listing
  · simp only [Log.listings_append, hrest, ht.listings, ht₁.listings, ht₂.listings,
      ht₃.listings, Log.listings_cons, Log.listings_nil, Event.listing, Option.toList_none,
      List.append_nil]

/-! ## A write the watermark skips -/

/-- A source catalog that another writer adds to, and the history of the runs. -/
structure Shelf where
  records : List Record
  history : List RunOutcome
  written : Bool

/-- Whether an event is a query of the source. -/
def Event.isQuery : Event → Bool
  | .call (.site .source (.query ..)) => true
  | _ => false

/-- Whether a record was modified after a time; every record is when no time is given. -/
def Record.newerThan (after : Option Stamp) (r : Record) : Bool :=
  match after, r.modified with
  | none, _ => true
  | some a, some m => (m.after a).toOption == some true
  | some _, none => false

/-- The one time the clock of a shelf shows. -/
def noon : Stamp := { wall := 0, offset := some 0 }

/-- A site that answers each query from the records it holds at the time: those modified after
the time asked for. It takes every change and keeps none. -/
def Endpoint.shelf : Endpoint (Op Shelf) where
  isAvailable := pure true
  query _ after := do
    let w ← get
    return { records := w.records.filter (Record.newerThan after), context := "" }
  holds _ := pure false
  createMetadata _ := pure true
  updateMetadata _ := pure true
  deleteMetadata _ := pure true
  createResource _ := pure true
  updateResource _ := pure true
  readResource r := pure { record := r, content := [] }

/-- An item store that holds nothing, and a history that keeps every outcome. -/
def Ledger.shelf : Ledger (Op Shelf) where
  getItem _ _ _ _ := pure none
  failureList _ _ _ _ := pure []
  saveItem _ := pure ()
  outcomes _ := do return (← get).history
  addOutcome o := modify fun w => { w with history := w.history ++ [o] }

/-- A shelf whose clock stands at noon, and a writer who adds one record, stamped by that
clock, right after the first query of the source answers. -/
def Collaborators.lateWriter : Collaborators Shelf where
  source := .shelf
  destination := .shelf
  ledger := .shelf
  clock _ := noon
  elsewhere w log :=
    (if !w.written && log.getLast?.any Event.isQuery then
      { w with records := { id := .str "b", modified := some noon } :: w.records, written := true }
    else w, false)

/-- The scene before the first run: nothing written, nothing run. -/
def Scene.unwritten : Scene Shelf where
  world := ⟨[], [], false⟩
  log := []
  faithful := Log.faithful_nil

/-- The first run of the late writer's shelf lists the source before it reads its end. -/
theorem late_run_lists_before_its_end :
    ∃ st tm, (exec (sync (observe .lateWriter) .sample) Scene.unwritten).1 = .ok st ∧
      st.endTime = some tm ∧
      Event.clock tm ∈ (exec (sync (observe .lateWriter) .sample) Scene.unwritten).2.log := by
  obtain ⟨st, hst, hmark⟩ : ∃ st, exec (sync (observe .lateWriter) .sample) Scene.unwritten =
      (.ok st, (exec (sync (observe .lateWriter) .sample) Scene.unwritten).2) ∧
      st.state.countsForWatermark = true := ⟨_, rfl, by decide⟩
  obtain ⟨_, _, _, _, _, _, rest, tm, -, hlog, -, -, -, hclock, hend, -⟩ :=
    change_listing_precedes_end_time .lateWriter .sample hst hmark
  refine ⟨st, tm, congrArg Prod.fst hst, hend, ?_⟩
  rw [hlog]
  simp [hclock]

/-- A record written to the source after the first run's change query answered, stamped at
the run's end, is listed by no query: the first run succeeds and ends at noon with the record
on the source, modified at noon, yet neither its listing nor that of the next run, which
succeeds too, holds any record. -/
theorem late_write_is_never_listed :
    let first := exec (sync (observe .lateWriter) .sample) Scene.unwritten
    let second := exec (sync (observe .lateWriter) .sample) first.2
    (first.1.toOption.map fun st => (st.state, st.endTime)) = some (.success, some noon) ∧
      first.2.world.records.map Record.modified = [some noon] ∧
      second.1.toOption.map RunStatus.state = some .success ∧
      ∀ l ∈ second.2.log.listings, l.records.isEmpty := by
  decide

end CatalogSync.Sync
