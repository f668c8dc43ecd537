import CatalogSync.Proofs.Engine.Passes

/-!
# How a run ends

A run of `sync` starts its status, runs its passes and closes: when the passes return, it
drops the cancellation request, finishes the status and adds one outcome to the history;
when they fail, it marks the status failed, drops the request and raises the failure again.

Every run, whatever the sites and stores answer and wherever requests to stop arrive, has
that shape (`sync_inv`). With the verdict of the passes' log from `passes_settles`, it gives
the end of a run that returns, and the status of one whose passes failed.

## Main definitions

* `Event.bookkeeping`: the events a run writes about itself, outside any call.
* `Event.outcome`: the outcome an event asks the history to add.
-/

namespace CatalogSync

/-! ## Completed and failed statuses -/

theorem RunStatus.finish_running {s : RunStatus} {k : RunState} (tm : Stamp)
    (hs : s.state = .running)
    (hk : k = .success ∨ k = .itemFailuresPresent ∨ k = .connectionLost ∨ k = .canceled) :
    s.finish k tm = .ok { s with
      endTime := some tm, startTime := some (s.startTime.getD tm), state := k } := by
  unfold RunStatus.finish
  rcases hk with rfl | rfl | rfl | rfl <;> simp [hs, RunState.isTerminal]

theorem RunStatus.fail_running {s : RunStatus} (message : String) (tm : Stamp)
    (hs : s.state = .running) :
    s.fail message tm = .ok { s with
      endTime := some tm, startTime := some (s.startTime.getD tm), error := some message,
      state := .error } := by
  unfold RunStatus.fail
  simp [hs, RunState.isTerminal]

theorem RunOutcome.ofStatus_completed (configId configName : Value) {s : RunStatus} {a b : Stamp}
    (hs : s.state.isTerminal = true) (hne : s.state ≠ .error) (ha : s.startTime = some a)
    (hb : s.endTime = some b) :
    RunOutcome.ofStatus configId configName s = .ok {
      configId, configName, startTime := a, endTime := b, state := s.state,
      pushCount := .int s.pushCount, pushFailCount := .int s.pushFailCount,
      pushBytes := .int s.pushBytes } := by
  have hbne : (s.state != RunState.error) = true := bne_iff_ne.mpr hne
  unfold RunOutcome.ofStatus
  rw [hs, Bool.true_and, hbne, ha, hb]

theorem RunOutcome.ofStatus_fields {configId configName : Value} {st : RunStatus} {o : RunOutcome}
    (h : RunOutcome.ofStatus configId configName st = .ok o) :
    o.state = st.state ∧ o.pushCount = .int st.pushCount ∧
      o.pushFailCount = .int st.pushFailCount ∧ o.pushBytes = .int st.pushBytes ∧
      st.startTime = some o.startTime ∧ st.endTime = some o.endTime := by
  unfold RunOutcome.ofStatus at h
  split at h
  · rename_i hstart hend
    cases h
    exact ⟨rfl, rfl, rfl, rfl, hstart, hend⟩
  · cases h

/-- A replication between two sites, with the default settings. -/
def Replication.sample : Replication where
  id := "r"
  name := .str "r"
  source := .str "a"
  destination := .str "b"

end CatalogSync

namespace CatalogSync.Sync

/-- Events a run writes about itself: requests to stop, clearings, clock readings and status
updates. None of them is a call or a look at the cancellation request. -/
def Event.bookkeeping : Event → Bool
  | .cancel | .clear | .clock _ | .status _ => true
  | _ => false

/-- The outcome an event asks the history to add, if it is such a call. -/
def Event.outcome : Event → Option RunOutcome
  | .call (.store (.addOutcome o _)) => some o
  | _ => none

/-! ## The steps around the passes -/

section Steps

variable {σ α : Type} {c : Collaborators σ} {config : Replication} {s s' : Scene σ}

theorem startRun_inv {r : Except Failure Unit} (h : exec (startRun (observe c) config) s = (r, s')) :
    r = .ok () ∧ ∃ t₁ tm t₂, Log.Quiet t₁ ∧ Log.Quiet t₂ ∧
      s'.log = s.log ++ t₁ ++ [.clock tm] ++ t₂ ++
        [.status { RunStatus.fresh config.name with startTime := some tm, state := .running }] := by
  unfold startRun at h
  obtain ⟨t₁, tm, s₁, ht₁, hlog₁, h⟩ := now_bind_inv h
  -- a fresh status always starts
  have hstart : (RunStatus.fresh config.name).start tm =
      .ok { RunStatus.fresh config.name with startTime := some tm, state := .running } := rfl
  rw [hstart, exec_ofExcept_bind] at h
  obtain ⟨t₂, ht₂, hr, hlog₂⟩ := setStatus_inv h
  exact ⟨hr, t₁, tm, t₂, ht₁, ht₂, by rw [hlog₂, hlog₁]⟩

theorem clearThrow_inv {f : Failure} {r : Except Failure α}
    (h : exec ((observe c).control.clearCanceled >>= fun _ => throwThe Failure f) s = (r, s')) :
    r = .error f ∧ ∃ t, Log.Quiet t ∧ s'.log = s.log ++ t ++ [.clear] := by
  obtain ⟨t, s₁, ht, hlog, h⟩ := clearCanceled_bind_inv h
  rw [exec_throw] at h
  obtain ⟨rfl, rfl⟩ := Prod.mk.inj h
  exact ⟨rfl, t, ht, hlog⟩

theorem failRun_inv {f : Failure} {r : Except Failure α}
    (hrun : s.log.status.state = .running) (h : exec (failRun (observe c) f) s = (r, s')) :
    r = .error f ∧ ∃ mid t, Log.Quiet t ∧ s'.log = s.log ++ mid ++ t ++ [.clear] ∧
      if f.isOrdinary then ∃ t₁ tm t₂ failed, Log.Quiet t₁ ∧ Log.Quiet t₂ ∧
          s.log.status.fail f.message tm = .ok failed ∧
          mid = t₁ ++ [.clock tm] ++ t₂ ++ [.status failed]
      else mid = [] := by
  unfold failRun at h
  dsimp only at h
  split at h
  · rename_i hord
    obtain ⟨t₀, s₁, ht₀, hlog₁, h⟩ := status_bind_inv h
    obtain ⟨t₁, tm, s₂, ht₁, hlog₂, h⟩ := now_bind_inv h
    -- a running status can always be marked failed
    obtain ⟨failed, hfail⟩ : ∃ failed, s.log.status.fail f.message tm = .ok failed := by
      unfold RunStatus.fail
      rw [if_neg (by simp [hrun, RunState.isTerminal])]
      exact ⟨_, rfl⟩
    rw [hfail, exec_ofExcept_bind] at h
    obtain ⟨t₂, s₄, ht₂, hlog₄, h⟩ := setStatus_bind_inv h
    obtain ⟨hr, t, ht, hlog⟩ := clearThrow_inv h
    refine ⟨hr, t₀ ++ t₁ ++ [.clock tm] ++ t₂ ++ [.status failed], t, ht,
      by simp [hlog, hlog₄, hlog₂, hlog₁], ?_⟩
    rw [if_pos hord]
    exact ⟨t₀ ++ t₁, tm, t₂, failed, ht₀.append ht₁, ht₂, hfail, rfl⟩
  · rename_i hord
    obtain ⟨hr, t, ht, hlog⟩ := clearThrow_inv h
    exact ⟨hr, [], t, ht, by simpa using hlog, by simp [hord]⟩

/-- A run whose passes returned: the status is finished at a clock reading, in the state the
passes stopped in or else by the failures counted, and its outcome is added to the history;
the run answers the finished status once the history took it. -/
theorem finishRun_inv {stopped : Option RunState} {r : Except Failure RunStatus}
    (hrun : s.log.status.state = .running)
    (hstop : ∀ k ∈ stopped, k = .connectionLost ∨ k = .canceled)
    (h : exec (finishRun (observe c) config stopped) s = (r, s')) :
    ∃ t₁ tm t₂ st t₃ o ans, Log.Quiet t₁ ∧ Log.Quiet t₂ ∧ Log.Quiet t₃ ∧
      st = { s.log.status with
        endTime := some tm, startTime := some (s.log.status.startTime.getD tm),
        state := stopped.getD (if s.log.status.pushFailCount = 0 then .success
          else .itemFailuresPresent) } ∧
      RunOutcome.ofStatus (.str config.id) config.name st = .ok o ∧
      s'.log = s.log ++ t₁ ++ [.clock tm] ++ t₂ ++ [.status st] ++ t₃ ++
        [.call (.store (.addOutcome o ans))] ∧
      r = ans.map fun _ => st := by
  unfold finishRun at h
  obtain ⟨t₀, s₁, ht₀, hlog₁, h⟩ := status_bind_inv h
  dsimp only at h
  obtain ⟨t₁, tm, s₂, ht₁, hlog₂, h⟩ := now_bind_inv h
  -- the state the run ends in is one of a completed run
  generalize hfinal_def : stopped.getD (if s.log.status.pushFailCount = 0 then RunState.success
    else .itemFailuresPresent) = final at h ⊢
  have hfinal : final = .success ∨ final = .itemFailuresPresent ∨ final = .connectionLost ∨
      final = .canceled := by
    subst hfinal_def
    rcases stopped with _ | k
    · by_cases h0 : s.log.status.pushFailCount = 0 <;> simp [h0]
    · rcases hstop k rfl with rfl | rfl <;> simp
  rw [RunStatus.finish_running tm hrun hfinal, exec_ofExcept_bind] at h
  obtain ⟨t₂, s₄, ht₂, hlog₄, h⟩ := setStatus_bind_inv h
  rw [RunOutcome.ofStatus_completed _ _ (by rcases hfinal with h | h | h | h <;> simp [h, RunState.isTerminal])
    (by rcases hfinal with h | h | h | h <;> simp [h]) rfl rfl, exec_ofExcept_bind] at h
  -- the outcome is added; the run answers what the history answered
  rw [exec_bind] at h
  rcases hadd : exec ((observe c).ledger.addOutcome _) s₄ with ⟨ans, s₅⟩
  obtain ⟨t₃, ht₃, hlog₅⟩ := call_inv hadd
  rw [hadd] at h
  refine ⟨t₀ ++ t₁, tm, t₂, _, t₃, _, ans, ht₀.append ht₁, ht₂, ht₃, rfl,
    RunOutcome.ofStatus_completed _ _ ?_ ?_ rfl rfl, ?_, ?_⟩
  · rcases hfinal with h | h | h | h <;> simp [h, RunState.isTerminal]
  · rcases hfinal with h | h | h | h <;> simp [h]
  · rcases ans with _ | _ <;> obtain ⟨-, rfl⟩ := Prod.mk.inj h <;>
      simp [hlog₅, hlog₄, hlog₂, hlog₁]
  · rcases ans with _ | _ <;> obtain ⟨rfl, -⟩ := Prod.mk.inj h <;> rfl

theorem failRun_error (f : Failure) (s : Scene σ) :
    ∃ e, (exec (failRun (observe c) f : Run σ α) s).1 = .error e := by
  have hclose : ∀ s₁, ∃ e, (exec ((observe c).control.clearCanceled >>= fun _ =>
      throwThe Failure f : Run σ α) s₁).1 = .error e :=
    fun _ => exec_bind_error fun _ _ => ⟨f, rfl⟩
  unfold failRun
  dsimp only
  split
  · exact exec_bind_error fun _ _ => exec_bind_error fun _ _ => exec_bind_error fun _ _ =>
      exec_bind_error fun _ _ => hclose _
  · exact hclose s

/-- Every run of `sync`: its status is started, its passes run from the scene that leaves,
and it closes by dropping the request to stop and finishing when they return, or by failing
when they fail. -/
theorem sync_inv {r : Except Failure RunStatus} (h : exec (sync (observe c) config) s = (r, s')) :
    ∃ s₁ r₂ s₂, exec (startRun (observe c) config) s = (.ok (), s₁) ∧
      exec (passes (observe c) config) s₁ = (r₂, s₂) ∧
      match r₂ with
      | .ok stopped => ∃ t s₃, Log.Quiet t ∧ s₃.log = s₂.log ++ t ++ [.clear] ∧
          exec (finishRun (observe c) config stopped) s₃ = (r, s')
      | .error f => ∃ e, r = .error e ∧
          exec (failRun (observe c) f : Run σ (Option RunState)) s₂ = (.error e, s') := by
  unfold sync at h
  obtain ⟨_, s₁, hstart, h⟩ := bind_ok_inv (fun _ _ h => ⟨_, (startRun_inv h).1⟩) h
  rcases bind_inv h with ⟨e, htry, rfl⟩ | ⟨stopped, s₂, htry, h⟩
  · rcases tryCatch_inv htry with ⟨_, -, hr⟩ | ⟨f, s₂, hpass, hfail⟩
    · cases hr
    · exact ⟨s₁, .error f, s₂, hstart, hpass, e, rfl, hfail⟩
  · rcases tryCatch_inv htry with ⟨_, hpass, hr⟩ | ⟨f, s₃, -, hfail⟩
    · cases hr
      obtain ⟨t, s₃, ht, hlog, h⟩ := clearCanceled_bind_inv h
      exact ⟨s₁, .ok stopped, s₂, hstart, hpass, t, s₃, ht, hlog, h⟩
    -- the failure handler never answers
    · obtain ⟨e, he⟩ := failRun_error (c := c) (α := Option RunState) f s₃
      rw [hfail] at he
      cases he

end Steps

/-! ## The verdict of a whole run -/

theorem Event.abort_kind {e : Event} {k : RunState} (h : e.abort = some k) :
    k = .connectionLost ∨ k = .canceled := by
  rcases e with _ | seen | _ | _ | _ | ⟨side, call⟩ | call
  case checkpoint => cases seen <;> simp [Event.abort] at h; exact .inr h.symm
  case call.site =>
    simp only [Event.abort] at h
    unfold SiteCall.abort SiteCall.abort.lost at h
    split at h <;> (try split at h) <;> simp_all
  all_goals simp [Event.abort] at h

theorem Log.verdict_kind {log : Log} {k : RunState} (h : log.verdict = some k) :
    k = .connectionLost ∨ k = .canceled := by
  unfold verdict at h
  cases hfirst : log.findSome? Event.abort with
  | some k' =>
    rw [hfirst, Option.some_or] at h
    cases h
    obtain ⟨e, -, he⟩ := List.exists_of_findSome?_eq_some hfirst
    exact Event.abort_kind he
  | none =>
    rw [hfirst, Option.none_or] at h
    unfold brokenTail at h
    split at h
    · cases h
      exact .inl rfl
    · cases h

/-- A log with no abort and no listing, which leaves the verdict of what it surrounds as it
is. -/
def Log.Neutral (log : Log) : Prop := log.findSome? Event.abort = none ∧ log.listings = []

@[simp] theorem Log.neutral_append {l₁ l₂ : Log} :
    (l₁ ++ l₂).Neutral ↔ l₁.Neutral ∧ l₂.Neutral := by
  simp only [Neutral, List.findSome?_append, Option.or_eq_none_iff, listings_append,
    List.append_eq_nil_iff]
  exact ⟨fun ⟨⟨a, b⟩, c, d⟩ => ⟨⟨a, c⟩, b, d⟩, fun ⟨⟨a, c⟩, b, d⟩ => ⟨⟨a, b⟩, c, d⟩⟩

@[simp] theorem Log.neutral_singleton {e : Event} :
    Log.Neutral [e] ↔ e.abort = none ∧ e.listing = none := by
  simp [Neutral]

theorem Log.Quiet.neutral {t : Log} (ht : t.Quiet) : t.Neutral := by
  refine ⟨List.findSome?_eq_none_iff.mpr fun e he => ?_, ht.listings⟩
  rw [ht e he]
  rfl

theorem Log.Quiet.outcomes {t : Log} (ht : t.Quiet) : t.filterMap Event.outcome = [] :=
  List.filterMap_eq_nil_iff.mpr fun e he => by rw [ht e he]; rfl

theorem Log.verdict_frame {pre seg post : Log} (hpre : pre.Neutral) (hpost : post.Neutral) :
    (pre ++ seg ++ post).verdict = seg.verdict := by
  unfold verdict brokenTail lastListing
  rw [List.findSome?_append, List.findSome?_append, hpre.1, hpost.1, listings_append,
    listings_append, hpre.2, hpost.2, List.nil_append, List.append_nil, Option.none_or,
    Option.or_none]

theorem Stage.next_outcome {a b : Stage} {e : Event} (h : a.next e = some b) :
    e.outcome = none := by
  rcases e with _ | _ | _ | _ | _ | ⟨_, _⟩ | call
  case call.store =>
    cases call
    case addOutcome => rcases a <;> simp [Stage.next, Stage.store] at h
    all_goals rfl
  all_goals rfl

theorem Stage.run_outcome {a b : Stage} {l : Log} (h : a.run l = some b) :
    l.filterMap Event.outcome = [] := by
  induction l generalizing a with
  | nil => rfl
  | cons e rest ih =>
    rw [run_cons] at h
    cases hn : a.next e with
    | none => simp [hn] at h
    | some a' =>
      rw [hn] at h
      rw [List.filterMap_cons, next_outcome hn, ih h]

section Verdict

variable {σ : Type} {c : Collaborators σ} {config : Replication}

theorem passes_verdict {s₁ s₂ : Scene σ} {stopped : Option RunState}
    (h : exec (passes (observe c) config) s₁ = (.ok stopped, s₂)) :
    ∃ seg b, Span s₁ s₂ seg .fresh b ∧ stopped = seg.verdict := by
  obtain ⟨seg, b, hspan, hsettle⟩ := passes_settles (c := c) config s₁
  rw [h] at hspan hsettle
  obtain ⟨hstop, -⟩ : stopped = b.ended.or seg.brokenTail ∧ _ := hsettle
  refine ⟨seg, b, hspan, ?_⟩
  rw [hstop, Log.verdict, Stage.run_findSome rfl hspan.stage]

theorem passes_counts {s s₁ s₂ : Scene σ} {t₁ t₂ seg : Log} {tm : Stamp} {a b : Stage}
    (hlog : s₁.log = s.log ++ t₁ ++ [.clock tm] ++ t₂ ++
      [.status { RunStatus.fresh config.name with startTime := some tm, state := .running }])
    (hspan : Span s₁ s₂ seg a b) :
    RunStatus.Counts { RunStatus.fresh config.name with startTime := some tm, state := .running }
      s₂.log.status := by
  have h₁ : s₁.log.status =
      { RunStatus.fresh config.name with startTime := some tm, state := .running } := by
    rw [hlog, Log.status_append]
    rfl
  rw [← h₁]
  exact hspan.counts

end Verdict

/-! ## Collaborators that hold nothing -/

/-- A site that holds no record, takes every change and is always there. -/
def Endpoint.idle : Endpoint (Op Unit) where
  isAvailable := pure true
  query _ _ := pure { records := [], context := "" }
  holds _ := pure false
  createMetadata _ := pure true
  updateMetadata _ := pure true
  deleteMetadata _ := pure true
  createResource _ := pure true
  updateResource _ := pure true
  readResource r := pure { record := r, content := [] }

/-- An item store and a run history that hold nothing and take every write. -/
def Ledger.idle : Ledger (Op Unit) where
  getItem _ _ _ _ := pure none
  failureList _ _ _ _ := pure []
  saveItem _ := pure ()
  outcomes _ := pure []
  addOutcome _ := pure ()

/-- Empty sites and stores, a clock that stands still, and no one asking to stop. -/
def Collaborators.idle : Collaborators Unit where
  source := .idle
  destination := .idle
  ledger := .idle
  clock _ := { wall := 0, offset := some 0 }
  elsewhere _ _ := ((), false)

/-- The scene before any run. -/
def Scene.empty : Scene Unit where
  world := ()
  log := []
  faithful := fun _ _ _ h => by simp at h

/-! ## A run that returns -/

/-- A run that returns `st`: the status started at a clock reading, the passes returned from
there in the state their log stopped in, and the run closed by dropping the request to stop,
finishing the status at a later clock reading and adding its outcome, which the history
took. -/
theorem sync_ok_inv {σ : Type} {c : Collaborators σ} {config : Replication} {s s' : Scene σ}
    {st : RunStatus} (h : exec (sync (observe c) config) s = (.ok st, s')) :
    ∃ s₁ s₂ stopped seg b, exec (passes (observe c) config) s₁ = (.ok stopped, s₂) ∧
      Span s₁ s₂ seg .fresh b ∧ stopped = seg.verdict ∧
      (∃ t₁ tm t₂, Log.Quiet t₁ ∧ Log.Quiet t₂ ∧ s₁.log = s.log ++ t₁ ++ [.clock tm] ++ t₂ ++
          [.status { RunStatus.fresh config.name with startTime := some tm, state := .running }] ∧
        RunStatus.Counts
          { RunStatus.fresh config.name with startTime := some tm, state := .running }
          s₂.log.status) ∧
      ∃ t t₁ tm t₂ t₃ o, Log.Quiet t ∧ Log.Quiet t₁ ∧ Log.Quiet t₂ ∧ Log.Quiet t₃ ∧
        st = { s₂.log.status with
          endTime := some tm, startTime := some (s₂.log.status.startTime.getD tm),
          state := stopped.getD (if s₂.log.status.pushFailCount = 0 then .success
            else .itemFailuresPresent) } ∧
        RunOutcome.ofStatus (.str config.id) config.name st = .ok o ∧
        s'.log = s₂.log ++ t ++ [.clear] ++ t₁ ++ [.clock tm] ++ t₂ ++ [.status st] ++ t₃ ++
          [.call (.store (.addOutcome o (.ok ())))] := by
  obtain ⟨s₁, r₂, s₂, hstart, hpass, hclose⟩ := sync_inv h
  obtain ⟨-, t₁, tm, t₂, ht₁, ht₂, hlog₁⟩ := startRun_inv hstart
  -- passes that failed make the run raise
  rcases r₂ with f | stopped
  · obtain ⟨e, he, -⟩ := hclose
    cases he
  obtain ⟨t, s₃, ht, hlog₃, hfin⟩ := hclose
  obtain ⟨seg, b, hspan, hstop⟩ := passes_verdict hpass
  have hcounts := passes_counts hlog₁ hspan
  have hstatus₃ : s₃.log.status = s₂.log.status := by
    rw [hlog₃, Log.status_append, ht.status]
    rfl
  obtain ⟨t₁', tm', t₂', st', t₃', o, ans, ht₁', ht₂', ht₃', hst', hof, hlog', hr⟩ :=
    finishRun_inv (hstatus₃ ▸ hcounts.state) (fun k hk => Log.verdict_kind (hstop ▸ hk)) hfin
  -- the run answered: the history took the outcome
  obtain rfl : ans = .ok () := by
    rcases ans with _ | ⟨⟩
    · cases hr
    · rfl
  cases hr
  rw [hstatus₃] at hst'
  exact ⟨s₁, s₂, stopped, seg, b, hpass, hspan, hstop, ⟨t₁, tm, t₂, ht₁, ht₂, hlog₁, hcounts⟩,
    t, t₁', tm', t₂', t₃', o, ht, ht₁', ht₂', ht₃', hst', hof, by rw [hlog', hlog₃]⟩

/-- A run that returns ends in a terminal state decided by the first abort of its log: the
kind of that abort, or, with none, success when no push failed and item failures otherwise;
the engine keeps that status. The run adds exactly one outcome to the history, the outcome of
its final status, and the history took it. -/
theorem returned_status_follows_first_abort {σ : Type} (c : Collaborators σ)
    (config : Replication) (s : Scene σ) (st : RunStatus)
    (h : (exec (sync (observe c) config) s).1 = .ok st) :
    ∃ run, (exec (sync (observe c) config) s).2.log = s.log ++ run ∧
      (exec (sync (observe c) config) s).2.log.status = st ∧
      st.state.isTerminal = true ∧
      st.state = run.verdict.getD
        (if st.pushFailCount = 0 then .success else .itemFailuresPresent) ∧
      0 ≤ st.pushFailCount ∧
      ∃ o, RunOutcome.ofStatus (.str config.id) config.name st = .ok o ∧
        run.filterMap Event.outcome = [o] ∧ Event.call (.store (.addOutcome o (.ok ()))) ∈ run := by
  rcases hsync : exec (sync (observe c) config) s with ⟨r, s'⟩
  rw [hsync] at h
  dsimp only at h ⊢
  subst h
  obtain ⟨s₁, s₂, stopped, seg, b, -, hspan, hstop, ⟨t₁, tm, t₂, ht₁, ht₂, hlog₁, hcounts⟩,
    t, t₁', tm', t₂', t₃', o, ht, ht₁', ht₂', ht₃', hst, hof, hlog'⟩ := sync_ok_inv hsync
  -- the steps around the passes neither abort nor list
  refine ⟨(t₁ ++ [.clock tm] ++ t₂ ++ [.status
      { RunStatus.fresh config.name with startTime := some tm, state := .running }]) ++ seg ++
      (t ++ [.clear] ++ t₁' ++ [.clock tm'] ++ t₂' ++ [.status st] ++ t₃' ++
        [.call (.store (.addOutcome o (.ok ())))]), ?_, ?_, ?_, ?_, ?_, o, hof, ?_, by simp⟩
  · rw [hlog', hspan.log, hlog₁]
    simp only [List.append_assoc]
  · rw [hlog', Log.status_append, ht₃'.status, Log.status_append]
    rfl
  · rw [hst]
    rcases hk : stopped with _ | k
    · dsimp only [Option.getD_none]
      split <;> rfl
    · rcases Log.verdict_kind (hstop ▸ hk) with rfl | rfl <;> rfl
  · rw [Log.verdict_frame
      (by simp only [Log.neutral_append, Log.neutral_singleton, ht₁.neutral, ht₂.neutral,
        Event.abort, Event.listing, and_self])
      (by simp only [Log.neutral_append, Log.neutral_singleton, ht.neutral, ht₁'.neutral,
        ht₂'.neutral, ht₃'.neutral, Event.abort, Event.listing, and_self]), ← hstop, hst]
  · rw [hst]
    exact hcounts.pushFailCount
  · simp only [List.filterMap_append, Stage.run_outcome hspan.stage, ht.outcomes,
      ht₁'.outcomes, ht₂'.outcomes, ht₃'.outcomes, ht₁.outcomes, ht₂.outcomes,
      List.filterMap_cons, List.filterMap_nil, Event.outcome, List.nil_append, List.append_nil]

/-- A run among collaborators that hold nothing returns, in a terminal state. -/
theorem idle_run_returns_terminal :
    ∃ st, (exec (sync (observe .idle) .sample) Scene.empty).1 = .ok st ∧
      st.state.isTerminal = true := by
  obtain ⟨st, hst⟩ : ∃ st, (exec (sync (observe .idle) .sample) Scene.empty).1 = .ok st :=
    ⟨_, rfl⟩
  obtain ⟨_, _, _, hterm, -⟩ :=
    returned_status_follows_first_abort .idle .sample Scene.empty st hst
  exact ⟨st, hst, hterm⟩

/-! ## A run whose passes fail -/

/-- A run whose passes raise an ordinary failure raises it again. Its status ends failed with
the failure's text, an end time and the start time the run began with; it adds no outcome to
the history, so the watermark stays where it was; after the failure it calls no site or store,
so the writes made before stay; and its last step drops the request to stop. -/
theorem failed_passes_mark_error {σ : Type} (c : Collaborators σ) (config : Replication)
    {s s₁ s₂ s' : Scene σ} {f : Failure} {r : Except Failure RunStatus}
    (hsync : exec (sync (observe c) config) s = (r, s'))
    (hstart : (exec (startRun (observe c) config) s).2 = s₁)
    (hfail : exec (passes (observe c) config) s₁ = (.error f, s₂))
    (hord : f.isOrdinary = true) :
    r = .error f ∧
      s'.log.status.state = .error ∧ s'.log.status.error = some f.message ∧
      s'.log.status.endTime.isSome = true ∧
      s'.log.status.startTime = s₁.log.status.startTime ∧
      (∃ run, s'.log = s.log ++ run ∧ run.filterMap Event.outcome = []) ∧
      (∃ tail, s'.log = s₂.log ++ tail ∧ ∀ e ∈ tail, e.bookkeeping = true) ∧
      s'.log.canceled = false := by
  obtain ⟨s₁', r₂, s₂', hstart', hpass, hclose⟩ := sync_inv hsync
  have hs₁ : s₁' = s₁ := by rw [← hstart, hstart']
  subst s₁'
  rw [hfail] at hpass
  obtain ⟨rfl, rfl⟩ := Prod.mk.inj hpass
  obtain ⟨e, rfl, hfailRun⟩ := hclose
  obtain ⟨-, t₁, tm, t₂, ht₁, ht₂, hlog₁⟩ := startRun_inv hstart'
  obtain ⟨seg, b, hspan, -⟩ := passes_settles (c := c) config s₁
  rw [hfail] at hspan
  have hcounts := passes_counts hlog₁ hspan
  -- the handler marks the running status failed, drops the request and raises
  obtain ⟨he, mid, t, ht, hlog, hmid⟩ := failRun_inv hcounts.state hfailRun
  cases he
  rw [if_pos hord] at hmid
  obtain ⟨t₁', tm', t₂', failed, ht₁', ht₂', hfailed, rfl⟩ := hmid
  rw [RunStatus.fail_running _ _ hcounts.state] at hfailed
  have hstatus : s'.log.status = { s₂.log.status with
      endTime := some tm', startTime := some (s₂.log.status.startTime.getD tm'),
      error := some f.message, state := .error } := by
    rw [hlog, Log.status_append, ht.status, ← List.append_assoc, Log.status_append]
    exact (Except.ok.inj hfailed).symm
  have hstart₁ : s₁.log.status.startTime = some tm := by
    rw [hlog₁, Log.status_append]
    rfl
  refine ⟨rfl, by rw [hstatus], by rw [hstatus], by rw [hstatus]; rfl, ?_, ?_, ?_, ?_⟩
  · rw [hstatus, hcounts.startTime, hstart₁]
    rfl
  -- no outcome: the passes add none, the failure handler neither
  · refine ⟨t₁ ++ [.clock tm] ++ t₂ ++
      [.status { RunStatus.fresh config.name with startTime := some tm, state := .running }] ++
      seg ++ (t₁' ++ [.clock tm'] ++ t₂' ++ [.status failed] ++ t ++ [.clear]), ?_, ?_⟩
    · rw [hlog, hspan.log, hlog₁]
      simp only [List.append_assoc]
    · simp only [List.filterMap_append, Stage.run_outcome hspan.stage, ht.outcomes,
        ht₁'.outcomes, ht₂'.outcomes, ht₁.outcomes, ht₂.outcomes, List.filterMap_cons,
        List.filterMap_nil, Event.outcome, List.append_nil]
  · refine ⟨t₁' ++ [.clock tm'] ++ t₂' ++ [.status failed] ++ t ++ [.clear], by
      rw [hlog]
      simp only [List.append_assoc], fun e he => ?_⟩
    simp only [List.mem_append, List.mem_singleton] at he
    rcases he with ((((he | rfl) | he) | rfl) | he) | rfl
    all_goals first | rfl | rw [ht₁' e he] | rw [ht₂' e he] | rw [ht e he]
    all_goals rfl
  · rw [hlog, Log.canceled_append]
    rfl

/-- The idle collaborators, with an item store that cannot give its failure list. -/
def Collaborators.brokenStore : Collaborators Unit :=
  { Collaborators.idle with
    ledger := { Ledger.idle with failureList := fun _ _ _ _ => throw (.invalid "store closed") } }

/-- A run whose item store cannot give its failure list raises that failure and ends
failed. -/
theorem broken_store_run_fails :
    (exec (sync (observe .brokenStore) .sample) Scene.empty).1 =
        .error (.invalid "store closed") ∧
      (exec (sync (observe .brokenStore) .sample) Scene.empty).2.log.status.state = .error := by
  obtain ⟨hr, hstate, -⟩ :=
    failed_passes_mark_error .brokenStore .sample (s := Scene.empty) (f := .invalid "store closed")
      rfl rfl rfl rfl
  exact ⟨hr, hstate⟩

end CatalogSync.Sync
