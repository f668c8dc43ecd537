import CatalogSync.Proofs.Engine.ItemTable

/-!
# The queries of a completed run

A query of the source that fails stops the pass that asked it: `ask` answers the state the
failure ends the run in, a lost connection or the source's failure, or raises. A run that
returns a state counting for the watermark, success or success with failed items, stopped no
pass, so each query of the source it asked was answered with a listing, whatever the sites and
stores answered otherwise and wherever requests to stop arrived
(`completed_run_had_every_query_answered`).

-/

namespace CatalogSync.Sync

/-! ## Queries of the source -/

theorem Event.isQuery_of_inPush {e : Event} (h : e.inPush = true) : e.isQuery = false := by
  rcases e with _ | _ | _ | _ | _ | ⟨_ | _, call⟩ | call
  all_goals first
    | (cases call <;> simp_all [inPush, inChange, isWrite, isProbe, isQuery])
    | simp_all [inPush, inChange, isWrite, isProbe, isQuery]

@[simp] theorem isQuery_readsItem (config : Replication) (r : Record)
    (ans : Except Failure (Option Item)) : (config.readsItem r ans).isQuery = false :=
  rfl

@[simp] theorem isQuery_checkpoint (seen : Bool) : (Event.checkpoint seen).isQuery = false :=
  rfl

namespace Log

/-- The queries of the source in a log, in order. -/
def queries (log : Log) : Log := log.filter Event.isQuery

@[simp] theorem queries_append (l₁ l₂ : Log) :
    queries (l₁ ++ l₂) = queries l₁ ++ queries l₂ :=
  List.filter_append _ _

@[simp] theorem queries_cons (e : Event) (log : Log) :
    queries (e :: log) = (if e.isQuery then [e] else []) ++ queries log := by
  cases h : e.isQuery <;> simp [queries, h]

@[simp] theorem queries_nil : queries [] = [] := rfl

theorem Quiet.queries {t : Log} (ht : Quiet t) : t.queries = [] :=
  List.filter_eq_nil_iff.mpr fun e he => by rw [ht e he]; decide

namespace Checks

variable {l : Log}

theorem offBooks (h : l.Checks) : l.OffBooks := fun e he => by
  rcases h e he with rfl | ⟨b, rfl⟩ <;> rfl

theorem queries (h : l.Checks) : l.queries = [] :=
  List.filter_eq_nil_iff.mpr fun e he => by
    rcases h e he with rfl | ⟨b, rfl⟩ <;> simp [Event.isQuery]

end Checks

section Listed

variable {σ : Type} {q : Option Predicate → Option Stamp → Op σ Listing} {l l₁ l₂ : Log}

/-- Each query of the source in a log was answered with a listing, one that the query `q` gives
when run from some world. -/
def Listed (q : Option Predicate → Option Stamp → Op σ Listing) (log : Log) : Prop :=
  ∀ p a r, Event.call (.site .source (.query p a r)) ∈ log →
    ∃ l, r = .ok l ∧ ∃ w w', (q p a).run.run w = (.ok l, w')

theorem listed_append : (l₁ ++ l₂).Listed q ↔ l₁.Listed q ∧ l₂.Listed q := by
  simp only [Listed, List.mem_append]
  exact ⟨fun h => ⟨fun p a r he => h p a r (.inl he), fun p a r he => h p a r (.inr he)⟩,
    fun h p a r he => he.elim (h.1 p a r) (h.2 p a r)⟩

theorem Listed.of_queries (h : l.queries = []) : l.Listed q := fun p a r he => by
  have := List.filter_eq_nil_iff.mp h _ he
  simp [Event.isQuery] at this

theorem Listed.around {pre seg post : Log} (hpre : pre.queries = []) (h : seg.Listed q)
    (hpost : post.queries = []) : (pre ++ seg ++ post).Listed q :=
  listed_append.mpr ⟨listed_append.mpr ⟨.of_queries hpre, h⟩, .of_queries hpost⟩

theorem Listed.single {p : Option Predicate} {a : Option Stamp} {ls : Listing} {w w' : σ}
    (hq : (q p a).run.run w = (.ok ls, w')) :
    Log.Listed q [.call (.site .source (.query p a (.ok ls)))] := by
  intro p' a' r he
  simp only [List.mem_singleton, Event.call.injEq, Call.site.injEq, SiteCall.query.injEq] at he
  obtain ⟨-, rfl, rfl, rfl⟩ := he
  exact ⟨ls, rfl, w, w', hq⟩

end Listed

end Log

theorem PushLog.queries {config : Replication} {retry : Bool} {r : Record}
    {st : RunStatus} {stored : Option Item} {p : Log} {res : Except Failure (Option RunState)}
    (h : PushLog config retry r st stored p res) : p.queries = [] :=
  List.filter_eq_nil_iff.mpr fun e he => by simp [Event.isQuery_of_inPush (h.inPush e he)]

theorem Sweep.queries {config : Replication} {retry : Bool} {rs : List Record}
    {done : List String} {st : RunStatus} {seg : Log}
    {res : Except Failure (Option RunState × List String)}
    (h : Sweep config retry rs done st seg res) : seg.queries = [] := by
  induction h with
  | nil => rfl
  | canceled ht => simp [ht.queries]
  | seen ht _ _ ih => simp [ht.queries, ih]
  | unread ht _ ht' => simp [ht.queries, ht'.queries]
  | stopped ht _ ht' hpush => simp [ht.queries, ht'.queries, hpush.queries]
  | pushed ht _ ht' hpush _ ih => simp [ht.queries, ht'.queries, hpush.queries, ih]

/-! ## Passes that did not stop -/

section Unstopped

variable {σ : Type} {c : Collaborators σ} {config : Replication} {s s' : Scene σ}

theorem replicate_answered {p : Option Predicate} {after : Option Stamp} {retry : Bool}
    {done done' : List String}
    (h : exec (replicate (observe c) config p after retry done) s = (.ok (none, done'), s')) :
    ∃ seg, s'.log = s.log ++ seg ∧ seg.Listed c.source.query := by
  unfold replicate at h
  obtain ⟨v, s₁, hask, h⟩ := bind_answered_inv h
  -- a failed query answers the state it stops the pass in
  rcases v with st | l
  · cases h
  obtain ⟨t, ht, hlog₁, w, w', hq⟩ := ask_answered_inv hask
  obtain ⟨⟨stopped, d⟩, s₂, hpush, h⟩ := bind_answered_inv h
  obtain ⟨sw, hlog₂, hsweep⟩ := pushAll_sweep config retry l.records done hpush
  dsimp only at h
  split at h
  · rename_i hs
    obtain ⟨hstop, -⟩ := Prod.mk.inj h
    cases hstop
    cases hs
  split at h
  · obtain ⟨-, rfl⟩ := Prod.mk.inj h
    refine ⟨t ++ [.call (.site .source (.query p after (.ok l)))] ++ sw, ?_,
      .around ht.queries (.single hq) hsweep.queries⟩
    rw [hlog₂, hlog₁]
    simp only [List.append_assoc]
  -- a listing that broke off ends the pass in the state its failure gives
  · obtain ⟨_, _, -, h⟩ := bind_answered_inv h
    obtain ⟨_, _, -, hpure⟩ := bind_answered_inv h
    cases hpure

theorem changes_answered {done : List String}
    (h : exec (changes (observe c) config done) s = (.ok none, s')) :
    ∃ seg, s'.log = s.log ++ seg ∧ seg.Listed c.source.query := by
  unfold changes watermark at h
  obtain ⟨mark, s₁, hmark, h₁⟩ := bind_answered_inv h
  obtain ⟨os, s₀, hos, hread⟩ := bind_answered_inv hmark
  obtain ⟨-, rfl⟩ := ofExcept_inv hread
  obtain ⟨t₁, ht₁, hlog₁⟩ := call_inv hos
  obtain ⟨base, s₂, hcond, h₂⟩ := bind_answered_inv h₁
  obtain ⟨-, rfl⟩ := ofExcept_inv hcond
  obtain ⟨⟨stopped, d⟩, s₃, hrep, h₃⟩ := bind_answered_inv h₂
  rw [exec_pure] at h₃
  obtain ⟨hstop, rfl⟩ := Prod.mk.inj h₃
  cases hstop
  obtain ⟨seg, hseg, hq⟩ := replicate_answered hrep
  refine ⟨t₁ ++ [.call (.store (.outcomes config.name (.ok os)))] ++ seg ++ [], ?_,
    .around (by simp [ht₁.queries, Event.isQuery]) hq rfl⟩
  rw [hseg, hlog₁]
  simp only [Function.comp_apply, List.append_assoc, List.append_nil]

theorem passes_answered (h : exec (passes (observe c) config) s = (.ok none, s')) :
    ∃ seg, s'.log = s.log ++ seg ∧ seg.Listed c.source.query := by
  obtain ⟨failed, pre, post, s₃, hpre, hpost, hlog₃, hrest⟩ := passes_unstopped_inv h
  obtain ⟨X, hlogX, hX⟩ : ∃ X : Log, s₃.log = s.log ++ X ∧ X.queries = [] :=
    ⟨_, hlog₃, by simp [hpre.queries, hpost.queries, Event.isQuery]⟩
  rcases hrest with ⟨-, hc⟩ | ⟨pred, retried, s₅, mid, s₆, -, hrep, hmid, hlog₆, hc⟩
  · obtain ⟨segc, hsegc, hqc⟩ := changes_answered hc
    exact ⟨X ++ segc ++ [], by rw [hsegc, hlogX]; simp, .around hX hqc rfl⟩
  · obtain ⟨segr, hsegr, hqr⟩ := replicate_answered hrep
    obtain ⟨segc, hsegc, hqc⟩ := changes_answered hc
    refine ⟨X ++ segr ++ mid ++ segc, ?_,
      Log.listed_append.mpr ⟨.around hX hqr hmid.queries, hqc⟩⟩
    rw [hsegc, hlog₆, hsegr, hlogX]
    simp only [List.append_assoc]

end Unstopped

/-! ## A run -/

theorem unstopped_of_counts {stopped : Option RunState} {log : Log} {st : RunStatus}
    {d : RunState} (hstop : stopped = log.verdict) (hstate : st.state = stopped.getD d)
    (hst : st.state.countsForWatermark = true) : stopped = none := by
  rcases hk : stopped with _ | k
  · rfl
  rw [hk] at hstate
  rcases Log.verdict_kind (hstop ▸ hk) with rfl | rfl <;>
    simp [hstate, RunState.countsForWatermark] at hst

/-- A run that returned a state counting for the watermark had each query of the source it asked
answered with a listing, one the source's query gives from some world: whatever the sites and
stores answered and wherever requests to stop arrived, no query failed. -/
theorem completed_run_had_every_query_answered {σ : Type} (c : Collaborators σ)
    (config : Replication) (s : Scene σ) {st : RunStatus}
    (h : (exec (sync (observe c) config) s).1 = .ok st)
    (hst : st.state.countsForWatermark = true) :
    ∃ run, (exec (sync (observe c) config) s).2.log = s.log ++ run ∧
      run.Listed c.source.query := by
  have h' : exec (sync (observe c) config) s =
      (.ok st, (exec (sync (observe c) config) s).2) := by
    rw [← h]
  obtain ⟨s₁, s₂, stopped, segp, b, hpass, -, hstop, ⟨t₁, tm₀, t₂, ht₁, ht₂, hlog₁, -⟩,
    t, t₁', tm, t₂', t₃', o, ht, ht₁', ht₂', ht₃', hst', -, hlog⟩ := sync_ok_inv h'
  obtain rfl := unstopped_of_counts hstop (by rw [hst']) hst
  obtain ⟨seg, hseg, hq⟩ := passes_answered hpass
  -- the start and the close of the run ask nothing of the source
  refine ⟨t₁ ++ [.clock tm₀] ++ t₂ ++
      [.status { RunStatus.fresh config.name with startTime := some tm₀, state := .running }] ++
      seg ++ (t ++ [.clear] ++ t₁' ++ [.clock tm] ++ t₂' ++ [.status st] ++ t₃' ++
        [.call (.store (.addOutcome o (.ok ())))]), ?_, .around ?_ hq ?_⟩
  · rw [hlog, hseg, hlog₁]
    simp only [List.append_assoc]
  · simp [ht₁.queries, ht₂.queries, Event.isQuery]
  · simp [ht.queries, ht₁'.queries, ht₂'.queries, ht₃'.queries, Event.isQuery]

theorem exists_ok_of_any {r : Except Failure RunStatus} {p : RunStatus → Bool}
    (h : r.toOption.any p = true) : ∃ st, r = .ok st ∧ p st = true := by
  rcases r with f | st
  · simp [Except.toOption] at h
  · exact ⟨st, rfl, by simpa [Except.toOption] using h⟩

end CatalogSync.Sync
