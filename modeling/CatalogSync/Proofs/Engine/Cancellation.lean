import CatalogSync.Proofs.Engine.Outcome

/-!
# Requests to stop

Another thread may ask a run to stop at any time (`Event.cancel`). The run looks at the request
at its checkpoints: when its passes begin, after it read the failure list, between the passes,
and before each record it takes from a listing. Wherever requests land, and whatever the sites
and stores answer:

* the first checkpoint after a request sees it, and after a checkpoint that saw a request no
  push begins and the destination is not called;
* a call to the destination after a request belongs to the one push that the last checkpoint
  before the request let through;
* a run that starts with a request standing makes no call but the one that adds its outcome,
  canceled with nothing counted;
* a run ends canceled exactly when a checkpoint saw a request before any other abort;
* a run drops the request once, after its last checkpoint: a request made before that is lost,
  one made after it stands, and the next run stops at its first checkpoint.

## Main statements

* `RunLog`, `sync_runLog`: the log of every run, split into its start, its passes and its
  close.
* `sync_canceled_at_start`: the whole log of a run that starts with a request standing.
* `requests_to_stop_are_honoured`: the points above, for every run.
-/

namespace CatalogSync.Sync

/-! ## Kinds of events -/

namespace Event

/-- Whether an event is a call to a collaborator. -/
def isCall : Event → Bool
  | .call _ => true
  | _ => false

/-- Whether an event begins a push: the read of the item of the record pushed. -/
def beginsPush : Event → Bool
  | .call (.store (.getItem ..)) => true
  | _ => false

/-- Whether an event is a call to the destination. -/
def callsDestination : Event → Bool
  | .call (.site .destination _) => true
  | _ => false

/-- Events a run has outside its passes, but for the clearing of the request to stop: requests
to stop, clock readings, status updates and the addition of an outcome to the history. None of
them looks at the request, drops it, or calls a site. -/
def aside : Event → Bool
  | .cancel | .clock _ | .status _ | .call (.store (.addOutcome ..)) => true
  | _ => false

theorem aside_of_isCheckpoint {e : Event} (h : e.isCheckpoint = true) : e.aside = false := by
  cases e <;> simp_all [isCheckpoint, aside]

theorem aside_of_callsDestination {e : Event} (h : e.callsDestination = true) :
    e.aside = false := by
  rcases e with _ | _ | _ | _ | _ | ⟨side, _⟩ | _
  case call.site => cases side <;> simp_all [callsDestination, aside]
  all_goals simp_all [callsDestination]

theorem aside_facts {e : Event} (h : e.aside = true) :
    e.isCheckpoint = false ∧ e.isClear = false ∧ e.beginsPush = false ∧
      e.callsDestination = false ∧ e.abort = none := by
  rcases e with _ | _ | _ | _ | _ | ⟨side, _⟩ | call
  case call.store => cases call <;> simp_all [aside, isCheckpoint, isClear, beginsPush, callsDestination, abort]
  all_goals simp_all [aside, isCheckpoint, isClear, beginsPush, callsDestination, abort]

theorem abort_eq_canceled {e : Event} : e.abort = some .canceled ↔ e = .checkpoint true := by
  rcases e with _ | seen | _ | _ | _ | ⟨side, call⟩ | _
  case checkpoint => cases seen <;> simp [abort]
  case call.site =>
    simp only [abort, reduceCtorEq, iff_false]
    unfold SiteCall.abort SiteCall.abort.lost
    split <;> (try split) <;> simp
  all_goals simp [abort]

end Event

theorem Log.Quiet.aside {t : Log} (ht : t.Quiet) : t.all Event.aside = true :=
  List.all_eq_true.mpr fun e he => by rw [ht e he]; rfl

theorem Log.Quiet.filter_isCall {t : Log} (ht : t.Quiet) : t.filter Event.isCall = [] :=
  List.filter_eq_nil_iff.mpr fun e he => by rw [ht e he]; simp [Event.isCall]

/-! ## The request to stop along a log -/

namespace Log

theorem foldl_request {m : Log} (hm : ∀ e ∈ m, e.isClear = false) (asked : Bool) :
    m.foldl Event.request asked = (asked || m.any Event.isCancel) := by
  induction m generalizing asked with
  | nil => simp
  | cons e m ih =>
    rw [List.foldl_cons, ih fun x hx => hm x (by simp [hx])]
    have he := hm e (by simp)
    cases e <;> simp_all [Event.request, Event.isCancel, Event.isClear]

theorem canceled_append_unclear {l m : Log} (hm : ∀ e ∈ m, e.isClear = false) :
    canceled (l ++ m) = (canceled l || m.any Event.isCancel) := by
  rw [canceled, List.foldl_append, foldl_request hm]
  rfl

theorem canceled_cancel {l m : Log} (hm : ∀ e ∈ m, e.isClear = false) :
    canceled (l ++ .cancel :: m) = true := by
  rw [canceled_append_unclear (fun x hx => ?_)]
  · simp [Event.isCancel]
  · rcases List.mem_cons.mp hx with rfl | hx
    · rfl
    · exact hm x hx

theorem canceled_clear {l m : Log} (hm : ∀ e ∈ m, e.isClear = false) :
    canceled (l ++ .clear :: m) = m.any Event.isCancel := by
  rw [canceled, List.foldl_append, List.foldl_cons, foldl_request hm]
  rfl

end Log

/-! ## Where an event stands in a split log -/

namespace Log

variable {p : Event → Bool}

theorem split_middle {P S Q A C : Log} {y : Event} (h : P ++ S ++ Q = A ++ y :: C)
    (hy : p y = true) (hP : ∀ e ∈ P, p e = false) (hQ : ∀ e ∈ Q, p e = false) :
    ∃ S₁ S₂, S = S₁ ++ y :: S₂ ∧ A = P ++ S₁ ∧ C = S₂ ++ Q := by
  have hyP : y ∉ P := fun hm => by simp [hP y hm] at hy
  have hyQ : y ∉ Q := fun hm => by simp [hQ y hm] at hy
  -- `y` stands after `P`
  obtain ⟨A', rfl, hA'⟩ : ∃ A', A = P ++ A' ∧ S ++ Q = A' ++ y :: C := by
    rw [List.append_assoc] at h
    rcases List.append_eq_append_iff.mp h with ⟨A', rfl, h'⟩ | ⟨c', rfl, h'⟩
    · exact ⟨A', rfl, h'⟩
    · rcases c' with _ | ⟨d, c''⟩
      · exact ⟨[], by simp, by simpa using h'.symm⟩
      · simp only [List.cons_append, List.cons.injEq] at h'
        exact absurd (by simp [h'.1]) hyP
  -- and before `Q`
  rcases List.append_eq_append_iff.mp hA' with ⟨s', rfl, h'⟩ | ⟨s', rfl, h'⟩
  · exact absurd (by simp [h']) hyQ
  · rcases s' with _ | ⟨d, s''⟩
    · simp only [List.nil_append] at h'
      exact absurd (by simp [← h']) hyQ
    · simp only [List.cons_append, List.cons.injEq] at h'
      obtain ⟨rfl, rfl⟩ := h'
      exact ⟨A', s'', rfl, rfl, rfl⟩

theorem split_before {L M A B : Log} {x y : Event} (h : L ++ y :: M = A ++ x :: B)
    (hy : p y = true) (hx : p x = false) (hB : ∀ e ∈ B, p e = false) :
    ∃ A₂, A = L ++ y :: A₂ ∧ M = A₂ ++ x :: B := by
  rcases List.append_eq_append_iff.mp h with ⟨a', rfl, h'⟩ | ⟨c', rfl, h'⟩
  · rcases a' with _ | ⟨d, a''⟩
    · simp only [List.nil_append, List.cons.injEq] at h'
      rw [h'.1, hx] at hy
      cases hy
    · simp only [List.cons_append, List.cons.injEq] at h'
      obtain ⟨rfl, rfl⟩ := h'
      exact ⟨a'', by simp, rfl⟩
  · rcases c' with _ | ⟨d, c''⟩
    · simp only [List.nil_append, List.cons.injEq] at h'
      rw [← h'.1, hx] at hy
      cases hy
    · simp only [List.cons_append, List.cons.injEq] at h'
      rw [hB y (by simp [h'.2])] at hy
      cases hy

theorem exists_first {B : Log} (h : ∃ x ∈ B, p x = true) :
    ∃ B₁ y B₂, B = B₁ ++ y :: B₂ ∧ p y = true ∧ ∀ e ∈ B₁, p e = false := by
  obtain ⟨y, hy⟩ := Option.isSome_iff_exists.mp (List.find?_isSome.mpr h)
  obtain ⟨hpy, B₁, B₂, rfl, hB₁⟩ := List.find?_eq_some_iff_append.mp hy
  exact ⟨B₁, y, B₂, rfl, hpy, fun e he => by simpa using hB₁ e he⟩

end Log

/-! ## The monitor around requests to stop -/

namespace Stage

theorem run_split {a b : Stage} {l₁ l₂ : Log} {e : Event} (h : a.run (l₁ ++ e :: l₂) = some b) :
    ∃ a₁ a₂, a.run l₁ = some a₁ ∧ a₁.next e = some a₂ ∧ a₂.run l₂ = some b := by
  rw [run_append, Option.bind_eq_some_iff] at h
  obtain ⟨a₁, h₁, h₂⟩ := h
  rw [run_cons, Option.bind_eq_some_iff] at h₂
  obtain ⟨a₂, h₂, h₃⟩ := h₂
  exact ⟨a₁, a₂, h₁, h₂, h₃⟩

theorem run_seen {a b : Stage} {l₁ l₂ : Log} (h : a.run (l₁ ++ .checkpoint true :: l₂) = some b) :
    Log.Quiet l₂ := by
  obtain ⟨a₁, a₂, -, h₁, h₂⟩ := run_split h
  have ha₂ : a₂ = .stopped .canceled := by
    rcases a₁ with _ | _ | _ | _ | k <;> simp [next] at h₁ <;> exact h₁.symm
  subst ha₂
  exact (run_stopped h₂).2

theorem run_unclear {a b : Stage} {l : Log} (h : a.run l = some b) : ∀ e ∈ l, e.isClear = false := by
  induction l generalizing a with
  | nil => simp
  | cons e rest ih =>
    rw [run_cons, Option.bind_eq_some_iff] at h
    obtain ⟨a', ha', hrest⟩ := h
    intro x hx
    rcases List.mem_cons.mp hx with rfl | hx
    · cases x <;> first | rfl | (rcases a with _ | _ | _ | _ | k <;> simp [next] at ha')
    · exact ih hrest x hx

theorem next_callsDestination {a b : Stage} {e : Event} (h : a.next e = some b)
    (he : e.callsDestination = true) : a = .pushing := by
  rcases e with _ | _ | _ | _ | _ | ⟨side, call⟩ | _
  case call.site =>
    cases side
    · simp [Event.callsDestination] at he
    rcases a with _ | _ | _ | _ | k
    case pushing => rfl
    all_goals cases call <;> simp [next, site, pushed] at h
  all_goals simp [Event.callsDestination] at he

theorem probed_cases (a : Stage) (ans : Except Failure Bool) :
    a.probed ans = a ∨ a.probed ans = .stopped .connectionLost := by
  rcases ans with _ | _ | _ <;> simp [probed]

theorem pushed_cases {α : Type} {a b : Stage} {ans : Except Failure α} (h : a.pushed ans = some b) :
    a = .pushing ∧ (b = .pushing ∨ b = .stopped .connectionLost) := by
  unfold pushed at h
  split at h
  · rename_i ha
    cases h
    exact ⟨ha, by split <;> simp⟩
  · cases h

theorem site_cases {a b : Stage} {side : Side} {call : SiteCall} (h : a.site side call = some b) :
    b = a ∨ b = .idle ∨ b = .stopped .connectionLost := by
  unfold site at h
  split at h
  · cases h
    exact (probed_cases a _).imp id .inr
  · split at h
    · cases h
      exact (probed_cases a _).imp id .inr
    · cases h
  · cases h
    split <;> simp
  all_goals first
    | cases h
    | obtain ⟨rfl, hb | hb⟩ := pushed_cases h <;> simp [hb]

theorem next_site {a b : Stage} {side : Side} {call : SiteCall}
    (h : a.next (.call (.site side call)) = some b) : a.site side call = some b := by
  rcases a with _ | _ | _ | _ | k <;> first | exact h | simp [next] at h

theorem next_store {a b : Stage} {call : StoreCall} (h : a.next (.call (.store call)) = some b) :
    a.store call = some b := by
  rcases a with _ | _ | _ | _ | k <;> first | exact h | simp [next] at h

theorem next_admitted {a : Stage} {e : Event} (h : a.next e = some .admitted) :
    e = .checkpoint false ∨ (a = .admitted ∧ e.isCheckpoint = false ∧ e.beginsPush = false) := by
  rcases e with _ | seen | _ | _ | _ | ⟨side, call⟩ | call
  case cancel => exact .inr ⟨(Option.some.inj h), rfl, rfl⟩
  case checkpoint => rcases a with _ | _ | _ | _ | k <;> cases seen <;> simp_all [next]
  case call.site =>
    rcases site_cases (next_site h) with hb | hb | hb
    · exact .inr ⟨hb.symm, rfl, rfl⟩
    · cases hb
    · cases hb
  case call.store =>
    have h' := next_store h
    cases call <;> simp [store] at h'
  all_goals rcases a with _ | _ | _ | _ | k <;> simp [next] at h

theorem next_pushing {a : Stage} {e : Event} (h : a.next e = some .pushing) :
    e.isCheckpoint = false ∧
      (a = .admitted ∧ e.beginsPush = true ∨ a = .pushing ∧ e.beginsPush = false) := by
  rcases e with _ | seen | _ | _ | _ | ⟨side, call⟩ | call
  case cancel => exact ⟨rfl, .inr ⟨Option.some.inj h, rfl⟩⟩
  case checkpoint => rcases a with _ | _ | _ | _ | k <;> cases seen <;> simp [next] at h
  case call.site =>
    rcases site_cases (next_site h) with hb | hb | hb
    · exact ⟨rfl, .inr ⟨hb.symm, rfl⟩⟩
    · cases hb
    · cases hb
  case call.store =>
    have h' := next_store h
    cases call <;> simp [store] at h' <;> simp [h', Event.isCheckpoint, Event.beginsPush]
  all_goals rcases a with _ | _ | _ | _ | k <;>
    simp [next, Event.isCheckpoint, Event.beginsPush] at h ⊢

end Stage

/-- The log since a checkpoint that let a record through, with no checkpoint since and `n`
pushes begun. -/
def Log.Admitted (n : Nat) (l : Log) : Prop :=
  ∃ l₁ l₂, l = l₁ ++ .checkpoint false :: l₂ ∧ (∀ e ∈ l₂, e.isCheckpoint = false) ∧
    l₂.countP Event.beginsPush = n

theorem Log.Admitted.checkpoint (l : Log) : (l ++ [Event.checkpoint false]).Admitted 0 :=
  ⟨l, [], rfl, by simp, rfl⟩

theorem Log.Admitted.snoc {n : Nat} {l : Log} {e : Event} (h : l.Admitted n)
    (he : e.isCheckpoint = false) : (l ++ [e]).Admitted (n + if e.beginsPush then 1 else 0) := by
  obtain ⟨l₁, l₂, rfl, hc, hn⟩ := h
  refine ⟨l₁, l₂ ++ [e], by simp, fun x hx => ?_, by simp [List.countP_append, hn]⟩
  rcases List.mem_append.mp hx with hx | hx
  · exact hc x hx
  · rw [List.mem_singleton.mp hx]
    exact he

namespace Stage

/-- What a log shows of the stage the monitor reaches on it: a checkpoint let a record through
and no push began since, or exactly one push began since. -/
def since : Stage → Log → Prop
  | .admitted, l => l.Admitted 0
  | .pushing, l => l.Admitted 1
  | _, _ => True

theorem since_next {a b : Stage} {l : Log} {e : Event} (hl : a.since l) (h : a.next e = some b) :
    b.since (l ++ [e]) := by
  cases b with
  | admitted =>
    show (l ++ [e]).Admitted 0
    rcases next_admitted h with rfl | ⟨rfl, hc, hp⟩
    · exact Log.Admitted.checkpoint l
    · simpa [hp] using Log.Admitted.snoc hl hc
  | pushing =>
    show (l ++ [e]).Admitted 1
    obtain ⟨hc, ⟨rfl, hp⟩ | ⟨rfl, hp⟩⟩ := next_pushing h
    · simpa [hp] using Log.Admitted.snoc hl hc
    · simpa [hp] using Log.Admitted.snoc hl hc
  | _ => trivial

theorem run_since {a b : Stage} (pre : Log) {l : Log} (hpre : a.since pre) (h : a.run l = some b) :
    b.since (pre ++ l) := by
  induction l generalizing a pre with
  | nil =>
    cases h
    simpa using hpre
  | cons e rest ih =>
    rw [run_cons, Option.bind_eq_some_iff] at h
    obtain ⟨a', ha', hrest⟩ := h
    simpa using ih _ (since_next hpre ha') hrest

theorem run_since_fresh {b : Stage} {l : Log} (h : Stage.fresh.run l = some b) : b.since l := by
  simpa using run_since (a := .fresh) [] trivial h

end Stage

/-! ## The log of a run -/

/-- The log `run` of a run of `sync`, split into its start `pre`, its passes `seg`, which the
monitor follows from `fresh` to `b`, and its close, which drops the request to stop once. -/
structure RunLog (run pre seg post₁ post₂ : Log) (b : Stage) : Prop where
  split : run = pre ++ seg ++ (post₁ ++ .clear :: post₂)
  start : pre.all Event.aside = true
  passes : Stage.fresh.run seg = some b
  beforeClear : post₁.all Event.aside = true
  afterClear : post₂.all Event.aside = true

section Split

variable {σ : Type} {c : Collaborators σ} {config : Replication} {s s' : Scene σ}

/-- Every run of `sync` has the shape of `RunLog`; its passes settle, and it ends canceled
exactly when they stopped at a request. -/
theorem sync_runLog {r : Except Failure RunStatus} (h : exec (sync (observe c) config) s = (r, s')) :
    ∃ run pre seg post₁ post₂ b passed, s'.log = s.log ++ run ∧
      RunLog run pre seg post₁ post₂ b ∧ Settles id passed seg b ∧
      (s'.log.status.state = .canceled ↔ passed = .ok (some .canceled)) := by
  obtain ⟨s₁, r₂, s₂, hstart, hpass, hclose⟩ := sync_inv h
  obtain ⟨-, t₁, tm, t₂, ht₁, ht₂, hlog₁⟩ := startRun_inv hstart
  obtain ⟨seg, b, hspan, hsettle⟩ := passes_settles (c := c) config s₁
  rw [hpass] at hspan hsettle
  have hcounts := passes_counts hlog₁ hspan
  have hpre : (t₁ ++ [Event.clock tm] ++ t₂ ++ [Event.status { RunStatus.fresh config.name with
      startTime := some tm, state := .running }]).all Event.aside = true := by
    simp [ht₁.aside, ht₂.aside, Event.aside]
  rcases r₂ with f | stopped
  · -- the passes failed: the status ends failed, or stays running
    obtain ⟨e, -, hfail⟩ := hclose
    obtain ⟨-, mid, t, ht, hlog, hmid⟩ := failRun_inv hcounts.state hfail
    have hstatus : s'.log.status = (s₂.log ++ mid).status := by
      rw [hlog, Log.status_append, ht.status]
      rfl
    have hmid' : mid.all Event.aside = true ∧ (s₂.log ++ mid).status.state ≠ .canceled := by
      split at hmid
      · obtain ⟨t₁', tm', t₂', failed, ht₁', ht₂', hfailed, rfl⟩ := hmid
        rw [RunStatus.fail_running _ _ hcounts.state] at hfailed
        refine ⟨by simp [ht₁'.aside, ht₂'.aside, Event.aside], ?_⟩
        rw [← List.append_assoc, Log.status_append]
        show failed.state ≠ .canceled
        rw [← Except.ok.inj hfailed]
        simp
      · subst hmid
        rw [List.append_nil, hcounts.state]
        simp
    refine ⟨_, _, seg, mid ++ t, [], b, .error f, ?_,
      ⟨rfl, hpre, hspan.stage, by simp [hmid'.1, ht.aside], rfl⟩, hsettle, ?_⟩
    · rw [hlog, hspan.log, hlog₁]
      simp only [List.append_assoc, List.cons_append, List.nil_append]
    · rw [hstatus]
      simp [hmid'.2]
  · -- the passes returned: the status is finished in the state they stopped in, if any
    obtain ⟨t, s₃, ht, hlog₃, hfin⟩ := hclose
    have hstatus₃ : s₃.log.status = s₂.log.status := by
      rw [hlog₃, Log.status_append, ht.status]
      rfl
    rw [← hstatus₃] at hcounts
    obtain ⟨hstop, -⟩ : stopped = b.ended.or seg.brokenTail ∧ _ := id hsettle
    rw [← Stage.run_findSome rfl hspan.stage] at hstop
    obtain ⟨t₁', tm', t₂', st, t₃', o, ans, ht₁', ht₂', ht₃', hst, -, hlog', -⟩ :=
      finishRun_inv hcounts.state (fun k hk => Log.verdict_kind (hstop ▸ hk)) hfin
    have hstatus : s'.log.status = st := by
      rw [hlog', Log.status_append, ht₃'.status, Log.status_append]
      rfl
    refine ⟨_, _, seg, t, t₁' ++ [.clock tm'] ++ t₂' ++ [.status st] ++ t₃' ++
      [.call (.store (.addOutcome o ans))], b, .ok stopped, ?_,
      ⟨rfl, hpre, hspan.stage, ht.aside, by simp [ht₁'.aside, ht₂'.aside, ht₃'.aside, Event.aside]⟩,
      hsettle, ?_⟩
    · rw [hlog', hlog₃, hspan.log, hlog₁]
      simp only [List.append_assoc, List.cons_append, List.nil_append]
    · rw [hstatus, hst]
      rcases stopped with _ | k
      · simp only [Option.getD_none, Except.ok.injEq, reduceCtorEq, iff_false]
        split <;> simp
      · simp

end Split

namespace RunLog

variable {run pre seg post₁ post₂ : Log} {b : Stage}

theorem aside_facts_of_all {l : Log} (hl : l.all Event.aside = true) {e : Event} (he : e ∈ l) :
    e.isCheckpoint = false ∧ e.isClear = false ∧ e.beginsPush = false ∧
      e.callsDestination = false ∧ e.abort = none :=
  Event.aside_facts (List.all_eq_true.mp hl e he)

theorem in_passes (hr : RunLog run pre seg post₁ post₂ b) {p : Event → Bool}
    (hp : ∀ e, p e = true → e.aside = false) (hclear : p .clear = false) {A C : Log} {y : Event}
    (h : run = A ++ y :: C) (hy : p y = true) :
    ∃ S₁ S₂, seg = S₁ ++ y :: S₂ ∧ A = pre ++ S₁ ∧ C = S₂ ++ (post₁ ++ .clear :: post₂) := by
  have hfree : ∀ l : Log, l.all Event.aside = true → ∀ e ∈ l, p e = false := fun l hl e he => by
    cases hpe : p e
    · rfl
    · have := hp e hpe
      rw [List.all_eq_true.mp hl e he] at this
      cases this
  refine Log.split_middle (by rw [← hr.split]; exact h) hy (hfree pre hr.start) fun e he => ?_
  simp only [List.mem_append, List.mem_cons] at he
  rcases he with he | rfl | he
  · exact hfree _ hr.beforeClear e he
  · exact hclear
  · exact hfree _ hr.afterClear e he

theorem look_sees (hr : RunLog run pre seg post₁ post₂ b) {l : Log} (hf : (l ++ run).Faithful)
    {A B C : Log} {seen : Bool} (h : run = A ++ .cancel :: B ++ .checkpoint seen :: C) :
    seen = true := by
  -- the look stands in the passes, so what came before it was no clearing
  obtain ⟨S₁, S₂, hseg, hA, -⟩ := hr.in_passes (p := Event.isCheckpoint)
    (fun _ he => Event.aside_of_isCheckpoint he) rfl h rfl
  have hB : ∀ e ∈ B, e.isClear = false := fun e he => by
    have hmem : e ∈ pre ++ S₁ := by rw [← hA]; simp [he]
    rcases List.mem_append.mp hmem with he | he
    · exact (aside_facts_of_all hr.start he).2.1
    · exact Stage.run_unclear hr.passes e (by rw [hseg]; simp [he])
  rw [hf (l ++ A ++ .cancel :: B) seen C (by rw [h]; simp), Log.canceled_cancel hB]

theorem quiet_after_seen (hr : RunLog run pre seg post₁ post₂ b) {A C : Log}
    (h : run = A ++ .checkpoint true :: C) :
    ∀ e ∈ C, e.beginsPush = false ∧ e.callsDestination = false := by
  obtain ⟨S₁, S₂, hseg, -, rfl⟩ := hr.in_passes (p := Event.isCheckpoint)
    (fun _ he => Event.aside_of_isCheckpoint he) rfl h rfl
  have hq := Stage.run_seen (hseg ▸ hr.passes)
  intro e he
  simp only [List.mem_append, List.mem_cons] at he
  rcases he with he | he | rfl | he
  · rw [hq e he]
    exact ⟨rfl, rfl⟩
  · exact ⟨(aside_facts_of_all hr.beforeClear he).2.2.1, (aside_facts_of_all hr.beforeClear he).2.2.2.1⟩
  · exact ⟨rfl, rfl⟩
  · exact ⟨(aside_facts_of_all hr.afterClear he).2.2.1, (aside_facts_of_all hr.afterClear he).2.2.2.1⟩

theorem destination_in_push (hr : RunLog run pre seg post₁ post₂ b) {l : Log}
    (hf : (l ++ run).Faithful) {A B C : Log} {e : Event} (h : run = A ++ .cancel :: B ++ e :: C)
    (he : e.callsDestination = true) :
    ∃ A₁ A₂, A = A₁ ++ .checkpoint false :: A₂ ∧ (∀ x ∈ A₂ ++ B, x.isCheckpoint = false) ∧
      (A₂ ++ B).countP Event.beginsPush = 1 := by
  -- a look between the request and the call would have seen it and ended the passes
  have hB : ∀ x ∈ B, x.isCheckpoint = false := by
    intro x hx
    cases hc : x.isCheckpoint
    · rfl
    obtain ⟨B₁, y, B₂, rfl, hy, -⟩ := Log.exists_first (p := Event.isCheckpoint) ⟨x, hx, hc⟩
    obtain ⟨seen, rfl⟩ : ∃ seen, y = .checkpoint seen := by
      cases y <;> simp_all [Event.isCheckpoint]
    have hsplit : run = A ++ .cancel :: B₁ ++ .checkpoint seen :: (B₂ ++ e :: C) := by
      rw [h]
      simp
    obtain rfl := hr.look_sees hf hsplit
    have hquiet := hr.quiet_after_seen hsplit e (by simp)
    rw [he] at hquiet
    exact absurd hquiet.2 (by simp)
  -- the call stands in the passes, during a push
  obtain ⟨S₁, S₂, hseg, hA, -⟩ := hr.in_passes (p := Event.callsDestination)
    (fun _ he => Event.aside_of_callsDestination he) rfl h he
  obtain ⟨a₁, a₂, h₁, h₂, -⟩ := Stage.run_split (hseg ▸ hr.passes)
  obtain rfl := Stage.next_callsDestination h₂ he
  obtain ⟨X₁, X₂, rfl, hX₂, hcount⟩ := Stage.run_since_fresh h₁
  -- the look that let the push's record through came before the request
  obtain ⟨A₂, rfl, hX⟩ := Log.split_before (p := Event.isCheckpoint) (x := .cancel)
    (y := .checkpoint false) (L := pre ++ X₁) (M := X₂) (by rw [hA]; simp) rfl rfl hB
  refine ⟨pre ++ X₁, A₂, rfl, fun x hx => hX₂ x ?_, ?_⟩
  · rw [hX]
    exact List.mem_append.mpr ((List.mem_append.mp hx).imp id (List.mem_cons_of_mem _))
  rw [hX] at hcount
  simpa [List.countP_append, Event.beginsPush] using hcount

theorem findSome_abort (hr : RunLog run pre seg post₁ post₂ b) :
    run.findSome? Event.abort = seg.findSome? Event.abort := by
  have hnone : ∀ l : Log, l.all Event.aside = true → l.findSome? Event.abort = none :=
    fun l hl => List.findSome?_eq_none_iff.mpr fun e he => (aside_facts_of_all hl he).2.2.2.2
  rw [hr.split, List.findSome?_append, List.findSome?_append, List.findSome?_append,
    hnone _ hr.start, List.findSome?_cons, hnone _ hr.beforeClear, hnone _ hr.afterClear]
  simp [Event.abort]

theorem stopped_canceled_iff (hr : RunLog run pre seg post₁ post₂ b)
    {passed : Except Failure (Option RunState)} (hsettle : Settles id passed seg b) :
    passed = .ok (some .canceled) ↔
      ∃ A C, run = A ++ .checkpoint true :: C ∧ ∀ e ∈ A, e.abort = none := by
  have hfirst : run.findSome? Event.abort = b.ended := by
    rw [hr.findSome_abort, Stage.run_findSome rfl hr.passes]
  have hlook : (∃ A C, run = A ++ .checkpoint true :: C ∧ ∀ e ∈ A, e.abort = none) ↔
      b.ended = some .canceled := by
    rw [← hfirst, List.findSome?_eq_some_iff]
    constructor
    · rintro ⟨A, C, hrun, hA⟩
      exact ⟨A, _, C, hrun, rfl, hA⟩
    · rintro ⟨A, e, C, hrun, he, hA⟩
      obtain rfl := Event.abort_eq_canceled.mp he
      exact ⟨A, C, hrun, hA⟩
  rw [hlook]
  rcases passed with f | stopped
  · have hb : b.ended = none := hsettle
    simp [hb]
  · obtain ⟨hstop, -⟩ : stopped = b.ended.or seg.brokenTail ∧ _ := hsettle
    rw [hstop]
    -- a broken listing ends the run with a lost connection, never canceled
    cases hb : b.ended with
    | some k => simp
    | none =>
      simp only [Option.none_or, Except.ok.injEq, reduceCtorEq, iff_false]
      unfold Log.brokenTail
      split <;> simp

theorem clears_once (hr : RunLog run pre seg post₁ post₂ b) (l : Log) :
    ∃ A B, run = A ++ .clear :: B ∧ (∀ e ∈ B, e.isCheckpoint = false ∧ e.isClear = false) ∧
      (l ++ run).canceled = B.any Event.isCancel := by
  have hB : ∀ e ∈ post₂, e.isCheckpoint = false ∧ e.isClear = false := fun e he =>
    ⟨(aside_facts_of_all hr.afterClear he).1, (aside_facts_of_all hr.afterClear he).2.1⟩
  refine ⟨pre ++ seg ++ post₁, post₂, by rw [hr.split]; simp, hB, ?_⟩
  rw [hr.split, show l ++ (pre ++ seg ++ (post₁ ++ .clear :: post₂)) =
    (l ++ pre ++ seg ++ post₁) ++ .clear :: post₂ by simp,
    Log.canceled_clear fun e he => (hB e he).2]

end RunLog

/-! ## A request standing at the start -/

section Start

variable {σ : Type} {c : Collaborators σ} {config : Replication} {s s' : Scene σ}

theorem passes_canceled (config : Replication) (hs : s.log.canceled = true) :
    (exec (passes (observe c) config) s).1 = .ok (some .canceled) ∧
      ∃ t, Log.Quiet t ∧ (exec (passes (observe c) config) s).2.log = s.log ++ t ++ [.checkpoint true] := by
  rcases hx : exec (passes (observe c) config) s with ⟨r, s''⟩
  unfold passes at hx
  obtain ⟨seen, s₁, hlook, hx⟩ := bind_ok_inv (fun _ _ h => by
    obtain ⟨_, _, hr, -⟩ := isCanceled_inv h
    exact ⟨_, hr⟩) hx
  obtain ⟨t, ht, hr, hlog⟩ := isCanceled_inv hlook
  -- requests to stop from elsewhere drop none
  have hseen : (s.log ++ t).canceled = true := by
    rw [Log.canceled_append_unclear fun e he => by rw [ht e he]; rfl, hs, Bool.true_or]
  rw [hseen] at hr hlog
  cases hr
  rw [if_pos rfl, exec_pure] at hx
  obtain ⟨rfl, rfl⟩ := Prod.mk.inj hx
  exact ⟨rfl, t, ht, hlog⟩

/-- A run that starts with a request standing: its first look sees it, it ends canceled, and its
only call adds a canceled outcome with nothing counted. -/
theorem sync_canceled_at_start {r : Except Failure RunStatus} (hs : s.log.canceled = true)
    (h : exec (sync (observe c) config) s = (r, s')) :
    ∃ run, s'.log = s.log ++ run ∧
      (∃ A C, run = A ++ .checkpoint true :: C ∧ ∀ e ∈ A, e.isCheckpoint = false) ∧
      s'.log.status.state = .canceled ∧
      ∃ o ans, run.filter Event.isCall = [.call (.store (.addOutcome o ans))] ∧
        o.state = .canceled ∧ o.pushCount = .int 0 ∧ o.pushFailCount = .int 0 ∧
        o.pushBytes = .int 0 := by
  obtain ⟨s₁, r₂, s₂, hstart, hpass, hclose⟩ := sync_inv h
  obtain ⟨-, t₁, tm, t₂, ht₁, ht₂, hlog₁⟩ := startRun_inv hstart
  -- the start drops no request
  have hs₁ : s₁.log.canceled = true := by
    rw [hlog₁, Log.canceled_append, Log.canceled_append_unclear fun e he => by rw [ht₂ e he]; rfl,
      Log.canceled_append, Log.canceled_append_unclear fun e he => by rw [ht₁ e he]; rfl, hs]
    rfl
  obtain ⟨hr₂, t, ht, hlog₂⟩ := passes_canceled (c := c) config hs₁
  rw [hpass] at hr₂ hlog₂
  cases hr₂
  obtain ⟨t', s₃, ht', hlog₃, hfin⟩ := hclose
  -- the status is still the one started: nothing was counted
  have hstatus₃ : s₃.log.status =
      { RunStatus.fresh config.name with startTime := some tm, state := .running } := by
    rw [hlog₃, Log.status_append, ht'.status, hlog₂, Log.status_append, ht.status, hlog₁,
      Log.status_append]
    rfl
  obtain ⟨t₁', tm', t₂', st, t₃', o, ans, ht₁', ht₂', ht₃', hst, hof, hlog', -⟩ :=
    finishRun_inv (by rw [hstatus₃]) (fun k hk => .inr (Option.some.inj hk).symm) hfin
  rw [hstatus₃] at hst
  obtain ⟨ho₁, ho₂, ho₃, ho₄, -⟩ := RunOutcome.ofStatus_fields hof
  refine ⟨t₁ ++ [.clock tm] ++ t₂ ++ [.status { RunStatus.fresh config.name with
      startTime := some tm, state := .running }] ++ t ++ [.checkpoint true] ++ t' ++ [.clear] ++
      t₁' ++ [.clock tm'] ++ t₂' ++ [.status st] ++ t₃' ++ [.call (.store (.addOutcome o ans))],
    ?_, ⟨t₁ ++ [.clock tm] ++ t₂ ++ [.status { RunStatus.fresh config.name with
      startTime := some tm, state := .running }] ++ t, t' ++ [.clear] ++ t₁' ++ [.clock tm'] ++ t₂' ++
      [.status st] ++ t₃' ++ [.call (.store (.addOutcome o ans))], by simp, ?_⟩, ?_, o, ans, ?_, ?_⟩
  · rw [hlog', hlog₃, hlog₂, hlog₁]
    simp only [List.append_assoc]
  · intro e he
    simp only [List.mem_append, List.mem_singleton] at he
    rcases he with (((he | rfl) | he) | rfl) | he
    all_goals first | rfl | rw [ht₁ e he] | rw [ht₂ e he] | rw [ht e he]
    all_goals rfl
  · rw [hlog', Log.status_append, ht₃'.status, Log.status_append, hst]
    rfl
  · simp [List.filter_append, ht₁.filter_isCall, ht₂.filter_isCall, ht.filter_isCall,
      ht'.filter_isCall, ht₁'.filter_isCall, ht₂'.filter_isCall, ht₃'.filter_isCall, Event.isCall]
  · rw [ho₁, ho₂, ho₃, ho₄, hst]
    exact ⟨rfl, rfl, rfl, rfl⟩

end Start

/-! ## Every run -/

/-- Whatever the sites and stores answer and wherever requests to stop land, a run of `sync`
honours them. Every look at the request after a request sees it, and after such a look no
push begins and the destination is not called. A call to the destination after a request
belongs to the push that the last look before the request let through: no look came between,
and exactly one push began. A run that starts with a request standing sees it at its first look,
ends canceled, and its only call adds a canceled outcome with nothing counted. A run ends
canceled exactly when a look saw a request before any other abort. The run drops the request
once, after its last look: the requests standing at its end are those made since, and by the
first of these points the next run stops at its first look. -/
theorem requests_to_stop_are_honoured {σ : Type} (c : Collaborators σ) (config : Replication)
    {s s' : Scene σ} {r : Except Failure RunStatus}
    (h : exec (sync (observe c) config) s = (r, s')) :
    ∃ run, s'.log = s.log ++ run ∧
      (∀ A B seen C, run = A ++ .cancel :: B ++ .checkpoint seen :: C →
        seen = true ∧ ∀ e ∈ C, e.beginsPush = false ∧ e.callsDestination = false) ∧
      (∀ A B e C, run = A ++ .cancel :: B ++ e :: C → e.callsDestination = true →
        ∃ A₁ A₂, A = A₁ ++ .checkpoint false :: A₂ ∧
          (∀ x ∈ A₂ ++ B, x.isCheckpoint = false) ∧ (A₂ ++ B).countP Event.beginsPush = 1) ∧
      (s.log.canceled = true →
        (∃ A C, run = A ++ .checkpoint true :: C ∧ ∀ e ∈ A, e.isCheckpoint = false) ∧
        s'.log.status.state = .canceled ∧
        ∃ o ans, run.filter Event.isCall = [.call (.store (.addOutcome o ans))] ∧
          o.state = .canceled ∧ o.pushCount = .int 0 ∧ o.pushFailCount = .int 0 ∧
          o.pushBytes = .int 0) ∧
      (s'.log.status.state = .canceled ↔
        ∃ A C, run = A ++ .checkpoint true :: C ∧ ∀ e ∈ A, e.abort = none) ∧
      ∃ A B, run = A ++ .clear :: B ∧ (∀ e ∈ B, e.isCheckpoint = false ∧ e.isClear = false) ∧
        s'.log.canceled = B.any Event.isCancel := by
  obtain ⟨run, pre, seg, post₁, post₂, b, passed, hlog, hr, hsettle, hstate⟩ := sync_runLog h
  have hf : (s.log ++ run).Faithful := hlog ▸ s'.faithful
  refine ⟨run, hlog, fun A B seen C hsplit => ?_,
    fun A B e C hsplit he => hr.destination_in_push hf hsplit he, fun hs => ?_, ?_, ?_⟩
  · obtain rfl := hr.look_sees hf hsplit
    exact ⟨rfl, hr.quiet_after_seen (A := A ++ .cancel :: B) hsplit⟩
  · obtain ⟨run', hlog', hfirst, hcanceled, hcalls⟩ := sync_canceled_at_start hs h
    obtain rfl : run' = run := List.append_cancel_left (hlog'.symm.trans hlog)
    exact ⟨hfirst, hcanceled, hcalls⟩
  · rw [hstate, hr.stopped_canceled_iff hsettle]
  · obtain ⟨A, B, hsplit, hB, hcanceled⟩ := hr.clears_once s.log
    exact ⟨A, B, hsplit, hB, by rw [hlog, hcanceled]⟩

/-- The scene of a run asked to stop before it starts. -/
def Scene.requested : Scene Unit where
  world := ()
  log := [.cancel]
  faithful := fun pre _ _ h => by
    rcases pre with _ | ⟨x, _ | ⟨y, rest⟩⟩ <;> simp at h

/-- A run among idle collaborators asked to stop before it starts ends canceled. -/
theorem requested_idle_run_cancels :
    (exec (sync (observe .idle) .sample) Scene.requested).2.log.status.state = .canceled := by
  have h : exec (sync (observe .idle) .sample) Scene.requested =
      ((exec (sync (observe .idle) .sample) Scene.requested).1,
        (exec (sync (observe .idle) .sample) Scene.requested).2) := rfl
  obtain ⟨_, -, -, -, hstart, -⟩ := requests_to_stop_are_honoured .idle .sample h
  exact (hstart rfl).2.1

end CatalogSync.Sync
