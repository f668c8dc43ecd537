import CatalogSync.Proofs.Engine.PushLog

/-!
# What a computation adds to the log

`Adds ok x` says that every run of `x`, whatever scene it starts in and whatever the
collaborators answer, only adds events that `ok` accepts to the log. It is built like the
computation: one rule for `pure`, `throw`, `ofExcept`, `bind` and `tryCatch`, one for a call to a
collaborator and one for each step of the run itself. Frames of this kind say what a part of the
engine never does: a replication of metadata only never moves content, a push never queries the
source.

The steps of a pass are walked here once for every such frame: a failed query ends in a probe
of the source or nothing (`sourceFailure_adds`), a sweep only looks at the request to stop and
pushes (`pushAll_adds`), and a pass asks its one query and then only sweeps and probes
(`ask_after_query`, `replicate_after_query`). A push reads its item and then does what
`PushLog` allows (`push_adds`), and the steps that open and close a run only read the clock, set
the status, drop the request to stop and add the outcome (`startRun_adds`, `failRun_adds`,
`finishRun_adds`).
-/

namespace CatalogSync.Sync

variable {σ α β : Type}

/-! ## What a computation adds to the log -/

/-- Every run of `x`, whatever scene it starts in, adds only events that `ok` accepts. -/
def Adds (ok : Event → Bool) (x : Run σ α) : Prop :=
  ∀ s, ∃ seg, (exec x s).2.log = s.log ++ seg ∧ ∀ e ∈ seg, ok e = true

namespace Adds

variable {ok : Event → Bool}

theorem exec_log {x : Run σ α} (hx : Adds ok x) {s s' : Scene σ} {r : Except Failure α}
    (h : exec x s = (r, s')) : ∃ seg, s'.log = s.log ++ seg ∧ ∀ e ∈ seg, ok e = true := by
  obtain ⟨seg, hlog, hseg⟩ := hx s
  rw [h] at hlog
  exact ⟨seg, hlog, hseg⟩

theorem pure (v : α) : Adds ok (Pure.pure v : Run σ α) :=
  fun _ => ⟨[], by simp, by simp⟩

theorem throw (e : Failure) : Adds ok (throwThe Failure e : Run σ α) :=
  fun _ => ⟨[], by simp, by simp⟩

theorem ofExcept (r : Except Failure α) : Adds ok (MonadExcept.ofExcept r : Run σ α) :=
  fun _ => ⟨[], by simp, by simp⟩

theorem bind {x : Run σ α} {f : α → Run σ β} (hx : Adds ok x) (hf : ∀ v, Adds ok (f v)) :
    Adds ok (x >>= f) := by
  intro s
  obtain ⟨seg, hlog, hseg⟩ := hx s
  rw [exec_bind]
  rcases hxs : exec x s with ⟨e | v, s₁⟩ <;> rw [hxs] at hlog
  · exact ⟨seg, hlog, hseg⟩
  · obtain ⟨seg', hlog', hseg'⟩ := hf v s₁
    refine ⟨seg ++ seg', by rw [hlog', hlog, List.append_assoc], fun e he => ?_⟩
    rcases List.mem_append.mp he with he | he
    · exact hseg e he
    · exact hseg' e he

theorem tryCatch {x : Run σ α} {h : Failure → Run σ α} (hx : Adds ok x)
    (hh : ∀ e, Adds ok (h e)) : Adds ok (tryCatchThe Failure x h) := by
  intro s
  obtain ⟨seg, hlog, hseg⟩ := hx s
  rw [exec_tryCatch]
  rcases hxs : exec x s with ⟨e | v, s₁⟩ <;> rw [hxs] at hlog
  · obtain ⟨seg', hlog', hseg'⟩ := hh e s₁
    refine ⟨seg ++ seg', by rw [hlog', hlog, List.append_assoc], fun e he => ?_⟩
    rcases List.mem_append.mp he with he | he
    · exact hseg e he
    · exact hseg' e he
  · exact ⟨seg, hlog, hseg⟩

variable {c : Collaborators σ}

theorem quiet_then_all (hq : ok .cancel = true) {t seg : Log} (ht : t.Quiet) {e : Event}
    (he : ok e = true) (hseg : ∀ x ∈ seg, ok x = true) : ∀ x ∈ t ++ [e] ++ seg, ok x = true :=
  fun x hx => by
    simp only [List.mem_append, List.mem_singleton] at hx
    rcases hx with (hx | rfl) | hx
    · rw [ht x hx]; exact hq
    · exact he
    · exact hseg x hx

theorem quiet_then (hq : ok .cancel = true) {t : Log} (ht : t.Quiet) {e : Event}
    (he : ok e = true) : ∀ x ∈ t ++ [e], ok x = true := fun x hx => by
  rcases List.mem_append.mp hx with hx | hx
  · rw [ht x hx]; exact hq
  · rw [List.mem_singleton.mp hx]; exact he

theorem call (hq : ok .cancel = true) {x : Op σ α} {logged : Except Failure α → Call}
    (hl : ∀ r, ok (.call (logged r)) = true) : Adds ok (Run.call c x logged) := fun s => by
  rcases hx : exec (Run.call c x logged) s with ⟨r, s'⟩
  obtain ⟨t, ht, hlog⟩ := call_inv hx
  exact ⟨_, by rw [hlog, List.append_assoc], quiet_then hq ht (hl _)⟩

theorem now (hq : ok .cancel = true) (hclock : ∀ tm, ok (.clock tm) = true) :
    Adds ok (observe c).control.now := fun s => by
  rcases hx : exec (observe c).control.now s with ⟨r, s'⟩
  obtain ⟨t, tm, ht, -, hlog⟩ := now_inv hx
  exact ⟨_, by rw [hlog, List.append_assoc], quiet_then hq ht (hclock tm)⟩

theorem isCanceled (hq : ok .cancel = true) (hlook : ∀ seen, ok (.checkpoint seen) = true) :
    Adds ok (observe c).control.isCanceled := fun s => by
  rcases hx : exec (observe c).control.isCanceled s with ⟨r, s'⟩
  obtain ⟨t, ht, -, hlog⟩ := isCanceled_inv hx
  exact ⟨_, by rw [hlog, List.append_assoc], quiet_then hq ht (hlook _)⟩

theorem clearCanceled (hq : ok .cancel = true) (hclear : ok .clear = true) :
    Adds ok (observe c).control.clearCanceled := fun s => by
  rcases hx : exec (observe c).control.clearCanceled s with ⟨r, s'⟩
  obtain ⟨t, ht, -, hlog⟩ := clearCanceled_inv hx
  exact ⟨_, by rw [hlog, List.append_assoc], quiet_then hq ht hclear⟩

theorem status (hq : ok .cancel = true) : Adds ok (observe c).control.status := fun s => by
  rcases hx : exec (observe c).control.status s with ⟨r, s'⟩
  obtain ⟨t, ht, -, hlog⟩ := status_inv hx
  exact ⟨t, hlog, fun x hx => by rw [ht x hx]; exact hq⟩

theorem setStatus (hq : ok .cancel = true) {st : RunStatus} (hst : ok (.status st) = true) :
    Adds ok ((observe c).control.setStatus st) := fun s => by
  rcases hx : exec ((observe c).control.setStatus st) s with ⟨r, s'⟩
  obtain ⟨t, ht, -, hlog⟩ := setStatus_inv hx
  exact ⟨_, by rw [hlog, List.append_assoc], quiet_then hq ht hst⟩

end Adds

/-! ## The steps of a pass -/

section Pass

variable {c : Collaborators σ} {config : Replication} {ok : Event → Bool}
  (hq : ok .cancel = true)
include hq

/-- How a failed query ends: a probe of the source, or nothing. -/
theorem sourceFailure_adds (hprobe : ∀ a, ok (.call (.site .source (.isAvailable a))) = true)
    (f : Failure) : Adds ok (sourceFailure (observe c) f) := by
  unfold sourceFailure
  split
  · exact .pure _
  refine Adds.bind ?_ fun _ => ?_
  · exact Adds.call hq fun a => hprobe a
  split
  · exact .pure _
  · exact .throw _

/-- A sweep looks at the request to stop before each record and pushes. -/
theorem pushAll_adds (hlook : ∀ seen, ok (.checkpoint seen) = true) {retry : Bool}
    (hpush : ∀ r, Adds ok (push (observe c) config retry r)) (rs : List Record) :
    ∀ done, Adds ok (pushAll (observe c) config retry rs done) := by
  induction rs with
  | nil => exact fun _ => .pure _
  | cons r rest ih =>
    intro done
    unfold pushAll
    refine (Adds.isCanceled hq hlook).bind fun _ => ?_
    split
    · exact .pure _
    split
    · exact ih done
    refine (hpush r).bind fun stopped => ?_
    split
    · exact .pure _
    · exact ih _

variable {s s' : Scene σ}

/-- Asking the source: its query, and after a failed one the end the failure brings. -/
theorem ask_after_query (hprobe : ∀ a, ok (.call (.site .source (.isAvailable a))) = true)
    {p : Option Predicate} {after : Option Stamp} {a : Except Failure (Except RunState Listing)}
    (h : exec (ask (observe c) p after) s = (a, s')) :
    ∃ t ans seg, t.Quiet ∧
      s'.log = s.log ++ t ++ [.call (.site .source (.query p after ans))] ++ seg ∧
      ∀ e ∈ seg, ok e = true := by
  unfold ask at h
  rcases tryCatch_inv h with ⟨v, hv, -⟩ | ⟨f, s₁, hv, hf⟩
  · obtain ⟨t, ans, ht, hlog, -⟩ := call_pure_inv hv
    exact ⟨t, ans, [], ht, by simpa using hlog, by simp⟩
  obtain ⟨t, ans, ht, hlog, -⟩ := call_pure_inv hv
  -- the failure lost the link, failed at the node or is raised
  obtain ⟨seg, hseg, hok⟩ : ∃ seg, s'.log = s₁.log ++ seg ∧ ∀ e ∈ seg, ok e = true := by
    refine Adds.exec_log ?_ hf
    split
    · exact .pure _
    split
    · exact (sourceFailure_adds hq hprobe f).bind fun _ => .pure _
    · exact .throw _
  exact ⟨t, ans, seg, ht, by rw [hseg, hlog]; simp, hok⟩

/-- A pass asks its one query; after it, it only sweeps the listing and meets the end a failure
brings. -/
theorem replicate_after_query (hlook : ∀ seen, ok (.checkpoint seen) = true)
    (hprobe : ∀ a, ok (.call (.site .source (.isAvailable a))) = true) {retry : Bool}
    (hpush : ∀ r, Adds ok (push (observe c) config retry r)) {p : Option Predicate}
    {after : Option Stamp} {done : List String}
    {res : Except Failure (Option RunState × List String)}
    (h : exec (replicate (observe c) config p after retry done) s = (res, s')) :
    ∃ t ans seg, t.Quiet ∧
      s'.log = s.log ++ t ++ [.call (.site .source (.query p after ans))] ++ seg ∧
      ∀ e ∈ seg, ok e = true := by
  unfold replicate at h
  obtain ⟨a, s₁, hask, h⟩ := bind_exec h
  obtain ⟨t, ans, seg₁, ht, hlog₁, hok₁⟩ := ask_after_query hq hprobe hask
  obtain ⟨seg₂, hlog₂, hok₂⟩ : ∃ seg, s'.log = s₁.log ++ seg ∧ ∀ e ∈ seg, ok e = true := by
    refine Adds.exec_log ((Adds.ofExcept a).bind fun v => ?_) h
    split
    · exact .pure _
    refine (pushAll_adds hq hlook hpush _ done).bind fun _ => ?_
    split
    split
    · exact .pure _
    -- a listing broken off by a failure ends as that failure says
    split
    · exact .pure _
    exact (Adds.ofExcept _).bind fun g => (sourceFailure_adds hq hprobe g).bind fun _ => .pure _
  refine ⟨t, ans, seg₁ ++ seg₂, ht, by rw [hlog₂, hlog₁]; simp, fun e he => ?_⟩
  rcases List.mem_append.mp he with he | he
  · exact hok₁ e he
  · exact hok₂ e he

end Pass

/-! ## A push, and the steps around the passes -/

section Steps

variable {c : Collaborators σ} {config : Replication} {ok : Event → Bool}
  (hq : ok .cancel = true)
include hq

/-- A push adds the read of its item and what a push does after it. -/
theorem push_adds (hitem : ∀ r a, ok (config.readsItem r a) = true)
    (hin : ∀ e, e.inPush = true → ok e = true) (retry : Bool) (r : Record) :
    Adds ok (push (observe c) config retry r) := fun s => by
  rcases hx : exec (push (observe c) config retry r) s with ⟨res, s'⟩
  obtain ⟨t, ans, rest, ht, hlog, -, hrest⟩ := push_log config retry r hx
  refine ⟨t ++ [config.readsItem r ans] ++ rest, by rw [hlog]; simp only [List.append_assoc],
    Adds.quiet_then_all hq ht (hitem r ans) fun e he => ?_⟩
  rcases ans with _ | stored
  · rw [hrest.1] at he
    cases he
  · exact hin e (hrest.inPush e he)

variable (hclock : ∀ tm, ok (.clock tm) = true) (hstatus : ∀ st, ok (.status st) = true)
include hclock hstatus

theorem startRun_adds : Adds ok (startRun (observe c) config) := by
  unfold startRun
  exact (Adds.now hq hclock).bind fun _ => (Adds.ofExcept _).bind fun _ =>
    Adds.setStatus hq (hstatus _)

theorem failRun_adds (hclear : ok .clear = true) (f : Failure) :
    Adds ok (failRun (observe c) f : Run σ α) := by
  unfold failRun
  split
  · exact (Adds.status hq).bind fun _ => (Adds.now hq hclock).bind fun _ =>
      (Adds.ofExcept _).bind fun _ => (Adds.setStatus hq (hstatus _)).bind fun _ =>
        (Adds.clearCanceled hq hclear).bind fun _ => .throw _
  · exact (Adds.clearCanceled hq hclear).bind fun _ => .throw _

theorem finishRun_adds (hadd : ∀ o a, ok (.call (.store (.addOutcome o a))) = true)
    (stopped : Option RunState) : Adds ok (finishRun (observe c) config stopped) := by
  unfold finishRun
  exact (Adds.status hq).bind fun _ => (Adds.now hq hclock).bind fun _ =>
    (Adds.ofExcept _).bind fun _ => (Adds.setStatus hq (hstatus _)).bind fun _ =>
      (Adds.ofExcept _).bind fun o => (Adds.call hq fun a => hadd o a).bind fun _ => .pure _

end Steps

end CatalogSync.Sync
