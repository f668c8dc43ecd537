import CatalogSync.Proofs.Engine.Stage

/-!
# Following a computation of the passes

`Moves a x Q` says that every run of `x`, whatever scene it starts in, is a `Span` from stage
`a` whose answer, events and end stage satisfy `Q`. Because it quantifies over every scene,
the answers of the collaborators are arbitrary in it: a proof about `Moves` holds for every
behaviour of the sites and stores.

The rules below follow the shape of a computation: `pure`, `throw`, `bind`, `tryCatch`, and
one rule for each observed operation. A proof about a function of the engine applies them in
the order of its code, splitting where the code branches.
-/

namespace CatalogSync.Sync

variable {σ α β : Type}

/-- Every run of `x` is a span from stage `a` whose answer, events and end stage satisfy
`Q`. -/
def Moves (a : Stage) (x : Run σ α) (Q : Except Failure α → Log → Stage → Prop) : Prop :=
  ∀ s, ∃ seg b, Span s (exec x s).2 seg a b ∧ Q (exec x s).1 seg b

namespace Moves

variable {a : Stage} {Q : Except Failure β → Log → Stage → Prop}

theorem pure {v : β} (h : Q (.ok v) [] a) : Moves a (Pure.pure v : Run σ β) Q :=
  fun s => ⟨[], a, Span.rfl' s a, h⟩

theorem throw {e : Failure} (h : Q (.error e) [] a) : Moves a (throwThe Failure e : Run σ β) Q :=
  fun s => ⟨[], a, Span.rfl' s a, h⟩

theorem ofExcept {r : Except Failure β} (h : Q r [] a) : Moves a (MonadExcept.ofExcept r : Run σ β) Q :=
  fun s => ⟨[], a, by rw [exec_ofExcept]; exact Span.rfl' s a, by rw [exec_ofExcept]; exact h⟩

theorem bind {x : Run σ α} {f : α → Run σ β} {R : Except Failure α → Log → Stage → Prop}
    (hx : Moves a x R)
    (hf : ∀ v seg b, R (.ok v) seg b → Moves b (f v) fun r seg' c => Q r (seg ++ seg') c)
    (he : ∀ e seg b, R (.error e) seg b → Q (.error e) seg b) : Moves a (x >>= f) Q := by
  intro s
  obtain ⟨seg, b, hspan, hr⟩ := hx s
  rw [exec_bind]
  rcases hxs : exec x s with ⟨e | v, s₁⟩ <;> rw [hxs] at hspan hr
  · exact ⟨seg, b, hspan, he e seg b hr⟩
  · obtain ⟨seg', c, hspan', hq⟩ := hf v seg b hr s₁
    exact ⟨seg ++ seg', c, hspan.trans hspan', hq⟩

theorem tryCatch {x : Run σ β} {h : Failure → Run σ β} {R : Except Failure β → Log → Stage → Prop}
    (hx : Moves a x R) (hv : ∀ v seg b, R (.ok v) seg b → Q (.ok v) seg b)
    (he : ∀ e seg b, R (.error e) seg b → Moves b (h e) fun r seg' c => Q r (seg ++ seg') c) :
    Moves a (tryCatchThe Failure x h) Q := by
  intro s
  obtain ⟨seg, b, hspan, hr⟩ := hx s
  rw [exec_tryCatch]
  rcases hxs : exec x s with ⟨e | v, s₁⟩ <;> rw [hxs] at hspan hr
  · obtain ⟨seg', c, hspan', hq⟩ := he e seg b hr s₁
    exact ⟨seg ++ seg', c, hspan.trans hspan', hq⟩
  · exact ⟨seg, b, hspan, hv v seg b hr⟩

theorem throw_bind {e : Failure} {f : α → Run σ β} (h : Q (.error e) [] a) :
    Moves a (throwThe Failure e >>= f) Q := fun s => by
  have hrun : exec (throwThe Failure e >>= f) s = (.error e, s) := by
    rw [exec_bind, exec_throw]
  rw [hrun]
  exact ⟨[], a, Span.rfl' s a, h⟩

theorem mono {x : Run σ β} {R : Except Failure β → Log → Stage → Prop} (hx : Moves a x R)
    (h : ∀ r seg b, R r seg b → Q r seg b) : Moves a x Q := fun s => by
  obtain ⟨seg, b, hspan, hr⟩ := hx s
  exact ⟨seg, b, hspan, h _ _ _ hr⟩

theorem exec_log {x : Run σ β} (hx : Moves a x Q) {s s' : Scene σ} {r : Except Failure β}
    (h : exec x s = (r, s')) : ∃ seg b, s'.log = s.log ++ seg ∧ a.run seg = some b ∧ Q r seg b := by
  obtain ⟨seg, b, hspan, hq⟩ := hx s
  rw [h] at hspan hq
  exact ⟨seg, b, hspan.log, hspan.stage, hq⟩

theorem withRun {x : Run σ β} (hx : Moves a x Q) :
    Moves a x fun r seg b => Q r seg b ∧ a.run seg = some b := fun s => by
  obtain ⟨seg, b, hspan, hq⟩ := hx s
  exact ⟨seg, b, hspan, hq, hspan.stage⟩

variable {c : Collaborators σ}

theorem call {x : Op σ β} {logged : Except Failure β → Call}
    (h : ∀ r t, Log.Quiet t → ∃ b, a.next (.call (logged r)) = some b ∧
      Q r (t ++ [.call (logged r)]) b) :
    Moves a (Run.call c x logged) Q := fun s => by
  rcases hx : exec (Run.call c x logged) s with ⟨r, s'⟩
  obtain ⟨t, ht, hlog⟩ := call_inv hx
  obtain ⟨b, hb, hq⟩ := h r t ht
  refine ⟨_, b, ⟨by rw [hlog, List.append_assoc], ?_, ?_⟩, hq⟩
  · rw [Stage.run_append, Stage.run_quiet ht]
    simpa using hb
  · rw [hlog, Log.status_append, ht.status]
    exact .refl _

theorem isCanceled {Q : Except Failure Bool → Log → Stage → Prop}
    (h : ∀ seen t, Log.Quiet t → ∃ b, a.next (.checkpoint seen) = some b ∧
      Q (.ok seen) (t ++ [.checkpoint seen]) b) :
    Moves a (observe c).control.isCanceled Q := fun s => by
  rcases hx : exec (observe c).control.isCanceled s with ⟨r, s'⟩
  obtain ⟨t, ht, rfl, hlog⟩ := isCanceled_inv hx
  obtain ⟨b, hb, hq⟩ := h _ t ht
  refine ⟨_, b, ⟨by rw [hlog, List.append_assoc], ?_, ?_⟩, hq⟩
  · rw [Stage.run_append, Stage.run_quiet ht]
    simpa using hb
  · rw [hlog, Log.status_append, ht.status]
    exact .refl _

theorem recount {f : RunStatus → RunStatus} (hf : ∀ st, RunStatus.Counts st (f st)) {k : Unit → Run σ β}
    (hk : ∀ st t, Log.Quiet t → ∃ b, a.next (.status (f st)) = some b ∧
      Moves b (k ()) fun r seg c => Q r (t ++ [.status (f st)] ++ seg) c) :
    Moves a ((observe c).control.status >>= fun st =>
      (observe c).control.setStatus (f st) >>= k) Q := fun s => by
  rw [exec_bind]
  rcases hs₁ : exec (observe c).control.status s with ⟨r₁, s₁⟩
  obtain ⟨t₁, ht₁, rfl, hlog₁⟩ := status_inv hs₁
  dsimp only
  rw [exec_bind]
  rcases hs₂ : exec ((observe c).control.setStatus (f s.log.status)) s₁ with ⟨r₂, s₂⟩
  obtain ⟨t₂, ht₂, rfl, hlog₂⟩ := setStatus_inv hs₂
  have ht : Log.Quiet (t₁ ++ t₂) := ht₁.append ht₂
  obtain ⟨b, hb, hk'⟩ := hk s.log.status (t₁ ++ t₂) ht
  obtain ⟨seg, c', hspan, hq⟩ := hk' s₂
  refine ⟨_, c', Span.trans ⟨?_, ?_, ?_⟩ hspan, hq⟩
  · simp [hlog₂, hlog₁]
  · rw [Stage.run_append, Stage.run_quiet ht]
    simpa using hb
  · rw [hlog₂, Log.status_append, ht₂.status, hlog₁, ht₁.status]
    exact hf _

end Moves

end CatalogSync.Sync
