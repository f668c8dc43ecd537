import CatalogSync.Proofs.Engine.Moves

/-!
# A push, as its log shows it

A push begins by reading the item of its record, and every call it makes after that is a
call of the push in progress: it reads content from the source, changes the destination,
counts itself in the status and saves the item. It queries nothing, and it looks at no
cancellation request.

This module follows `create`, `update` and `push` through the rules of `Moves`, whatever the
sites and stores answer. A push that returns normally stops the run exactly when the
monitor of its log stopped: after a call that lost the link, or after a site said it is
unavailable.

## Main statements

* `create_pushes`, `update_pushes`: a change of the destination goes on pushing unless a
  call loses the link.
* `push_moves`: the end a push returns is the end its log stopped at.
-/

namespace CatalogSync.Sync

theorem resourceChanged_error {r : Record} {i : Item} {f : Failure}
    (h : resourceChanged r i = .error f) : ∃ m, f = .wrongKind m := by
  unfold resourceChanged Stamp.after Stamp.compare? at h
  split at h
  · cases h
  · split at h
    · split at h <;> cases h
      exact ⟨_, rfl⟩
    · cases h

theorem Stage.next_isAvailable {a : Stage} (h₁ : a ≠ .fresh) (h₂ : a.ended = none) {side : Side}
    (h₃ : side = .source ∨ a = .pushing) (answer : Except Failure Bool) :
    a.next (.call (.site side (.isAvailable answer))) = some (a.probed answer) := by
  rcases a with _ | _ | _ | _ | k
  case fresh => exact absurd rfl h₁
  case stopped => simp [ended] at h₂
  all_goals rcases h₃ with rfl | h₃
  all_goals first | rfl | cases h₃
  all_goals cases side <;> rfl

variable {σ : Type} {c : Collaborators σ}

theorem Moves.probe {a : Stage} (h₁ : a ≠ .fresh) (h₂ : a.ended = none) {side : Side}
    (h₃ : side = .source ∨ a = .pushing) {x : Op σ Bool} :
    Moves a (Run.call c x (.site side ∘ .isAvailable)) fun r seg b =>
      b = a.probed r ∧ seg.listings = [] :=
  Moves.call fun r t ht =>
    ⟨_, Stage.next_isAvailable h₁ h₂ h₃ r, rfl, by simp [ht.listings, Event.listing]⟩

theorem Moves.plainCall {α : Type} {a b : Stage} {x : Op σ α} {logged : Except Failure α → Call}
    (hnext : ∀ r, a.next (.call (logged r)) = some b)
    (hlist : ∀ r, (Event.call (logged r)).listing = none) :
    Moves a (Run.call c x logged) fun _ seg b' => b' = b ∧ seg.listings = [] :=
  Moves.call fun r t ht => ⟨b, hnext r, rfl, by simp [ht.listings, hlist]⟩

/-! ## Changes of the destination -/

/-- How a change of the destination inside a push ends: still pushing, or stopped by the lost
link its failure reports; it queries nothing, and what it answers satisfies `P`. -/
def Pushes {α : Type} (P : α → Prop) (r : Except Failure α) (seg : Log) (b : Stage) : Prop :=
  b = (if losesLink r then .stopped .connectionLost else .pushing) ∧ seg.listings = [] ∧
    ∀ v, r = .ok v → P v

section Pushes

variable {α β : Type} {P : α → Prop} {P' : β → Prop}

theorem Pushes.ok {v : α} {seg : Log} {b : Stage} (h : Pushes P (.ok v) seg b) :
    b = .pushing ∧ seg.listings = [] ∧ P v := by
  simpa [Pushes, losesLink] using h

theorem Moves.pushCall {x : Op σ α} {logged : Except Failure α → Call}
    (hnext : ∀ r, Stage.pushing.next (.call (logged r)) = Stage.pushing.pushed r)
    (hlist : ∀ r, (Event.call (logged r)).listing = none) :
    Moves .pushing (Run.call c x logged) (Pushes fun _ => True) :=
  Moves.call fun r t ht =>
    ⟨_, by rw [hnext]; rfl, rfl, by simp [ht.listings, hlist], fun _ _ => trivial⟩

theorem Moves.pushPure {v : α} (h : P v) : Moves .pushing (Pure.pure v : Run σ α) (Pushes P) :=
  Moves.pure ⟨rfl, rfl, fun _ hv => by cases hv; exact h⟩

theorem Moves.pushThen {x : Run σ α} {f : α → Run σ β}
    (hx : Moves .pushing x (Pushes P)) (hf : ∀ v, P v → Moves .pushing (f v) (Pushes P')) :
    Moves .pushing (x >>= f) (Pushes P') :=
  hx.bind (fun v seg b h => by
      obtain ⟨rfl, hseg, hv⟩ := h.ok
      exact (hf v hv).mono fun _ _ _ ⟨hb, hseg', hP⟩ => ⟨hb, by simp [hseg, hseg'], hP⟩)
    (fun _ _ _ ⟨hb, hseg, _⟩ => ⟨hb, hseg, fun _ hv => nomatch hv⟩)

end Pushes

/-- The outcome of a change: whether the destination took it, and the bytes it moved. -/
abbrev Moved (p : Bool × Int) : Prop := 0 ≤ p.2

theorem create_pushes (config : Replication) (r : Record) :
    Moves .pushing (create (observe c) config r) (Pushes Moved) := by
  unfold create
  split
  · exact .pushThen (.pushCall (fun _ => rfl) (fun _ => rfl)) fun _ _ =>
      .pushPure (Int.le_refl 0)
  · exact .pushThen (.pushCall (fun _ => rfl) (fun _ => rfl)) fun _ _ =>
      .pushThen (.pushCall (fun _ => rfl) (fun _ => rfl)) fun _ _ =>
        .pushPure (Int.natCast_nonneg _)

theorem update_pushes (config : Replication) (r : Record) (i : Item) :
    Moves .pushing (update (observe c) config r i) (Pushes Moved) := by
  unfold update
  refine .pushThen (.pushCall (fun _ => rfl) (fun _ => rfl)) fun held _ => ?_
  split
  · exact create_pushes config r
  · refine .pushThen (P := fun _ => True) (Moves.ofExcept ⟨?_, rfl, fun _ _ => trivial⟩)
      fun changed _ => ?_
    -- a failed comparison of content times is a wrong kind: the push goes on to raise it
    · split
      · rfl
      · rcases h : resourceChanged r i with f | _
        · obtain ⟨m, rfl⟩ := resourceChanged_error h
          rfl
        · rfl
    · split
      · exact .pushThen (.pushCall (fun _ => rfl) (fun _ => rfl)) fun _ _ =>
          .pushPure (Int.le_refl 0)
      · exact .pushThen (.pushCall (fun _ => rfl) (fun _ => rfl)) fun _ _ =>
          .pushThen (.pushCall (fun _ => rfl) (fun _ => rfl)) fun _ _ =>
            .pushPure (Int.natCast_nonneg _)

/-! ## A whole push -/

/-- How the change of a push ends once its failures are handled: with an outcome and still
pushing, or with nothing once the link is lost; it queries nothing. A failure it raises is
no lost link, so the push is still in progress. -/
def Attempted : Except Failure (Option (Bool × Int)) → Log → Stage → Prop
  | .ok none, seg, b => seg.listings = [] ∧ b = .stopped .connectionLost
  | .ok (some p), seg, b => seg.listings = [] ∧ b = .pushing ∧ Moved p
  | .error _, _, b => b = .pushing

theorem Moves.attempt {x : Run σ (Option (Bool × Int))}
    (hx : Moves .pushing x (Pushes fun v => ∃ p, v = some p ∧ Moved p)) :
    Moves .pushing (tryCatchThe Failure x fun f =>
      if f.isLinkLoss then Pure.pure none else if f.isNode then Pure.pure (some (false, 0))
      else throwThe Failure f) Attempted := by
  refine hx.tryCatch (fun v seg b h => ?_) (fun f seg b h => ?_)
  · obtain ⟨rfl, hseg, p, rfl, hp⟩ := h.ok
    exact ⟨hseg, rfl, hp⟩
  · obtain ⟨hb, hseg, -⟩ := h
    split
    · rename_i hl
      exact Moves.pure ⟨by simpa using hseg, by simp [hb, losesLink, hl]⟩
    · rename_i hl
      split
      · exact Moves.pure ⟨by simpa using hseg, by simp [hb, losesLink, hl], Int.le_refl 0⟩
      · exact Moves.throw (show b = .pushing by simp [hb, losesLink, hl])

/-- How a part of the passes ends: when it returns, at the end its log stopped at, as `stop`
reads it off the answer, having queried nothing; when it raises, before its log stopped. -/
def Ends {α : Type} (stop : α → Option RunState) : Except Failure α → Log → Stage → Prop
  | .ok v, seg, b => stop v = b.ended ∧ seg.listings = []
  | .error _, _, b => b.ended = none

theorem Ends.raised {α : Type} {stop : α → Option RunState} {e : Failure} {seg : Log} {b : Stage}
    (h : b.ended = none) : Ends stop (.error e) seg b := h

theorem Ends.after {α : Type} {stop : α → Option RunState} {r : Except Failure α}
    {seg seg' : Log} {b : Stage} (h : seg.listings = []) (h' : Ends stop r seg' b) :
    Ends stop r (seg ++ seg') b := by
  cases r with
  | ok v =>
    obtain ⟨hv, hseg'⟩ := h'
    exact ⟨hv, by simp [h, hseg']⟩
  | error _ => exact h'

theorem Moves.probeThen {side : Side} {x : Op σ Bool} {k : Run σ (Option RunState)}
    (hk : Moves .pushing k (Ends id)) :
    Moves .pushing (Run.call c x (.site side ∘ .isAvailable) >>= fun up =>
      if (!up) = true then Pure.pure (some .connectionLost) else k) (Ends id) :=
  (Moves.probe (by decide) rfl (.inr rfl)).bind (fun up seg b h => by
      obtain ⟨rfl, hseg⟩ := h
      cases up
      · exact Moves.pure ⟨rfl, by simpa using hseg⟩
      · exact hk.mono fun _ _ _ h' => Ends.after hseg h')
    (fun _ _ _ h => .raised (by rw [h.1]; rfl))

theorem push_moves (config : Replication) (retry : Bool) (r : Record) :
    Moves .admitted (push (observe c) config retry r) (Ends id) := by
  unfold push
  refine (Moves.plainCall (b := .pushing) (fun _ => rfl) (fun _ => rfl)).bind
    (fun stored seg b hb => ?_) (fun _ _ _ hb => .raised (by rw [hb.1]; rfl))
  obtain ⟨rfl, hseg⟩ := hb
  refine Moves.mono ?_ fun _ _ _ h => Ends.after hseg h
  split
  · exact Moves.pure ⟨rfl, rfl⟩
  · refine (Moves.attempt ?_).bind (fun v seg₁ b₁ h₁ => ?_)
      (fun _ _ _ hb => .raised (by rw [show _ = Stage.pushing from hb]; rfl))
    · split
      · exact .pushThen (update_pushes config r _) fun p hp => .pushPure ⟨p, rfl, hp⟩
      · exact .pushThen (.pushCall (fun _ => rfl) (fun _ => rfl)) fun _ _ =>
          .pushPure ⟨_, rfl, Int.le_refl 0⟩
      · exact .pushThen (create_pushes config r) fun p hp => .pushPure ⟨p, rfl, hp⟩
    · have hseg₁ : seg₁.listings = [] := by rcases v with _ | _ <;> exact h₁.1
      refine Moves.mono ?_ fun _ _ _ h => Ends.after hseg₁ h
      rcases v with _ | ⟨pushed, bytes⟩
      · obtain ⟨-, rfl⟩ := h₁
        exact Moves.pure ⟨rfl, rfl⟩
      obtain ⟨-, rfl, hbytes⟩ := h₁
      dsimp only
      -- the status counts the push, and the item is saved, whatever the destination said
      split
      · refine Moves.recount (fun st => .recordPush st hbytes) fun st t ht =>
          ⟨.pushing, rfl, ?_⟩
        exact (Moves.plainCall (b := .pushing) (fun _ => rfl) (fun _ => rfl)).bind
          (fun _ _ _ h₂ => Moves.pure
            ⟨by rw [h₂.1]; rfl, by simp [ht.listings, h₂.2, Event.listing]⟩)
          (fun _ _ _ h₂ => .raised (by rw [h₂.1]; rfl))
      · refine Moves.recount (f := fun st => st.recordPushFailure) (fun st => .recordPushFailure st)
          fun st t ht => ⟨.pushing, rfl, ?_⟩
        split
        · refine (Moves.plainCall (b := .pushing) (fun _ => rfl) (fun _ => rfl)).bind
            (fun _ seg₂ b₂ h₂ => ?_) (fun _ _ _ h₂ => .raised (by rw [h₂.1]; rfl))
          obtain ⟨rfl, hseg₂⟩ := h₂
          -- a refused push probes both sites before the next record
          refine Moves.mono (.probeThen (.probeThen (Moves.pure ⟨rfl, rfl⟩)))
            fun _ _ _ h => Ends.after (by simp [ht.listings, Event.listing])
              (Ends.after hseg₂ h)
        · exact Moves.throw_bind (Ends.raised rfl)

end CatalogSync.Sync
