import CatalogSync.Proofs.Engine.Push

/-!
# The passes of a run, as their log shows them

`passes` reads the failure list, runs the retry pass and the change pass, and looks at the
cancellation request before each record and between the passes. Whatever the sites and
stores answer, the end the passes return is read off their log: the kind of its first abort,
or a lost connection when the log has none and the last listing it read broke off on a lost
link.

## Main statements

* `pushAll_moves`: the loop over the records of a listing ends where its log stopped.
* `ask_moves`, `replicate_settles`: a pass over one query ends where its log stopped, or at
  a lost connection exactly when its listing broke off on a lost link.
* `passes_settles`: the same for both passes together, from the first look at the
  cancellation request.
-/

namespace CatalogSync.Sync

/-! ## The monitor away from its start -/

namespace Stage

theorem pushed_ne_fresh {α : Type} {a b : Stage} {answer : Except Failure α}
    (h : a.pushed answer = some b) : b ≠ .fresh := by
  unfold pushed at h
  grind

theorem site_ne_fresh {a b : Stage} {side : Side} {call : SiteCall} (ha : a ≠ .fresh)
    (h : a.site side call = some b) : b ≠ .fresh := by
  unfold site at h
  split at h <;> grind [pushed_ne_fresh, probed]

theorem store_ne_fresh {a b : Stage} {call : StoreCall} (h : a.store call = some b) :
    b ≠ .fresh := by
  unfold store at h
  split at h <;> grind

theorem next_ne_fresh {a b : Stage} {e : Event} (ha : a ≠ .fresh) (h : a.next e = some b) :
    b ≠ .fresh := by
  unfold next at h
  split at h <;> grind [site_ne_fresh, store_ne_fresh]

theorem run_ne_fresh {a b : Stage} {l : Log} (ha : a ≠ .fresh) (h : a.run l = some b) :
    b ≠ .fresh := by
  induction l generalizing a with
  | nil =>
    obtain rfl := Option.some.inj h
    exact ha
  | cons e rest ih =>
    rw [run_cons] at h
    cases hn : a.next e with
    | none => simp [hn] at h
    | some a' =>
      rw [hn] at h
      exact ih (next_ne_fresh ha hn) h

theorem next_checkpoint {a : Stage} (h : a.ended = none) (seen : Bool) :
    a.next (.checkpoint seen) = some (if seen then .stopped .canceled else .admitted) := by
  rcases a with _ | _ | _ | _ | k
  case stopped => simp [ended] at h
  all_goals rfl

theorem next_query {a : Stage} (h₁ : a ≠ .fresh) (h₂ : a.ended = none) (p : Option Predicate)
    (after : Option Stamp) (answer : Except Failure Listing) :
    a.next (.call (.site .source (.query p after answer))) =
      some (if losesLink answer then .stopped .connectionLost else .idle) := by
  rcases a with _ | _ | _ | _ | k
  case fresh => exact absurd rfl h₁
  case stopped => simp [ended] at h₂
  all_goals rfl

end Stage

variable {σ : Type} {c : Collaborators σ}

theorem Moves.checkpoint {a : Stage} (h : a.ended = none) :
    Moves a (observe c).control.isCanceled fun r seg b => match r with
      | .ok seen => seg.listings = [] ∧ b = if seen then .stopped .canceled else .admitted
      | .error _ => False :=
  Moves.isCanceled fun seen t ht =>
    ⟨_, Stage.next_checkpoint h seen, by simp [ht.listings, Event.listing], rfl⟩

/-! ## The loop over a listing -/

/-- The loop over the records of a listing ends where its log stopped, and queries nothing. -/
theorem pushAll_moves (config : Replication) (retry : Bool) (rs : List Record) :
    ∀ (done : List String) {a : Stage}, a.ended = none →
      Moves a (pushAll (observe c) config retry rs done) (Ends Prod.fst) := by
  induction rs with
  | nil =>
    intro done a ha
    unfold pushAll
    exact Moves.pure ⟨ha.symm, rfl⟩
  | cons r rest ih =>
    intro done a ha
    unfold pushAll
    refine (Moves.checkpoint ha).bind (fun seen seg b hb => ?_) (fun _ _ _ hb => hb.elim)
    obtain ⟨hseg, rfl⟩ := hb
    refine Moves.mono ?_ fun _ _ _ h => Ends.after hseg h
    cases seen
    -- the record is let through: it is pushed unless it was processed already
    · simp only [Bool.false_eq_true, ite_false]
      split
      · exact ih done rfl
      · refine (push_moves config retry r).bind (fun k seg' b' h' => ?_) (fun _ _ _ h' => h')
        obtain ⟨hk, hseg'⟩ := h'
        refine Moves.mono ?_ fun _ _ _ h => Ends.after hseg' h
        cases k
        · exact ih _ hk.symm
        · exact Moves.pure ⟨hk, rfl⟩
    · exact Moves.pure ⟨rfl, rfl⟩

/-! ## One query and its records -/

theorem Moves.query {a : Stage} (h₁ : a ≠ .fresh) (h₂ : a.ended = none) (p : Option Predicate)
    (after : Option Stamp) :
    Moves a ((observe c).source.query p after) fun r seg b =>
      b = (if losesLink r then .stopped .connectionLost else .idle) ∧
        seg.listings = r.toOption.toList :=
  Moves.call fun answer t ht => ⟨_, Stage.next_query h₁ h₂ p after answer, rfl, by
    cases answer <;> simp [ht.listings, Event.listing, Except.toOption]⟩

theorem sourceFailure_moves {a : Stage} (h₁ : a ≠ .fresh) (h₂ : a.ended = none) (f : Failure) :
    Moves a (sourceFailure (observe c) f) fun r seg b => match r with
      | .ok k => k = .connectionLost ∧ seg.listings = [] ∧
          (b = .stopped .connectionLost ∨ f.isLinkLoss ∧ b = a)
      | .error _ => b.ended = none := by
  unfold sourceFailure
  split
  · rename_i hl
    exact Moves.pure ⟨rfl, rfl, .inr ⟨hl, rfl⟩⟩
  · refine (Moves.probe h₁ h₂ (.inl rfl)).bind (fun up seg b h => ?_)
      (fun _ _ _ h => by rw [h.1]; exact h₂)
    obtain ⟨rfl, hseg⟩ := h
    cases up
    · exact Moves.pure ⟨rfl, by simpa using hseg, .inl rfl⟩
    · exact Moves.throw h₂

/-- How asking the source ends: with a listing, which its log lists; with the state a failed
query ends the run in, where its log stopped; or raising, before its log stopped. -/
def Asked : Except Failure (Except RunState Listing) → Log → Stage → Prop
  | .ok (.error st), _, b => b = .stopped st
  | .ok (.ok l), seg, b => b = .idle ∧ seg.listings = [l]
  | .error _, _, b => b.ended = none

theorem ask_moves {a : Stage} (h₁ : a ≠ .fresh) (h₂ : a.ended = none) (p : Option Predicate)
    (after : Option Stamp) : Moves a (ask (observe c) p after) Asked := by
  unfold ask
  refine Moves.tryCatch (R := fun r seg b => match r with
      | .ok v => ∃ l, v = .ok l ∧ b = .idle ∧ seg.listings = [l]
      | .error f => b = if f.isLinkLoss then .stopped .connectionLost else .idle)
    ((Moves.query h₁ h₂ p after).bind
      (fun l seg b h => Moves.pure ⟨l, rfl, by simpa [losesLink, Except.toOption] using h⟩)
      (fun f seg b h => h.1))
    (fun v seg b h => ?_) (fun f seg b hb => ?_)
  · obtain ⟨l, rfl, hb, hl⟩ := h
    exact ⟨hb, hl⟩
  · split
    · rename_i hl
      exact Moves.pure (show b = _ by simpa [hl] using hb)
    · rename_i hl
      simp only [hl, Bool.false_eq_true, ite_false] at hb
      subst hb
      split
      · refine (sourceFailure_moves (by decide) rfl f).bind (fun k seg' b' h' => Moves.pure ?_)
          (fun _ _ _ h' => h')
        obtain ⟨rfl, -, hb' | ⟨hl', -⟩⟩ := h'
        · exact hb'
        · exact absurd hl' (by simp [hl])
      · exact Moves.throw (show Stage.idle.ended = none from rfl)

/-- How a pass ends: when it returns, at the end its log stopped at or, when the log did not
stop, at a lost connection exactly when the last listing it read broke off on a lost link, and
a pass whose log did not stop read a listing; when it raises, before its log stopped. -/
def Settles {α : Type} (stop : α → Option RunState) : Except Failure α → Log → Stage → Prop
  | .ok v, seg, b => stop v = b.ended.or seg.brokenTail ∧ (b.ended.isSome ∨ seg.listings ≠ [])
  | .error _, _, b => b.ended = none

section Settles

variable {α β : Type} {stop : α → Option RunState} {r : Except Failure α} {b : Stage}

theorem Settles.raised {e : Failure} {seg : Log} (h : b.ended = none) :
    Settles stop (.error e) seg b := h

theorem Settles.after {seg' : Log} (seg : Log) (h : Settles stop r seg' b) :
    Settles stop r (seg ++ seg') b := by
  cases r with
  | error _ => exact h
  | ok v =>
  obtain ⟨hstop, hread⟩ := h
  rcases hread with hs | hl
  · refine ⟨?_, .inl hs⟩
    obtain ⟨k, hk⟩ := Option.isSome_iff_exists.mp hs
    rw [hstop, hk]
    rfl
  · exact ⟨by rw [hstop, Log.brokenTail_append_listed hl], .inr (by simp [hl])⟩

theorem Settles.stopped {v : α} {seg : Log} {k : RunState} (hb : b.ended = some k)
    (hv : stop v = some k) : Settles stop (.ok v) seg b :=
  ⟨by rw [hv, hb]; rfl, .inl (by rw [hb]; rfl)⟩

theorem Settles.map {stop' : β → Option RunState} {v : α} {w : β} {seg : Log}
    (h : Settles stop (.ok v) seg b) (hw : stop' w = stop v) :
    Settles stop' (.ok w) (seg ++ []) b := by
  rw [List.append_nil]
  obtain ⟨hstop, hread⟩ := h
  exact ⟨hw.trans hstop, hread⟩

end Settles

theorem Log.brokenTail_of_listings {seg : Log} {l : Listing} (h : seg.listings = [l]) :
    seg.brokenTail = if l.brokeOnLink then some .connectionLost else none := by
  unfold brokenTail lastListing
  rw [h]
  rfl

/-- A pass over one query settles: after a failed query where its log stopped; after a
listing where the loop over its records stopped, or else where the failure that broke the
listing off ends the run. -/
theorem replicate_settles {a : Stage} (h₁ : a ≠ .fresh) (h₂ : a.ended = none)
    (config : Replication) (p : Option Predicate) (after : Option Stamp) (retry : Bool)
    (done : List String) :
    Moves a (replicate (observe c) config p after retry done) (Settles Prod.fst) := by
  unfold replicate
  refine (ask_moves h₁ h₂ p after).bind (fun v seg b h => ?_) (fun _ _ _ h => h)
  rcases v with st | l
  · exact Moves.pure (Settles.stopped (k := st) (by rw [show b = _ from h]; rfl) rfl)
  obtain ⟨rfl, hl⟩ := h
  refine (pushAll_moves config retry l.records done rfl).withRun.bind
    (fun x seg₁ b₁ h₁ => ?_) (fun _ _ _ h => h.1)
  obtain ⟨hend, hrun⟩ := h₁
  obtain ⟨stopped, done'⟩ := x
  obtain ⟨hx, hseg₁⟩ := hend
  dsimp only at hx ⊢
  split
  · -- the loop stopped where its log stopped
    rename_i hs
    obtain ⟨k, hk⟩ := Option.isSome_iff_exists.mp hs
    exact Moves.pure (Settles.stopped (hx ▸ hk) hk)
  rename_i hs
  have hb₁ : b₁.ended = none := by
    rw [← hx]
    simpa using hs
  -- the listing itself tells whether it broke off
  have htail : (seg ++ seg₁).brokenTail =
      if l.brokeOnLink then some .connectionLost else none := by
    rw [Log.brokenTail_append_unlisted hseg₁, Log.brokenTail_of_listings hl]
  have hread : (seg ++ seg₁).listings ≠ [] := by simp [hl]
  split
  · rename_i hf
    refine Moves.pure ⟨?_, .inr (by simpa using hread)⟩
    rw [List.append_nil, hb₁, htail]
    simp [Listing.brokeOnLink, hf]
  · rename_i f hf
    refine (Moves.ofExcept (Q := fun r seg₂ b₂ => seg₂ = [] ∧ b₂ = b₁ ∧ r = l.wrap f)
      ⟨rfl, rfl, rfl⟩).bind (fun g seg₂ b₂ h₂ => ?_)
        (fun _ _ _ h₂ => .raised (by rw [h₂.2.1]; exact hb₁))
    obtain ⟨rfl, rfl, hg⟩ := h₂
    have hlive : b₂ ≠ .fresh := Stage.run_ne_fresh (by decide) hrun
    refine (sourceFailure_moves hlive hb₁ g).bind (fun k seg₃ b₃ h₃ => Moves.pure ?_)
      (fun _ _ _ h₃ => h₃)
    obtain ⟨rfl, hseg₃, hstop | ⟨hlink, rfl⟩⟩ := h₃
    · exact Settles.stopped (by rw [hstop]; rfl) rfl
    -- a listing broken off on a lost link ends the run with no step of its own
    · refine ⟨?_, .inr (by simp [hl])⟩
      have hbroke : l.brokeOnLink = true := by
        simp [Listing.brokeOnLink, hf, ← hg, hlink]
      simp only [List.append_nil, List.nil_append, ← List.append_assoc]
      rw [hb₁, Log.brokenTail_append_unlisted hseg₃, htail, hbroke]
      rfl

/-! ## Both passes -/

theorem changes_settles (config : Replication) (done : List String) :
    Moves .admitted (changes (observe c) config done) (Settles id) := by
  unfold changes watermark
  refine Moves.bind (R := fun _ _ b => b = .idle)
    ((Moves.plainCall (b := .idle) (fun _ => rfl) (fun _ => rfl)).bind
      (fun _ _ _ h => Moves.ofExcept h.1) (fun _ _ _ h => h.1))
    (fun mark seg b hb => ?_) (fun _ _ _ hb => .raised (by rw [hb]; rfl))
  subst hb
  refine Moves.mono ?_ fun _ _ _ h => Settles.after seg h
  refine (Moves.ofExcept (Q := fun _ _ b => b = .idle) rfl).bind (fun base seg b hb => ?_)
    (fun _ _ _ hb => .raised (by rw [hb]; rfl))
  subst hb
  refine Moves.mono ?_ fun _ _ _ h => Settles.after seg h
  exact (replicate_settles (by decide) rfl config _ mark false done).bind
    (fun x seg b h => Moves.pure (h.map rfl)) (fun _ _ _ h => h)

/-- Both passes settle, from the first look at the cancellation request: a request seen
stops them at once, the retry pass runs when some pushes failed before, and the change pass
runs unless the retry pass or a request to stop ended the run. -/
theorem passes_settles (config : Replication) :
    Moves .fresh (passes (observe c) config) (Settles id) := by
  unfold passes
  refine (Moves.checkpoint rfl).bind (fun seen seg b hb => ?_) (fun _ _ _ hb => hb.elim)
  obtain ⟨-, rfl⟩ := hb
  refine Moves.mono ?_ fun _ _ _ h => Settles.after seg h
  cases seen
  case true => exact Moves.pure (Settles.stopped rfl rfl)
  simp only [Bool.false_eq_true, ite_false]
  refine (Moves.plainCall (b := .idle) (fun _ => rfl) (fun _ => rfl)).bind
    (fun failed seg b hb => ?_) (fun _ _ _ hb => .raised (by rw [hb.1]; rfl))
  obtain ⟨rfl, -⟩ := hb
  refine Moves.mono ?_ fun _ _ _ h => Settles.after seg h
  refine (Moves.checkpoint rfl).bind (fun seen seg b hb => ?_) (fun _ _ _ hb => hb.elim)
  obtain ⟨-, rfl⟩ := hb
  refine Moves.mono ?_ fun _ _ _ h => Settles.after seg h
  cases seen
  case true => exact Moves.pure (Settles.stopped rfl rfl)
  simp only [Bool.false_eq_true, ite_false]
  split
  case isFalse => exact changes_settles config []
  -- the retry pass, over the records whose pushes failed before
  refine (Moves.ofExcept (Q := fun _ _ b => b = .admitted) rfl).bind (fun pred seg b hb => ?_)
    (fun _ _ _ hb => .raised (by rw [hb]; rfl))
  subst hb
  refine Moves.mono ?_ fun _ _ _ h => Settles.after seg h
  refine (replicate_settles (by decide) rfl config pred none true []).bind
    (fun x seg b h => ?_) (fun _ _ _ h => h)
  obtain ⟨stopped, retried⟩ := x
  dsimp only
  split
  case isTrue => exact Moves.pure (h.map rfl)
  rename_i hs
  -- the retry pass did not stop: its log did not stop either
  have hb : b.ended = none := by
    obtain ⟨hstop, -⟩ := h
    simp only [Bool.not_eq_true, Option.isSome_eq_false_iff, Option.isNone_iff_eq_none] at hs
    rw [hs] at hstop
    exact (Option.or_eq_none_iff.mp hstop.symm).1
  refine Moves.mono ?_ fun _ _ _ h => Settles.after seg h
  refine (Moves.checkpoint hb).bind (fun seen seg b hb => ?_) (fun _ _ _ hb => hb.elim)
  obtain ⟨-, rfl⟩ := hb
  refine Moves.mono ?_ fun _ _ _ h => Settles.after seg h
  cases seen
  case true => exact Moves.pure (Settles.stopped rfl rfl)
  exact changes_settles config retried

end CatalogSync.Sync
