import CatalogSync.Proofs.Engine.Observed

/-!
# Aborts, and where a run stands

A run stops early at an *abort*: a checkpoint that finds a stop requested, a call to a site
that loses the link, or a site that says it is unavailable (`Event.abort`). A listing can also
break off on a lost link after its last record; that shows in no call, only in the listing the
query answered. `Log.verdict` reads off a log how the run should end: the kind of its first
abort, or, when there is none, a lost connection if the last listing it read broke off on a lost
link.

To prove that the engine follows the verdict, its passes are watched by a small automaton
(`Stage`): it follows the log and refuses any event that comes where the passes never put it.
A push begins only right after a checkpoint that let a record through, calls that change the
destination come only during a push, and after an abort nothing but requests to stop is seen.
`Stage.run_findSome` ties the automaton to the verdict.

## Main definitions

* `Event.abort`, `Log.verdict`
* `Stage`, `Stage.next`, `Stage.run`
* `RunStatus.Counts`: a status that differs from another only by pushes counted.
* `Span`: what a part of the passes did between two scenes.
-/

/-! ## Counting pushes in the status -/

namespace CatalogSync

/-- `b` is `a` with more pushes counted: only the counters grew. -/
structure RunStatus.Counts (a b : RunStatus) : Prop where
  replication : b.replication = a.replication
  startTime : b.startTime = a.startTime
  endTime : b.endTime = a.endTime
  state : b.state = a.state
  error : b.error = a.error
  pushCount : a.pushCount ≤ b.pushCount
  pushFailCount : a.pushFailCount ≤ b.pushFailCount
  pushBytes : a.pushBytes ≤ b.pushBytes

namespace RunStatus.Counts

theorem refl (a : RunStatus) : a.Counts a :=
  ⟨rfl, rfl, rfl, rfl, rfl, Int.le_refl _, Int.le_refl _, Int.le_refl _⟩

theorem trans {a b c : RunStatus} (h₁ : a.Counts b) (h₂ : b.Counts c) : a.Counts c :=
  ⟨h₂.replication.trans h₁.replication, h₂.startTime.trans h₁.startTime,
    h₂.endTime.trans h₁.endTime, h₂.state.trans h₁.state, h₂.error.trans h₁.error,
    Int.le_trans h₁.pushCount h₂.pushCount, Int.le_trans h₁.pushFailCount h₂.pushFailCount,
    Int.le_trans h₁.pushBytes h₂.pushBytes⟩

theorem recordPush (a : RunStatus) {bytes : Int} (h : 0 ≤ bytes) :
    a.Counts (a.recordPush bytes) :=
  ⟨rfl, rfl, rfl, rfl, rfl, by simp only [RunStatus.recordPush]; omega, Int.le_refl _,
    by simp only [RunStatus.recordPush]; omega⟩

theorem recordPushFailure (a : RunStatus) : a.Counts a.recordPushFailure :=
  ⟨rfl, rfl, rfl, rfl, rfl, Int.le_refl _, by simp only [RunStatus.recordPushFailure]; omega,
    Int.le_refl _⟩

end RunStatus.Counts

/-- Whether the records of a listing broke off on a lost link, as its consumer reports it. -/
def Listing.brokeOnLink (l : Listing) : Bool :=
  match l.failure with
  | none => false
  | some f =>
    match l.wrap f with
    | .ok g => g.isLinkLoss
    | .error _ => false

end CatalogSync

namespace CatalogSync.Sync

/-- Whether an answer is a failure that means the link to a node is lost. -/
def losesLink {α : Type} : Except Failure α → Bool
  | .error f => f.isLinkLoss
  | .ok _ => false

/-- The abort a call to a site is, if it is one: a site that says it is unavailable, or any
other call that loses the link. -/
def SiteCall.abort : SiteCall → Option RunState
  | .isAvailable (.ok false) => some .connectionLost
  | .isAvailable _ => none
  | .query _ _ a => lost a
  | .holds _ a | .createMetadata _ a | .updateMetadata _ a | .deleteMetadata _ a => lost a
  | .createResource _ a | .updateResource _ a => lost a
  | .readResource _ a => lost a
where
  lost {α : Type} (a : Except Failure α) : Option RunState :=
    if losesLink a then some .connectionLost else none

/-- The abort an event is, if it is one. -/
def Event.abort : Event → Option RunState
  | .checkpoint true => some .canceled
  | .call (.site _ c) => c.abort
  | _ => none

/-- The listing a query answered. -/
def Event.listing : Event → Option Listing
  | .call (.site _ (.query _ _ (.ok l))) => some l
  | _ => none

namespace Log

/-- The listings the queries of a log were answered with, in order. -/
def listings (log : Log) : List Listing := log.filterMap Event.listing

/-- The listing of the last query of a log that was answered. -/
def lastListing (log : Log) : Option Listing := log.listings.getLast?

/-- A lost connection when the last listing a log read broke off on a lost link. -/
def brokenTail (log : Log) : Option RunState :=
  if (lastListing log).any Listing.brokeOnLink then some .connectionLost else none

/-- How a run with this log should end early, if it should: the kind of its first abort, or
a lost connection when it has none and the last listing it read broke off on a lost link. -/
def verdict (log : Log) : Option RunState := (log.findSome? Event.abort).or log.brokenTail

@[simp] theorem listings_append (l₁ l₂ : Log) : listings (l₁ ++ l₂) = listings l₁ ++ listings l₂ :=
  List.filterMap_append

@[simp] theorem listings_cons (e : Event) (log : Log) :
    listings (e :: log) = (e.listing.toList ++ listings log) := by
  cases h : e.listing <;> simp [listings, h]

@[simp] theorem listings_nil : listings [] = [] := rfl

theorem Quiet.listings {t : Log} (ht : Quiet t) : t.listings = [] := by
  induction t with
  | nil => rfl
  | cons e rest ih =>
    rw [ht e (by simp), listings_cons, ih fun x hx => ht x (by simp [hx])]
    rfl

theorem brokenTail_append_unlisted {l₁ l₂ : Log} (h : l₂.listings = []) :
    brokenTail (l₁ ++ l₂) = brokenTail l₁ := by
  unfold brokenTail lastListing
  rw [listings_append, h, List.append_nil]

theorem brokenTail_append_listed {l₁ l₂ : Log} (h : l₂.listings ≠ []) :
    brokenTail (l₁ ++ l₂) = brokenTail l₂ := by
  unfold brokenTail lastListing
  rw [listings_append, List.getLast?_append, List.getLast?_eq_some_getLast h]
  rfl

end Log

/-- Where the passes of a run stand, as an observer of its log sees them. -/
inductive Stage where
  /-- The passes have not looked at the cancellation request yet. -/
  | fresh
  /-- No push may begin before the next checkpoint. -/
  | idle
  /-- A checkpoint let a record through: its push may begin. -/
  | admitted
  /-- A push is in progress. -/
  | pushing
  /-- The passes stopped at an abort that ends the run in `kind`. -/
  | stopped (kind : RunState)
  deriving DecidableEq

namespace Stage

/-- The end a stage says the passes came to, if they stopped. -/
def ended : Stage → Option RunState
  | .stopped k => some k
  | _ => none

/-- A call inside a push: it goes on, or stops the passes when it loses the link. -/
def pushed {α : Type} (a : Stage) (answer : Except Failure α) : Option Stage :=
  if a = .pushing then some (if losesLink answer then .stopped .connectionLost else .pushing)
  else none

/-- The stage after a probe of a site's availability: a site that says it is unavailable stops
the passes. -/
def probed (a : Stage) : Except Failure Bool → Stage
  | .ok false => .stopped .connectionLost
  | _ => a

/-- The stage after a call to a site. The source may be probed at any time and is queried
between records; content is read from the source, and the destination is probed and changed,
only during a push. -/
def site (a : Stage) : Side → SiteCall → Option Stage
  | .source, .isAvailable ans => some (a.probed ans)
  | .destination, .isAvailable ans => if a = .pushing then some (a.probed ans) else none
  | .source, .query _ _ ans =>
    some (if losesLink ans then .stopped .connectionLost else .idle)
  | .source, .readResource _ ans => a.pushed ans
  | .destination, .holds _ ans => a.pushed ans
  | .destination, .createMetadata _ ans => a.pushed ans
  | .destination, .updateMetadata _ ans => a.pushed ans
  | .destination, .deleteMetadata _ ans => a.pushed ans
  | .destination, .createResource _ ans => a.pushed ans
  | .destination, .updateResource _ ans => a.pushed ans
  | _, _ => none

/-- The stage after a call to the item store or the run history: a push begins by reading the
item of its record and saves it before it ends; the failure list and the outcomes are read
between records; no outcome is added. -/
def store (a : Stage) : StoreCall → Option Stage
  | .getItem .. => if a = .admitted then some .pushing else none
  | .saveItem .. => if a = .pushing then some .pushing else none
  | .failureList .. => some .idle
  | .outcomes .. => some .idle
  | .addOutcome .. => none

/-- The stage after an event, or `none` when the passes never put the event there. -/
def next : Stage → Event → Option Stage
  | a, .cancel => some a
  | .stopped _, _ => none
  | _, .checkpoint seen => some (if seen then .stopped .canceled else .admitted)
  | .fresh, _ => none
  | a, .call (.site side c) => a.site side c
  | a, .call (.store c) => a.store c
  | .pushing, .status _ => some .pushing
  | _, _ => none

/-- The stage after the events of a log. -/
def run : Stage → Log → Option Stage
  | a, [] => some a
  | a, e :: rest => (a.next e).bind (run · rest)

@[simp] theorem run_nil (a : Stage) : a.run [] = some a := rfl

@[simp] theorem run_cons (a : Stage) (e : Event) (rest : Log) :
    a.run (e :: rest) = (a.next e).bind (run · rest) := rfl

theorem run_append (a : Stage) (l₁ l₂ : Log) :
    a.run (l₁ ++ l₂) = (a.run l₁).bind (run · l₂) := by
  induction l₁ generalizing a with
  | nil => rfl
  | cons e rest ih =>
    cases h : a.next e <;> simp [h, ih]

theorem run_quiet {t : Log} (ht : Log.Quiet t) (a : Stage) : a.run t = some a := by
  induction t with
  | nil => rfl
  | cons e rest ih =>
    rw [ht e (by simp)]
    exact ih fun x hx => ht x (by simp [hx])

theorem run_stopped {k : RunState} {l : Log} {b : Stage} (h : (stopped k).run l = some b) :
    b = stopped k ∧ Log.Quiet l := by
  induction l with
  | nil => exact ⟨(Option.some.inj h).symm, Log.quiet_nil⟩
  | cons e rest ih =>
    cases e <;> simp [next] at h
    obtain ⟨rfl, hq⟩ := ih h
    exact ⟨rfl, fun x hx => by
      rcases List.mem_cons.mp hx with rfl | hx
      · rfl
      · exact hq x hx⟩

theorem pushed_ended {α : Type} {a b : Stage} {answer : Except Failure α}
    (h : a.pushed answer = some b) : SiteCall.abort.lost answer = b.ended := by
  unfold pushed at h
  split at h
  · cases h
    by_cases hl : losesLink answer <;> simp [SiteCall.abort.lost, hl, ended]
  · cases h

theorem site_ended {a b : Stage} {side : Side} {c : SiteCall} (ha : a.ended = none)
    (h : a.site side c = some b) : c.abort = b.ended := by
  cases c with
  | isAvailable answer =>
    have hb : b = a.probed answer := by
      cases side
      · exact (Option.some.inj h).symm
      · simp only [site] at h
        split at h
        · exact (Option.some.inj h).symm
        · cases h
    subst hb
    rcases answer with f | _ | _ <;> simp only [SiteCall.abort, probed] <;> first | rfl | exact ha.symm
  | query p after answer =>
    cases side <;> simp [site] at h
    subst h
    by_cases hl : losesLink answer <;> simp [SiteCall.abort, SiteCall.abort.lost, hl, ended]
  | _ =>
    cases side <;> simp only [site, reduceCtorEq] at h
    exact pushed_ended h

theorem next_ended {a b : Stage} {e : Event} (ha : a.ended = none) (h : a.next e = some b) :
    e.abort = b.ended := by
  rcases a with _ | _ | _ | _ | k
  case stopped => simp [ended] at ha
  all_goals
    cases e with
    | cancel => cases h; rfl
    | checkpoint seen => cases seen <;> cases h <;> rfl
    | call c =>
      rcases c with ⟨side, c⟩ | c
      · first | exact site_ended ha h | simp [next] at h
      · cases c <;> simp only [next, store] at h <;> (try split at h) <;> cases h <;> rfl
    | _ => simp [next] at h <;> (cases h; rfl)

/-- The automaton stops at the first abort of the log. -/
theorem run_findSome {a b : Stage} {l : Log} (ha : a.ended = none) (h : a.run l = some b) :
    l.findSome? Event.abort = b.ended := by
  induction l generalizing a with
  | nil =>
    cases h
    simp [ha]
  | cons e rest ih =>
    rw [run_cons, Option.bind_eq_some_iff] at h
    obtain ⟨a', hnext, hrest⟩ := h
    have habort := next_ended ha hnext
    cases ha' : a'.ended with
    | none =>
      rw [ha'] at habort
      simp [habort, ih ha' hrest]
    | some k =>
      have hstop : a' = stopped k := by cases a' <;> simp_all [ended]
      subst hstop
      obtain ⟨rfl, -⟩ := run_stopped hrest
      rw [ha'] at habort
      simp [habort, ended]

end Stage

/-! ## Parts of the passes -/

/-- A part of the passes ran from scene `s` to scene `s'`, adding `seg` to the log: its events
take the automaton from stage `a` to stage `b`, and the status only counted pushes. -/
structure Span {σ : Type} (s s' : Scene σ) (seg : Log) (a b : Stage) : Prop where
  log : s'.log = s.log ++ seg
  stage : a.run seg = some b
  counts : s.log.status.Counts s'.log.status

namespace Span

variable {σ : Type} {s₁ s₂ s₃ : Scene σ} {seg₁ seg₂ : Log} {a b c : Stage}

theorem trans (h₁ : Span s₁ s₂ seg₁ a b) (h₂ : Span s₂ s₃ seg₂ b c) :
    Span s₁ s₃ (seg₁ ++ seg₂) a c where
  log := by rw [h₂.log, h₁.log, List.append_assoc]
  stage := by rw [Stage.run_append, h₁.stage]; exact h₂.stage
  counts := h₁.counts.trans h₂.counts

theorem rfl' (s : Scene σ) (a : Stage) : Span s s [] a a :=
  ⟨by simp, rfl, .refl _⟩

end Span

end CatalogSync.Sync
