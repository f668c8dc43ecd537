import CatalogSync.Sync.Engine

/-!
# Runs as an observer sees them

The engine is written against records of operations in any monad (`Sync.Engine`). This module
runs it in one monad in which everything it does can be watched:

* the sites, the item store and the run history are arbitrary operations on a world of any
  type `σ` (`Collaborators`), so that every behaviour of theirs is one choice of operations;
* before each step of the run the rest of the world may move (`Collaborators.elsewhere`): the
  world changes, and another thread may ask the run to stop;
* each step leaves an `Event` in the log of the `Scene`: a call with the answer it got, a look
  at the cancellation request, a reading of the clock, a status set.

The cancellation request and the status of the run are not stored beside the log: they are
what the log says (`Log.canceled`, `Log.status`). A scene carries the proof that each
checkpoint in its log reported the request as it stood (`Log.Faithful`), so a run can neither
see a request that was never made nor miss one that stands.

## Main definitions

* `Event`, `Log`, `Scene` and the monad `Run σ`, with `exec` running a computation in a scene.
* `Collaborators` and `observe`: the engine of a run among given collaborators.
* The equations of `exec` for `pure`, `bind`, `throw`, `tryCatch` and `ofExcept`, and one
  inversion lemma per operation of the observed engine, saying which events it adds.
-/

namespace CatalogSync.Sync

/-- The two sites of a replication. -/
inductive Side where
  | source
  | destination
  deriving DecidableEq

/-- A call to a site, with the answer it got. -/
inductive SiteCall where
  | isAvailable (answer : Except Failure Bool)
  | query (p : Option Predicate) (after : Option Stamp) (answer : Except Failure Listing)
  | holds (r : Record) (answer : Except Failure Bool)
  | createMetadata (r : Record) (answer : Except Failure Bool)
  | updateMetadata (r : Record) (answer : Except Failure Bool)
  | deleteMetadata (r : Record) (answer : Except Failure Bool)
  | createResource (res : Resource) (answer : Except Failure Bool)
  | updateResource (res : Resource) (answer : Except Failure Bool)
  | readResource (r : Record) (answer : Except Failure Resource)

/-- A call to the item store or the run history, with the answer it got. -/
inductive StoreCall where
  | getItem (config id source destination : String) (answer : Except Failure (Option Item))
  | failureList (config : String) (limit : Int) (source destination : String)
      (answer : Except Failure (List String))
  | saveItem (item : Item) (answer : Except Failure Unit)
  | outcomes (name : Value) (answer : Except Failure (List RunOutcome))
  | addOutcome (outcome : RunOutcome) (answer : Except Failure Unit)

/-- A call of a run to one of its collaborators. -/
inductive Call where
  | site (side : Side) (call : SiteCall)
  | store (call : StoreCall)

/-- What an observer of a run sees, in order. -/
inductive Event where
  /-- Another thread asks the run to stop. -/
  | cancel
  /-- The run looks at the cancellation request and finds it set or not. -/
  | checkpoint (seen : Bool)
  /-- The run drops the cancellation request. -/
  | clear
  /-- The run reads the clock. -/
  | clock (time : Stamp)
  /-- The run sets its status. -/
  | status (status : RunStatus)
  /-- The run calls a collaborator. -/
  | call (call : Call)

namespace Event

/-- The cancellation request after an event, from the request before it. -/
def request (asked : Bool) : Event → Bool
  | .cancel => true
  | .clear => false
  | _ => asked

/-- The status of the run after an event, from the status before it. -/
def setsStatus (st : RunStatus) : Event → RunStatus
  | .status s => s
  | _ => st

/-- Whether an event is a look at the cancellation request. -/
def isCheckpoint : Event → Bool
  | .checkpoint _ => true
  | _ => false

/-- Whether an event is a request of another thread to stop. -/
def isCancel : Event → Bool
  | .cancel => true
  | _ => false

/-- Whether an event drops the cancellation request. -/
def isClear : Event → Bool
  | .clear => true
  | _ => false

end Event

/-- Everything that happened around a run, oldest first. -/
abbrev Log := List Event

namespace Log

/-- Whether a stop is asked for after the events of a log. -/
def canceled (log : Log) : Bool := log.foldl Event.request false

/-- The status of the run after the events of a log. -/
def status (log : Log) : RunStatus := log.foldl Event.setsStatus default

/-- Every checkpoint of the log reported the cancellation request as it stood. -/
def Faithful (log : Log) : Prop :=
  ∀ pre seen post, log = pre ++ .checkpoint seen :: post → seen = canceled pre

/-- Only requests of other threads to stop: what the rest of the world adds between two steps
of a run. -/
def Quiet (log : Log) : Prop := ∀ e ∈ log, e = .cancel

@[simp] theorem canceled_append (log : Log) (e : Event) :
    canceled (log ++ [e]) = e.request (canceled log) := by
  simp [canceled]

@[simp] theorem status_append (log : Log) (e : Event) :
    status (log ++ [e]) = e.setsStatus (status log) := by
  simp [status]

theorem faithful_nil : Faithful [] := fun pre _ _ h => by
  cases pre <;> cases h

theorem faithful_append {log : Log} {e : Event} (h : log.Faithful)
    (he : ∀ seen, e = .checkpoint seen → seen = canceled log) : (log ++ [e]).Faithful := by
  intro pre seen post hsplit
  rcases List.eq_nil_or_concat post with rfl | ⟨post', last, rfl⟩
  · obtain ⟨rfl, hlast⟩ := List.append_inj' hsplit rfl
    exact he seen (List.singleton_inj.mp hlast)
  · have hsplit' : log ++ [e] = (pre ++ .checkpoint seen :: post') ++ [last] := by
      simpa using hsplit
    exact h pre seen post' (List.append_inj' hsplit' rfl).1

@[simp] theorem quiet_nil : Quiet [] := by simp [Quiet]

theorem Quiet.append {l₁ l₂ : Log} (h₁ : Quiet l₁) (h₂ : Quiet l₂) : Quiet (l₁ ++ l₂) := by
  intro e he
  rcases List.mem_append.mp he with he | he
  · exact h₁ e he
  · exact h₂ e he

/-- Requests to stop leave the status as it was. -/
theorem Quiet.status {t : Log} (ht : Quiet t) (log : Log) : status (log ++ t) = status log := by
  induction t generalizing log with
  | nil => simp
  | cons e t ih =>
    have he : e = .cancel := ht e (by simp)
    rw [← List.singleton_append, ← List.append_assoc, ih (fun x hx => ht x (by simp [hx])),
      status_append, he]
    rfl

end Log

/-- The scene of a run: the world its collaborators act on, and the log of everything that
happened, whose checkpoints are faithful. -/
structure Scene (σ : Type) where
  world : σ
  log : Log
  faithful : log.Faithful

/-- Work on a world of type `σ` that may fail. -/
abbrev Op (σ : Type) := ExceptT Failure (StateM σ)

/-- A run among collaborators acting on a world of type `σ`. -/
abbrev Run (σ : Type) := ExceptT Failure (StateM (Scene σ))

/-- Runs work in a scene: its answer and the scene after it. -/
def exec {σ α : Type} (x : Run σ α) (s : Scene σ) : Except Failure α × Scene σ := x.run.run s

/-- The sites, stores, clock and surroundings of a run, acting on a world of type `σ`. -/
structure Collaborators (σ : Type) where
  source : Endpoint (Op σ)
  destination : Endpoint (Op σ)
  ledger : Ledger (Op σ)
  clock : σ → Stamp
  /-- What happens elsewhere before each step of a run, knowing everything that happened so
  far: the world may change, and another thread may ask the run to stop. -/
  elsewhere : σ → Log → σ × Bool

variable {σ α β : Type}

namespace Scene

/-- The scene with an event added that is not a checkpoint. -/
def add (s : Scene σ) (w : σ) (e : Event) (h : e.isCheckpoint = false) : Scene σ where
  world := w
  log := s.log ++ [e]
  faithful := Log.faithful_append s.faithful (by rintro seen rfl; simp [Event.isCheckpoint] at h)

/-- The scene with a checkpoint added, reporting the request as it stands. -/
def look (s : Scene σ) : Scene σ where
  world := s.world
  log := s.log ++ [.checkpoint s.log.canceled]
  faithful := Log.faithful_append s.faithful (by rintro seen ⟨⟩; rfl)

/-- The scene once the rest of the world has moved. -/
def tick (c : Collaborators σ) (s : Scene σ) : Scene σ :=
  let moved := c.elsewhere s.world s.log
  if moved.2 then s.add moved.1 .cancel rfl else { s with world := moved.1 }

theorem tick_log (c : Collaborators σ) (s : Scene σ) :
    ∃ t, Log.Quiet t ∧ (s.tick c).log = s.log ++ t := by
  by_cases hstop : (c.elsewhere s.world s.log).2
  · exact ⟨[.cancel], by simp [Log.Quiet], by simp [tick, hstop, add]⟩
  · exact ⟨[], Log.quiet_nil, by simp [tick, hstop]⟩

end Scene

namespace Run

/-- A call to a collaborator: the rest of the world moves, then `x` acts on the world and the
call is logged with its answer. -/
def call (c : Collaborators σ) (x : Op σ α) (logged : Except Failure α → Call) : Run σ α :=
  ExceptT.mk fun s =>
    let s := s.tick c
    let out := x.run.run s.world
    (out.1, s.add out.2 (.call (logged out.1)) rfl)

/-- A step of the run itself: the rest of the world moves, then the step answers from the
scene and may add to it. -/
def own (c : Collaborators σ) (f : Scene σ → α × Scene σ) : Run σ α :=
  ExceptT.mk fun s =>
    let out := f (s.tick c)
    (.ok out.1, out.2)

end Run

/-- The operations of a site, observed. -/
def Endpoint.observed (c : Collaborators σ) (side : Side) (e : Endpoint (Op σ)) :
    Endpoint (Run σ) where
  isAvailable := Run.call c e.isAvailable (.site side ∘ .isAvailable)
  query p after := Run.call c (e.query p after) (.site side ∘ .query p after)
  holds r := Run.call c (e.holds r) (.site side ∘ .holds r)
  createMetadata r := Run.call c (e.createMetadata r) (.site side ∘ .createMetadata r)
  updateMetadata r := Run.call c (e.updateMetadata r) (.site side ∘ .updateMetadata r)
  deleteMetadata r := Run.call c (e.deleteMetadata r) (.site side ∘ .deleteMetadata r)
  createResource res := Run.call c (e.createResource res) (.site side ∘ .createResource res)
  updateResource res := Run.call c (e.updateResource res) (.site side ∘ .updateResource res)
  readResource r := Run.call c (e.readResource r) (.site side ∘ .readResource r)

/-- The item store and run history, observed. -/
def Ledger.observed (c : Collaborators σ) (l : Ledger (Op σ)) : Ledger (Run σ) where
  getItem config id source destination :=
    Run.call c (l.getItem config id source destination)
      (.store ∘ .getItem config id source destination)
  failureList config limit source destination :=
    Run.call c (l.failureList config limit source destination)
      (.store ∘ .failureList config limit source destination)
  saveItem i := Run.call c (l.saveItem i) (.store ∘ .saveItem i)
  outcomes name := Run.call c (l.outcomes name) (.store ∘ .outcomes name)
  addOutcome o := Run.call c (l.addOutcome o) (.store ∘ .addOutcome o)

/-- The engine of a run among collaborators `c`, every step of it observed. -/
def observe (c : Collaborators σ) : Engine (Run σ) where
  source := c.source.observed c .source
  destination := c.destination.observed c .destination
  ledger := c.ledger.observed c
  control :=
    { now := Run.own c fun s => (c.clock s.world, s.add s.world (.clock (c.clock s.world)) rfl)
      isCanceled := Run.own c fun s => (s.log.canceled, s.look)
      clearCanceled := Run.own c fun s => ((), s.add s.world .clear rfl)
      status := Run.own c fun s => (s.log.status, s)
      setStatus := fun st => Run.own c fun s => ((), s.add s.world (.status st) rfl) }

/-! ## Running in a scene -/

section Exec

@[simp] theorem exec_pure (a : α) (s : Scene σ) : exec (pure a : Run σ α) s = (.ok a, s) := rfl

@[simp] theorem exec_throw (e : Failure) (s : Scene σ) :
    exec (throwThe Failure e : Run σ α) s = (.error e, s) := rfl

@[simp] theorem exec_ofExcept (r : Except Failure α) (s : Scene σ) :
    exec (ofExcept r : Run σ α) s = (r, s) := by
  cases r <;> rfl

theorem exec_bind (x : Run σ α) (f : α → Run σ β) (s : Scene σ) :
    exec (x >>= f) s = match exec x s with
      | (.ok a, s') => exec (f a) s'
      | (.error e, s') => (.error e, s') := by
  simp only [exec, bind, ExceptT.bind, ExceptT.run, ExceptT.mk, StateT.run, StateT.bind]
  rcases x s with ⟨_ | _, _⟩ <;> rfl

theorem exec_tryCatch (x : Run σ α) (h : Failure → Run σ α) (s : Scene σ) :
    exec (tryCatchThe Failure x h) s = match exec x s with
      | (.ok a, s') => (.ok a, s')
      | (.error e, s') => exec (h e) s' := by
  simp only [exec, tryCatchThe, MonadExceptOf.tryCatch, ExceptT.tryCatch, ExceptT.run,
    ExceptT.mk, bind, StateT.run, StateT.bind]
  rcases x s with ⟨_ | _, _⟩ <;> rfl

theorem bind_inv {x : Run σ α} {f : α → Run σ β} {s s₂ : Scene σ} {r : Except Failure β}
    (h : exec (x >>= f) s = (r, s₂)) :
    (∃ e, exec x s = (.error e, s₂) ∧ r = .error e) ∨
      ∃ a s₁, exec x s = (.ok a, s₁) ∧ exec (f a) s₁ = (r, s₂) := by
  rw [exec_bind] at h
  rcases hx : exec x s with ⟨_ | a, s₁⟩ <;> rw [hx] at h
  · cases h
    exact .inl ⟨_, rfl, rfl⟩
  · exact .inr ⟨a, s₁, rfl, h⟩

theorem tryCatch_inv {x : Run σ α} {h : Failure → Run σ α} {s s₂ : Scene σ}
    {r : Except Failure α} (hr : exec (tryCatchThe Failure x h) s = (r, s₂)) :
    (∃ a, exec x s = (.ok a, s₂) ∧ r = .ok a) ∨
      ∃ e s₁, exec x s = (.error e, s₁) ∧ exec (h e) s₁ = (r, s₂) := by
  rw [exec_tryCatch] at hr
  rcases hx : exec x s with ⟨_ | a, s₁⟩ <;> rw [hx] at hr
  · exact .inr ⟨_, s₁, rfl, hr⟩
  · cases hr
    exact .inl ⟨_, rfl, rfl⟩

theorem exec_bind_error {x : Run σ α} {f : α → Run σ β} {s : Scene σ}
    (hf : ∀ a s₁, ∃ e, (exec (f a) s₁).1 = .error e) : ∃ e, (exec (x >>= f) s).1 = .error e := by
  rw [exec_bind]
  rcases exec x s with ⟨e | a, s₁⟩
  · exact ⟨e, rfl⟩
  · exact hf a s₁

theorem bind_ok_inv {x : Run σ α} {f : α → Run σ β} {s s₂ : Scene σ} {r : Except Failure β}
    (hx : ∀ r₁ s₁, exec x s = (r₁, s₁) → ∃ a, r₁ = .ok a) (h : exec (x >>= f) s = (r, s₂)) :
    ∃ a s₁, exec x s = (.ok a, s₁) ∧ exec (f a) s₁ = (r, s₂) := by
  rcases bind_inv h with ⟨e, he, -⟩ | hok
  · obtain ⟨a, ha⟩ := hx _ _ he
    cases ha
  · exact hok

theorem bind_answered_inv {x : Run σ α} {f : α → Run σ β} {s s₂ : Scene σ} {v : β}
    (h : exec (x >>= f) s = (.ok v, s₂)) :
    ∃ a s₁, exec x s = (.ok a, s₁) ∧ exec (f a) s₁ = (.ok v, s₂) := by
  rcases bind_inv h with ⟨_, -, he⟩ | hok
  · cases he
  · exact hok

@[simp] theorem exec_ofExcept_bind (a : α) (f : α → Run σ β) (s : Scene σ) :
    exec (ofExcept (.ok a) >>= f) s = exec (f a) s := by
  rw [exec_bind, exec_ofExcept]

theorem ofExcept_inv {r : Except Failure α} {v : α} {s s' : Scene σ}
    (h : exec (ofExcept r : Run σ α) s = (.ok v, s')) : r = .ok v ∧ s' = s := by
  rw [exec_ofExcept] at h
  obtain ⟨hr, rfl⟩ := Prod.mk.inj h
  exact ⟨hr, rfl⟩

end Exec

/-! ## What each observed operation adds to the log -/

section Operations

variable {c : Collaborators σ} {s s' : Scene σ}

theorem call_inv {x : Op σ α} {logged : Except Failure α → Call} {r : Except Failure α}
    (h : exec (Run.call c x logged) s = (r, s')) :
    ∃ t, Log.Quiet t ∧ s'.log = s.log ++ t ++ [.call (logged r)] := by
  obtain ⟨t, ht, hlog⟩ := s.tick_log c
  refine ⟨t, ht, ?_⟩
  simp only [exec, Run.call, ExceptT.run, ExceptT.mk, StateT.run, Prod.mk.injEq] at h
  obtain ⟨rfl, rfl⟩ := h
  simp [Scene.add, hlog]

theorem call_world {x : Op σ α} {logged : Except Failure α → Call} {r : Except Failure α}
    (h : exec (Run.call c x logged) s = (r, s')) :
    x.run.run (s.tick c).world = (r, s'.world) := by
  simp only [exec, Run.call, ExceptT.run, ExceptT.mk, StateT.run, Prod.mk.injEq] at h
  obtain ⟨rfl, rfl⟩ := h
  rfl

theorem own_inv {f : Scene σ → α × Scene σ} {r : Except Failure α}
    (h : exec (Run.own c f) s = (r, s')) :
    ∃ s₁, (∃ t, Log.Quiet t ∧ s₁.log = s.log ++ t) ∧ r = .ok (f s₁).1 ∧ s' = (f s₁).2 := by
  simp only [exec, Run.own, ExceptT.run, ExceptT.mk, StateT.run, Prod.mk.injEq] at h
  exact ⟨s.tick c, s.tick_log c, h.1.symm, h.2.symm⟩

theorem now_inv {r : Except Failure Stamp} (h : exec (observe c).control.now s = (r, s')) :
    ∃ t tm, Log.Quiet t ∧ r = .ok tm ∧ s'.log = s.log ++ t ++ [.clock tm] := by
  dsimp only [observe] at h
  obtain ⟨s₁, ⟨t, ht, hlog⟩, rfl, rfl⟩ := own_inv h
  exact ⟨t, _, ht, rfl, by simp [Scene.add, hlog]⟩

theorem isCanceled_inv {r : Except Failure Bool}
    (h : exec (observe c).control.isCanceled s = (r, s')) :
    ∃ t, Log.Quiet t ∧ r = .ok (s.log ++ t).canceled ∧
      s'.log = s.log ++ t ++ [.checkpoint (s.log ++ t).canceled] := by
  dsimp only [observe] at h
  obtain ⟨s₁, ⟨t, ht, hlog⟩, rfl, rfl⟩ := own_inv h
  exact ⟨t, ht, by simp [hlog], by simp [Scene.look, hlog]⟩

theorem clearCanceled_inv {r : Except Failure Unit}
    (h : exec (observe c).control.clearCanceled s = (r, s')) :
    ∃ t, Log.Quiet t ∧ r = .ok () ∧ s'.log = s.log ++ t ++ [.clear] := by
  dsimp only [observe] at h
  obtain ⟨s₁, ⟨t, ht, hlog⟩, rfl, rfl⟩ := own_inv h
  exact ⟨t, ht, rfl, by simp [Scene.add, hlog]⟩

theorem status_inv {r : Except Failure RunStatus}
    (h : exec (observe c).control.status s = (r, s')) :
    ∃ t, Log.Quiet t ∧ r = .ok s.log.status ∧ s'.log = s.log ++ t := by
  dsimp only [observe] at h
  obtain ⟨s₁, ⟨t, ht, hlog⟩, rfl, rfl⟩ := own_inv h
  exact ⟨t, ht, by simp [hlog, ht.status], hlog⟩

theorem setStatus_inv {st : RunStatus} {r : Except Failure Unit}
    (h : exec ((observe c).control.setStatus st) s = (r, s')) :
    ∃ t, Log.Quiet t ∧ r = .ok () ∧ s'.log = s.log ++ t ++ [.status st] := by
  dsimp only [observe] at h
  obtain ⟨s₁, ⟨t, ht, hlog⟩, rfl, rfl⟩ := own_inv h
  exact ⟨t, ht, rfl, by simp [Scene.add, hlog]⟩

/-! The steps of the run itself always answer, so what follows one of them always runs. -/

theorem now_bind_inv {f : Stamp → Run σ β} {r : Except Failure β}
    (h : exec ((observe c).control.now >>= f) s = (r, s')) :
    ∃ t tm s₁, Log.Quiet t ∧ s₁.log = s.log ++ t ++ [.clock tm] ∧ exec (f tm) s₁ = (r, s') := by
  obtain ⟨_, s₁, hnow, h⟩ := bind_ok_inv (fun _ _ h => by
    obtain ⟨_, _, -, hr, -⟩ := now_inv h
    exact ⟨_, hr⟩) h
  obtain ⟨t, _, ht, hr, hlog⟩ := now_inv hnow
  cases hr
  exact ⟨t, _, s₁, ht, hlog, h⟩

theorem status_bind_inv {f : RunStatus → Run σ β} {r : Except Failure β}
    (h : exec ((observe c).control.status >>= f) s = (r, s')) :
    ∃ t s₁, Log.Quiet t ∧ s₁.log = s.log ++ t ∧ exec (f s.log.status) s₁ = (r, s') := by
  obtain ⟨_, s₁, hs, h⟩ := bind_ok_inv (fun _ _ h => by
    obtain ⟨_, -, hr, -⟩ := status_inv h
    exact ⟨_, hr⟩) h
  obtain ⟨t, ht, hr, hlog⟩ := status_inv hs
  cases hr
  exact ⟨t, s₁, ht, hlog, h⟩

theorem setStatus_bind_inv {st : RunStatus} {f : Unit → Run σ β} {r : Except Failure β}
    (h : exec ((observe c).control.setStatus st >>= f) s = (r, s')) :
    ∃ t s₁, Log.Quiet t ∧ s₁.log = s.log ++ t ++ [.status st] ∧ exec (f ()) s₁ = (r, s') := by
  obtain ⟨_, s₁, hset, h⟩ := bind_ok_inv (fun _ _ h => by
    obtain ⟨_, -, hr, -⟩ := setStatus_inv h
    exact ⟨_, hr⟩) h
  obtain ⟨t, ht, -, hlog⟩ := setStatus_inv hset
  exact ⟨t, s₁, ht, hlog, h⟩

theorem clearCanceled_bind_inv {f : Unit → Run σ β} {r : Except Failure β}
    (h : exec ((observe c).control.clearCanceled >>= f) s = (r, s')) :
    ∃ t s₁, Log.Quiet t ∧ s₁.log = s.log ++ t ++ [.clear] ∧ exec (f ()) s₁ = (r, s') := by
  obtain ⟨_, s₁, hclear, h⟩ := bind_ok_inv (fun _ _ h => by
    obtain ⟨_, -, hr, -⟩ := clearCanceled_inv h
    exact ⟨_, hr⟩) h
  obtain ⟨t, ht, -, hlog⟩ := clearCanceled_inv hclear
  exact ⟨t, s₁, ht, hlog, h⟩

end Operations

end CatalogSync.Sync
