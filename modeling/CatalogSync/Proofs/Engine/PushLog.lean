import CatalogSync.Proofs.Engine.Watermark
import CatalogSync.Proofs.Engine.Cancellation

/-!
# The log of a push

A push of a record reads the item of the record, changes the destination, counts itself in the
status of the run and saves the item again. This module reads what a push did off its log,
whatever the sites and the item store answered:

* a change of the destination (`create`, `update`, or a deletion) is made of calls to the
  destination and reads of content from the source, writes at most once, and only writes the
  record or content read for it (`ChangeLog`);
* a whole push follows one of the paths of `PushLog`: it could not read the item, skipped a
  deletion never replicated, lost the link or raised during the change, or counted the change
  as taken or refused and saved the item accordingly.

`push_log` says that every run of a push follows a path of `PushLog`, with the status of the run
before and after it.

## Main definitions

* `Event.pushedId`, `Event.saved`, `Event.isWrite`, `Event.isTaken`, `Event.movedBytes` and the
  views `Log.pushedIds`, `Log.saves`, `Log.movedBytes` built from them.
* `Replication.itemOf`, `Item.refusal`: the item a push works on and the item a refused push
  saves.
* `ChangeLog`, `PushLog`.
-/

namespace CatalogSync.Sync

/-! ## What events show of pushes -/

namespace Event

/-- The id of the record whose push an event begins: a push begins by reading the item of its
record. -/
def pushedId : Event → Option String
  | .call (.store (.getItem _ id _ _ _)) => some id
  | _ => none

/-- The item an event saves, if it is a save to the item store. -/
def saved : Event → Option Item
  | .call (.store (.saveItem i _)) => some i
  | _ => none

/-- Whether an event is a write to the destination: a record or its content created, updated
or deleted. -/
def isWrite : Event → Bool
  | .call (.site .destination (.createMetadata ..)) | .call (.site .destination (.updateMetadata ..))
  | .call (.site .destination (.deleteMetadata ..)) | .call (.site .destination (.createResource ..))
  | .call (.site .destination (.updateResource ..)) => true
  | _ => false

/-- Whether an event is a write the destination took. -/
def isTaken : Event → Bool
  | .call (.site .destination (.createMetadata _ (.ok true)))
  | .call (.site .destination (.updateMetadata _ (.ok true)))
  | .call (.site .destination (.deleteMetadata _ (.ok true)))
  | .call (.site .destination (.createResource _ (.ok true)))
  | .call (.site .destination (.updateResource _ (.ok true))) => true
  | _ => false

/-- The bytes of content a write moved, when the destination took it. -/
def movedBytes : Event → Int
  | .call (.site .destination (.createResource res (.ok true))) => res.content.length
  | .call (.site .destination (.updateResource res (.ok true))) => res.content.length
  | _ => 0

/-- Whether an event may stand in a change of the destination: a look-up or a write on the
destination, a read of content from the source, or a request to stop. -/
def inChange : Event → Bool
  | .cancel | .call (.site .destination (.holds ..)) | .call (.site .source (.readResource ..)) =>
    true
  | e => e.isWrite

/-- A write of a change for `r` in the change log `ch` writes `r`, or content that the change
read from the source for `r`. -/
def WritesFor (r : Record) (ch : Log) : Event → Prop
  | .call (.site .destination (.createMetadata r' _))
  | .call (.site .destination (.updateMetadata r' _))
  | .call (.site .destination (.deleteMetadata r' _)) => r' = r
  | .call (.site .destination (.createResource res _))
  | .call (.site .destination (.updateResource res _)) =>
    .call (.site .source (.readResource r (.ok res))) ∈ ch
  | _ => True

theorem inChange_facts {e : Event} (h : e.inChange = true) :
    e.pushedId = none ∧ e.saved = none ∧ e.listing = none ∧ e.isCheckpoint = false ∧
      ∀ st, e.setsStatus st = st := by
  rcases e with _ | _ | _ | _ | _ | ⟨_ | _, call⟩ | call
  all_goals first
    | (cases call <;> simp_all [inChange, isWrite, pushedId, saved, listing, isCheckpoint,
        setsStatus])
    | simp_all [inChange, isWrite, pushedId, saved, listing, isCheckpoint, setsStatus]

theorem inChange_of_isWrite {e : Event} (h : e.isWrite = true) : e.inChange = true := by
  unfold inChange
  split <;> first | rfl | exact h

theorem isTaken_isWrite {e : Event} (h : e.isTaken = true) : e.isWrite = true := by
  unfold isTaken at h
  split at h <;> first | rfl | cases h

theorem movedBytes_of_not_taken {e : Event} (h : e.isTaken = false) : e.movedBytes = 0 := by
  unfold movedBytes
  split <;> simp_all [isTaken]

end Event

namespace Log

/-- The ids of the records a log pushes, in order. -/
def pushedIds (l : Log) : List String := l.filterMap Event.pushedId

/-- The items a log saves, in order. -/
def saves (l : Log) : List Item := l.filterMap Event.saved

/-- The bytes of content the destination took in a log. -/
def movedBytes : Log → Int
  | [] => 0
  | e :: l => e.movedBytes + movedBytes l

@[simp] theorem pushedIds_append (l₁ l₂ : Log) :
    pushedIds (l₁ ++ l₂) = pushedIds l₁ ++ pushedIds l₂ := List.filterMap_append

@[simp] theorem pushedIds_cons (e : Event) (l : Log) :
    pushedIds (e :: l) = e.pushedId.toList ++ pushedIds l := by
  cases h : e.pushedId <;> simp [pushedIds, h]

@[simp] theorem pushedIds_nil : pushedIds [] = [] := rfl

@[simp] theorem saves_append (l₁ l₂ : Log) : saves (l₁ ++ l₂) = saves l₁ ++ saves l₂ :=
  List.filterMap_append

@[simp] theorem saves_cons (e : Event) (l : Log) :
    saves (e :: l) = e.saved.toList ++ saves l := by
  cases h : e.saved <;> simp [saves, h]

@[simp] theorem saves_nil : saves [] = [] := rfl

@[simp] theorem movedBytes_cons (e : Event) (l : Log) :
    movedBytes (e :: l) = e.movedBytes + movedBytes l :=
  rfl

@[simp] theorem movedBytes_append (l₁ l₂ : Log) :
    movedBytes (l₁ ++ l₂) = movedBytes l₁ + movedBytes l₂ := by
  induction l₁ with
  | nil => exact (Int.zero_add _).symm
  | cons e l ih => rw [List.cons_append, movedBytes_cons, movedBytes_cons, ih, Int.add_assoc]

@[simp] theorem movedBytes_nil : movedBytes [] = 0 := rfl

theorem Quiet.filterMap {β : Type} {t : Log} (ht : t.Quiet) {f : Event → Option β}
    (hf : f .cancel = none) : t.filterMap f = [] :=
  List.filterMap_eq_nil_iff.mpr fun e he => by rw [ht e he]; exact hf

theorem Quiet.countP {t : Log} (ht : t.Quiet) {p : Event → Bool} (hp : p .cancel = false) :
    t.countP p = 0 :=
  List.countP_eq_zero.mpr fun e he => by rw [ht e he, hp]; simp

theorem Quiet.any {t : Log} (ht : t.Quiet) {p : Event → Bool} (hp : p .cancel = false) :
    t.any p = false :=
  List.any_eq_false.mpr fun e he => by rw [ht e he, hp]; simp

@[simp] theorem Quiet.pushedIds {t : Log} (ht : t.Quiet) : t.pushedIds = [] := ht.filterMap rfl

@[simp] theorem Quiet.saves {t : Log} (ht : t.Quiet) : t.saves = [] := ht.filterMap rfl

@[simp] theorem Quiet.movedBytes {t : Log} (ht : t.Quiet) : t.movedBytes = 0 := by
  induction t with
  | nil => rfl
  | cons e rest ih =>
    rw [movedBytes_cons, ih fun x hx => ht x (by simp [hx]), ht e (by simp)]
    rfl

end Log

/-! ## Changes of the destination -/

/-- What the log `ch` of a change of the destination for `r` shows: calls to the destination,
reads of content from the source and requests to stop only, at most one write, every write for
`r`, and the write the destination took, if one did, with the bytes it moved as `took` says. -/
structure ChangeLog (r : Record) (ch : Log) (took : Option Int) : Prop where
  inChange : ∀ e ∈ ch, e.inChange = true
  writeOnce : ch.countP Event.isWrite ≤ 1
  forRecord : ∀ e ∈ ch, e.isWrite = true → e.WritesFor r ch
  taken : ch.any Event.isTaken = took.isSome
  moved : ch.movedBytes = took.getD 0

/-- The bytes a change moved, when the destination took it; a change answers the outcome of its
write, or nothing once the link is lost. -/
def tookOf : Except Failure (Option (Bool × Int)) → Option Int
  | .ok (some (true, b)) => some b
  | _ => none

namespace Event

theorem WritesFor.mono {r : Record} {ch ch' : Log} {e : Event} (h : ch ⊆ ch')
    (he : e.WritesFor r ch) : e.WritesFor r ch' := by
  unfold WritesFor at he ⊢
  split <;> simp_all only [List.subset_def]

end Event

theorem Log.unwritten {l : Log} (hw : ∀ e ∈ l, e.isWrite = false) :
    l.any Event.isTaken = false ∧ l.movedBytes = 0 := by
  induction l with
  | nil => exact ⟨rfl, rfl⟩
  | cons e rest ih =>
    obtain ⟨ih₁, ih₂⟩ := ih fun x hx => hw x (by simp [hx])
    have he : e.isTaken = false := by
      cases h : e.isTaken
      · rfl
      · simpa [Event.isTaken_isWrite h] using hw e (by simp)
    simp [ih₁, ih₂, he, Event.movedBytes_of_not_taken he]

namespace ChangeLog

variable {r : Record} {ch : Log} {took : Option Int}

theorem unwritten (hin : ∀ e ∈ ch, e.inChange = true) (hw : ∀ e ∈ ch, e.isWrite = false) :
    ChangeLog r ch none where
  inChange := hin
  writeOnce := by rw [List.countP_eq_zero.mpr fun e he => by simp [hw e he]]; omega
  forRecord e he hwe := by rw [hw e he] at hwe; cases hwe
  taken := (Log.unwritten hw).1
  moved := (Log.unwritten hw).2

theorem prepend {pre : Log} (h : ChangeLog r ch took) (hin : ∀ e ∈ pre, e.inChange = true)
    (hw : ∀ e ∈ pre, e.isWrite = false) : ChangeLog r (pre ++ ch) took where
  inChange e he := by
    rcases List.mem_append.mp he with he | he
    · exact hin e he
    · exact h.inChange e he
  writeOnce := by
    rw [List.countP_append, List.countP_eq_zero.mpr fun e he => by simp [hw e he]]
    exact Nat.zero_add _ ▸ h.writeOnce
  forRecord e he hwe := by
    rcases List.mem_append.mp he with he | he
    · rw [hw e he] at hwe; cases hwe
    · exact (h.forRecord e he hwe).mono (List.subset_append_right _ _)
  taken := by rw [List.any_append, (Log.unwritten hw).1, Bool.false_or]; exact h.taken
  moved := by rw [Log.movedBytes_append, h.moved, (Log.unwritten hw).2, Int.zero_add]

theorem lastWrite {pre : Log} {w : Event} (hin : ∀ e ∈ pre, e.inChange = true)
    (hw : ∀ e ∈ pre, e.isWrite = false) (hwrite : w.isWrite = true)
    (hfor : w.WritesFor r (pre ++ [w])) :
    ChangeLog r (pre ++ [w]) (if w.isTaken then some w.movedBytes else none) where
  inChange e he := by
    rcases List.mem_append.mp he with he | he
    · exact hin e he
    · rw [List.mem_singleton.mp he]; exact Event.inChange_of_isWrite hwrite
  writeOnce := by
    rw [List.countP_append, List.countP_eq_zero.mpr fun e he => by simp [hw e he]]
    simp [hwrite]
  forRecord e he hwe := by
    rcases List.mem_append.mp he with he | he
    · rw [hw e he] at hwe; cases hwe
    · rw [List.mem_singleton.mp he]; exact hfor
  taken := by
    rw [List.any_append, (Log.unwritten hw).1, Bool.false_or]
    cases h : w.isTaken <;> simp [h]
  moved := by
    rw [Log.movedBytes_append, (Log.unwritten hw).2, Int.zero_add]
    cases h : w.isTaken
    · simp [Event.movedBytes_of_not_taken h]
    · simp

end ChangeLog

/-! ## Runs of a change -/

section Change

variable {σ γ : Type} {c : Collaborators σ} {s s' : Scene σ}

theorem call_pure_inv {β : Type} {x : Op σ β} {logged : Except Failure β → Call} {g : β → γ}
    {a : Except Failure γ} (h : exec (Run.call c x logged >>= fun b => pure (g b)) s = (a, s')) :
    ∃ t ans, Log.Quiet t ∧ s'.log = s.log ++ t ++ [.call (logged ans)] ∧ a = ans.map g := by
  rcases bind_inv h with ⟨e, hcall, rfl⟩ | ⟨b, s₁, hcall, hpure⟩
  · obtain ⟨t, ht, hlog⟩ := call_inv hcall
    exact ⟨t, _, ht, hlog, rfl⟩
  · rw [exec_pure] at hpure
    obtain ⟨rfl, rfl⟩ := Prod.mk.inj hpure
    obtain ⟨t, ht, hlog⟩ := call_inv hcall
    exact ⟨t, _, ht, hlog, rfl⟩

theorem write_change {mk : Except Failure Bool → SiteCall} (r : Record)
    (hmk : mk = .createMetadata r ∨ mk = .updateMetadata r ∨ mk = .deleteMetadata r) {t : Log}
    (ht : t.Quiet) (ans : Except Failure Bool) :
    ChangeLog r (t ++ [.call (.site .destination (mk ans))])
      (tookOf (ans.map fun b => some (b, 0))) := by
  have hlast := ChangeLog.lastWrite (r := r) (w := .call (.site .destination (mk ans)))
    (fun e (he : e ∈ t) => by rw [ht e he]; rfl) (fun e he => by rw [ht e he]; rfl)
    (by rcases hmk with rfl | rfl | rfl <;> rfl)
    (by rcases hmk with rfl | rfl | rfl <;> rfl)
  rcases hmk with rfl | rfl | rfl <;> rcases ans with _ | _ | _ <;>
    simpa [tookOf, Except.map, Event.isTaken, Event.movedBytes] using hlast

theorem write_log {op : Op σ Bool} {mk : Except Failure Bool → SiteCall} (r : Record)
    (hmk : mk = .createMetadata r ∨ mk = .updateMetadata r ∨ mk = .deleteMetadata r)
    {a : Except Failure (Bool × Int)}
    (h : exec (Run.call c op (.site .destination ∘ mk) >>= fun b => pure (b, 0)) s = (a, s')) :
    ∃ ch, s'.log = s.log ++ ch ∧ ChangeLog r ch (tookOf (a.map some)) := by
  obtain ⟨t, ans, ht, hlog, rfl⟩ := call_pure_inv h
  refine ⟨t ++ [.call (.site .destination (mk ans))], by simpa using hlog, ?_⟩
  have hch := write_change r hmk ht ans
  rcases ans with _ | _ <;> exact hch

theorem copy_log {op : Resource → Op σ Bool} {mk : Resource → Except Failure Bool → SiteCall}
    (hmk : mk = .createResource ∨ mk = .updateResource) (r : Record)
    {a : Except Failure (Bool × Int)}
    (h : exec ((observe c).source.readResource r >>= fun res =>
      Run.call c (op res) (.site .destination ∘ mk res) >>= fun b =>
        pure (b, (res.content.length : Int))) s = (a, s')) :
    ∃ ch, s'.log = s.log ++ ch ∧ ChangeLog r ch (tookOf (a.map some)) := by
  rcases bind_inv h with ⟨e, hread, rfl⟩ | ⟨res, s₁, hread, hwrite⟩
  -- the content could not be read: nothing was written
  · obtain ⟨t, ht, hlog⟩ := call_inv hread
    refine ⟨t ++ [.call (.site .source (.readResource r (.error e)))], by simpa using hlog,
      ChangeLog.unwritten (fun x hx => ?_) (fun x hx => ?_)⟩
    all_goals
      rcases List.mem_append.mp hx with hx | hx
      · rw [ht x hx]; rfl
      · rw [List.mem_singleton.mp hx]; rfl
  obtain ⟨t, ht, hlog⟩ := call_inv hread
  obtain ⟨t', ans, ht', hlog', rfl⟩ := call_pure_inv hwrite
  let read : Event := .call (.site .source (.readResource r (.ok res)))
  refine ⟨(t ++ [read] ++ t') ++ [.call (.site .destination (mk res ans))], by
    rw [hlog', hlog]; simp [read], ?_⟩
  have hpre : ∀ x ∈ t ++ [read] ++ t', x.inChange = true ∧ x.isWrite = false := fun x hx => by
    simp only [List.mem_append, List.mem_singleton] at hx
    rcases hx with (hx | rfl) | hx
    · rw [ht x hx]; exact ⟨rfl, rfl⟩
    · exact ⟨rfl, rfl⟩
    · rw [ht' x hx]; exact ⟨rfl, rfl⟩
  have hlast := ChangeLog.lastWrite (r := r) (w := .call (.site .destination (mk res ans)))
    (fun x hx => (hpre x hx).1) (fun x hx => (hpre x hx).2)
    (by rcases hmk with rfl | rfl <;> rfl)
    (by rcases hmk with rfl | rfl <;> simp [Event.WritesFor, read])
  rcases hmk with rfl | rfl <;> rcases ans with _ | _ | _ <;>
    simpa [tookOf, Except.map, Event.isTaken, Event.movedBytes] using hlast

theorem unwritten_log {t : Log} {e : Event} (ht : t.Quiet) (he : e.inChange = true)
    (hw : e.isWrite = false) : ChangeLog r (t ++ [e]) none :=
  ChangeLog.unwritten (fun x hx => by
      rcases List.mem_append.mp hx with hx | hx
      · rw [ht x hx]; rfl
      · rw [List.mem_singleton.mp hx]; exact he)
    (fun x hx => by
      rcases List.mem_append.mp hx with hx | hx
      · rw [ht x hx]; rfl
      · rw [List.mem_singleton.mp hx]; exact hw)

theorem create_log (config : Replication) (r : Record) {a : Except Failure (Bool × Int)}
    (h : exec (create (observe c) config r) s = (a, s')) :
    ∃ ch, s'.log = s.log ++ ch ∧ ChangeLog r ch (tookOf (a.map some)) := by
  unfold create at h
  split at h
  · exact write_log r (.inl rfl) h
  · exact copy_log (.inl rfl) r h

theorem update_log (config : Replication) (r : Record) (i : Item) {a : Except Failure (Bool × Int)}
    (h : exec (update (observe c) config r i) s = (a, s')) :
    ∃ ch, s'.log = s.log ++ ch ∧ ChangeLog r ch (tookOf (a.map some)) := by
  unfold update at h
  rcases bind_inv h with ⟨e, hheld, rfl⟩ | ⟨held, s₁, hheld, h⟩
  · obtain ⟨t, ht, hlog⟩ := call_inv hheld
    exact ⟨_, by simpa using hlog, unwritten_log ht rfl rfl⟩
  obtain ⟨t, ht, hlog⟩ := call_inv hheld
  have hpre : ∀ x ∈ t ++ [Event.call (.site .destination (.holds r (.ok held)))],
      x.inChange = true ∧ x.isWrite = false := fun x hx => by
    rcases List.mem_append.mp hx with hx | hx
    · rw [ht x hx]; exact ⟨rfl, rfl⟩
    · rw [List.mem_singleton.mp hx]; exact ⟨rfl, rfl⟩
  have hafter : ∀ {s₂ : Scene σ} {ch : Log} {took : Option Int}, s₂.log = s₁.log ++ ch →
      ChangeLog r ch took → ∃ ch', s₂.log = s.log ++ ch' ∧ ChangeLog r ch' took :=
    fun h₂ hch => ⟨_, by rw [h₂, hlog]; simp, hch.prepend (fun x hx => (hpre x hx).1)
      (fun x hx => (hpre x hx).2)⟩
  split at h
  -- a record the destination lost is created again
  · obtain ⟨ch, hch, hlogc⟩ := create_log config r h
    exact hafter hch hlogc
  rcases bind_inv h with ⟨e, hcmp, rfl⟩ | ⟨changed, s₂, hcmp, hk⟩
  -- content times that cannot be compared: the change fails before writing
  · obtain ⟨-, rfl⟩ := Prod.mk.inj ((exec_ofExcept _ _).symm.trans hcmp)
    exact ⟨_, by simpa using hlog, unwritten_log ht rfl rfl⟩
  obtain ⟨-, rfl⟩ := ofExcept_inv hcmp
  split at hk
  · obtain ⟨ch, hch, hlogc⟩ := write_log r (.inr (.inl rfl)) hk
    exact hafter hch hlogc
  · obtain ⟨ch, hch, hlogc⟩ := copy_log (.inr rfl) r hk
    exact hafter hch hlogc

theorem handled_log {r : Record} {x : Run σ (Option (Bool × Int))}
    (hx : ∀ {a s'}, exec x s = (a, s') → ∃ ch, s'.log = s.log ++ ch ∧ ChangeLog r ch (tookOf a))
    {a : Except Failure (Option (Bool × Int))}
    (h : exec (tryCatchThe Failure x fun f =>
      if f.isLinkLoss then Pure.pure none else if f.isNode then Pure.pure (some (false, 0))
      else throwThe Failure f) s = (a, s')) :
    ∃ ch, s'.log = s.log ++ ch ∧ ChangeLog r ch (tookOf a) := by
  rcases tryCatch_inv h with ⟨v, hv, rfl⟩ | ⟨f, s₁, hf, hh⟩
  · exact hx hv
  obtain ⟨ch, hlog, hch⟩ := hx hf
  -- the handler adds nothing to the log and answers no taken write
  have hnone : s' = s₁ ∧ tookOf a = none := by
    split at hh
    · obtain ⟨rfl, rfl⟩ := Prod.mk.inj hh
      exact ⟨rfl, rfl⟩
    · split at hh
      · obtain ⟨rfl, rfl⟩ := Prod.mk.inj hh
        exact ⟨rfl, rfl⟩
      · obtain ⟨rfl, rfl⟩ := Prod.mk.inj hh
        exact ⟨rfl, rfl⟩
  obtain ⟨rfl, htook⟩ := hnone
  exact ⟨ch, hlog, htook ▸ hch⟩

theorem call_answer {β : Type} {x : Op σ β} {logged : Except Failure β → Call}
    {r : Except Failure β} (h : exec (Run.call c x logged) s = (r, s')) :
    ∃ w w', x.run.run w = (r, w') := by
  simp only [exec, Run.call, ExceptT.run, ExceptT.mk, StateT.run, Prod.mk.injEq] at h
  exact ⟨_, _, Prod.ext h.1 rfl⟩

theorem bind_exec {α β : Type} {x : Run σ α} {f : α → Run σ β} {r : Except Failure β}
    (h : exec (x >>= f) s = (r, s')) :
    ∃ a s₁, exec x s = (a, s₁) ∧ exec (ofExcept a >>= f) s₁ = (r, s') := by
  rw [exec_bind] at h
  rcases hx : exec x s with ⟨a, s₁⟩
  rw [hx] at h
  refine ⟨a, s₁, rfl, ?_⟩
  rw [exec_bind, exec_ofExcept]
  exact h

theorem bind_some_inv {α : Type} {x : Run σ α} {a : Except Failure (Option α)}
    (h : exec (x >>= fun v => pure (some v)) s = (a, s')) :
    ∃ a', exec x s = (a', s') ∧ a = a'.map some := by
  rcases bind_inv h with ⟨e, hx, rfl⟩ | ⟨v, s₁, hx, hpure⟩
  · exact ⟨_, hx, rfl⟩
  · rw [exec_pure] at hpure
    obtain ⟨rfl, rfl⟩ := Prod.mk.inj hpure
    exact ⟨_, hx, rfl⟩

end Change

end CatalogSync.Sync

/-! ## The items of a push -/

namespace CatalogSync.Item

/-- The key an item is filed under: its replication, its record and the two sites. -/
def key (i : Item) : String × String × String × String :=
  (i.configId, i.metadataId, i.source, i.destination)

/-- Whether an item records no failure: its count is the whole number zero. -/
def cleared (i : Item) : Bool :=
  match i.failureCount with
  | .whole n => n == 0
  | _ => false

/-- The item a refused push saves: one more failure, or a count started again at one once
the failures reached `limit` and the push is no retry. A count the store handed back as text or
bytes can be neither compared nor added to. -/
def refusal (i : Item) (limit : Int) (retry : Bool) : Except Failure Item := do
  let exhausted ← i.failureCount.atLeast limit
  i.failed (exhausted && !retry)

@[simp] theorem key_succeeded (i : Item) (m r : Option Stamp) : (i.succeeded m r).key = i.key :=
  rfl

theorem key_refusal {i j : Item} {limit : Int} {retry : Bool} (h : i.refusal limit retry = .ok j) :
    j.key = i.key := by
  simp only [refusal, failed, bind, Except.bind] at h
  split at h
  · cases h
  · split at h <;> simp_all <;> split at h <;> cases h <;> rfl

end CatalogSync.Item

namespace CatalogSync.Replication

/-- The key of the item of the record with id `id`. -/
def keyOf (config : Replication) (id : String) : String × String × String × String :=
  (config.id, id, config.source.display, config.destination.display)

/-- The item of `r` before its first push: no version pushed, no failure. -/
def newItem (config : Replication) (r : Record) : Item :=
  { configId := config.id, metadataId := r.ident,
    source := config.source.display, destination := config.destination.display }

/-- The item a push of `r` works on: the one stored, or a new one. -/
def itemOf (config : Replication) (r : Record) (stored : Option Item) : Item :=
  stored.getD (config.newItem r)

/-- The read of the item of `r` that begins a push, answered `answer`. -/
def readsItem (config : Replication) (r : Record) (answer : Except Failure (Option Item)) :
    Sync.Event :=
  .call (.store (.getItem config.id r.ident config.source.display config.destination.display answer))

end CatalogSync.Replication

namespace CatalogSync.Sync

/-- Whether an event is a probe of a site's availability, or a request to stop. -/
def Event.isProbe : Event → Bool
  | .cancel | .call (.site _ (.isAvailable _)) => true
  | _ => false

theorem Log.status_foldl (log m : Log) : (log ++ m).status = m.foldl Event.setsStatus log.status :=
  List.foldl_append

theorem Log.foldl_unset {m : Log} (hm : ∀ e ∈ m, ∀ st, e.setsStatus st = st) (st : RunStatus) :
    m.foldl Event.setsStatus st = st := by
  induction m generalizing st with
  | nil => rfl
  | cons e m ih =>
    rw [List.foldl_cons, hm e (by simp), ih fun x hx => hm x (by simp [hx])]

theorem Log.status_unset {m : Log} (hm : ∀ e ∈ m, ∀ st, e.setsStatus st = st) (log : Log) :
    (log ++ m).status = log.status := by
  rw [Log.status_foldl, Log.foldl_unset hm]

theorem ChangeLog.status {r : Record} {ch : Log} {took : Option Int} (h : ChangeLog r ch took)
    (log : Log) : (log ++ ch).status = log.status :=
  Log.status_unset (fun e he => (Event.inChange_facts (h.inChange e he)).2.2.2.2) log

theorem probe_log {side : Side} {x : Op σ Bool} {k : Run σ (Option RunState)}
    {v : Option RunState}
    (hk : ∀ {res s₁ s₂}, exec k s₁ = (res, s₂) →
      ∃ probes, s₂.log = s₁.log ++ probes ∧ ∀ e ∈ probes, e.isProbe = true)
    {s s' : Scene σ} {res : Except Failure (Option RunState)}
    (h : exec (Run.call c x (.site side ∘ .isAvailable) >>= fun up =>
      if (!up) = true then Pure.pure v else k) s = (res, s')) :
    ∃ probes, s'.log = s.log ++ probes ∧ ∀ e ∈ probes, e.isProbe = true := by
  have hprobe : ∀ {t : Log} {ans : Except Failure Bool}, t.Quiet →
      ∀ e ∈ t ++ [Event.call (.site side (.isAvailable ans))], e.isProbe = true :=
    fun ht e he => by
      rcases List.mem_append.mp he with he | he
      · rw [ht e he]; rfl
      · rw [List.mem_singleton.mp he]; rfl
  rcases bind_inv h with ⟨e, hcall, -⟩ | ⟨up, s₁, hcall, hk'⟩
  · obtain ⟨t, ht, hlog⟩ := call_inv hcall
    exact ⟨_, by simpa using hlog, hprobe ht⟩
  obtain ⟨t, ht, hlog⟩ := call_inv hcall
  split at hk'
  · obtain ⟨-, rfl⟩ := Prod.mk.inj hk'
    exact ⟨_, by simpa using hlog, hprobe ht⟩
  · obtain ⟨probes, hlog', hprobes⟩ := hk hk'
    refine ⟨t ++ [.call (.site side (.isAvailable (.ok up)))] ++ probes,
      by rw [hlog', hlog]; simp, fun e he => ?_⟩
    rcases List.mem_append.mp he with he | he
    · exact hprobe ht e he
    · exact hprobes e he

/-! ## A whole push -/

/-- How a push of `r` goes on after it read the item `stored`, in a run whose status was `st`:
the log `seg` after the read, and what the push answers. -/
inductive PushLog (config : Replication) (retry : Bool) (r : Record) (st : RunStatus)
    (stored : Option Item) : Log → Except Failure (Option RunState) → Prop
  /-- A deletion of a record never replicated is skipped. -/
  | skipped (hnew : stored = none) (hdel : r.deleted = true) :
      PushLog config retry r st stored [] (.ok none)
  /-- The change lost the link or raised: the push ends there, and counts and saves nothing. -/
  | stopped {ch : Log} {res : Except Failure (Option RunState)} (hch : ChangeLog r ch none)
      (hres : res ≠ .ok none) : PushLog config retry r st stored ch res
  /-- The destination took the change: the push is counted with the bytes it moved, and the
  item is saved as pushed. -/
  | took {ch t₁ t₂ : Log} {b : Int} {ans : Except Failure Unit} (hch : ChangeLog r ch (some b))
      (ht₁ : t₁.Quiet) (ht₂ : t₂.Quiet) :
      PushLog config retry r st stored
        (ch ++ t₁ ++ [.status (st.recordPush b)] ++ t₂ ++ [.call (.store (.saveItem
          ((config.itemOf r stored).succeeded r.modified r.resourceModified) ans))])
        (ans.map fun _ => none)
  /-- The destination refused, and the count of the item takes no more failures: the refusal
  is counted, and the failure raised. -/
  | uncounted {ch t : Log} {e : Failure} (hch : ChangeLog r ch none) (ht : t.Quiet)
      (he : (config.itemOf r stored).refusal config.retryLimit retry = .error e) :
      PushLog config retry r st stored (ch ++ t ++ [.status st.recordPushFailure]) (.error e)
  /-- The destination refused: the refusal is counted, the item saved with its refusal, and the
  sites probed; a push that answers went through with its save. -/
  | refused {ch t₁ t₂ probes : Log} {i : Item} {ans : Except Failure Unit}
      {res : Except Failure (Option RunState)} (hch : ChangeLog r ch none) (ht₁ : t₁.Quiet)
      (ht₂ : t₂.Quiet) (hi : (config.itemOf r stored).refusal config.retryLimit retry = .ok i)
      (hprobes : ∀ e ∈ probes, e.isProbe = true) (hsaved : ∀ k, res = .ok k → ans = .ok ()) :
      PushLog config retry r st stored
        (ch ++ t₁ ++ [.status st.recordPushFailure] ++ t₂ ++ [.call (.store (.saveItem i ans))] ++
          probes) res

/-- Every push reads the item of its record, after requests to stop, and goes on along one of
the paths of `PushLog`; the item it read is one the item store hands back. -/
theorem push_log (config : Replication) (retry : Bool) (r : Record)
    {res : Except Failure (Option RunState)}
    (h : exec (push (observe c) config retry r) s = (res, s')) :
    ∃ t ans rest, t.Quiet ∧ s'.log = s.log ++ t ++ [config.readsItem r ans] ++ rest ∧
      (∃ w w', (c.ledger.getItem config.id r.ident config.source.display
        config.destination.display).run.run w = (ans, w')) ∧
      match ans with
      | .error e => rest = [] ∧ res = .error e
      | .ok stored => PushLog config retry r s.log.status stored rest res := by
  unfold push at h
  rcases bind_inv h with ⟨e, hget, rfl⟩ | ⟨stored, s₁, hget, h⟩
  -- the item could not be read
  · obtain ⟨t, ht, hlog⟩ := call_inv hget
    exact ⟨t, .error e, [], ht, by simpa [Replication.readsItem] using hlog, call_answer hget,
      rfl, rfl⟩
  obtain ⟨t, ht, hlog⟩ := call_inv hget
  have hst : s₁.log.status = s.log.status := by
    rw [hlog, Log.status_append, ht.status]
    rfl
  suffices hrest : ∃ rest, s'.log = s₁.log ++ rest ∧
      PushLog config retry r s₁.log.status stored rest res by
    obtain ⟨rest, hrest, hpush⟩ := hrest
    exact ⟨t, .ok stored, rest, ht, by rw [hrest, hlog]; rfl, call_answer hget, hst ▸ hpush⟩
  split at h
  · rename_i hskip
    obtain ⟨rfl, rfl⟩ := Prod.mk.inj h
    simp only [Bool.and_eq_true, Option.isNone_iff_eq_none] at hskip
    exact ⟨[], by simp, .skipped hskip.1 hskip.2⟩
  obtain ⟨a, s₂, hatt, h⟩ := bind_exec h
  -- the change, with its failures handled
  obtain ⟨ch, hlogc, hch⟩ : ∃ ch, s₂.log = s₁.log ++ ch ∧ ChangeLog r ch (tookOf a) := by
    refine handled_log (fun {a' s''} hbody => ?_) hatt
    split at hbody
    · obtain ⟨a'', hupd, rfl⟩ := bind_some_inv hbody
      exact update_log config r _ hupd
    · obtain ⟨t', ans, ht', hlog', rfl⟩ := call_pure_inv hbody
      exact ⟨_, by simpa using hlog', write_change r (.inr (.inr rfl)) ht' ans⟩
    · obtain ⟨a'', hcreate, rfl⟩ := bind_some_inv hbody
      exact create_log config r hcreate
  have hst₂ : s₂.log.status = s₁.log.status := by rw [hlogc, hch.status]
  rw [← hst₂]
  rcases a with e | _ | ⟨pushed, bytes⟩
  -- the change raised
  · rw [exec_bind, exec_ofExcept] at h
    obtain ⟨rfl, rfl⟩ := Prod.mk.inj h
    exact ⟨ch, hlogc, .stopped hch (by simp)⟩
  -- the change lost the link
  · rw [exec_ofExcept_bind] at h
    obtain ⟨rfl, rfl⟩ := Prod.mk.inj h
    exact ⟨ch, hlogc, .stopped hch (by simp)⟩
  rw [exec_ofExcept_bind] at h
  dsimp only at h
  split at h
  -- the destination took the change
  · subst pushed
    obtain ⟨t₁, s₃, ht₁, hlog₃, h⟩ := status_bind_inv h
    obtain ⟨t₂, s₄, ht₂, hlog₄, h⟩ := setStatus_bind_inv h
    obtain ⟨t₃, ans, ht₃, hlog₅, rfl⟩ := call_pure_inv h
    refine ⟨ch ++ (t₁ ++ t₂) ++ _ ++ t₃ ++ _, ?_, PushLog.took hch (ht₁.append ht₂) ht₃⟩
    rw [hlog₅, hlog₄, hlog₃, hlogc]
    simp [Replication.itemOf, Replication.newItem]
  -- the destination refused: the status counts it, then the item is saved
  obtain rfl : pushed = false := by simpa using ‹¬pushed = true›
  obtain ⟨t₁, s₃, ht₁, hlog₃, h⟩ := status_bind_inv h
  obtain ⟨t₂, s₄, ht₂, hlog₄, h⟩ := setStatus_bind_inv h
  have hlog₄' : s₄.log = s₁.log ++
      (ch ++ (t₁ ++ t₂) ++ [.status s₂.log.status.recordPushFailure]) := by
    rw [hlog₄, hlog₃, hlogc]
    simp
  split at h
  · rename_i i hi
    rcases bind_inv h with ⟨e, hsave, rfl⟩ | ⟨_, s₅, hsave, h⟩
    · obtain ⟨t₃, ht₃, hlog₅⟩ := call_inv hsave
      refine ⟨_ ++ t₃ ++ [.call (.store (.saveItem i (.error e)))] ++ [], ?_,
        PushLog.refused hch (ht₁.append ht₂) ht₃ hi (by simp) fun _ h => by cases h⟩
      rw [hlog₅, hlog₄']
      simp
    obtain ⟨t₃, ht₃, hlog₅⟩ := call_inv hsave
    obtain ⟨probes, hlog₆, hprobes⟩ :=
      probe_log (probe_log (fun hk => ⟨[], by rw [(Prod.mk.inj hk).2]; simp, by simp⟩)) h
    refine ⟨_ ++ t₃ ++ [.call (.store (.saveItem i (.ok ())))] ++ probes, ?_,
      PushLog.refused hch (ht₁.append ht₂) ht₃ hi hprobes fun _ _ => rfl⟩
    rw [hlog₆, hlog₅, hlog₄']
    simp
  · rename_i f hf
    rw [exec_bind, exec_throw] at h
    obtain ⟨rfl, rfl⟩ := Prod.mk.inj h
    exact ⟨_, hlog₄', PushLog.uncounted hch (ht₁.append ht₂) hf⟩

/-- Whether an event may stand in a push after the read of its item: an event of a change, a
status update, a save of an item or a probe. -/
def Event.inPush : Event → Bool
  | .status _ | .call (.store (.saveItem ..)) => true
  | e => e.inChange || e.isProbe

theorem Event.inPush_facts {e : Event} (h : e.inPush = true) :
    e.pushedId = none ∧ e.listing = none ∧ e.isCheckpoint = false := by
  rcases e with _ | _ | _ | _ | _ | ⟨_ | _, call⟩ | call
  all_goals first
    | (cases call <;> simp_all [inPush, inChange, isWrite, isProbe, pushedId, listing,
        isCheckpoint])
    | simp_all [inPush, inChange, isWrite, isProbe, pushedId, listing, isCheckpoint]

theorem Event.inPush_of {e : Event} (h : e.inChange = true ∨ e.isProbe = true) :
    e.inPush = true := by
  unfold inPush
  split <;> simp_all

namespace PushLog

variable {config : Replication} {retry : Bool} {r : Record} {st : RunStatus}
  {stored : Option Item} {p : Log} {res : Except Failure (Option RunState)}

theorem inPush (h : PushLog config retry r st stored p res) : ∀ e ∈ p, e.inPush = true := by
  have hch : ∀ {ch : Log} {took : Option Int}, ChangeLog r ch took → ∀ e ∈ ch, e.inPush = true :=
    fun hch e he => Event.inPush_of (.inl (hch.inChange e he))
  have hquiet : ∀ {t : Log}, t.Quiet → ∀ e ∈ t, e.inPush = true :=
    fun ht e he => by rw [ht e he]; rfl
  cases h with
  | skipped => simp
  | stopped hc => exact hch hc
  | took hc ht₁ ht₂ =>
    simp only [List.mem_append, List.mem_singleton]
    rintro e ((((he | he) | rfl) | he) | rfl)
    · exact hch hc e he
    · exact hquiet ht₁ e he
    · rfl
    · exact hquiet ht₂ e he
    · rfl
  | uncounted hc ht =>
    simp only [List.mem_append, List.mem_singleton]
    rintro e ((he | he) | rfl)
    · exact hch hc e he
    · exact hquiet ht e he
    · rfl
  | refused hc ht₁ ht₂ _ hprobes =>
    simp only [List.mem_append, List.mem_singleton]
    rintro e (((((he | he) | rfl) | he) | rfl) | he)
    · exact hch hc e he
    · exact hquiet ht₁ e he
    · rfl
    · exact hquiet ht₂ e he
    · rfl
    · exact Event.inPush_of (.inr (hprobes e he))

theorem pushedIds (h : PushLog config retry r st stored p res) : p.pushedIds = [] :=
  List.filterMap_eq_nil_iff.mpr fun e he => (Event.inPush_facts (h.inPush e he)).1

theorem listings (h : PushLog config retry r st stored p res) : p.listings = [] :=
  List.filterMap_eq_nil_iff.mpr fun e he => (Event.inPush_facts (h.inPush e he)).2.1

end PushLog

end CatalogSync.Sync
