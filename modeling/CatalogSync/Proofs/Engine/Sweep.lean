import CatalogSync.Proofs.Engine.PushLog

/-!
# The log of the pushes of a listing

`pushAll` takes the records of a listing in order. Before each it looks at the request to
stop; it skips a record whose id it processed already, and pushes the others until a push ends
the run. `Sweep` lists the paths its log can follow, each push along a path of `PushLog`, and
`pushAll_sweep` says that every run of `pushAll` follows one of them, whatever the sites and
stores answer.

Read off a sweep: the ids it pushes are the first of the listing's ids not processed before,
in the order of the listing and each once, and a sweep that returns without stopping pushed all
of them and hands them back as processed (`Sweep.pushedIds_prefix`, `Sweep.returned`).
-/

namespace CatalogSync.Sync

/-! ## The ids a listing leaves to push -/

section Fresh

variable {a : String} {ids done : List String}

theorem nodup_eraseDups {α : Type} [BEq α] [LawfulBEq α] : ∀ l : List α, l.eraseDups.Nodup
  | [] => by simp
  | a :: as => by
    rw [List.eraseDups_cons]
    exact List.nodup_cons.mpr ⟨by simp [List.mem_eraseDups], nodup_eraseDups _⟩
termination_by l => l.length
decreasing_by
  simp only [List.length_cons]
  exact Nat.lt_succ_of_le (List.length_filter_le _ _)

theorem fresh_cons_of_mem (h : a ∈ done) :
    ((a :: ids).removeAll done).eraseDups = (ids.removeAll done).eraseDups := by
  simp [List.removeAll, h]

theorem fresh_cons_of_not_mem (h : a ∉ done) :
    ((a :: ids).removeAll done).eraseDups = a :: (ids.removeAll (a :: done)).eraseDups := by
  have ha : List.elem a done = false := by simpa [List.elem_iff] using h
  rw [List.removeAll, List.filter_cons, ha, Bool.not_false, if_pos rfl, List.eraseDups_cons,
    List.filter_filter]
  congr 2
  apply List.filter_congr
  intro x _
  by_cases hx : x = a <;> simp [hx]

theorem removeAll_congr {A B : List String} (h : ∀ x, x ∈ A ↔ x ∈ B) :
    ids.removeAll A = ids.removeAll B :=
  List.filter_congr fun x _ => by simp [h x]

end Fresh

/-! ## The paths of a sweep -/

variable {σ : Type} {c : Collaborators σ} {s s' : Scene σ}

theorem isCanceled_bind_inv {β : Type} {f : Bool → Run σ β} {r : Except Failure β}
    (h : exec ((observe c).control.isCanceled >>= f) s = (r, s')) :
    ∃ t s₁, Log.Quiet t ∧ s₁.log = s.log ++ t ++ [.checkpoint (s.log ++ t).canceled] ∧
      exec (f (s.log ++ t).canceled) s₁ = (r, s') := by
  obtain ⟨_, s₁, hc, h⟩ := bind_ok_inv (fun _ _ h => by
    obtain ⟨_, -, hr, -⟩ := isCanceled_inv h
    exact ⟨_, hr⟩) h
  obtain ⟨t, ht, hr, hlog⟩ := isCanceled_inv hc
  cases hr
  exact ⟨t, s₁, ht, hlog, h⟩

/-- The log `seg` of `pushAll` over the records `rs`, with the ids `done` processed before, in a
run whose status was `st`, and what it answers. -/
inductive Sweep (config : Replication) (retry : Bool) :
    List Record → List String → RunStatus → Log →
      Except Failure (Option RunState × List String) → Prop
  /-- Every record taken. -/
  | nil {done : List String} {st : RunStatus} : Sweep config retry [] done st [] (.ok (none, done))
  /-- A request to stop, seen before the next record. -/
  | canceled {r : Record} {rest : List Record} {done : List String} {st : RunStatus} {t : Log}
      (ht : t.Quiet) :
      Sweep config retry (r :: rest) done st (t ++ [.checkpoint true]) (.ok (some .canceled, done))
  /-- A record whose id was processed already. -/
  | seen {r : Record} {rest : List Record} {done : List String} {st : RunStatus} {t seg : Log}
      {res : Except Failure (Option RunState × List String)} (ht : t.Quiet) (hdone : r.ident ∈ done)
      (hrest : Sweep config retry rest done st seg res) :
      Sweep config retry (r :: rest) done st (t ++ [.checkpoint false] ++ seg) res
  /-- A push that could not read the item of its record. -/
  | unread {r : Record} {rest : List Record} {done : List String} {st : RunStatus} {t t' : Log}
      {e : Failure} (ht : t.Quiet) (hnew : r.ident ∉ done) (ht' : t'.Quiet) :
      Sweep config retry (r :: rest) done st
        (t ++ [.checkpoint false] ++ t' ++ [config.readsItem r (.error e)]) (.error e)
  /-- A push that ended the run, or raised. -/
  | stopped {r : Record} {rest : List Record} {done : List String} {st : RunStatus} {t t' p : Log}
      {stored : Option Item} {res : Except Failure (Option RunState)} (ht : t.Quiet)
      (hnew : r.ident ∉ done) (ht' : t'.Quiet) (hpush : PushLog config retry r st stored p res)
      (hres : res ≠ .ok none) :
      Sweep config retry (r :: rest) done st
        (t ++ [.checkpoint false] ++ t' ++ [config.readsItem r (.ok stored)] ++ p)
        (res.map fun k => (k, r.ident :: done))
  /-- A push after which the run goes on with the next record. -/
  | pushed {r : Record} {rest : List Record} {done : List String} {st : RunStatus}
      {t t' p seg : Log} {stored : Option Item}
      {res : Except Failure (Option RunState × List String)} (ht : t.Quiet)
      (hnew : r.ident ∉ done) (ht' : t'.Quiet) (hpush : PushLog config retry r st stored p (.ok none))
      (hrest : Sweep config retry rest (r.ident :: done) (p.foldl Event.setsStatus st) seg res) :
      Sweep config retry (r :: rest) done st
        (t ++ [.checkpoint false] ++ t' ++ [config.readsItem r (.ok stored)] ++ p ++ seg) res

/-- Every run of `pushAll` follows a path of `Sweep`, from the status of the run before it. -/
theorem pushAll_sweep (config : Replication) (retry : Bool) :
    ∀ (rs : List Record) (done : List String) {s s' : Scene σ}
      {res : Except Failure (Option RunState × List String)},
      exec (pushAll (observe c) config retry rs done) s = (res, s') →
      ∃ seg, s'.log = s.log ++ seg ∧ Sweep config retry rs done s.log.status seg res
  | [], done, s, s', res, h => by
    obtain ⟨rfl, rfl⟩ := Prod.mk.inj h
    exact ⟨[], by simp, .nil⟩
  | r :: rest, done, s, s', res, h => by
    unfold pushAll at h
    obtain ⟨t, s₁, ht, hlog, h⟩ := isCanceled_bind_inv h
    split at h
    · rename_i hseen
      obtain ⟨rfl, rfl⟩ := Prod.mk.inj h
      exact ⟨_, by rw [hlog, hseen]; simp, .canceled ht⟩
    rename_i hseen
    rw [Bool.not_eq_true] at hseen
    rw [hseen] at hlog
    have hst₁ : s₁.log.status = s.log.status := by
      rw [hlog, Log.status_append, ht.status]
      rfl
    split at h
    -- the id was processed already
    · rename_i hdone
      obtain ⟨seg, hseg, hsweep⟩ := pushAll_sweep config retry rest done h
      exact ⟨_, by rw [hseg, hlog]; simp, .seen ht (by simpa using hdone) (hst₁ ▸ hsweep)⟩
    rename_i hdone
    have hnew : r.ident ∉ done := by simpa using hdone
    obtain ⟨a, s₂, hpush, h⟩ := bind_exec h
    obtain ⟨t', ans, p, ht', hlog₂, -, hp⟩ := push_log config retry r hpush
    have hlog₂' :
        s₂.log = s.log ++ (t ++ [.checkpoint false] ++ t' ++ [config.readsItem r ans]) ++ p := by
      rw [hlog₂, hlog]
      simp
    rcases ans with e | stored
    · obtain ⟨rfl, rfl⟩ := hp
      rw [exec_bind, exec_ofExcept] at h
      obtain ⟨rfl, rfl⟩ := Prod.mk.inj h
      exact ⟨_, by simpa using hlog₂', .unread ht hnew ht'⟩
    rw [hst₁] at hp
    rcases a with e | _ | k
    · rw [exec_bind, exec_ofExcept] at h
      obtain ⟨rfl, rfl⟩ := Prod.mk.inj h
      exact ⟨_, by simpa using hlog₂', .stopped ht hnew ht' hp (by simp)⟩
    -- the push let the run go on
    · rw [exec_ofExcept_bind] at h
      obtain ⟨seg, hseg, hsweep⟩ := pushAll_sweep config retry rest (r.ident :: done) h
      have hst₂ : s₂.log.status = p.foldl Event.setsStatus s.log.status := by
        rw [hlog₂', Log.status_foldl, Log.status_unset]
        intro e he
        simp only [List.mem_append, List.mem_singleton] at he
        rcases he with ((he | rfl) | he) | rfl
        · rw [ht e he]; exact fun _ => rfl
        · exact fun _ => rfl
        · rw [ht' e he]; exact fun _ => rfl
        · exact fun _ => rfl
      exact ⟨_, by rw [hseg, hlog₂']; simp, .pushed ht hnew ht' hp (hst₂ ▸ hsweep)⟩
    · rw [exec_ofExcept_bind] at h
      obtain ⟨rfl, rfl⟩ := Prod.mk.inj h
      exact ⟨_, by simpa using hlog₂', (.stopped ht hnew ht' hp (by simp) : Sweep config retry
        (r :: rest) done s.log.status _ ((Except.ok (some k)).map fun k => (k, r.ident :: done)))⟩

/-! ## What a sweep pushes -/

@[simp] theorem pushedId_readsItem (config : Replication) (r : Record)
    (ans : Except Failure (Option Item)) : (config.readsItem r ans).pushedId = some r.ident :=
  rfl

@[simp] theorem pushedId_checkpoint (seen : Bool) : (Event.checkpoint seen).pushedId = none :=
  rfl

@[simp] theorem listing_checkpoint (seen : Bool) : (Event.checkpoint seen).listing = none :=
  rfl

@[simp] theorem listing_readsItem (config : Replication) (r : Record)
    (ans : Except Failure (Option Item)) : (config.readsItem r ans).listing = none :=
  rfl

namespace Sweep

variable {config : Replication} {retry : Bool} {rs : List Record} {done : List String}
  {st : RunStatus} {seg : Log} {res : Except Failure (Option RunState × List String)}

theorem listings (h : Sweep config retry rs done st seg res) : seg.listings = [] := by
  induction h with
  | nil => rfl
  | canceled ht => simp [ht.listings]
  | seen ht _ _ ih => simp [ht.listings, ih]
  | unread ht _ ht' => simp [ht.listings, ht'.listings]
  | stopped ht _ ht' hpush => simp [ht.listings, ht'.listings, hpush.listings]
  | pushed ht _ ht' hpush _ ih =>
    simp [ht.listings, ht'.listings, hpush.listings, ih]

/-- The ids a sweep pushes, in order: the first of the listing's ids not processed before, each
once. -/
theorem pushedIds_prefix (h : Sweep config retry rs done st seg res) :
    seg.pushedIds <+: ((rs.map Record.ident).removeAll done).eraseDups := by
  induction h with
  | nil => simp
  | canceled ht => simp [ht]
  | seen ht hdone _ ih =>
    rw [List.map_cons, fresh_cons_of_mem hdone]
    simpa [ht] using ih
  | unread ht hnew ht' =>
    rw [List.map_cons, fresh_cons_of_not_mem hnew]
    simp [ht, ht']
  | stopped ht hnew ht' hpush =>
    rw [List.map_cons, fresh_cons_of_not_mem hnew]
    simp [ht, ht', hpush.pushedIds]
  | pushed ht hnew ht' hpush _ ih =>
    rw [List.map_cons, fresh_cons_of_not_mem hnew]
    simpa [ht, ht', hpush.pushedIds] using ih

/-- A sweep that returns hands back the ids processed before and those it pushed; when nothing
stopped it, it pushed every id of the listing not processed before. -/
theorem returned {stopped : Option RunState} {done' : List String}
    (h : Sweep config retry rs done st seg (.ok (stopped, done'))) :
    done' = seg.pushedIds.reverse ++ done ∧
      (stopped = none → seg.pushedIds = ((rs.map Record.ident).removeAll done).eraseDups) := by
  generalize hres : (Except.ok (stopped, done') : Except Failure _) = res at h
  induction h generalizing stopped done' with
  | nil =>
    cases hres
    simp
  | canceled ht =>
    cases hres
    simp [ht]
  | seen ht hdone _ ih =>
    obtain ⟨h₁, h₂⟩ := ih hres
    rw [List.map_cons, fresh_cons_of_mem hdone]
    simpa [ht] using And.intro h₁ h₂
  | unread => cases hres
  | @stopped _ _ _ _ _ _ _ _ res' ht _ ht' hpush hres' =>
    rcases res' with _ | k
    · cases hres
    · simp only [Except.map, Except.ok.injEq, Prod.mk.injEq] at hres
      obtain ⟨rfl, rfl⟩ := hres
      refine ⟨by simp [ht, ht', hpush.pushedIds], fun hk => ?_⟩
      subst hk
      exact absurd rfl hres'
  | pushed ht hnew ht' hpush _ ih =>
    obtain ⟨h₁, h₂⟩ := ih hres
    rw [List.map_cons, fresh_cons_of_not_mem hnew]
    refine ⟨by simp [h₁, ht, ht', hpush.pushedIds], fun hk => ?_⟩
    simp [h₂ hk, ht, ht', hpush.pushedIds]

end Sweep

end CatalogSync.Sync
