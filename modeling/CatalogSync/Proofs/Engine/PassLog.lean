import CatalogSync.Proofs.Engine.Books

/-!
# The passes of a run, and what they push

A pass asks the source for the records of one predicate and sweeps the listing it answered;
a listing that broke off ends the pass once its records are swept. `PassLog` lists the paths
the log of a pass can follow, and `replicate_passLog` says that every run of `replicate`
follows one of them. A pass keeps the books of its sweep (`PassLog.accounts`) and pushes the
first ids of its listing not processed before, each once (`PassLog.dedup`).

The two passes of a run share the ids they processed, so together they push the first ids of
the two listings, in order and each once, the retry listing's before the change listing's
(`passes_booked`).
-/

namespace CatalogSync.Sync

open scoped List

/-! ## What a stretch of log listed -/

/-- The ids of the records the queries of a log were answered with, in order. -/
def Log.listedIds (l : Log) : List String := l.listings.flatMap fun ls => ls.records.map Record.ident

@[simp] theorem Log.listedIds_append (l₁ l₂ : Log) :
    (l₁ ++ l₂).listedIds = l₁.listedIds ++ l₂.listedIds := by
  simp [Log.listedIds]

/-- What a stretch of log pushed, with the ids `done` processed before it: the first ids listed
in it and not processed before, in order and each once. -/
def Log.Dedup (done : List String) (seg : Log) : Prop :=
  seg.pushedIds <+: (seg.listedIds.removeAll done).eraseDups

theorem Log.Dedup.after {seg₁ seg₂ : Log} (h₁ : seg₁.pushedIds = seg₁.listedIds.eraseDups)
    (h₂ : seg₂.Dedup seg₁.pushedIds.reverse) : (seg₁ ++ seg₂).Dedup [] := by
  unfold Log.Dedup at h₂ ⊢
  have hsame : ∀ x, x ∈ seg₁.pushedIds.reverse ↔ x ∈ seg₁.listedIds := by
    intro x
    rw [List.mem_reverse, h₁, List.mem_eraseDups]
  rw [removeAll_congr hsame] at h₂
  rw [Log.pushedIds_append, Log.listedIds_append, List.removeAll_nil, List.eraseDups_append, h₁]
  exact (List.prefix_append_right_inj _).mpr h₂

/-- A stretch of log that leaves the books of the pushes alone and lists nothing. -/
def Log.Aloof (seg : Log) : Prop := (∀ e ∈ seg, e.aloof = true) ∧ seg.listings = []

namespace Log.Aloof

variable {config : Replication} {st : RunStatus} {l₁ l₂ seg : Log}

theorem nil : Log.Aloof [] := ⟨by simp, rfl⟩

theorem append (h₁ : l₁.Aloof) (h₂ : l₂.Aloof) : (l₁ ++ l₂).Aloof :=
  ⟨fun e he => (List.mem_append.mp he).elim (h₁.1 e) (h₂.1 e), by simp [h₁.2, h₂.2]⟩

theorem quiet_then {t : Log} {e : Event} (ht : t.Quiet) (he : e.aloof = true)
    (hl : e.listing = none) : (t ++ [e]).Aloof :=
  ⟨fun x hx => by
    rcases List.mem_append.mp hx with hx | hx
    · rw [ht x hx]; rfl
    · rw [List.mem_singleton.mp hx]; exact he,
   by simp [ht.listings, hl]⟩

theorem pushedIds (h : seg.Aloof) : seg.pushedIds = [] :=
  List.filterMap_eq_nil_iff.mpr fun e he => (Event.aloof_facts (h.1 e he)).1

theorem listedIds (h : seg.Aloof) : seg.listedIds = [] := by
  simp [Log.listedIds, h.2]

theorem status (h : seg.Aloof) (log : Log) : (log ++ seg).status = log.status :=
  Log.status_unset (fun e he => (Event.aloof_facts (h.1 e he)).2.2.2.2) log

theorem accounts (h : seg.Aloof) : Accounts config st seg := Accounts.aloof h.1

theorem dedup (h : seg.Aloof) (done : List String) : seg.Dedup done := by
  simp [Log.Dedup, h.pushedIds]

end Log.Aloof

variable {σ : Type} {c : Collaborators σ} {s s' : Scene σ}

theorem ofExcept_bind_cases {α β : Type} {a : Except Failure α} {f : α → Run σ β}
    {r : Except Failure β} (h : exec (ofExcept a >>= f) s = (r, s')) :
    (∃ e, a = .error e ∧ r = .error e ∧ s' = s) ∨ ∃ v, a = .ok v ∧ exec (f v) s = (r, s') := by
  rcases a with e | v
  · rw [exec_bind, exec_ofExcept] at h
    obtain ⟨rfl, rfl⟩ := Prod.mk.inj h
    exact .inl ⟨e, rfl, rfl, rfl⟩
  · rw [exec_ofExcept_bind] at h
    exact .inr ⟨v, rfl, h⟩

/-! ## Asking the source -/

theorem sourceFailure_log {f : Failure} {res : Except Failure RunState}
    (h : exec (sourceFailure (observe c) f) s = (res, s')) :
    ∃ seg, s'.log = s.log ++ seg ∧ seg.Aloof := by
  unfold sourceFailure at h
  split at h
  · obtain ⟨-, rfl⟩ := Prod.mk.inj h
    exact ⟨[], by simp, .nil⟩
  rcases bind_inv h with ⟨e, hcall, -⟩ | ⟨up, s₁, hcall, h⟩
  · obtain ⟨t, ht, hlog⟩ := call_inv hcall
    exact ⟨t ++ [.call (.site .source (.isAvailable (.error e)))], by simpa using hlog,
      .quiet_then ht rfl rfl⟩
  obtain ⟨t, ht, hlog⟩ := call_inv hcall
  have hs' : s' = s₁ := by
    split at h
    · exact (Prod.mk.inj h).2.symm
    · exact (Prod.mk.inj h).2.symm
  subst hs'
  exact ⟨t ++ [.call (.site .source (.isAvailable (.ok up)))], by simpa using hlog,
    .quiet_then ht rfl rfl⟩

theorem ask_log {p : Option Predicate} {after : Option Stamp}
    {res : Except Failure (Except RunState Listing)}
    (h : exec (ask (observe c) p after) s = (res, s')) :
    (∃ t l, t.Quiet ∧ res = .ok (.ok l) ∧
      s'.log = s.log ++ t ++ [.call (.site .source (.query p after (.ok l)))]) ∨
    ∃ seg, s'.log = s.log ++ seg ∧ seg.Aloof ∧ ∀ l, res ≠ .ok (.ok l) := by
  unfold ask at h
  rcases tryCatch_inv h with ⟨v, hq, rfl⟩ | ⟨f, s₁, hq, hf⟩
  · obtain ⟨t, ans, ht, hlog, hv⟩ := call_pure_inv hq
    rcases ans with _ | l
    · cases hv
    · cases hv
      exact .inl ⟨t, l, ht, rfl, hlog⟩
  -- the query failed: its event lists nothing
  obtain ⟨t, ans, ht, hlog, hv⟩ := call_pure_inv hq
  rcases ans with f' | l
  · have hpre : (t ++ [Event.call (.site .source (.query p after (.error f')))]).Aloof :=
      .quiet_then ht rfl rfl
    have hlog' :
        s₁.log = s.log ++ (t ++ [Event.call (.site .source (.query p after (.error f')))]) := by
      simpa using hlog
    refine .inr ?_
    split at hf
    · obtain ⟨rfl, rfl⟩ := Prod.mk.inj hf
      exact ⟨_, hlog', hpre, fun _ h => by cases h⟩
    split at hf
    · obtain ⟨a, s₂, hsrc, hk⟩ := bind_exec hf
      have hend : s' = s₂ ∧ ∀ l, res ≠ .ok (.ok l) := by
        rcases ofExcept_bind_cases hk with ⟨e, -, rfl, rfl⟩ | ⟨st, -, hk⟩
        · exact ⟨rfl, fun _ h => by cases h⟩
        · rw [exec_pure] at hk
          obtain ⟨rfl, rfl⟩ := Prod.mk.inj hk
          exact ⟨rfl, fun _ h => by cases h⟩
      obtain ⟨rfl, hres⟩ := hend
      obtain ⟨seg, hseg, hall⟩ := sourceFailure_log hsrc
      exact ⟨_, by rw [hseg, hlog']; simp, hpre.append hall, hres⟩
    · obtain ⟨rfl, rfl⟩ := Prod.mk.inj hf
      exact ⟨_, hlog', hpre, fun _ h => by cases h⟩
  · cases hv

/-! ## The paths of a pass -/

/-- The log `seg` of `replicate` over the records of `p` changed after `after`, with the ids
`done` processed before, in a run whose status was `st`, and what it answers. -/
inductive PassLog (config : Replication) (p : Option Predicate) (after : Option Stamp)
    (retry : Bool) (done : List String) (st : RunStatus) :
    Log → Except Failure (Option RunState × List String) → Prop
  /-- The query failed: the pass lists and pushes nothing, and stops the run or raises; it hands
  back the ids it was given. -/
  | unlisted {seg : Log} {res : Except Failure (Option RunState × List String)}
      (hseg : seg.Aloof) (hres : ∀ x, res = .ok x → x.1.isSome = true ∧ x.2 = done) :
      PassLog config p after retry done st seg res
  /-- The query answered the listing `l`, whose records were swept; when they all were, a
  listing that broke off is followed by the end its failure brings. -/
  | listed {t sw tail : Log} {l : Listing}
      {res' res : Except Failure (Option RunState × List String)}
      (ht : t.Quiet) (hsweep : Sweep config retry l.records done st sw res') (htail : tail.Aloof)
      (hres : ∀ stopped d, res = .ok (stopped, d) →
        ∃ stopped', res' = .ok (stopped', d) ∧ (stopped = none → stopped' = none)) :
      PassLog config p after retry done st
        (t ++ [.call (.site .source (.query p after (.ok l)))] ++ sw ++ tail) res

/-- Every run of `replicate` follows a path of `PassLog`, from the status of the run before it. -/
theorem replicate_passLog (config : Replication) (p : Option Predicate) (after : Option Stamp)
    (retry : Bool) (done : List String) {res : Except Failure (Option RunState × List String)}
    (h : exec (replicate (observe c) config p after retry done) s = (res, s')) :
    ∃ seg, s'.log = s.log ++ seg ∧ PassLog config p after retry done s.log.status seg res := by
  unfold replicate at h
  obtain ⟨a, s₁, hask, h⟩ := bind_exec h
  rcases ask_log hask with ⟨t, l, ht, rfl, hlog₁⟩ | ⟨seg, hlog, haloof, hnone⟩
  -- a listing: its records are swept
  · rw [exec_ofExcept_bind] at h
    obtain ⟨b, s₂, hpush, h⟩ := bind_exec h
    obtain ⟨sw, hsw, hsweep⟩ := pushAll_sweep config retry l.records done hpush
    have hst₁ : s₁.log.status = s.log.status := by
      rw [hlog₁, Log.status_append, ht.status]
      rfl
    rw [hst₁] at hsweep
    -- what follows the sweep: nothing, or the end a broken listing brings
    obtain ⟨tail, htail_log, htail, hres⟩ : ∃ tail, s'.log = s₂.log ++ tail ∧ tail.Aloof ∧
        ∀ stopped d, res = .ok (stopped, d) →
          ∃ stopped', b = .ok (stopped', d) ∧ (stopped = none → stopped' = none) := by
      rcases ofExcept_bind_cases h with ⟨e, rfl, rfl, rfl⟩ | ⟨⟨stopped, d⟩, rfl, hk⟩
      · exact ⟨[], by simp, .nil, fun _ _ h => by cases h⟩
      dsimp only at hk
      by_cases hs : stopped.isSome = true
      · rw [if_pos hs, exec_pure] at hk
        obtain ⟨rfl, rfl⟩ := Prod.mk.inj hk
        exact ⟨[], by simp, .nil, fun _ _ h => by cases h; exact ⟨_, rfl, id⟩⟩
      rw [if_neg hs] at hk
      have hnone : stopped = none := by simpa using hs
      rcases hf : l.failure with _ | f <;> rw [hf] at hk <;> dsimp only at hk
      · rw [exec_pure] at hk
        obtain ⟨rfl, rfl⟩ := Prod.mk.inj hk
        exact ⟨[], by simp, .nil, fun _ _ h => by cases h; exact ⟨_, rfl, fun _ => hnone⟩⟩
      rcases ofExcept_bind_cases hk with ⟨e, -, rfl, rfl⟩ | ⟨g, -, hk⟩
      · exact ⟨[], by simp, .nil, fun _ _ h => by cases h⟩
      obtain ⟨k, s₃, hsrc, hk⟩ := bind_exec hk
      obtain ⟨tail, htail_log, htail⟩ := sourceFailure_log hsrc
      rcases ofExcept_bind_cases hk with ⟨e, -, rfl, rfl⟩ | ⟨k, -, hk⟩
      · exact ⟨tail, htail_log, htail, fun _ _ h => by cases h⟩
      rw [exec_pure] at hk
      obtain ⟨rfl, rfl⟩ := Prod.mk.inj hk
      exact ⟨tail, htail_log, htail, fun _ _ h => by cases h; exact ⟨_, rfl, fun _ => hnone⟩⟩
    exact ⟨t ++ [.call (.site .source (.query p after (.ok l)))] ++ sw ++ tail,
      by rw [htail_log, hsw, hlog₁]; simp, .listed ht hsweep htail hres⟩
  -- no listing: the pass ends where asking ended
  · rcases ofExcept_bind_cases h with ⟨e, -, rfl, rfl⟩ | ⟨v, rfl, hk⟩
    · exact ⟨seg, hlog, .unlisted haloof fun _ h => by cases h⟩
    rcases v with st' | l
    · dsimp only at hk
      rw [exec_pure] at hk
      obtain ⟨rfl, rfl⟩ := Prod.mk.inj hk
      exact ⟨seg, hlog, .unlisted haloof fun _ h => by cases h; exact ⟨rfl, rfl⟩⟩
    · exact absurd rfl (hnone l)

namespace PassLog

variable {config : Replication} {p : Option Predicate} {after : Option Stamp} {retry : Bool}
  {done : List String} {st : RunStatus} {seg : Log}
  {res : Except Failure (Option RunState × List String)}

theorem listed_views {t sw tail : Log} {l : Listing} (ht : t.Quiet) (hsw : sw.listings = [])
    (htail : tail.Aloof) :
    let seg := t ++ [.call (.site .source (.query p after (.ok l)))] ++ sw ++ tail
    seg.pushedIds = sw.pushedIds ∧ seg.listedIds = l.records.map Record.ident := by
  refine ⟨by simp [ht, htail.pushedIds, Event.pushedId], ?_⟩
  have hq : (Event.call (.site .source (.query p after (.ok l)))).listing = some l := rfl
  simp [Log.listedIds, ht.listings, hq, hsw, htail.2]

/-- A pass keeps the books along every one of its paths. -/
theorem accounts (h : PassLog config p after retry done st seg res) : Accounts config st seg := by
  cases h with
  | unlisted hseg => exact hseg.accounts
  | listed ht hsweep htail =>
    refine (Accounts.aloof_append (fun e he => ?_) hsweep.accounts).append htail.accounts
    rcases List.mem_append.mp he with he | he
    · rw [ht e he]; rfl
    · rw [List.mem_singleton.mp he]; rfl

/-- A pass pushes the first ids of its listing not processed before, each once. -/
theorem dedup (h : PassLog config p after retry done st seg res) : seg.Dedup done := by
  cases h with
  | unlisted hseg => exact hseg.dedup done
  | listed ht hsweep htail =>
    obtain ⟨hp, hi⟩ := listed_views ht hsweep.listings htail
    unfold Log.Dedup
    rw [hp, hi]
    exact hsweep.pushedIds_prefix

theorem returned {stopped : Option RunState} {d : List String}
    (h : PassLog config p after retry done st seg (.ok (stopped, d))) :
    d = seg.pushedIds.reverse ++ done ∧
      (stopped = none → seg.pushedIds = (seg.listedIds.removeAll done).eraseDups) := by
  cases h with
  | unlisted hseg hres =>
    rw [hseg.pushedIds, hseg.listedIds]
    exact ⟨by simpa using (hres _ rfl).2, fun _ => by simp⟩
  | listed ht hsweep htail hres =>
    obtain ⟨hp, hi⟩ := listed_views ht hsweep.listings htail
    obtain ⟨stopped', rfl, hnone⟩ := hres _ _ rfl
    obtain ⟨h₁, h₂⟩ := hsweep.returned
    rw [hp, hi]
    exact ⟨h₁, fun hs => h₂ (hnone hs)⟩

end PassLog

/-! ## Both passes -/

/-- What a run did from the scene `s` to the scene `s'`, with the ids `done` processed before: it
added a stretch to the log that keeps the books from the status at `s`, and pushes the first ids
it listed not processed before, each once. -/
def Booked (config : Replication) (done : List String) (s s' : Scene σ) : Prop :=
  ∃ seg, s'.log = s.log ++ seg ∧ Accounts config s.log.status seg ∧ seg.Dedup done

namespace Booked

variable {config : Replication} {done : List String} {s₁ s₂ : Scene σ}

theorem aloof {seg : Log} (hlog : s'.log = s.log ++ seg) (h : seg.Aloof) :
    Booked config done s s' :=
  ⟨seg, hlog, h.accounts, h.dedup done⟩

theorem refl : Booked config done s s := aloof (by simp : s.log = s.log ++ []) .nil

theorem after_aloof {pre : Log} (hlog : s₁.log = s.log ++ pre) (hpre : pre.Aloof)
    (h : Booked config done s₁ s') : Booked config done s s' := by
  obtain ⟨seg, hseg, hacc, hdedup⟩ := h
  rw [hlog, hpre.status] at hacc
  refine ⟨pre ++ seg, by rw [hseg, hlog, List.append_assoc], Accounts.aloof_append hpre.1 hacc, ?_⟩
  unfold Log.Dedup at hdedup ⊢
  rwa [Log.pushedIds_append, Log.listedIds_append, hpre.pushedIds, hpre.listedIds]

theorem of_pass {p : Option Predicate} {after : Option Stamp} {retry : Bool} {seg : Log}
    {res : Except Failure (Option RunState × List String)}
    (hlog : s'.log = s.log ++ seg) (h : PassLog config p after retry done s.log.status seg res) :
    Booked config done s s' :=
  ⟨seg, hlog, h.accounts, h.dedup⟩

theorem after_pass {p : Option Predicate} {after : Option Stamp} {retry : Bool} {seg pre : Log}
    {retried : List String} (hlog : s₁.log = s.log ++ seg)
    (hpass : PassLog config p after retry [] s.log.status seg (.ok (none, retried)))
    (hpre_log : s₂.log = s₁.log ++ pre) (hpre : pre.Aloof) (h : Booked config retried s₂ s') :
    Booked config [] s s' := by
  obtain ⟨hretried, hall⟩ := hpass.returned
  obtain ⟨seg₂, hseg₂, hacc, hdedup⟩ := after_aloof hpre_log hpre h
  refine ⟨seg ++ seg₂, by rw [hseg₂, hlog, List.append_assoc], hpass.accounts.append ?_, ?_⟩
  · rwa [hlog, Log.status_foldl] at hacc
  · rw [hretried, List.append_nil] at hdedup
    exact Log.Dedup.after (by simpa using hall rfl) hdedup

end Booked

theorem changes_booked (config : Replication) (done : List String)
    {res : Except Failure (Option RunState)}
    (h : exec (changes (observe c) config done) s = (res, s')) : Booked config done s s' := by
  unfold changes watermark at h
  -- the watermark: the history is read, and nothing else is logged
  obtain ⟨mark, s₁, hmark, h⟩ := bind_exec h
  obtain ⟨os, s₀, hos, hread⟩ := bind_exec hmark
  obtain ⟨t, ht, hlog₀⟩ := call_inv hos
  have hpre : s₀.log = s.log ++ (t ++ [.call (.store (.outcomes config.name os))]) := by
    simpa using hlog₀
  have hs₁ : s₁ = s₀ := by
    rcases ofExcept_bind_cases hread with ⟨e, -, -, rfl⟩ | ⟨v, -, hv⟩
    · rfl
    · rw [exec_ofExcept] at hv
      exact (Prod.mk.inj hv).2.symm
  subst hs₁
  refine .after_aloof hpre (.quiet_then ht rfl rfl) ?_
  rcases ofExcept_bind_cases h with ⟨e, -, -, rfl⟩ | ⟨mark, -, h⟩
  · exact .refl
  rcases ofExcept_bind_cases h with ⟨e, -, -, rfl⟩ | ⟨base, -, h⟩
  · exact .refl
  obtain ⟨x, s₂, hrep, h⟩ := bind_exec h
  obtain ⟨seg, hseg, hpass⟩ := replicate_passLog config _ mark false done hrep
  have hs' : s' = s₂ := by
    rcases ofExcept_bind_cases h with ⟨e, -, -, rfl⟩ | ⟨⟨stopped, d⟩, -, hk⟩
    · rfl
    · dsimp only at hk
      rw [exec_pure] at hk
      exact (Prod.mk.inj hk).2.symm
  subst hs'
  exact .of_pass hseg hpass

/-- Both passes keep the books, and push the first ids of their two listings, in order and each
once: the retry pass pushes every new id of its listing before the change pass starts, and the
change pass skips the ids the retry pass processed. -/
theorem passes_booked (config : Replication) {res : Except Failure (Option RunState)}
    (h : exec (passes (observe c) config) s = (res, s')) : Booked config [] s s' := by
  unfold passes at h
  obtain ⟨t₁, s₁, ht₁, hlog₁, h⟩ := isCanceled_bind_inv h
  refine .after_aloof (by rw [hlog₁, List.append_assoc]) (.quiet_then ht₁ rfl rfl) ?_
  split at h
  · obtain ⟨-, rfl⟩ := Prod.mk.inj h
    exact .refl
  -- the failure list, and a second look at the request to stop
  obtain ⟨failed, s₂, hlist, h⟩ := bind_exec h
  obtain ⟨t₂, ht₂, hlog₂⟩ := call_inv hlist
  refine .after_aloof (by rw [hlog₂, List.append_assoc]) (.quiet_then ht₂ rfl rfl) ?_
  rcases ofExcept_bind_cases h with ⟨e, -, -, rfl⟩ | ⟨failed, -, h⟩
  · exact .refl
  obtain ⟨t₃, s₃, ht₃, hlog₃, h⟩ := isCanceled_bind_inv h
  refine .after_aloof (by rw [hlog₃, List.append_assoc]) (.quiet_then ht₃ rfl rfl) ?_
  split at h
  · obtain ⟨-, rfl⟩ := Prod.mk.inj h
    exact .refl
  dsimp only at h
  split at h
  case isFalse => exact changes_booked config [] h
  -- the retry pass, over the records whose pushes failed before
  rcases ofExcept_bind_cases h with ⟨e, -, -, rfl⟩ | ⟨pred, -, h⟩
  · exact .refl
  obtain ⟨x, s₄, hrep, h⟩ := bind_exec h
  obtain ⟨seg, hseg, hpass⟩ := replicate_passLog config pred none true [] hrep
  rcases ofExcept_bind_cases h with ⟨e, rfl, -, rfl⟩ | ⟨⟨stopped, retried⟩, rfl, hk⟩
  · exact .of_pass hseg hpass
  dsimp only at hk
  split at hk
  · obtain ⟨-, rfl⟩ := Prod.mk.inj hk
    exact .of_pass hseg hpass
  rename_i hs
  obtain rfl : stopped = none := by simpa using hs
  -- the retry pass pushed its whole listing; the change pass knows what it processed
  obtain ⟨t₅, s₅, ht₅, hlog₅, hk⟩ := isCanceled_bind_inv hk
  have hlog₅' := show s₅.log = s₄.log ++ _ by rw [hlog₅, List.append_assoc]
  split at hk
  · obtain ⟨-, rfl⟩ := Prod.mk.inj hk
    exact .after_pass hseg hpass hlog₅' (.quiet_then ht₅ rfl rfl) .refl
  · exact .after_pass hseg hpass hlog₅' (.quiet_then ht₅ rfl rfl) (changes_booked config retried hk)

end CatalogSync.Sync
