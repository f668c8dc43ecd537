import CatalogSync.Proofs.Engine.Frame
import CatalogSync.Proofs.Engine.PassLog
import CatalogSync.Proofs.Filter.Selection

/-!
# What a run asks before it pushes

Besides pushing, a run asks three kinds of questions: the item store for the ids whose pushes
failed before, the history for the outcomes of past runs, and the source for listings.
`Log.consults` reads them off a log, in order. In a run that no one asks to stop, with the base
condition `base`, they come in one of four orders (`PassAsks`):

* the failure list is read first; when it cannot be read, nothing else is asked;
* when it names no id, the change pass reads the history and, when a watermark can be read off
  its outcomes, asks the source for the records of `base` modified after it;
* when it names ids, the retry pass asks the source for the records of `base` with those ids;
  the change pass follows exactly when that pass went through, and otherwise nothing else is
  asked.

So the history is read at most once, after the retry pass and before the change query, and the
change query is made with the watermark that read gave. A history that cannot be read, or whose
outcomes give no watermark, ends the run with no change query. No query asks for an empty list
of ids (`run_reads_its_history_after_its_retries`).
-/

namespace CatalogSync.Predicate

/-! ## Id lists that hold ids -/

mutual
/-- Whether every list of ids in a predicate holds an id. -/
def idsFilled : Option Predicate → Bool
  | some (.idIn ids) => !ids.isEmpty
  | some (.allOf ps) => idsFilledAll ps
  | some (.anyOf ps) => idsFilledAll ps
  | _ => true

/-- Whether every part holds only id lists that hold ids. -/
def idsFilledAll : List (Option Predicate) → Bool
  | [] => true
  | p :: ps => idsFilled p && idsFilledAll ps
end

theorem idsFilledAll_iff {ps : List (Option Predicate)} :
    idsFilledAll ps = true ↔ ∀ p ∈ ps, idsFilled p = true := by
  induction ps with
  | nil => simp [idsFilledAll]
  | cons p ps ih => simp [idsFilledAll, ih]

theorem idsFilled_allOfParts {ps : List (Option Predicate)}
    (h : ∀ p ∈ ps, idsFilled p = true) : idsFilled (allOfParts ps) = true := by
  have hsome : ∀ q ∈ ps.filterMap id, idsFilled (some q) = true := fun q hq => by
    obtain ⟨p, hp, rfl⟩ := List.mem_filterMap.mp hq
    exact h _ hp
  unfold allOfParts collapse
  generalize ps.filterMap id = qs at hsome
  rcases qs with _ | ⟨q, _ | ⟨q', qs⟩⟩
  · simp [idsFilled]
  · exact hsome q (by simp)
  · simp only [idsFilled, idsFilledAll_iff, List.mem_map]
    rintro _ ⟨q, hq, rfl⟩
    exact hsome q hq

theorem idsFilled_nativeOf (base : Option String) : idsFilled (nativeOf? base) = true := by
  unfold nativeOf?
  split
  · simp [idsFilled]
  · split <;> simp [idsFilled]

theorem idsFilled_changeSet (base : Option String) (mark : Option Stamp) :
    idsFilled (changeSet base mark) = true := by
  refine idsFilled_allOfParts fun p hp => ?_
  simp only [List.mem_cons, List.not_mem_nil, or_false] at hp
  rcases hp with rfl | rfl
  · exact idsFilled_nativeOf base
  · cases mark <;> simp [idsFilled]

theorem idsFilled_failedItems {base : Option String} {failed : List String}
    {p : Option Predicate} (h : failedItems base failed = .ok p) : idsFilled p = true := by
  have hne := ne_nil_of_failedItems h
  rw [failedItems_eq hne] at h
  cases h
  refine idsFilled_allOfParts fun p hp => ?_
  simp only [List.mem_cons, List.not_mem_nil, or_false] at hp
  rcases hp with rfl | rfl
  · exact idsFilled_nativeOf base
  · simpa [idsFilled] using hne

end CatalogSync.Predicate

namespace CatalogSync.Sync

variable {σ : Type}

/-! ## Questions a run asks -/

/-- A question of a run: the failure list of a replication, for a failure limit and two sites,
with its answer; the outcomes in the history of a replication, with their answer; or the records
of a predicate modified after a time, asked of the source. -/
inductive Consult where
  | failures (config : String) (limit : Int) (source destination : String)
      (answer : Except Failure (List String))
  | history (name : Value) (answer : Except Failure (List RunOutcome))
  | query (p : Option Predicate) (after : Option Stamp)

/-- The question an event asks, if it asks one. -/
def Event.consult : Event → Option Consult
  | .call (.store (.failureList config limit source destination answer)) =>
    some (.failures config limit source destination answer)
  | .call (.store (.outcomes name answer)) => some (.history name answer)
  | .call (.site .source (.query p after _)) => some (.query p after)
  | _ => none

/-- Whether an event asks no question. -/
def Event.asksNothing (e : Event) : Bool := e.consult.isNone

/-- The questions of a log, in order. -/
def Log.consults (l : Log) : List Consult := l.filterMap Event.consult

@[simp] theorem Log.consults_nil : Log.consults [] = [] := rfl

@[simp] theorem Log.consults_append (l₁ l₂ : Log) :
    (l₁ ++ l₂).consults = l₁.consults ++ l₂.consults :=
  List.filterMap_append

@[simp] theorem Log.consults_cons (e : Event) (l : Log) :
    Log.consults (e :: l) = e.consult.toList ++ l.consults := by
  cases h : e.consult <;> simp [Log.consults, h]

@[simp] theorem Event.consult_checkpoint (seen : Bool) : (Event.checkpoint seen).consult = none :=
  rfl

theorem Log.consults_eq_nil {l : Log} (h : ∀ e ∈ l, e.asksNothing = true) : l.consults = [] :=
  List.filterMap_eq_nil_iff.mpr fun e he => by simpa [Event.asksNothing] using h e he

theorem Log.Quiet.consults {t : Log} (ht : t.Quiet) : t.consults = [] :=
  Log.consults_eq_nil fun e he => by rw [ht e he]; rfl

/-- The watermark the outcomes of a history give: the end of the latest run among them that
counts for it. -/
def watermarkOf (os : List RunOutcome) : Except Failure (Option Stamp) :=
  Stamp.latest ((os.filter (·.state.countsForWatermark)).map (·.endTime))

end CatalogSync.Sync

namespace CatalogSync.Replication

/-- The failure list a run of a replication asks for, with its answer. -/
def asksFailures (config : Replication)
    (answer : Except Failure (List String)) : Sync.Consult :=
  .failures config.id config.retryLimit config.source.display config.destination.display answer

/-- The read of the failure list of a replication, with its answer. -/
def readsFailures (config : Replication) (answer : Except Failure (List String)) : Sync.Event :=
  .call (.store (.failureList config.id config.retryLimit config.source.display
    config.destination.display answer))

@[simp] theorem consult_readsFailures (config : Replication)
    (answer : Except Failure (List String)) :
    (config.readsFailures answer).consult = some (config.asksFailures answer) := rfl

/-- What the change pass of a replication asks when the history answers `ha`: the history, then,
when a watermark can be read off the outcomes, the source for the records of the base condition
modified after it. -/
def changeAsks (config : Replication) (base : Option String)
    (ha : Except Failure (List RunOutcome)) : List Sync.Consult :=
  .history config.name ha :: match ha >>= Sync.watermarkOf with
    | .ok mark => [.query (Predicate.changeSet base mark) mark]
    | .error _ => []

end CatalogSync.Replication

namespace CatalogSync.Sync

theorem changeAsks_query {config : Replication} {base : Option String}
    {ha : Except Failure (List RunOutcome)} {p : Option Predicate} {after : Option Stamp}
    (h : Consult.query p after ∈ config.changeAsks base ha) :
    p = Predicate.changeSet base after := by
  unfold Replication.changeAsks at h
  split at h <;> simp_all

/-! ## What the parts of a run ask -/

theorem Event.asksNothing_of_inPush {e : Event} (h : e.inPush = true) : e.asksNothing = true := by
  rcases e with _ | _ | _ | _ | _ | ⟨_ | _, call⟩ | call
  all_goals first
    | rfl
    | (cases call <;> first
        | rfl
        | simp_all [Event.inPush, Event.inChange, Event.isWrite, Event.isProbe])

section Parts

variable {c : Collaborators σ} {config : Replication} {s s' : Scene σ}

theorem push_asksNothing (config : Replication) (retry : Bool) (r : Record) :
    Adds Event.asksNothing (push (observe c) config retry r) :=
  push_adds rfl (fun _ _ => rfl) (fun _ he => Event.asksNothing_of_inPush he) retry r

theorem replicate_asks (config : Replication) (p : Option Predicate) (after : Option Stamp)
    (retry : Bool) (done : List String) {res : Except Failure (Option RunState × List String)}
    (h : exec (replicate (observe c) config p after retry done) s = (res, s')) :
    ∃ seg, s'.log = s.log ++ seg ∧ seg.consults = [.query p after] := by
  obtain ⟨t, ans, seg, ht, hlog, hseg⟩ :=
    replicate_after_query rfl (fun _ => rfl) (fun _ => rfl) (push_asksNothing config retry) h
  refine ⟨t ++ [.call (.site .source (.query p after ans))] ++ seg,
    by rw [hlog]; simp only [List.append_assoc], ?_⟩
  simp [ht.consults, Log.consults_eq_nil hseg, Event.consult]

theorem watermark_asks {name : Value} {res : Except Failure (Option Stamp)}
    (h : exec (watermark (observe c).ledger name) s = (res, s')) :
    ∃ t ha, t.Quiet ∧ s'.log = s.log ++ t ++ [.call (.store (.outcomes name ha))] ∧
      res = ha >>= watermarkOf := by
  unfold watermark at h
  rcases bind_inv h with ⟨e, hcall, rfl⟩ | ⟨os, s₁, hcall, h⟩
  · obtain ⟨t, ht, hlog⟩ := call_inv hcall
    exact ⟨t, .error e, ht, hlog, rfl⟩
  · obtain ⟨t, ht, hlog⟩ := call_inv hcall
    rw [exec_ofExcept] at h
    obtain ⟨rfl, rfl⟩ := Prod.mk.inj h
    exact ⟨t, .ok os, ht, hlog, rfl⟩

theorem changes_asks {base : Option String} (hbase : config.baseCondition = .ok base)
    (done : List String) {res : Except Failure (Option RunState)}
    (h : exec (changes (observe c) config done) s = (res, s')) :
    ∃ seg ha, s'.log = s.log ++ seg ∧ seg.consults = config.changeAsks base ha := by
  unfold changes at h
  rcases bind_inv h with ⟨e, hmark, -⟩ | ⟨mark, s₁, hmark, h⟩
  -- the history could not be read, or gave no watermark
  · obtain ⟨t, ha, ht, hlog, hres⟩ := watermark_asks hmark
    refine ⟨_, ha, hlog.trans (List.append_assoc _ _ _), ?_⟩
    simp [Replication.changeAsks, ← hres, ht.consults, Event.consult]
  obtain ⟨t, ha, ht, hlog₁, hres⟩ := watermark_asks hmark
  simp only [hbase, exec_ofExcept_bind] at h
  obtain ⟨x, s₂, hrep, h⟩ := bind_exec h
  obtain ⟨seg, hlog₂, hseg⟩ := replicate_asks config _ mark false done hrep
  -- the pass's stop is handed back, with nothing more done
  obtain rfl : s' = s₂ := by
    rcases x with e | ⟨stopped, d⟩ <;>
      simp only [exec_bind, exec_ofExcept, exec_pure, Prod.mk.injEq] at h <;>
      exact h.2.symm
  refine ⟨t ++ [.call (.store (.outcomes config.name ha))] ++ seg, ha,
    by rw [hlog₂, hlog₁]; simp only [List.append_assoc], ?_⟩
  simp [Replication.changeAsks, ← hres, ht.consults, hseg, Event.consult]

end Parts

/-! ## The order of the questions -/

/-- The orders in which the passes of a run that no one asks to stop ask their questions, from
the scene `s` on, with the base condition `base`: the log they add. -/
inductive PassAsks (c : Collaborators σ) (config : Replication) (base : Option String)
    (s : Scene σ) : Log → Prop
  /-- The failure list could not be read, and nothing else is asked. -/
  | unread {pre rest : Log} {e : Failure}
      (hpre : pre.consults = [config.asksFailures (.error e)]) (hrest : rest.consults = []) :
      PassAsks c config base s (pre ++ rest)
  /-- No push failed before: only the change pass asks. -/
  | unfailed {pre rest : Log} {ha : Except Failure (List RunOutcome)}
      (hpre : pre.consults = [config.asksFailures (.ok [])])
      (hrest : rest.consults = config.changeAsks base ha) :
      PassAsks c config base s (pre ++ rest)
  /-- Some pushes failed before: the retry pass, run from the scene `s₁`, asks for the records
  of the failed-items predicate, and goes through; the change pass asks after it. -/
  | retried {pre seg post : Log} {failed : List String} {p : Option Predicate}
      {s₁ s₂ : Scene σ} {d : List String} {ha : Except Failure (List RunOutcome)}
      (hne : failed ≠ []) (hp : Predicate.failedItems base failed = .ok p)
      (hpre : pre.consults = [config.asksFailures (.ok failed)]) (hs₁ : s₁.log = s.log ++ pre)
      (hrun : exec (replicate (observe c) config p none true []) s₁ = (.ok (none, d), s₂))
      (hseg : s₂.log = s₁.log ++ seg) (hasked : seg.consults = [.query p none])
      (hpost : post.consults = config.changeAsks base ha) :
      PassAsks c config base s (pre ++ seg ++ post)
  /-- The retry pass stops the run or raises: nothing else is asked after it. -/
  | cut {pre seg post : Log} {failed : List String} {p : Option Predicate} {s₁ s₂ : Scene σ}
      {rr : Except Failure (Option RunState × List String)}
      (hne : failed ≠ []) (hp : Predicate.failedItems base failed = .ok p)
      (hpre : pre.consults = [config.asksFailures (.ok failed)]) (hs₁ : s₁.log = s.log ++ pre)
      (hrun : exec (replicate (observe c) config p none true []) s₁ = (rr, s₂))
      (hcut : ∀ d, rr ≠ .ok (none, d))
      (hseg : s₂.log = s₁.log ++ seg) (hasked : seg.consults = [.query p none])
      (hpost : post.consults = []) :
      PassAsks c config base s (pre ++ seg ++ post)

namespace PassAsks

variable {c : Collaborators σ} {config : Replication} {base : Option String} {s : Scene σ}

theorem widen {s₀ : Scene σ} {A B seg : Log} (h : PassAsks c config base s seg)
    (hs : s.log = s₀.log ++ A) (hA : A.consults = []) (hB : B.consults = []) :
    PassAsks c config base s₀ (A ++ seg ++ B) := by
  cases h with
  | @unread pre rest e hpre hrest =>
    rw [show A ++ (pre ++ rest) ++ B = (A ++ pre) ++ (rest ++ B) by simp]
    exact .unread (e := e) (by simp [hA, hpre]) (by simp [hrest, hB])
  | @unfailed pre rest ha hpre hrest =>
    rw [show A ++ (pre ++ rest) ++ B = (A ++ pre) ++ (rest ++ B) by simp]
    have hrest' : (rest ++ B).consults = config.changeAsks base ha := by simp [hrest, hB]
    exact .unfailed (by simp [hA, hpre]) hrest'
  | @retried pre seg post _ _ _ _ _ ha hne hp hpre hs₁ hrun hseg hasked hpost =>
    rw [show A ++ (pre ++ seg ++ post) ++ B = (A ++ pre) ++ seg ++ (post ++ B) by simp]
    have hpost' : (post ++ B).consults = config.changeAsks base ha := by simp [hpost, hB]
    exact .retried hne hp (by simp [hA, hpre]) (by rw [hs₁, hs, List.append_assoc]) hrun hseg
      hasked hpost'
  | @cut pre seg post _ _ _ _ _ hne hp hpre hs₁ hrun hcut hseg hasked hpost =>
    rw [show A ++ (pre ++ seg ++ post) ++ B = (A ++ pre) ++ seg ++ (post ++ B) by simp]
    exact .cut hne hp (by simp [hA, hpre]) (by rw [hs₁, hs, List.append_assoc]) hrun hcut hseg
      hasked (by simp [hpost, hB])

theorem idsFilled {seg : Log} (h : PassAsks c config base s seg) {p : Option Predicate}
    {after : Option Stamp} (hq : Consult.query p after ∈ seg.consults) :
    Predicate.idsFilled p = true := by
  cases h with
  | unread hpre hrest => simp [hpre, hrest, Replication.asksFailures] at hq
  | unfailed hpre hrest =>
    simp only [Log.consults_append, hpre, hrest, Replication.asksFailures, List.mem_append,
      List.mem_singleton, reduceCtorEq, false_or] at hq
    rw [changeAsks_query hq]
    exact Predicate.idsFilled_changeSet base after
  | retried _ hp hpre _ _ _ hasked hpost =>
    simp only [Log.consults_append, hpre, hasked, hpost, Replication.asksFailures,
      List.mem_append, List.mem_singleton, reduceCtorEq, false_or] at hq
    rcases hq with hq | hq
    · rw [(Consult.query.inj hq).1]
      exact Predicate.idsFilled_failedItems hp
    · rw [changeAsks_query hq]
      exact Predicate.idsFilled_changeSet base after
  | cut _ hp hpre _ _ _ _ hasked hpost =>
    simp only [Log.consults_append, hpre, hasked, hpost, Replication.asksFailures,
      List.mem_append, List.mem_singleton, reduceCtorEq, false_or, List.not_mem_nil,
      or_false] at hq
    rw [(Consult.query.inj hq).1]
    exact Predicate.idsFilled_failedItems hp

end PassAsks

/-! ## The passes, and a whole run -/

section Passes

variable {c : Collaborators σ} {config : Replication} {s s' : Scene σ}

theorem look_passes {s₀ : Scene σ} {k : Run σ (Option RunState)}
    {res : Except Failure (Option RunState)}
    (hcalm : ∀ l : Log, s.log <+: l → l <+: s'.log → l.canceled = false) (hs₀ : s.log <+: s₀.log)
    (h : exec ((observe c).control.isCanceled >>= fun b =>
      if b = true then pure (some .canceled) else k) s₀ = (res, s')) :
    ∃ t s₁, t.Quiet ∧ s₁.log = s₀.log ++ t ++ [.checkpoint false] ∧ exec k s₁ = (res, s') := by
  obtain ⟨t, s₁, ht, hlog, h⟩ := isCanceled_bind_inv h
  have hseen : (s₀.log ++ t).canceled = false := by
    cases hb : (s₀.log ++ t).canceled
    · rfl
    rw [hb, if_pos rfl, exec_pure] at h
    obtain ⟨-, rfl⟩ := Prod.mk.inj h
    have hunseen := hcalm _ (hs₀.trans (List.prefix_append _ t)) ⟨_, hlog.symm⟩
    rw [hb] at hunseen
    cases hunseen
  rw [hseen] at hlog
  rw [hseen, if_neg Bool.false_ne_true] at h
  exact ⟨t, s₁, ht, hlog, h⟩

theorem passes_asks {base : Option String} (hbase : config.baseCondition = .ok base)
    {res : Except Failure (Option RunState)} (h : exec (passes (observe c) config) s = (res, s'))
    (hcalm : ∀ l : Log, s.log <+: l → l <+: s'.log → l.canceled = false) :
    ∃ seg, s'.log = s.log ++ seg ∧ PassAsks c config base s seg := by
  unfold passes at h
  -- the two looks around the failure list find no request
  obtain ⟨t₁, s₁, ht₁, hlog₁, h⟩ := look_passes hcalm (List.prefix_refl _) h
  rcases bind_inv h with ⟨e, hfl, rfl⟩ | ⟨failed, s₂, hfl, h⟩
  -- the failure list could not be read
  · obtain ⟨t₂, ht₂, hlog₂⟩ := call_inv hfl
    refine ⟨t₁ ++ [.checkpoint false] ++ t₂ ++ [config.readsFailures (.error e)] ++ [],
      by rw [hlog₂, hlog₁]; simp [Replication.readsFailures], .unread (e := e) ?_ rfl⟩
    simp [ht₁.consults, ht₂.consults]
  obtain ⟨t₂, ht₂, hlog₂⟩ := call_inv hfl
  obtain ⟨t₃, s₃, ht₃, hlog₃, h⟩ := look_passes hcalm ⟨t₁ ++ [.checkpoint false] ++ t₂ ++
    [config.readsFailures (.ok failed)], by rw [hlog₂, hlog₁]; simp [Replication.readsFailures]⟩ h
  -- what came before the branch asked for the failure list alone
  obtain ⟨pre, hs₃, hpre⟩ : ∃ pre : Log, s₃.log = s.log ++ pre ∧
      pre.consults = [config.asksFailures (.ok failed)] := by
    refine ⟨t₁ ++ [.checkpoint false] ++ t₂ ++ [config.readsFailures (.ok failed)] ++ t₃ ++
      [.checkpoint false], ?_, ?_⟩
    · rw [hlog₃, hlog₂, hlog₁]
      simp [Replication.readsFailures]
    · simp [ht₁.consults, ht₂.consults, ht₃.consults]
  by_cases hne : failed = []
  -- no failed pushes: the change pass alone
  · subst hne
    simp only [List.isEmpty_nil, Bool.not_true, Bool.false_eq_true, if_false] at h
    obtain ⟨seg, ha, hlog, hasked⟩ := changes_asks hbase [] h
    exact ⟨pre ++ seg, by rw [hlog, hs₃, List.append_assoc], .unfailed hpre hasked⟩
  -- some pushes failed: the retry pass asks for their records first
  rw [if_pos (by simpa using hne)] at h
  rcases ofExcept_bind_cases h with ⟨e, he, -, -⟩ | ⟨p, hp, h⟩
  · rw [hbase] at he
    change Predicate.failedItems base failed = .error e at he
    rw [Predicate.failedItems_eq hne] at he
    cases he
  rw [hbase] at hp
  change Predicate.failedItems base failed = .ok p at hp
  rcases bind_inv h with ⟨e, hrep, rfl⟩ | ⟨⟨stopped, retried⟩, s₄, hrep, h⟩
  -- the retry pass raised
  · obtain ⟨seg, hseg, hasked⟩ := replicate_asks config p none true [] hrep
    exact ⟨pre ++ seg ++ [], by rw [hseg, hs₃]; simp,
      .cut hne hp hpre hs₃ hrep (fun _ => by simp) hseg hasked rfl⟩
  obtain ⟨seg, hseg, hasked⟩ := replicate_asks config p none true [] hrep
  dsimp only at h
  split at h
  -- the retry pass stopped the run
  · rename_i hstop
    rw [exec_pure] at h
    obtain ⟨-, rfl⟩ := Prod.mk.inj h
    refine ⟨pre ++ seg ++ [], by rw [hseg, hs₃]; simp,
      .cut hne hp hpre hs₃ hrep (fun d hd => ?_) hseg hasked rfl⟩
    obtain ⟨rfl, -⟩ := Prod.mk.inj (Except.ok.inj hd)
    simp at hstop
  -- the retry pass went through: a third look, then the change pass
  rename_i hstop
  obtain rfl : stopped = none := by simpa using hstop
  obtain ⟨t₅, s₅, ht₅, hlog₅, h⟩ :=
    look_passes hcalm ⟨pre ++ seg, by rw [hseg, hs₃, List.append_assoc]⟩ h
  obtain ⟨rest, ha, hlog, hrest⟩ := changes_asks hbase retried h
  have hpost : Log.consults (t₅ ++ [.checkpoint false] ++ rest) = config.changeAsks base ha := by
    simp [ht₅.consults, hrest]
  refine ⟨pre ++ seg ++ (t₅ ++ [.checkpoint false] ++ rest), ?_,
    .retried hne hp hpre hs₃ hrep hseg hasked hpost⟩
  rw [hlog, hlog₅, hseg, hs₃]
  simp

end Passes

theorem Log.canceled_append_calm {l m : Log} (hl : l.canceled = false)
    (hm : ∀ e ∈ m, e.isCancel = false) : (l ++ m).canceled = false := by
  induction m generalizing l with
  | nil => simpa using hl
  | cons e m ih =>
    have hl' : (l ++ [e]).canceled = false := by
      have he := hm e (by simp)
      rw [Log.canceled_append, hl]
      cases e <;> simp_all [Event.request, Event.isCancel]
    simpa using ih hl' fun x hx => hm x (by simp [hx])

/-- What a run that no one asks to stop asks, in order: the failure list; when it names ids,
the source for the records of the base condition with those ids; then, only when it names none
or that retry pass went through, the history, once, and the source for the records of the base
condition modified after the watermark the history gives, when it gives one (`PassAsks`). No
query asks for an empty list of ids. -/
theorem run_reads_its_history_after_its_retries (c : Collaborators σ) (config : Replication)
    {base : Option String} (hbase : config.baseCondition = .ok base) {s : Scene σ} {run : Log}
    (hrun : (exec (sync (observe c) config) s).2.log = s.log ++ run)
    (hs : s.log.canceled = false) (hcalm : ∀ e ∈ run, e.isCancel = false) :
    PassAsks c config base s run ∧
      ∀ p after, Consult.query p after ∈ run.consults → Predicate.idsFilled p = true := by
  rcases hx : exec (sync (observe c) config) s with ⟨r, s'⟩
  rw [hx] at hrun
  obtain ⟨s₁, r₂, s₂, hstart, hpass, hclose⟩ := sync_inv hx
  -- opening and closing the run ask nothing
  have hopen : Adds Event.asksNothing (startRun (observe c) config) :=
    startRun_adds rfl (fun _ => rfl) (fun _ => rfl)
  obtain ⟨A, hA, hAsk⟩ := hopen.exec_log hstart
  obtain ⟨B, hB, hBsk⟩ : ∃ B, s'.log = s₂.log ++ B ∧ ∀ e ∈ B, e.asksNothing = true := by
    rcases r₂ with f | stopped
    · obtain ⟨e, -, hfail⟩ := hclose
      have hfails : Adds Event.asksNothing (failRun (observe c) f : Run σ (Option RunState)) :=
        failRun_adds rfl (fun _ => rfl) (fun _ => rfl) rfl f
      exact hfails.exec_log hfail
    · obtain ⟨t, s₃, ht, hlog₃, hfin⟩ := hclose
      have hfinish : Adds Event.asksNothing (finishRun (observe c) config stopped) :=
        finishRun_adds rfl (fun _ => rfl) (fun _ => rfl) (fun _ _ => rfl) stopped
      obtain ⟨B, hB, hBsk⟩ := hfinish.exec_log hfin
      exact ⟨t ++ [.clear] ++ B, by rw [hB, hlog₃]; simp only [List.append_assoc],
        Adds.quiet_then_all rfl ht rfl hBsk⟩
  -- no log the passes go through has a request to stop standing
  have hcanc : ∀ l : Log, s₁.log <+: l → l <+: s₂.log → l.canceled = false := by
    rintro l ⟨m, rfl⟩ hl
    have hin : A ++ m <+: run := by
      rw [← List.prefix_append_right_inj s.log, ← List.append_assoc, ← hA, ← hrun, hB]
      exact hl.trans (List.prefix_append _ _)
    rw [hA, List.append_assoc]
    exact Log.canceled_append_calm hs fun e he => hcalm e (hin.subset he)
  obtain ⟨seg, hseg, hasks⟩ := passes_asks hbase hpass hcanc
  have hsplit : s.log ++ run = s.log ++ (A ++ seg ++ B) := by
    rw [← hrun, hB, hseg, hA]
    simp
  obtain rfl := List.append_cancel_left hsplit
  have hwide := hasks.widen hA (Log.consults_eq_nil hAsk) (Log.consults_eq_nil hBsk)
  exact ⟨hwide, fun p after hq => hwide.idsFilled hq⟩

/-- Among idle collaborators, with no one asking to stop, a run asks in one of the orders of
`PassAsks`. -/
theorem idle_run_reads_its_history_once :
    Replication.sample.baseCondition = .ok (some "") ∧ Scene.empty.log.canceled = false ∧
      ∃ run, (exec (sync (observe .idle) .sample) Scene.empty).2.log = Scene.empty.log ++ run ∧
        (∀ e ∈ run, e.isCancel = false) ∧ PassAsks .idle .sample (some "") Scene.empty run ∧
        ∀ p after, Consult.query p after ∈ run.consults → Predicate.idsFilled p = true := by
  have hcalm : ∀ e ∈ (exec (sync (observe .idle) .sample) Scene.empty).2.log,
      e.isCancel = false := by
    decide +kernel
  exact ⟨rfl, rfl, _, rfl, hcalm,
    run_reads_its_history_after_its_retries .idle .sample rfl rfl rfl hcalm⟩

/-- The collaborators of `Collaborators.idle`, but for a history whose table is missing. -/
def Collaborators.historyless : Collaborators Unit :=
  { Collaborators.idle with
    ledger := { Ledger.idle with
      outcomes := fun _ => throw (.database .operational "no such table: run_history") } }

/-- With no failed pushes and no one asking to stop, a run whose history cannot be read asks the
failure list and the history, and then no query: it fails with the history's failure. -/
theorem unreadable_history_leaves_the_source_unasked :
    (∀ e ∈ (exec (sync (observe .historyless) .sample) Scene.empty).2.log, e.isCancel = false) ∧
      (exec (sync (observe .historyless) .sample) Scene.empty).2.log.consults.length = 2 ∧
      (exec (sync (observe .historyless) .sample) Scene.empty).2.log.countP Event.isQuery = 0 ∧
      (exec (sync (observe .historyless) .sample) Scene.empty).1.isOk = false := by
  decide +kernel

end CatalogSync.Sync
