import CatalogSync.Run.Status
import Mathlib

/-!
# The lifecycle of a run status

A run status is driven by five calls (`StatusCall`): `start`, `finish`, `fail` and the two
counters. A call that raises leaves the status as it was (`RunStatus.after`), as a method that
checks its guard before it assigns anything does.

* `RunStatus.call_error_iff`: a call raises exactly when its guard refuses it: `start` when the
  run is not pending, `finish` with a state no completed run ends in or when the run has ended,
  `fail` when the run has ended; the failure is always an invalid value.
* `RunStatus.moves_after`: the state goes from pending to running, or from a live state to an
  end, and never leaves an end.
* `RunStatus.Coherent`: the start time is set exactly when the run is no longer pending, the end
  time exactly when it has ended, the error text exactly when it ended in error. Every status
  reached from a fresh one by any calls is coherent, and its counters count the calls made.

`status_calls_keep_the_lifecycle` gathers these for every sequence of calls.
-/

namespace CatalogSync

/-- A call on the status of a run, with the clock reading or the bytes it is given. -/
inductive StatusCall where
  | start (now : Stamp)
  | finish (state : RunState) (now : Stamp)
  | fail (message : String) (now : Stamp)
  | recordPush (bytes : Int)
  | recordPushFailure

namespace StatusCall

/-- Whether a call counts a pushed record. -/
def isPush : StatusCall → Bool
  | .recordPush _ => true
  | _ => false

/-- Whether a call counts a refused record. -/
def isPushFailure : StatusCall → Bool
  | .recordPushFailure => true
  | _ => false

/-- The bytes a call counts as pushed. -/
def bytes : StatusCall → Int
  | .recordPush b => b
  | _ => 0

end StatusCall

namespace RunState

/-- The states a completed run ends in: those `finish` accepts, and those an outcome records. -/
def completes : RunState → Bool
  | .success | .itemFailuresPresent | .connectionLost | .canceled => true
  | _ => false

/-- How the state of a run may change in one call: not at all, from pending to running, or from
a live state to an end. -/
def Moves (a b : RunState) : Prop :=
  b = a ∨ (a = .pending ∧ b = .running) ∨ (a.isTerminal = false ∧ b.isTerminal = true)

theorem completes_iff {st : RunState} :
    st.completes = true ↔ st.isTerminal = true ∧ st ≠ .error := by
  cases st <;> simp [completes, isTerminal]

end RunState

namespace RunStatus

/-- A call on a status: the status it leaves, or the failure it raises. -/
def call (s : RunStatus) : StatusCall → Except Failure RunStatus
  | .start now => s.start now
  | .finish st now => s.finish st now
  | .fail message now => s.fail message now
  | .recordPush bytes => .ok (s.recordPush bytes)
  | .recordPushFailure => .ok s.recordPushFailure

/-- The status after a call; a call that raises leaves it as it was. -/
def after (s : RunStatus) (c : StatusCall) : RunStatus :=
  match s.call c with
  | .ok s' => s'
  | .error _ => s

/-- The status after calls made in turn. -/
def afterCalls (s : RunStatus) (cs : List StatusCall) : RunStatus := cs.foldl after s

@[simp] theorem afterCalls_nil (s : RunStatus) : s.afterCalls [] = s := rfl

@[simp] theorem afterCalls_cons (s : RunStatus) (c : StatusCall) (cs : List StatusCall) :
    s.afterCalls (c :: cs) = (s.after c).afterCalls cs := rfl

/-- The guard that makes a call raise. -/
def Refuses (s : RunStatus) : StatusCall → Prop
  | .start _ => s.state ≠ .pending
  | .finish st _ => st.completes = false ∨ s.state.isTerminal = true
  | .fail _ _ => s.state.isTerminal = true
  | .recordPush _ | .recordPushFailure => False

variable {s s' : RunStatus} {c : StatusCall} {f : Failure}

theorem after_of_error (h : s.call c = .error f) : s.after c = s := by
  simp [after, h]

theorem after_of_ok (h : s.call c = .ok s') : s.after c = s' := by
  simp [after, h]

/-- A call raises exactly when its guard refuses it, and raises an invalid value. -/
theorem call_error_iff : (∃ f, s.call c = .error f) ↔ s.Refuses c := by
  cases c with
  | start now => by_cases h : s.state = .pending <;> simp [call, start, Refuses, h]
  | finish st now =>
    by_cases hst : st.completes = true
    · obtain ⟨hterm, herr⟩ := RunState.completes_iff.mp hst
      by_cases hs : s.state.isTerminal = true <;> simp [call, finish, Refuses, hst, hterm, herr, hs]
    · have hbad : (!st.isTerminal || st == .error) = true := by
        rw [RunState.completes_iff] at hst
        by_cases ht : st.isTerminal = true <;> simp_all
      simp [call, finish, Refuses, hbad, hst]
  | fail message now => by_cases hs : s.state.isTerminal = true <;> simp [call, fail, Refuses, hs]
  | recordPush bytes => simp [call, Refuses]
  | recordPushFailure => simp [call, Refuses]

theorem call_error_invalid (h : s.call c = .error f) : ∃ m, f = .invalid m := by
  cases c with
  | start now =>
    simp only [call, start] at h
    split at h <;> cases h
    exact ⟨_, rfl⟩
  | finish st now =>
    simp only [call, finish, alreadyFinished] at h
    split at h
    · cases h
      exact ⟨_, rfl⟩
    · split at h <;> cases h
      exact ⟨_, rfl⟩
  | fail message now =>
    simp only [call, fail, alreadyFinished] at h
    split at h <;> cases h
    exact ⟨_, rfl⟩
  | recordPush bytes => cases h
  | recordPushFailure => cases h

theorem finish_ok {st : RunState} {now : Stamp} (h : s.finish st now = .ok s') :
    st.completes = true ∧ s.state.isTerminal = false ∧
      s' = { s with endTime := some now, startTime := some (s.startTime.getD now),
                    state := st } := by
  unfold finish at h
  split at h
  · cases h
  rename_i hst
  split at h
  · cases h
  rename_i hs
  cases h
  refine ⟨RunState.completes_iff.mpr ⟨?_, ?_⟩, by simpa using hs, rfl⟩ <;>
    · simp only [Bool.or_eq_true, Bool.not_eq_eq_eq_not, Bool.not_true, beq_iff_eq,
        not_or] at hst
      simp [hst.1, hst.2]

theorem start_ok {now : Stamp} (h : s.start now = .ok s') :
    s.state = .pending ∧ s' = { s with startTime := some now, state := .running } := by
  unfold start at h
  split at h
  · cases h
  rename_i hs
  cases h
  exact ⟨by simpa using hs, rfl⟩

theorem fail_ok {message : String} {now : Stamp} (h : s.fail message now = .ok s') :
    s.state.isTerminal = false ∧
      s' = { s with endTime := some now, startTime := some (s.startTime.getD now),
                    error := some message, state := .error } := by
  unfold fail at h
  split at h
  · cases h
  rename_i hs
  cases h
  exact ⟨by simpa using hs, rfl⟩

/-- One call moves the state from pending to running, or from a live state to an end, or
leaves it. -/
theorem moves_after (s : RunStatus) (c : StatusCall) : RunState.Moves s.state (s.after c).state := by
  rcases hc : s.call c with f | s'
  · rw [after_of_error hc]
    exact .inl rfl
  rw [after_of_ok hc]
  cases c with
  | start now =>
    obtain ⟨hs, rfl⟩ := start_ok hc
    exact .inr (.inl ⟨hs, rfl⟩)
  | finish st now =>
    obtain ⟨hst, hs, rfl⟩ := finish_ok hc
    exact .inr (.inr ⟨hs, (RunState.completes_iff.mp hst).1⟩)
  | fail message now =>
    obtain ⟨hs, rfl⟩ := fail_ok hc
    exact .inr (.inr ⟨hs, rfl⟩)
  | recordPush bytes =>
    cases hc
    exact .inl rfl
  | recordPushFailure =>
    cases hc
    exact .inl rfl

theorem after_terminal (h : s.state.isTerminal = true) (c : StatusCall) :
    (s.after c).state = s.state := by
  rcases hc : s.call c with f | s'
  · rw [after_of_error hc]
  rw [after_of_ok hc]
  cases c with
  | start now =>
    obtain ⟨hs, -⟩ := start_ok hc
    simp [hs, RunState.isTerminal] at h
  | finish st now =>
    obtain ⟨-, hs, -⟩ := finish_ok hc
    rw [h] at hs
    cases hs
  | fail message now =>
    obtain ⟨hs, -⟩ := fail_ok hc
    rw [h] at hs
    cases hs
  | recordPush bytes => cases hc; rfl
  | recordPushFailure => cases hc; rfl

/-! ## What every reachable status holds -/

/-- The times and the error text agree with the state: the start time is set once the run is
no longer pending, the end time once it has ended, the error text once it ended in error. -/
structure Coherent (s : RunStatus) : Prop where
  started : s.startTime.isSome = (s.state != .pending)
  ended : s.endTime.isSome = s.state.isTerminal
  failed : s.error.isSome = (s.state == .error)

theorem coherent_fresh (name : Value) : Coherent (fresh name) :=
  ⟨rfl, rfl, rfl⟩

/-- Every call keeps a status coherent. -/
theorem Coherent.after (h : Coherent s) (c : StatusCall) : Coherent (s.after c) := by
  rcases hc : s.call c with f | s'
  · rw [after_of_error hc]
    exact h
  rw [after_of_ok hc]
  cases c with
  | start now =>
    obtain ⟨hs, rfl⟩ := start_ok hc
    have hend := h.ended
    have herr := h.failed
    rw [hs] at hend herr
    exact ⟨rfl, hend, herr⟩
  | finish st now =>
    obtain ⟨hst, hs, rfl⟩ := finish_ok hc
    obtain ⟨hterm, hne⟩ := RunState.completes_iff.mp hst
    -- a live run has no error text yet
    have herr : s.error.isSome = false := by
      rw [h.failed]
      cases hst' : s.state <;> simp_all [RunState.isTerminal]
    have hlive : st ≠ .pending := by
      rintro rfl
      cases hterm
    exact ⟨by simp [hlive], by simp [hterm], by simp [herr, hne]⟩
  | fail message now =>
    obtain ⟨-, rfl⟩ := fail_ok hc
    exact ⟨by simp, by simp [RunState.isTerminal], by simp⟩
  | recordPush bytes =>
    cases hc
    exact ⟨h.started, h.ended, h.failed⟩
  | recordPushFailure =>
    cases hc
    exact ⟨h.started, h.ended, h.failed⟩

theorem Coherent.afterCalls (h : Coherent s) (cs : List StatusCall) :
    Coherent (s.afterCalls cs) := by
  induction cs generalizing s with
  | nil => exact h
  | cons c cs ih => exact ih (h.after c)

theorem Coherent.ofStatus_ok_iff (h : Coherent s) (configId configName : Value) :
    (∃ o, RunOutcome.ofStatus configId configName s = .ok o) ↔ s.state.completes = true := by
  rw [RunState.completes_iff]
  constructor
  · rintro ⟨o, ho⟩
    unfold RunOutcome.ofStatus at ho
    split at ho
    · rename_i hdone _ _
      simpa using hdone
    · cases ho
  · rintro ⟨hterm, hne⟩
    have hstart : s.startTime.isSome = true := by
      rw [h.started]
      cases hst : s.state <;> simp_all [RunState.isTerminal]
    have hend : s.endTime.isSome = true := by rw [h.ended, hterm]
    obtain ⟨a, ha⟩ := Option.isSome_iff_exists.mp hstart
    obtain ⟨b, hb⟩ := Option.isSome_iff_exists.mp hend
    have hne' : (s.state != .error) = true := by simpa using hne
    simp only [RunOutcome.ofStatus, hterm, hne', ha, hb, Bool.true_and]
    exact ⟨_, rfl⟩

/-! ## The counters count the calls -/

theorem after_counters_of_ok
    (hc : ∀ s', s.call c = .ok s' → s'.pushCount = s.pushCount ∧
      s'.pushFailCount = s.pushFailCount ∧ s'.pushBytes = s.pushBytes) :
    (s.after c).pushCount = s.pushCount ∧ (s.after c).pushFailCount = s.pushFailCount ∧
      (s.after c).pushBytes = s.pushBytes := by
  rcases h : s.call c with f | s'
  · rw [after_of_error h]
    exact ⟨rfl, rfl, rfl⟩
  · rw [after_of_ok h]
    exact hc s' h

theorem after_counters (s : RunStatus) (c : StatusCall) :
    (s.after c).pushCount = s.pushCount + (if c.isPush then 1 else 0) ∧
      (s.after c).pushFailCount = s.pushFailCount + (if c.isPushFailure then 1 else 0) ∧
      (s.after c).pushBytes = s.pushBytes + c.bytes := by
  cases c with
  | start now =>
    simpa [StatusCall.isPush, StatusCall.isPushFailure, StatusCall.bytes] using
      after_counters_of_ok fun s' h => by
        obtain ⟨-, rfl⟩ := start_ok h
        exact ⟨rfl, rfl, rfl⟩
  | finish st now =>
    simpa [StatusCall.isPush, StatusCall.isPushFailure, StatusCall.bytes] using
      after_counters_of_ok fun s' h => by
        obtain ⟨-, -, rfl⟩ := finish_ok h
        exact ⟨rfl, rfl, rfl⟩
  | fail message now =>
    simpa [StatusCall.isPush, StatusCall.isPushFailure, StatusCall.bytes] using
      after_counters_of_ok fun s' h => by
        obtain ⟨-, rfl⟩ := fail_ok h
        exact ⟨rfl, rfl, rfl⟩
  | recordPush bytes =>
    simp [after, call, recordPush, StatusCall.isPush, StatusCall.isPushFailure, StatusCall.bytes]
  | recordPushFailure =>
    simp [after, call, recordPushFailure, StatusCall.isPush, StatusCall.isPushFailure,
      StatusCall.bytes]

theorem afterCalls_counters (s : RunStatus) (cs : List StatusCall) :
    (s.afterCalls cs).pushCount = s.pushCount + cs.countP StatusCall.isPush ∧
      (s.afterCalls cs).pushFailCount = s.pushFailCount + cs.countP StatusCall.isPushFailure ∧
      (s.afterCalls cs).pushBytes = s.pushBytes + (cs.map StatusCall.bytes).sum := by
  induction cs generalizing s with
  | nil => simp
  | cons c cs ih =>
    obtain ⟨h₁, h₂, h₃⟩ := ih (s.after c)
    obtain ⟨g₁, g₂, g₃⟩ := after_counters s c
    rw [afterCalls_cons, h₁, h₂, h₃, g₁, g₂, g₃]
    refine ⟨?_, ?_, by simp; omega⟩ <;> split <;> simp_all <;> omega

theorem fresh_afterCalls_counters (name : Value) (cs : List StatusCall) :
    ((fresh name).afterCalls cs).pushCount = cs.countP StatusCall.isPush ∧
      ((fresh name).afterCalls cs).pushFailCount = cs.countP StatusCall.isPushFailure ∧
      ((fresh name).afterCalls cs).pushBytes = (cs.map StatusCall.bytes).sum := by
  obtain ⟨h₁, h₂, h₃⟩ := afterCalls_counters (fresh name) cs
  exact ⟨h₁.trans (Int.zero_add _), h₂.trans (Int.zero_add _), h₃.trans (Int.zero_add _)⟩

end RunStatus

open RunStatus in
/-- Whatever calls a fresh status went through, in any order: a next call raises an invalid
value exactly when its guard refuses it, and then changes nothing; `finish` accepts only the
four states a completed run ends in; the state moves only from pending to running or from a
live state to an end, and stays once ended. The status is coherent, its counters count the
pushes, refusals and bytes of the calls, and it has an outcome exactly when it completed. -/
theorem status_calls_keep_the_lifecycle (name : Value) (cs : List StatusCall) :
    let s := (fresh name).afterCalls cs
    (∀ c, ((∃ f, s.call c = .error f) ↔ s.Refuses c) ∧
        (∀ f, s.call c = .error f → (∃ m, f = .invalid m) ∧ s.after c = s) ∧
        RunState.Moves s.state (s.after c).state ∧
        (s.state.isTerminal = true → (s.after c).state = s.state)) ∧
      (∀ st now s', s.call (.finish st now) = .ok s' → st.completes = true) ∧
      Coherent s ∧
      s.pushCount = (cs.countP StatusCall.isPush : Int) ∧
      s.pushFailCount = (cs.countP StatusCall.isPushFailure : Int) ∧
      s.pushBytes = (cs.map StatusCall.bytes).sum ∧
      ∀ configId configName,
        (∃ o, RunOutcome.ofStatus configId configName s = .ok o) ↔ s.state.completes = true := by
  intro s
  have hcoh : Coherent s := (coherent_fresh name).afterCalls cs
  obtain ⟨hcount, hfail, hbytes⟩ := fresh_afterCalls_counters name cs
  refine ⟨fun c => ⟨call_error_iff, fun f hf => ⟨call_error_invalid hf, after_of_error hf⟩,
    moves_after s c, fun h => after_terminal h c⟩, fun st now s' h => (finish_ok h).1, hcoh,
    hcount, hfail, hbytes, hcoh.ofStatus_ok_iff⟩

end CatalogSync
