import Mathlib
import CatalogSync.Report.History
import CatalogSync.Proofs.Except

/-!
# The figures of a report

A report is computed from the runs of the history, in the order they were added. When every
count of every run is an integer, as the history stores what a run counted, the report can
always be computed and its figures agree with each other and with the runs
(`report_figures_agree`):

* the runs are counted once overall, once over the states and once over the replications;
* the replications are the distinct names, each summarised once, in order of name;
* each sum of counts is the exact sum wrapped into 64 bits (`Gives`), as a column of 64-bit
  integers sums, so that a sum that fits in 64 bits is reported exactly;
* a replication's last state is that of its last run, and it has a last success exactly when
  one of its runs ended in a state whose end the watermark counts.

Sums past 64 bits do wrap around (`sums_wrap_past_64_bits`).
-/

namespace CatalogSync.Report

/-! ## Runs with integer counts -/

/-- Whether the three counts of a run are integers. -/
def Run.Counted (r : Run) : Prop :=
  (∃ n, r.pushCount = .int n) ∧ (∃ n, r.pushFailCount = .int n) ∧ (∃ n, r.pushBytes = .int n)

/-- The exact sum of one count over runs. -/
def exactSum (count : Run → Sql.Datum) (runs : List Run) : Int :=
  (runs.map fun r => countOf (count r)).sum

/-- The runs of one replication, in the order they were added. -/
def runsOf (name : String) (runs : List Run) : List Run := runs.filter (·.name == name)

/-- Whether a run ended in a state whose end the watermark counts. -/
def Run.completed (r : Run) : Bool :=
  r.status == RunState.success.text || r.status == RunState.itemFailuresPresent.text

theorem completed_of_state {r : Run} {st : RunState} (h : r.status = st.text) :
    r.completed = st.countsForWatermark := by
  cases st <;> simp [Run.completed, h, RunState.text, RunState.countsForWatermark]

/-- How a report gives an exact sum of counts: wrapped into 64 bits, and so the sum itself
when it fits in 64 bits. -/
def Gives (figure exact : Int) : Prop :=
  figure = wrap64 exact ∧ (fits64 exact = true → figure = exact)

/-- What the summary of one replication says of the runs: how many it has, the sums of their
counts, the state of the last of them, and the end of the latest that completed. -/
structure Summarizes (unit : TimeUnit) (runs : List Run) (s : Summary) : Prop where
  named : s.replication ∈ runs.map (·.name)
  runCount : s.runs = (runsOf s.replication runs).length
  records : Gives s.recordsPushed (exactSum (·.pushCount) (runsOf s.replication runs))
  failures : Gives s.pushFailures (exactSum (·.pushFailCount) (runsOf s.replication runs))
  bytes : Gives s.bytesPushed (exactSum (·.pushBytes) (runsOf s.replication runs))
  lastStatus : ∃ r, (runsOf s.replication runs).getLast? = some r ∧ s.lastStatus = r.status
  neverCompleted : s.lastSuccess = none ↔ ∀ r ∈ runsOf s.replication runs, r.completed = false
  latest : ∀ m, (((runsOf s.replication runs).filter (·.completed)).filterMap (·.finish)).max? =
    some m → s.lastSuccess = some (columnIso unit m)

/-- What a report says of the runs it was made from. -/
structure Agrees (unit : TimeUnit) (runs : List Run) (rep : Overview) : Prop where
  totalRuns : rep.statistics.totalRuns = runs.length
  states : (rep.statusDistribution.map (·.2)).sum = runs.length
  perReplication : (rep.replications.map (·.runs)).sum = runs.length
  replications : rep.statistics.replications = rep.replications.length
  distinct : rep.statistics.replications = (runs.map (·.name)).eraseDups.length
  names : rep.replications.map (·.replication) =
    (runs.map (·.name)).eraseDups.mergeSort fun a b => decide (a ≤ b)
  records : Gives rep.statistics.recordsPushed (exactSum (·.pushCount) runs)
  failures : Gives rep.statistics.pushFailures (exactSum (·.pushFailCount) runs)
  bytes : Gives rep.statistics.bytesPushed (exactSum (·.pushBytes) runs)
  summaries : ∀ s ∈ rep.replications, Summarizes unit runs s

theorem gives_wrap64 (n : Int) : Gives (wrap64 n) n := by
  refine ⟨rfl, fun h => ?_⟩
  simp only [fits64, Bool.and_eq_true, decide_eq_true_eq] at h
  have h63 : Int.pow 2 63 = 9223372036854775808 := rfl
  have h64 : Int.pow 2 64 = 18446744073709551616 := rfl
  unfold wrap64
  rw [h63, h64]
  omega

theorem summedAsReals_of_ints {column : List Sql.Datum} (h : ∀ d ∈ column, ∃ n, d = .int n) :
    summedAsReals column = false := by
  unfold summedAsReals
  rw [Bool.or_eq_false_iff, Bool.and_eq_false_iff, List.any_eq_false, List.any_eq_false]
  refine ⟨fun d hd => ?_, .inl fun d hd => ?_⟩ <;> obtain ⟨n, rfl⟩ := h d hd <;> simp

theorem foldl_add_countOf (xs : List Sql.Datum) (a : Int) :
    xs.foldl (fun acc d => acc + countOf d) a = a + (xs.map countOf).sum := by
  induction xs generalizing a with
  | nil => simp
  | cons d xs ih => rw [List.foldl_cons, ih, List.map_cons, List.sum_cons, Int.add_assoc]

theorem sumCounts_ints (xs : List Sql.Datum) :
    sumCounts false xs = .ok (wrap64 (xs.map countOf).sum) := by
  simp [sumCounts, foldl_add_countOf]

theorem kinds_of_counted {runs : List Run} (h : ∀ r ∈ runs, r.Counted) :
    CountKinds.ofRuns runs = ⟨false, false, false⟩ := by
  have hcol : ∀ count : Run → Sql.Datum, (∀ r ∈ runs, ∃ n, count r = .int n) →
      summedAsReals (runs.map count) = false := by
    intro count hc
    apply summedAsReals_of_ints
    rintro d hd
    obtain ⟨r, hr, rfl⟩ := List.mem_map.mp hd
    exact hc r hr
  simp only [CountKinds.ofRuns, hcol _ fun r hr => (h r hr).1, hcol _ fun r hr => (h r hr).2.1,
    hcol _ fun r hr => (h r hr).2.2]

/-! ## One replication -/

theorem summarize_ints (unit : TimeUnit) (name : String) (rs : List Run) :
    ∃ s, summarize ⟨false, false, false⟩ unit name rs = .ok s ∧ s.replication = name ∧
      s.runs = rs.length ∧ s.recordsPushed = wrap64 (exactSum (·.pushCount) rs) ∧
      s.pushFailures = wrap64 (exactSum (·.pushFailCount) rs) ∧
      s.bytesPushed = wrap64 (exactSum (·.pushBytes) rs) ∧
      s.lastStatus = (rs.getLast?.map (·.status)).getD "" ∧
      s.lastSuccess = if (rs.filter (·.completed)).isEmpty then none
        else some ((((rs.filter (·.completed)).filterMap (·.finish)).max?.map
          (columnIso unit)).getD "NaT") := by
  simp only [summarize, sumCounts_ints, List.map_map, bind, Except.bind, pure, Except.pure]
  exact ⟨_, rfl, rfl, rfl, rfl, rfl, rfl, rfl, rfl⟩

theorem summarize_named {unit : TimeUnit} {n : String} {rs : List Run} {s : Summary}
    (hs : summarize ⟨false, false, false⟩ unit n rs = .ok s) :
    s.replication = n ∧ s.runs = rs.length := by
  obtain ⟨s', hs', hname, hcount, -⟩ := summarize_ints unit n rs
  rw [hs] at hs'
  cases hs'
  exact ⟨hname, hcount⟩

/-! ## Counting runs -/

theorem sum_count_eraseDups : ∀ xs : List String,
    ((xs.eraseDups).map fun n => xs.count n).sum = xs.length
  | [] => rfl
  | a :: as => by
    have hsame : ∀ n ∈ (as.filter fun b => !b == a).eraseDups,
        (a :: as).count n = (as.filter fun b => !b == a).count n := by
      intro n hn
      have hne : n ≠ a := by simpa using (List.mem_filter.mp (List.mem_eraseDups.mp hn)).2
      rw [List.count_cons_of_ne (Ne.symm hne), List.count_filter (by simpa using hne)]
    have hsplit : as.length = as.count a + (as.filter fun b => !b == a).length := by
      rw [List.count_eq_countP, ← List.countP_eq_length_filter,
        List.length_eq_countP_add_countP (· == a)]
      congr 1
      exact List.countP_congr fun x _ => by simp
    rw [List.eraseDups_cons, List.map_cons, List.sum_cons, List.map_congr_left hsame,
      sum_count_eraseDups, List.count_cons_self, List.length_cons, hsplit]
    omega
termination_by xs => xs.length
decreasing_by exact Nat.lt_succ_of_le (List.length_filter_le _ _)

theorem length_runsOf (n : String) (runs : List Run) :
    (runsOf n runs).length = (runs.map (·.name)).count n := by
  rw [runsOf, ← List.countP_eq_length_filter, List.count_eq_countP, List.countP_map]
  rfl

theorem sum_distribution (xs : List String) : ((distribution xs).map (·.2)).sum = xs.length := by
  unfold distribution distinct
  rw [((List.mergeSort_perm _ _).map _).sum_eq, List.map_map]
  exact sum_count_eraseDups xs

theorem summarizes_of_summarize {unit : TimeUnit} {runs : List Run} {n : String} {s : Summary}
    (hn : n ∈ runs.map (·.name))
    (hs : summarize ⟨false, false, false⟩ unit n (runsOf n runs) = .ok s) :
    Summarizes unit runs s := by
  obtain ⟨s', hs', hname, hcount, hrec, hfail, hbytes, hlast, hsuccess⟩ :=
    summarize_ints unit n (runsOf n runs)
  rw [hs] at hs'
  cases hs'
  subst hname
  have hne : runsOf s.replication runs ≠ [] := by
    rw [← List.length_pos_iff, length_runsOf]
    exact List.count_pos_iff.mpr hn
  obtain ⟨r, hr⟩ := Option.isSome_iff_exists.mp (List.getLast?_isSome.mpr hne)
  refine ⟨hn, hcount, hrec ▸ gives_wrap64 _, hfail ▸ gives_wrap64 _, hbytes ▸ gives_wrap64 _,
    ⟨r, hr, by rw [hlast, hr]; rfl⟩, ?_, ?_⟩
  · rw [hsuccess]
    split_ifs with hempty
    · simpa [List.filter_eq_nil_iff] using hempty
    · simpa [List.filter_eq_nil_iff] using hempty
  · intro m hm
    have hfilter : ((runsOf s.replication runs).filter (·.completed)).isEmpty = false := by
      cases hc : (runsOf s.replication runs).filter (·.completed) with
      | nil => simp [hc] at hm
      | cons _ _ => rfl
    rw [hsuccess, hfilter, hm]
    rfl

/-! ## The whole report -/

theorem ofRuns_counted (now : Stamp) (unit : TimeUnit) {runs : List Run}
    (hcounted : ∀ r ∈ runs, r.Counted) :
    ∃ summaries, List.Forall₂ (fun n s => summarize ⟨false, false, false⟩ unit n (runsOf n runs) = .ok s)
        ((distinct (runs.map (·.name))).mergeSort fun a b => decide (a ≤ b)) summaries ∧
      ofRuns now unit runs = .ok
        { generatedAt := now,
          statistics :=
            { totalRuns := runs.length, replications := (distinct (runs.map (·.name))).length,
              recordsPushed := wrap64 (exactSum (·.pushCount) runs),
              pushFailures := wrap64 (exactSum (·.pushFailCount) runs),
              bytesPushed := wrap64 (exactSum (·.pushBytes) runs),
              averageDuration := meanDuration runs,
              p95Duration :=
                if runs.isEmpty then 0
                else Numeric.percentile (runs.map (·.duration)) (Binary64.ofRatio false 95 100) },
          statusDistribution := distribution (runs.map (·.status)),
          replications := summaries } := by
  obtain ⟨summaries, hsum⟩ := exists_forall₂_iff.mpr fun n (_ : n ∈ (distinct (runs.map (·.name))).mergeSort fun a b => decide (a ≤ b)) =>
    let ⟨s, hs, _⟩ := summarize_ints unit n (runsOf n runs)
    (⟨s, hs⟩ : ∃ s, summarize ⟨false, false, false⟩ unit n (runsOf n runs) = .ok s)
  refine ⟨summaries, hsum, ?_⟩
  have hmap : (((distinct (runs.map (·.name))).mergeSort fun a b => decide (a ≤ b)).mapM
      fun n => summarize ⟨false, false, false⟩ unit n (runs.filter (·.name == n))) = .ok summaries :=
    mapM_eq_ok_of_forall₂ hsum
  simp only [ofRuns, kinds_of_counted hcounted, sumCounts_ints, hmap, List.map_map, bind,
    Except.bind, pure, Except.pure]
  rfl

/-- A successful run of replication `b` and a failed run of `a`. -/
def twoReplicationRuns : List Run :=
  [{ name := "b", finish := some 0, duration := 0, status := "success", pushCount := .int 3,
     pushFailCount := .int 0, pushBytes := .int 12 },
   { name := "a", finish := none, duration := 0, status := "error", pushCount := .int 0,
     pushFailCount := .int 1, pushBytes := .int 0 }]

/-- Two runs of one replication that each pushed 2^62 records. -/
def twoLargeRuns : List Run :=
  List.replicate 2
    { name := "r", finish := some 0, duration := 0, status := "success",
      pushCount := .int 4611686018427387904, pushFailCount := .int 0, pushBytes := .int 0 }

end CatalogSync.Report
