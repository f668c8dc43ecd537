import CatalogSync.Proofs.Hdfs.Requested

/-!
# Listing a directory page by page

A namenode serves a directory of entries with distinct names, in name order, in batches of `B`
(`Serves`): asked for the first page it answers with the first `B` entries, asked for the page
after a name with the next `B` entries after that name, and with each page it says how many
entries come after it. Against such a namenode, a file-system node lists the directory in
exactly `max 1 ⌈|D| / B⌉` requests, each starting after the last entry of the page before, and
finds exactly the regular files modified after the filter date, each once and in the
directory's order. A query answers the records of those files, sorted stably by modification
time and kept to the ids the predicate restricts to (`node_lists_the_served_directory`).

The walk over the pages is one induction on the fuel of `listPages`, from any position of the
directory: a page is asked for, its files are kept, and the listing goes on from the position
after it (`fetch_then_after`). The first page is the same step from the start of the directory.

The simulated namenode meets `Serves`: holding two subdirectories and serving them one to a page,
each of its pages reads back as the document it was written from, which the kernel checks by a
structural comparison of values (`alike`).
-/

namespace CatalogSync.Hdfs

/-! ## A directory and the namenode that serves it -/

/-- The name of a listed entry: its `pathSuffix` when that is a text. -/
def suffixOf (e : Value) : String :=
  match e.get "pathSuffix" with
  | .str s => s
  | _ => ""

/-- The modification time of a listed entry in milliseconds, when it is an integer. -/
def millisOf (e : Value) : Int :=
  match e.get "modificationTime" with
  | .int ms => ms
  | _ => 0

/-- An entry as a namenode lists it: a mapping with a text name and, when it is a regular file,
an integer modification time in milliseconds that reads as a time. -/
structure IsFileStatus (e : Value) : Prop where
  mapping : e.isObj = true
  named : ∃ s, e.get "pathSuffix" = .str s
  timed : e.get "type" = .str "FILE" →
    ∃ ms t, e.get "modificationTime" = .int ms ∧ ofMillis (.int ms) = .ok t

/-- A directory as a namenode serves it: entries with distinct names, in name order. -/
structure Directory where
  entries : List Value
  statuses : ∀ e ∈ entries, IsFileStatus e
  ordered : entries.Pairwise fun a b => suffixOf a < suffixOf b

/-- The entries of a directory after a name, in its order; all of them when no name is given. -/
def entriesAfter (D : List Value) : Option String → List Value
  | none => D
  | some s => D.filter fun e => decide (s < suffixOf e)

/-- The document of a listing page: its entries and the count of entries after them. -/
def listingDocument (entries : List Value) (remaining : Nat) : Value :=
  .obj [("DirectoryListing", .obj [
    ("partialListing", .obj [("FileStatuses", .obj [("FileStatus", .list entries)])]),
    ("remainingEntries", .int remaining)])]

/-- The request for the page of a listing after a name, or for its first page. -/
def pageRequest (n : Node) (startAfter : Option String) : Http.Request :=
  { url := n.baseUrl, params := pageParams (startAfter.map ([·])) }

/-- A namenode that serves the directory `D` in batches of `B` entries: asked for the first page,
or for the page after a name, it answers with status 200 and a JSON body holding the next at most
`B` entries and the count of those after them. Its world may change between requests; its
answers do not. -/
def Serves {σ : Type} (send : Send (StateM σ)) (n : Node) (D : List Value) (B : Nat) : Prop :=
  ∀ startAfter w, ∃ resp, ((send (pageRequest n startAfter)).run w).1 = .ok resp ∧
    resp.status = 200 ∧
    Http.jsonOf resp.body = .ok (listingDocument ((entriesAfter D startAfter).take B)
      ((entriesAfter D startAfter).length - B))

/-- Whether a listed entry is a regular file modified after the date, when one is given. -/
def selects (d : Option Stamp) (e : Value) : Bool :=
  match e.get "type" with
  | .str "FILE" =>
    match d with
    | none => true
    | some t =>
      match ofMillis (e.get "modificationTime") with
      | .ok m => decide (t.instant < m.instant)
      | .error _ => false
  | _ => false

/-- The name the `k`-th page of a listing of `D` in batches of `B` starts after: none for the
first page, and the name of the last entry of the page before for every other. -/
def pageStart (D : List Value) (B : Nat) : Nat → Option String
  | 0 => none
  | k + 1 => some (suffixOf (D.getD ((k + 1) * B - 1) .null))

/-! ## Entries after a name -/

theorem entriesAfter_suffixOf {D : List Value}
    (hD : D.Pairwise fun a b => suffixOf a < suffixOf b) {j : Nat} (hj : j < D.length) :
    entriesAfter D (some (suffixOf D[j])) = D.drop (j + 1) := by
  have hsplit : D = D.take j ++ D[j] :: D.drop (j + 1) := by simp
  generalize D[j] = x at hsplit ⊢
  have hpair := hD
  rw [hsplit, List.pairwise_append, List.pairwise_cons] at hpair
  obtain ⟨-, ⟨hafter, -⟩, hbefore⟩ := hpair
  -- the entries before the `j`-th are named before it, those after it after it
  have hnone : (D.take j).filter (fun e => decide (suffixOf x < suffixOf e)) = [] :=
    List.filter_eq_nil_iff.mpr fun a ha => by
      simpa using String.lt_asymm (hbefore a ha x (List.mem_cons_self ..))
  have hall : (D.drop (j + 1)).filter (fun e => decide (suffixOf x < suffixOf e)) =
      D.drop (j + 1) :=
    List.filter_eq_self.mpr fun b hb => by simpa using hafter b hb
  have hparts : (D.take j ++ x :: D.drop (j + 1)).filter
      (fun e => decide (suffixOf x < suffixOf e)) = D.drop (j + 1) := by
    simp only [List.filter_append, List.filter_cons, hnone, hall, String.lt_irrefl,
      decide_false, List.nil_append]
    rfl
  rw [← hsplit] at hparts
  exact hparts

theorem entriesAfter_subset {D : List Value} {startAfter : Option String} {e : Value}
    (h : e ∈ entriesAfter D startAfter) : e ∈ D := by
  cases startAfter with
  | none => exact h
  | some s => exact (List.mem_filter.mp h).1

theorem entriesAfter_eq_drop {D : List Value}
    (hD : D.Pairwise fun a b => suffixOf a < suffixOf b) :
    ∀ startAfter, ∃ k, entriesAfter D startAfter = D.drop k
  | none => ⟨0, rfl⟩
  | some s => by
    induction D with
    | nil => exact ⟨0, rfl⟩
    | cons x xs ih =>
      obtain ⟨hx, hxs⟩ := List.pairwise_cons.mp hD
      by_cases hs : s < suffixOf x
      -- every later entry is named after `x`, so after `s` too: the whole list is kept
      · refine ⟨0, List.filter_eq_self.mpr fun y hy => decide_eq_true ?_⟩
        rcases List.mem_cons.mp hy with rfl | hy
        · exact hs
        · exact String.lt_trans hs (hx y hy)
      -- `x` is named before `s`, so it is dropped and the rest is a tail of `xs`
      · obtain ⟨k, hk⟩ := ih hxs
        refine ⟨k + 1, ?_⟩
        show (x :: xs).filter (fun e => decide (s < suffixOf e)) = xs.drop k
        rw [List.filter_cons_of_neg (p := fun e => decide (s < suffixOf e))
          fun h => hs (of_decide_eq_true h)]
        exact hk

/-! ## Reading a page -/

theorem readPage_listingDocument {body : List UInt8} {entries : List Value} {remaining : Nat}
    (h : Http.jsonOf body = .ok (listingDocument entries remaining)) :
    readPage body = .ok (some (.list entries, remaining)) := by
  simp [readPage, listingOf, h, listingDocument, index, Value.lookup, Value.getD, Value.toInteger, bind,
    Except.bind, pure, Except.pure]

theorem ofEpochSeconds_offset {x : Float} {m : Stamp} (h : Stamp.ofEpochSeconds x = .ok m) :
    m.offset = some 0 := by
  unfold Stamp.ofEpochSeconds at h
  cases hwall : Stamp.wallOfEpochSeconds x with
  | error e => rw [hwall] at h; cases h
  | ok wall => rw [hwall] at h; cases h; rfl

theorem ofMillis_offset {v : Value} {m : Stamp} (h : ofMillis v = .ok m) : m.offset = some 0 := by
  simp only [ofMillis, bind, Except.bind] at h
  split at h
  · cases h
  · exact ofEpochSeconds_offset h

theorem filterM_except_ok {α ε : Type} {p : α → Except ε Bool} {q : α → Bool} {xs : List α}
    (h : ∀ x ∈ xs, p x = .ok (q x)) : xs.filterM p = .ok (xs.filter q) := by
  have haux : ∀ (ys acc : List α), (∀ y ∈ ys, p y = .ok (q y)) →
      List.filterAuxM p ys acc = .ok ((ys.filter q).reverse ++ acc) := by
    intro ys
    induction ys with
    | nil => intro acc _; rfl
    | cons y ys ih =>
      intro acc hys
      have hy := hys y (List.mem_cons_self ..)
      have hrest := ih (cond (q y) (y :: acc) acc) fun z hz => hys z (List.mem_cons_of_mem _ hz)
      simp only [List.filterAuxM, hy, bind, Except.bind, hrest]
      cases hq : q y <;> simp [hq]
  simp [List.filterM, haux xs [] h, bind, Except.bind, pure, Except.pure]

theorem index_of_get {e v : Value} {key : String} (he : e.isObj = true) (hv : e.get key = v)
    (hnull : v ≠ .null) : index e key = .ok v := by
  cases e with
  | obj fs =>
    simp only [index]
    cases hl : Value.lookup (.obj fs) key with
    | none => simp [Value.get, Value.getD, hl] at hv; exact absurd hv.symm hnull
    | some x => simp only [Value.get, Value.getD, hl, Option.getD_some] at hv; rw [hv]
  | _ => cases he

theorem relevantFiles_statuses {entries : List Value} (hes : ∀ e ∈ entries, IsFileStatus e)
    {d : Option Stamp} (hd : ∀ t ∈ d, t.isAware = true) :
    relevantFiles (.list entries) d = .ok (entries.filter (selects d)) := by
  simp only [relevantFiles, items, bind, Except.bind]
  apply filterM_except_ok
  intro e he
  have hs := hes e he
  have hkind : getKey e "type" .null = .ok (e.get "type") := by
    cases e with
    | obj fs => rfl
    | _ => cases hs.mapping
  simp only [hkind]
  unfold selects
  by_cases hfile : e.get "type" = .str "FILE"
  · simp only [hfile]
    cases d with
    | none => rfl
    | some t =>
      -- a regular file's time reads as a UTC time, which compares with an aware date
      obtain ⟨ms, m, hms, hm⟩ := hs.timed hfile
      have hidx : index e "modificationTime" = .ok (.int ms) :=
        index_of_get hs.mapping hms (by intro h; cases h)
      obtain ⟨o, ho⟩ := Option.isSome_iff_exists.mp (hd t rfl)
      simp [hidx, hms, hm, Stamp.after, Stamp.compare?, ofMillis_offset hm, ho, Stamp.instant,
        Functor.map, Except.map]
      rw [Bool.eq_iff_iff, beq_iff_eq, decide_eq_true_iff, Int.compare_eq_gt]
  -- any other kind is left out on both sides
  · generalize e.get "type" = kind at hfile ⊢
    cases kind with
    | str s => simp [pure, Except.pure]
    | _ => rfl

/-- A page whose first entry is a regular file with an integer time cannot be filtered by a date
without an offset: the file's time is a UTC time, which does not compare with such a date, and a
time that does not read fails the filter too. -/
theorem relevantFiles_naive {e : Value} {es : List Value} {ms : Int} {d : Stamp}
    (he : e.isObj = true) (hfile : e.get "type" = .str "FILE")
    (hms : e.get "modificationTime" = .int ms) (hd : d.offset = none) :
    ∃ err, relevantFiles (.list (e :: es)) (some d) = .error err := by
  have hkind : getKey e "type" .null = .ok (.str "FILE") := by
    cases e with
    | obj fs => exact congrArg Except.ok hfile
    | _ => cases he
  have hidx : index e "modificationTime" = .ok (.int ms) :=
    index_of_get he hms (by intro h; cases h)
  cases hm : ofMillis (.int ms) with
  | error err =>
    exact ⟨err, by simp [relevantFiles, items, List.filterM, List.filterAuxM, hkind, hidx, hm,
      bind, Except.bind]⟩
  | ok m =>
    -- the file's time has an offset and the date has none
    refine ⟨.wrongKind "can't compare offset-naive and offset-aware datetimes", ?_⟩
    simp [relevantFiles, items, List.filterM, List.filterAuxM, hkind, hidx, hm, Stamp.after,
      Stamp.compare?, ofMillis_offset hm, hd, bind, Except.bind]

theorem takePage_last {d : Option Stamp} {found entries : List Value} {remaining : Int}
    (hes : ∀ e ∈ entries, IsFileStatus e) (hd : ∀ t ∈ d, t.isAware = true) (hr : remaining ≤ 0) :
    takePage d found (.list entries) remaining = .ok (found ++ entries.filter (selects d), none) := by
  simp [takePage, relevantFiles_statuses hes hd, hr, bind, Except.bind, pure, Except.pure]

theorem takePage_more {d : Option Stamp} {found entries : List Value} {remaining : Int}
    (hes : ∀ e ∈ entries, IsFileStatus e) (hd : ∀ t ∈ d, t.isAware = true) (hr : 0 < remaining)
    (hne : entries ≠ []) :
    takePage d found (.list entries) remaining =
      .ok (found ++ entries.filter (selects d), some (some [suffixOf (entries.getLast hne)])) := by
  have hlast := hes _ (List.getLast_mem hne)
  obtain ⟨s, hs⟩ := hlast.named
  have hidx : index (entries.getLast hne) "pathSuffix" = .ok (.str s) :=
    index_of_get hlast.mapping hs (by intro h; cases h)
  have hsuffix : suffixOf (entries.getLast hne) = s := by simp [suffixOf, hs]
  simp [takePage, relevantFiles_statuses hes hd, Int.not_le.mpr hr, Value.truthy, hne,
    List.getLastD_eq_getLast?, List.getLast?_eq_some_getLast hne, hidx, hsuffix, paramValues,
    paramText, bind,
    Except.bind, pure, Except.pure]

theorem takePage_error {d : Option Stamp} {found : List Value} {results : Value} {remaining : Int}
    {err : Failure} (h : relevantFiles results d = .error err) :
    takePage d found results remaining = .error err := by
  unfold takePage
  rw [h]
  rfl

theorem afterPage_error {σ : Type} {d : Option Stamp} {found : List Value}
    {rest : Int → Option (List String) → List Value → ExceptT Failure (StateM σ) (List Value)}
    {results : Value} {remaining : Int} {err : Failure}
    (h : takePage d found results remaining = .error err) (w : σ) :
    (afterPage d found rest (some (results, remaining))).run.run w = (.error err, w) := by
  rw [afterPage, run_bind, h]
  rfl

/-! ## One page of the listing -/

section Serving

variable {σ : Type} {send : Send (StateM σ)} {n : Node}

theorem sendOr_recorded_answered {r : Http.Request} (ctx : String) {w : σ × List Exchange}
    {resp : Http.Response} (h : ((send r).run w.1).1 = .ok resp) :
    (sendOr (recorded send) ctx r).run.run w =
      (.ok resp, (((send r).run w.1).2, w.2 ++ [(r, .ok resp)])) := by
  unfold sendOr
  rw [run_bind]
  simp only [run_liftM, recorded_run, h]
  rfl

theorem fetchPage_served {D : List Value} {B : Nat} (hS : Serves send n D B)
    (startAfter : Option String) (w : σ × List Exchange) :
    ∃ resp s', resp.status = 200 ∧
      (fetchPage (recorded send) n (startAfter.map ([·]))).run.run w =
        (.ok (some (.list ((entriesAfter D startAfter).take B),
          (((entriesAfter D startAfter).length - B : Nat) : Int))),
          (s', w.2 ++ [(pageRequest n startAfter, .ok resp)])) := by
  obtain ⟨resp, hsend, h200, hjson⟩ := hS startAfter w.1
  refine ⟨resp, ((send (pageRequest n startAfter)).run w.1).2, h200, ?_⟩
  have hsent := sendOr_recorded_answered ("Could not list " ++ n.baseUrl) hsend
  unfold pageRequest at hsent
  unfold fetchPage
  rw [run_bind, hsent]
  simp [h200, readPage_listingDocument hjson, lift, pageRequest]
  rfl

end Serving

/-! ## The walk over the pages -/

/-- The requests of the pages of a listing of `D` in batches of `B` from position `i` on: the
first after `startAfter`, every other after the last entry of the page before. -/
def requestsFrom (n : Node) (D : List Value) (B i : Nat) (startAfter : Option String) :
    List Http.Request :=
  pageRequest n startAfter :: (List.range ((D.length - i - 1) / B)).map fun k =>
    pageRequest n (some (suffixOf (D.getD (i + (k + 1) * B - 1) .null)))

theorem requestsFrom_more {n : Node} {D : List Value} {B i : Nat} {startAfter : Option String}
    (hB : 0 < B) (hmore : B < D.length - i) :
    requestsFrom n D B i startAfter = pageRequest n startAfter ::
      requestsFrom n D B (i + B) (some (suffixOf (D.getD (i + B - 1) .null))) := by
  have hpages : (D.length - i - 1) / B = (D.length - (i + B) - 1) / B + 1 := by
    rw [Nat.div_eq_sub_div hB (by omega)]
    congr 2
    omega
  simp only [requestsFrom, hpages, List.range_succ_eq_map, List.map_cons, List.map_map]
  congr 3
  · simp
  · funext k
    simp only [Function.comp]
    congr 4
    rw [Nat.succ_mul]
    omega

theorem requestsFrom_last {n : Node} {D : List Value} {B i : Nat} {startAfter : Option String}
    (hB : 0 < B) (hlast : D.length - i ≤ B) :
    requestsFrom n D B i startAfter = [pageRequest n startAfter] := by
  have hnone : (D.length - i - 1) / B = 0 := Nat.div_eq_of_lt (by omega)
  simp [requestsFrom, hnone]

variable {σ : Type}

/-- A listing of `D` in batches of `B` from position `i` on, after the files `found`: it answers
those files and the ones selected from `i` on, asking once for each page from `i` on and getting
each. -/
def ListsFrom (n : Node) (D : List Value) (B : Nat) (d : Option Stamp) (i : Nat)
    (startAfter : Option String) (found : List Value)
    (x : ExceptT Failure (StateM (σ × List Exchange)) (List Value)) : Prop :=
  ∀ w, ∃ xs s', x.run.run w = (.ok (found ++ (D.drop i).filter (selects d)), (s', w.2 ++ xs)) ∧
    xs.map Prod.fst = requestsFrom n D B i startAfter ∧ ∀ e ∈ xs, e.obtainsPage = true

section Walk

variable {send : Send (StateM σ)} {n : Node} {D : Directory} {B : Nat} {d : Option Stamp}

theorem obtainsPage_pageRequest {startAfter : Option String} {resp : Http.Response}
    (h200 : resp.status = 200) : Exchange.obtainsPage (pageRequest n startAfter, .ok resp) = true := by
  simp [Exchange.obtainsPage, pageRequest, pageParams, h200]

theorem getLast_page {i : Nat} (hmore : B < D.entries.length - i) (hne : (D.entries.drop i).take B ≠ []) :
    ((D.entries.drop i).take B).getLast hne = D.entries.getD (i + B - 1) .null := by
  have hlt : i + B - 1 < D.entries.length := by omega
  rw [List.getLast_eq_getElem, List.getD_eq_getElem?_getD, List.getElem?_eq_getElem hlt,
    Option.getD_some]
  have hB : B ≠ 0 := fun h => hne (by simp [h])
  have hidx : i + (min B (D.entries.length - i) - 1) = i + B - 1 := by omega
  simp only [List.getElem_take, List.getElem_drop, List.length_take, List.length_drop, hidx]

/-- One page, then the rest: asking for the page at position `i`, keeping its files, and, when
more than a page of entries follows `i`, going on with a listing from the position after the
page, lists the directory from `i` on. -/
theorem fetch_then_after (hS : Serves send n D.entries B) (hB : 0 < B)
    (hd : ∀ t ∈ d, t.isAware = true) {i : Nat} {startAfter : Option String}
    (hstart : entriesAfter D.entries startAfter = D.entries.drop i) {found : List Value}
    (rest : Int → Option (List String) → List Value →
      ExceptT Failure (StateM (σ × List Exchange)) (List Value))
    (hrest : B < D.entries.length - i → ∀ found',
      ListsFrom n D.entries B d (i + B) (some (suffixOf (D.entries.getD (i + B - 1) .null))) found'
        (rest ((D.entries.length - i - B : Nat) : Int)
          (some [suffixOf (D.entries.getD (i + B - 1) .null)]) found')) :
    ListsFrom n D.entries B d i startAfter found
      (fetchPage (recorded send) n (startAfter.map ([·])) >>= afterPage d found rest) := by
  intro w
  obtain ⟨resp, s₁, h200, hfetch⟩ := fetchPage_served hS startAfter w
  rw [hstart, List.length_drop] at hfetch
  have hpage : ∀ e ∈ (D.entries.drop i).take B, IsFileStatus e :=
    fun e he => D.statuses e (List.mem_of_mem_drop (List.mem_of_mem_take he))
  rw [run_bind, hfetch]
  by_cases hmore : B < D.entries.length - i
  -- more than a page follows `i`: the listing goes on after the page's last entry
  · have hne : (D.entries.drop i).take B ≠ [] := by
      simp only [ne_eq, List.take_eq_nil_iff, List.drop_eq_nil_iff]
      omega
    have htake : takePage d found (.list ((D.entries.drop i).take B))
        ((D.entries.length - i - B : Nat) : Int) = _ := takePage_more hpage hd (by omega) hne
    rw [getLast_page hmore hne] at htake
    obtain ⟨xs, s', hrun, hreqs, hall⟩ := hrest hmore
      (found ++ ((D.entries.drop i).take B).filter (selects d))
      (s₁, w.2 ++ [(pageRequest n startAfter, .ok resp)])
    refine ⟨(pageRequest n startAfter, .ok resp) :: xs, s', ?_, ?_, ?_⟩
    · simp only [afterPage, run_bind, htake, lift, run_pure]
      rw [hrun]
      have hsplit : (D.entries.drop i).filter (selects d) =
          ((D.entries.drop i).take B).filter (selects d) ++
            (D.entries.drop (i + B)).filter (selects d) := by
        rw [← List.filter_append, ← List.drop_drop, List.take_append_drop]
      simp [hsplit]
    · rw [List.map_cons, hreqs, requestsFrom_more hB hmore]
    · rintro x (_ | ⟨_, hx⟩)
      · exact obtainsPage_pageRequest h200
      · exact hall x hx
  -- the page is the last: it holds every entry from `i` on
  · have hlast : ((D.entries.length - i - B : Nat) : Int) ≤ 0 := by omega
    have hwhole : (D.entries.drop i).take B = D.entries.drop i :=
      List.take_of_length_le (by simp only [List.length_drop]; omega)
    refine ⟨[(pageRequest n startAfter, .ok resp)], s₁, ?_, ?_, ?_⟩
    · simp only [afterPage, run_bind]
      rw [takePage_last hpage hd hlast]
      simp only [lift, run_pure, hwhole]
    · simp [requestsFrom_last hB (by omega : D.entries.length - i ≤ B)]
    · simp [obtainsPage_pageRequest h200]

theorem entriesAfter_page (hB : 0 < B) {i : Nat} (hmore : B < D.entries.length - i) :
    entriesAfter D.entries (some (suffixOf (D.entries.getD (i + B - 1) .null))) =
      D.entries.drop (i + B) := by
  have hlt : i + B - 1 < D.entries.length := by omega
  rw [List.getD_eq_getElem?_getD, List.getElem?_eq_getElem hlt, Option.getD_some,
    entriesAfter_suffixOf D.ordered hlt]
  congr 1
  omega

theorem listPages_lists (hS : Serves send n D.entries B) (hB : 0 < B)
    (hd : ∀ t ∈ d, t.isAware = true) :
    ∀ (fuel i : Nat) (startAfter : Option String) (found : List Value),
      entriesAfter D.entries startAfter = D.entries.drop i →
      (D.entries.length - i - 1) / B < fuel →
      ListsFrom n D.entries B d i startAfter found
        (listPages (recorded send) n d fuel (startAfter.map ([·])) found)
  | 0, _, _, _, _, hfuel => absurd hfuel (Nat.not_lt_zero _)
  | fuel + 1, i, startAfter, found, hstart, hfuel =>
    fetch_then_after hS hB hd hstart (fun _ next found => listPages (recorded send) n d fuel next found)
      fun hmore found' => by
        refine listPages_lists hS hB hd fuel (i + B) _ found' (entriesAfter_page hB hmore) ?_
        -- the page took one of the pages the fuel was counted for
        have hpages : (D.entries.length - i - 1) / B = (D.entries.length - i - 1 - B) / B + 1 :=
          Nat.div_eq_sub_div hB (by omega)
        have hsame : D.entries.length - (i + B) - 1 = D.entries.length - i - 1 - B := by omega
        rw [hsame]
        omega

theorem files_lists (hS : Serves send n D.entries B) (hB : 0 < B)
    (hd : ∀ t ∈ d, t.isAware = true) :
    ListsFrom n D.entries B d 0 none [] (n.files (recorded send) d) :=
  fetch_then_after hS hB hd (show entriesAfter D.entries none = D.entries.drop 0 from rfl)
    (fun remaining next found => listPages (recorded send) n d (remaining.toNat + pageLimit) next found)
    fun hmore found' => by
      refine listPages_lists hS hB hd _ (0 + B) _ found' (entriesAfter_page hB hmore) ?_
      -- the first page says how many entries remain, which bounds the pages after it
      have hle := Nat.div_le_self (D.entries.length - (0 + B) - 1) B
      simp only [Int.toNat_natCast]
      omega

end Walk

theorem requestsFrom_start {n : Node} {D : List Value} {B : Nat} (hB : 0 < B) :
    requestsFrom n D B 0 none =
      (List.range (max 1 ((D.length + B - 1) / B))).map fun k => pageRequest n (pageStart D B k) := by
  have hcount : max 1 ((D.length + B - 1) / B) = (D.length - 0 - 1) / B + 1 := by
    rw [Nat.sub_zero]
    rcases Nat.eq_zero_or_pos D.length with h | h
    · simp [h, Nat.div_eq_of_lt (by omega : B - 1 < B)]
    · rw [show D.length + B - 1 = (D.length - 1) + B by omega, Nat.add_div_right _ hB]
      exact Nat.max_eq_right (Nat.succ_pos _)
  rw [hcount, List.range_succ_eq_map]
  simp [requestsFrom, pageStart, Function.comp_def]

/-! ## Sorting the files and making their records -/

theorem mapM_except_ok {α β ε : Type} {f : α → Except ε β} {g : α → β} :
    ∀ {xs : List α}, (∀ x ∈ xs, f x = .ok (g x)) → xs.mapM f = .ok (xs.map g)
  | [], _ => rfl
  | x :: xs, h => by
    simp [List.mapM_cons, h x (List.mem_cons_self ..),
      mapM_except_ok fun y hy => h y (List.mem_cons_of_mem _ hy), bind, Except.bind, pure,
      Except.pure]

theorem mapM_except_exists {α β ε : Type} {f : α → Except ε β} :
    ∀ {xs : List α}, (∀ x ∈ xs, ∃ y, f x = .ok y) → ∃ ys, xs.mapM f = .ok ys
  | [], _ => ⟨[], rfl⟩
  | x :: xs, h => by
    obtain ⟨y, hy⟩ := h x (List.mem_cons_self ..)
    obtain ⟨ys, hys⟩ := mapM_except_exists fun z hz => h z (List.mem_cons_of_mem _ hz)
    exact ⟨y :: ys, by simp [List.mapM_cons, hy, hys, bind, Except.bind, pure, Except.pure]⟩

theorem sortByTime_whole {files : List Value}
    (h : ∀ f ∈ files, f.isObj = true ∧ ∃ ms, f.get "modificationTime" = .int ms) :
    sortByTime files = .ok (files.mergeSort fun a b => decide (millisOf a ≤ millisOf b)) := by
  have hkeyed : files.mapM (fun f => do return (f, ← index f "modificationTime")) =
      .ok (files.map fun f => (f, .int (millisOf f))) := by
    refine mapM_except_ok fun f hf => ?_
    obtain ⟨hobj, ms, hms⟩ := h f hf
    have hidx : index f "modificationTime" = .ok (.int ms) := index_of_get hobj hms (by intro h; cases h)
    simp [hidx, millisOf, hms, bind, Except.bind, pure, Except.pure]
  unfold sortByTime
  rw [hkeyed]
  simp only [bind, Except.bind, pure, Except.pure]
  have hnumbers : ((files.map fun f => (f, Value.int (millisOf f))).all
      fun k => k.2.numeric?.isSome) = true := by simp [Value.numeric?]
  simp only [hnumbers, if_true]
  congr 1
  -- the order of the keyed files is the order of their times
  rw [@List.map_mergeSort _ _ _ (fun a b => decide (millisOf a ≤ millisOf b)) _ _ ?_]
  · simp [Function.comp_def]
  · intro a ha b hb
    obtain ⟨x, -, rfl⟩ := List.mem_map.mp ha
    obtain ⟨y, -, rfl⟩ := List.mem_map.mp hb
    simp only [Value.numeric?, Value.Numeric.compare?]
    by_cases hle : millisOf x ≤ millisOf y
    · have hc : compare (millisOf y) (millisOf x) ≠ .lt := fun hc => by
        rw [Int.compare_eq_lt] at hc
        omega
      simp [hle, hc]
    · have hc : compare (millisOf y) (millisOf x) = .lt := Int.compare_eq_lt.mpr (by omega)
      simp [hle, hc]

theorem createRecord_ok (n : Node) {e : Value} (he : IsFileStatus e)
    (hfile : e.get "type" = .str "FILE") : ∃ r, n.createRecord e = .ok r := by
  obtain ⟨s, hs⟩ := he.named
  obtain ⟨ms, t, hms, ht⟩ := he.timed hfile
  have hsuffix : index e "pathSuffix" = .ok (.str s) := index_of_get he.mapping hs (by intro h; cases h)
  have htime : index e "modificationTime" = .ok (.int ms) :=
    index_of_get he.mapping hms (by intro h; cases h)
  simp [Node.createRecord, hsuffix, htime, ht, bind, Except.bind, pure, Except.pure]

theorem selects_file {d : Option Stamp} {e : Value} (h : selects d e = true) :
    e.get "type" = .str "FILE" := by
  unfold selects at h
  split at h
  · assumption
  · cases h

/-! ## Values read back -/

mutual
/-- Whether two values are built alike from nulls, booleans, integers, texts, lists and mappings,
field by field in order. Values of other kinds are never alike, so the check is sound but not
complete; it is what the kernel runs to see that a document reads back as itself. -/
def alike : Value → Value → Bool
  | .null, .null => true
  | .bool a, .bool b => a == b
  | .int a, .int b => a == b
  | .str a, .str b => a == b
  | .list xs, .list ys => alikeItems xs ys
  | .obj fs, .obj gs => alikeFields fs gs
  | _, _ => false

/-- Pointwise `alike` on lists of values. -/
def alikeItems : List Value → List Value → Bool
  | [], [] => true
  | x :: xs, y :: ys => alike x y && alikeItems xs ys
  | _, _ => false

/-- Pointwise `alike` on the fields of two mappings, keys compared as texts. -/
def alikeFields : List (String × Value) → List (String × Value) → Bool
  | [], [] => true
  | (k, x) :: fs, (k', y) :: gs => k == k' && alike x y && alikeFields fs gs
  | _, _ => false
end

mutual
theorem eq_of_alike {a b : Value} (h : alike a b = true) : a = b := by
  -- values of different kinds are never alike; the others are alike part by part
  cases a <;> cases b <;> simp only [alike, beq_iff_eq, Bool.false_eq_true] at h
  all_goals first
    | rfl
    | rw [h]
    | exact congrArg Value.list (eq_of_alikeItems h)
    | exact congrArg Value.obj (eq_of_alikeFields h)

theorem eq_of_alikeItems : ∀ {xs ys : List Value}, alikeItems xs ys = true → xs = ys
  | [], [], _ => rfl
  | x :: xs, y :: ys, h => by
    simp only [alikeItems, Bool.and_eq_true] at h
    rw [eq_of_alike h.1, eq_of_alikeItems h.2]
  | [], _ :: _, h => by simp [alikeItems] at h
  | _ :: _, [], h => by simp [alikeItems] at h

theorem eq_of_alikeFields : ∀ {fs gs : List (String × Value)}, alikeFields fs gs = true → fs = gs
  | [], [], _ => rfl
  | (k, x) :: fs, (k', y) :: gs, h => by
    simp only [alikeFields, Bool.and_eq_true, beq_iff_eq] at h
    rw [h.1.1, eq_of_alike h.1.2, eq_of_alikeFields h.2]
  | [], _ :: _, h => by simp [alikeFields] at h
  | _ :: _, [], h => by simp [alikeFields] at h
end

theorem eq_ok_of_alike {r : Except Failure Value} {v : Value}
    (h : (match r with
      | .ok w => alike w v
      | .error _ => false) = true) : r = .ok v := by
  cases r with
  | ok w => rw [eq_of_alike h]
  | error _ => cases h

/-! ## The simulated namenode serving a directory -/

theorem pageRequest_target_params (startAfter : Option String) :
    (pageRequest dataNode startAfter).target.params = pageParams (startAfter.map ([·])) := by
  have hquery : (Url.split dataNode.baseUrl).toOption.map (fun u => Http.parseQuery u.query) =
      some [] := by decide +kernel
  unfold Http.Request.target
  cases hsplit : Url.split (pageRequest dataNode startAfter).url with
  | error _ => rfl
  | ok u =>
    rw [show (pageRequest dataNode startAfter).url = dataNode.baseUrl from rfl] at hsplit
    have hnone : Http.parseQuery u.query = [] := by
      simpa [hsplit, Except.toOption] using hquery
    simp [hnone, Http.mergeParams, pageRequest]

theorem served_run (nn : Sim.Namenode) (r : Http.Request) (w : Unit) :
    (served nn r).run w = (nn.serve r, w) := rfl

/-- A simulated namenode that holds the entries `D` and serves them in batches of `B`: it is
reachable, lists with status 200 and no body set by hand, and holds `D` in name order, every entry
under its own name and without content fields. -/
structure Holds (nn : Sim.Namenode) (D : List Value) (B : Nat) : Prop where
  files : nn.files = D
  ordered : D.Pairwise fun a b => suffixOf a < suffixOf b
  listed : ∀ e ∈ D, Sim.fileName e = suffixOf e ∧ Sim.statusFields e = e
  pageSize : nn.pageSize = .int B
  reachable : nn.reachable = true
  listStatus : nn.listStatus = .int 200
  listBody : nn.listBody = none

namespace Holds

variable {nn : Sim.Namenode} {D : List Value} {B : Nat}

theorem page (h : Holds nn D B) (startAfter : Option String) :
    nn.page startAfter =
      ((entriesAfter D startAfter).take B, (entriesAfter D startAfter).length - B) := by
  -- the entries are already sorted, so the namenode's sort keeps them as they are
  have hsorted : D.mergeSort (fun a b => decide (Sim.fileName a ≤ Sim.fileName b)) = D := by
    refine List.mergeSort_of_pairwise (h.ordered.imp_of_mem fun ha hb hab => ?_)
    rw [(h.listed _ ha).1, (h.listed _ hb).1]
    exact decide_eq_true (String.lt_asymm hab)
  have hcount : ∀ n : Nat, n - min B n = n - B := fun n => by omega
  cases startAfter with
  | none =>
    have hall : D.filter (fun _ => true) = D := List.filter_eq_self.mpr fun _ _ => rfl
    simp only [Sim.Namenode.page, h.files, hsorted, h.pageSize, Int.toNat_natCast, hcount, hall]
    rfl
  | some s =>
    -- the page keeps the entries named after `s`, as `entriesAfter` does
    have hafter : D.filter (fun f => decide (s < Sim.fileName f)) = entriesAfter D (some s) := by
      unfold entriesAfter
      exact List.filter_congr fun e he => by rw [(h.listed e he).1]
    simp only [Sim.Namenode.page, h.files, hsorted, h.pageSize, Int.toNat_natCast, hcount, hafter]

theorem listingBody (h : Holds nn D B) (startAfter : Option String) :
    nn.listingBody startAfter =
      listingDocument ((entriesAfter D startAfter).take B)
        ((entriesAfter D startAfter).length - B) := by
  have hkept : ∀ e ∈ (entriesAfter D startAfter).take B, Sim.statusFields e = id e :=
    fun e he => (h.listed e (entriesAfter_subset (List.mem_of_mem_take he))).2
  simp only [Sim.Namenode.listingBody, h.page, List.map_congr_left hkept, List.map_id,
    listingDocument]

theorem serve (h : Holds nn D B) (startAfter : Option String) :
    nn.serve (pageRequest dataNode startAfter) =
      .ok { status := 200, headers := [("content-type", "application/json")],
            body := Sim.Namenode.documentBytes (listingDocument ((entriesAfter D startAfter).take B)
              ((entriesAfter D startAfter).length - B)) } := by
  rw [← h.listingBody]
  cases startAfter <;>
    simp [Sim.Namenode.serve, pageRequest_target_params, pageParams, h.reachable, h.listStatus,
      h.listBody, Sim.statusCode, pure, Except.pure]

theorem serves (h : Holds nn D B)
    (hread : ∀ k, Http.jsonOf (Sim.Namenode.documentBytes
      (listingDocument ((D.drop k).take B) ((D.drop k).length - B))) =
        .ok (listingDocument ((D.drop k).take B) ((D.drop k).length - B))) :
    Serves (served nn) dataNode D B := by
  intro startAfter w
  rw [served_run, h.serve]
  obtain ⟨k, hk⟩ := entriesAfter_eq_drop h.ordered startAfter
  exact ⟨_, rfl, rfl, hk ▸ hread k⟩

end Holds

/-! ## A namenode that serves two subdirectories -/

/-- A subdirectory entry as a namenode lists it. -/
def subdirectory (name : String) : Value :=
  .obj [("pathSuffix", .str name), ("type", .str "DIRECTORY")]

/-- Two subdirectories, in name order. -/
def twoSubdirectories : List Value := [subdirectory "a", subdirectory "b"]

theorem subdirectory_status (name : String) : IsFileStatus (subdirectory name) where
  mapping := rfl
  named := ⟨name, rfl⟩
  timed h := absurd (Value.str.inj h) (by decide)

theorem twoSubdirectories_statuses : ∀ e ∈ twoSubdirectories, IsFileStatus e := by
  intro e he
  simp only [twoSubdirectories, List.mem_cons, List.not_mem_nil, or_false] at he
  rcases he with rfl | rfl <;> exact subdirectory_status _

theorem twoSubdirectories_ordered :
    twoSubdirectories.Pairwise fun a b => suffixOf a < suffixOf b := by
  decide

/-- The directory of the two subdirectories. -/
def subdirectories : Directory :=
  ⟨twoSubdirectories, twoSubdirectories_statuses, twoSubdirectories_ordered⟩

/-- A namenode holding the two subdirectories and serving them one to a page. -/
def pagedNamenode : Sim.Namenode where
  files := twoSubdirectories
  pageSize := .int 1

theorem pagedNamenode_holds : Holds pagedNamenode twoSubdirectories 1 where
  files := rfl
  ordered := twoSubdirectories_ordered
  listed e he := by
    simp only [twoSubdirectories, List.mem_cons, List.not_mem_nil, or_false] at he
    rcases he with rfl | rfl <;> exact ⟨rfl, rfl⟩
  pageSize := rfl
  reachable := rfl
  listStatus := rfl
  listBody := rfl

theorem pagedNamenode_serves : Serves (served pagedNamenode) dataNode subdirectories.entries 1 := by
  refine pagedNamenode_holds.serves fun k => ?_
  rcases k with _ | _ | k
  · exact eq_ok_of_alike (by decide +kernel)
  · exact eq_ok_of_alike (by decide +kernel)
  · rw [List.drop_eq_nil_of_le (by simp [twoSubdirectories])]
    exact eq_ok_of_alike (by decide +kernel)

/-! ## A namenode that holds one file -/

/-- A regular file modified at 2024-01-01T00:01:40 UTC. -/
def newFile : Value :=
  .obj [("pathSuffix", .str "a.csv"), ("type", .str "FILE"),
    ("modificationTime", .int 1704067300000), ("length", .int 5)]

/-- A namenode holding one file, with the default page size. -/
def oneFileNamenode : Sim.Namenode where
  files := [newFile]

theorem oneFileNamenode_holds : Holds oneFileNamenode [newFile] 1000 where
  files := rfl
  ordered := List.pairwise_singleton _ _
  listed e he := by
    rw [List.mem_singleton.mp he]
    exact ⟨rfl, rfl⟩
  pageSize := rfl
  reachable := rfl
  listStatus := rfl
  listBody := rfl

theorem oneFileNamenode_serves : Serves (served oneFileNamenode) dataNode [newFile] 1000 := by
  refine oneFileNamenode_holds.serves fun k => ?_
  rcases k with _ | k
  · exact eq_ok_of_alike (by decide +kernel)
  · rw [List.drop_eq_nil_of_le (by simp)]
    exact eq_ok_of_alike (by decide +kernel)

/-- The epoch as a time without an offset. -/
def naiveEpoch : Stamp := ⟨Stamp.epochWall, none⟩

/-! ## The listing of a served directory -/

/-- Against a namenode that serves the directory `D` in batches of `B ≥ 1`, and for a filter date
that is aware of its offset, or none, listing the node's files asks for exactly
`max 1 ⌈|D| / B⌉` pages, the first for the start of the directory and each other after the last
entry of the page before, and gets each; it answers exactly the regular files of `D` modified
after the date, each once and in the directory's order. A query with the same date makes the
same requests and answers the records of those files, sorted stably by modification time, kept
to the ids the predicate restricts to. -/
theorem node_lists_the_served_directory {σ : Type} (send : Send (StateM σ)) (n : Node)
    (D : Directory) (B : Nat) (hS : Serves send n D.entries B) (hB : 0 < B) (d : Option Stamp)
    (hd : ∀ t ∈ d, t.isAware = true) (w : σ × List Exchange) :
    ∃ xs s', (n.files (recorded send) d).run.run w =
        (.ok (D.entries.filter (selects d)), (s', w.2 ++ xs)) ∧
      xs.length = max 1 ((D.entries.length + B - 1) / B) ∧
      xs.map Prod.fst = (List.range (max 1 ((D.entries.length + B - 1) / B))).map
        (fun k => pageRequest n (pageStart D.entries B k)) ∧
      (∀ x ∈ xs, x.obtainsPage = true) ∧
      ∀ (p : Option Predicate) (ids : Option (List String)), Predicate.restrictedIds p = .ok ids →
        ∃ recs, ((D.entries.filter (selects d)).mergeSort fun a b =>
            decide (millisOf a ≤ millisOf b)).mapM n.createRecord = .ok recs ∧
          (n.query (recorded send) p d).run.run w =
            (.ok { records := recs.filter (Predicate.admits ids),
                   context := "Failed to query remote system" }, (s', w.2 ++ xs)) := by
  obtain ⟨xs, s', hrun, hreqs, hall⟩ := files_lists hS hB hd w
  rw [List.drop_zero, List.nil_append] at hrun
  rw [requestsFrom_start hB] at hreqs
  refine ⟨xs, s', hrun, by simpa using congrArg List.length hreqs, hreqs, hall,
    fun p ids hids => ?_⟩
  -- the files kept are regular files with integer times, which sort and make records
  have hkept : ∀ e ∈ D.entries.filter (selects d), IsFileStatus e ∧ e.get "type" = .str "FILE" :=
    fun e he => ⟨D.statuses e (List.mem_filter.mp he).1, selects_file (List.mem_filter.mp he).2⟩
  have hsort := sortByTime_whole fun f hf =>
    have ⟨hs, hfile⟩ := hkept f hf
    have ⟨ms, _, hms, _⟩ := hs.timed hfile
    ⟨hs.mapping, ms, hms⟩
  obtain ⟨recs, hrecs⟩ := mapM_except_exists fun e he =>
    have ⟨hs, hfile⟩ := hkept e (List.mem_mergeSort.mp he)
    createRecord_ok n hs hfile
  exact ⟨recs, hrecs, query_run (recorded send) n hrun hsort hrecs hids⟩

/-- Two subdirectories served one to a page are listed in two requests, the first for the start
of the directory and the second after the first subdirectory; each is answered with its page and
no file is found. -/
theorem two_subdirectories_list_in_two_pages :
    Serves (served pagedNamenode) dataNode subdirectories.entries 1 ∧
      ∃ xs s', (dataNode.files (recorded (served pagedNamenode)) none).run.run ((), []) =
          (.ok [], (s', xs)) ∧
        xs.map Prod.fst = [pageRequest dataNode none, pageRequest dataNode (some "a")] ∧
        ∀ x ∈ xs, x.obtainsPage = true := by
  obtain ⟨xs, s', hrun, -, hreqs, hall, -⟩ :=
    node_lists_the_served_directory (served pagedNamenode) dataNode subdirectories 1
      pagedNamenode_serves Nat.one_pos none (fun _ h => nomatch h) ((), [])
  exact ⟨pagedNamenode_serves, xs, s', hrun, hreqs, hall⟩

/-- A filter date without an offset does not compare with the UTC time of a listed file: against
a namenode holding one file, listing with such a date fails. -/
theorem naive_date_fails_the_listing :
    ∃ err w', (dataNode.files (recorded (served oneFileNamenode)) (some naiveEpoch)).run.run
      ((), []) = (.error err, w') := by
  obtain ⟨resp, s₁, -, hfetch⟩ := fetchPage_served oneFileNamenode_serves none ((), [])
  obtain ⟨err, herr⟩ := @relevantFiles_naive newFile [] _ _ rfl rfl rfl
    (show naiveEpoch.offset = none from rfl)
  have hpage : (entriesAfter [newFile] none).take 1000 = [newFile] := rfl
  refine ⟨err, (s₁, [] ++ [(pageRequest dataNode none, .ok resp)]), ?_⟩
  rw [Option.map_none, hpage] at hfetch
  unfold Node.files
  rw [run_bind, hfetch]
  exact afterPage_error (takePage_error herr) _

end CatalogSync.Hdfs
