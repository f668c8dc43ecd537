import CatalogSync.Proofs.Engine.Listings
import CatalogSync.Sync.Live
import CatalogSync.Sim.Namenode

/-!
# The pages of a directory listing

A file-system node lists its directory page by page (`listPages`): each LISTSTATUS_BATCH request
names the entry the page before ended on, and an answer that is no response, or a response with a
status other than 200, fails the listing. A page whose body cannot be read as a listing ends the
listing with the files found so far, without failing.

To see the requests a node makes, its `send` is wrapped to write each exchange down beside the
server's own world (`recorded`). A query of the node that answers a listing made only page
requests, each answered with status 200 (`query_obtains_its_pages`). With the engine's guarantee
that a run counting for the watermark had every query of its source answered
(`Sync.completed_run_had_every_query_answered`), a run from a file-system node that ends in
success, or in success with failed items, obtained every page it asked for
(`completed_run_obtained_its_pages`).

A page that cannot be read is no such failure: it ends the listing with the files found so far
(`Proofs/Hdfs/Unreadable`). Against a namenode whose listing body is not JSON, the run lists
nothing of the file the directory holds and succeeds (`unreadable_page_ends_in_success`).
-/

namespace CatalogSync.Hdfs

/-! ## Recorded exchanges -/

/-- A request sent to a server, and what came back. -/
abbrev Exchange := Http.Request × Except Failure Http.Response

/-- Whether an exchange asked for a page of a listing and got one: a LISTSTATUS_BATCH request
answered by a response with status 200. -/
def Exchange.obtainsPage (x : Exchange) : Bool :=
  x.1.params.contains ("op", "LISTSTATUS_BATCH") &&
    match x.2 with
    | .ok resp => resp.status == 200
    | .error _ => false

/-- A send that also writes down each exchange it makes, beside the world of the server. -/
def recorded {σ : Type} (send : Send (StateM σ)) : Send (StateM (σ × List Exchange)) :=
  fun r w => let (out, s) := (send r).run w.1; (out, (s, w.2 ++ [(r, out)]))

section Steps

variable {σ ρ α β : Type}

theorem run_bind (x : ExceptT Failure (StateM ρ) α) (f : α → ExceptT Failure (StateM ρ) β)
    (w : ρ) :
    (x >>= f).run.run w = match x.run.run w with
      | (.ok a, w₁) => (f a).run.run w₁
      | (.error e, w₁) => (.error e, w₁) := by
  simp only [ExceptT.run_bind, StateT.run_bind]
  rcases x.run.run w with ⟨_ | a, w₁⟩ <;> rfl

theorem run_pure (a : α) (w : ρ) :
    (pure a : ExceptT Failure (StateM ρ) α).run.run w = (.ok a, w) :=
  rfl

theorem run_throw (e : Failure) (w : ρ) :
    (throw e : ExceptT Failure (StateM ρ) α).run.run w = (.error e, w) :=
  rfl

theorem run_liftM (x : StateM ρ α) (w : ρ) :
    (liftM x : ExceptT Failure (StateM ρ) α).run.run w = (.ok (x.run w).1, (x.run w).2) :=
  rfl

theorem recorded_run (send : Send (StateM σ)) (r : Http.Request) (w : σ × List Exchange) :
    (recorded send r).run w =
      (((send r).run w.1).1, ((send r).run w.1).2, w.2 ++ [(r, ((send r).run w.1).1)]) :=
  rfl

theorem sendOr_recorded_ok {send : Send (StateM σ)} {ctx : String} {r : Http.Request}
    {w w' : σ × List Exchange} {resp : Http.Response}
    (h : (sendOr (recorded send) ctx r).run.run w = (.ok resp, w')) :
    w'.2 = w.2 ++ [(r, .ok resp)] := by
  unfold sendOr at h
  rw [run_bind] at h
  rcases hs : (send r).run w.1 with ⟨out, s₁⟩
  rcases out with e | resp'
  -- a failure of the transport, or any other, fails the send
  · simp only [run_liftM, recorded_run, hs] at h
    split at h <;> cases h
  · simp only [run_liftM, recorded_run, hs, run_pure] at h
    obtain ⟨hr, rfl⟩ := Prod.mk.inj h
    cases hr
    rfl

end Steps

/-! ## The pages of a listing -/

variable {σ α β : Type}

/-- A recorded computation obtains only pages when each run of it that went through wrote down,
after the exchanges before, only page requests answered with status 200. -/
def ObtainsPages (x : ExceptT Failure (StateM (σ × List Exchange)) α) : Prop :=
  ∀ w w' a, x.run.run w = (.ok a, w') → ∃ xs, w'.2 = w.2 ++ xs ∧ ∀ e ∈ xs, e.obtainsPage = true

namespace ObtainsPages

theorem pure (a : α) : ObtainsPages (σ := σ) (pure a) := by
  intro w w' b h
  obtain ⟨-, rfl⟩ := Prod.mk.inj h
  exact ⟨[], by simp, by simp⟩

theorem throw (e : Failure) : ObtainsPages (σ := σ) (throw e : ExceptT Failure _ α) := by
  intro w w' b h
  cases h

theorem lift (e : Except Failure α) : ObtainsPages (σ := σ) (Hdfs.lift e) := by
  cases e with
  | error e => exact throw e
  | ok a => exact pure a

theorem bind {x : ExceptT Failure (StateM (σ × List Exchange)) α}
    {f : α → ExceptT Failure (StateM (σ × List Exchange)) β} (hx : ObtainsPages x)
    (hf : ∀ a, ObtainsPages (f a)) : ObtainsPages (x >>= f) := by
  intro w w' b h
  rw [run_bind] at h
  rcases hrun : x.run.run w with ⟨_ | a, w₁⟩ <;> rw [hrun] at h
  · cases h
  obtain ⟨xs, hxs, hall⟩ := hx w w₁ a hrun
  obtain ⟨ys, hys, hall'⟩ := hf a w₁ w' b h
  refine ⟨xs ++ ys, by rw [hys, hxs, List.append_assoc], fun e he => ?_⟩
  rcases List.mem_append.1 he with he | he
  · exact hall e he
  · exact hall' e he

end ObtainsPages

theorem fetchPage_obtains (send : Send (StateM σ)) (n : Node) (startAfter : Option (List String)) :
    ObtainsPages (fetchPage (recorded send) n startAfter) := by
  intro w w' page h
  unfold fetchPage at h
  rw [run_bind] at h
  rcases hs : (sendOr (recorded send) ("Could not list " ++ n.baseUrl)
      { url := n.baseUrl, params := pageParams startAfter }).run.run w with
    ⟨_ | resp, w₁⟩ <;> rw [hs] at h
  · cases h
  dsimp only at h
  -- a status other than 200 fails the listing
  split at h
  · rw [run_bind, run_throw] at h
    cases h
  rename_i h200
  refine ⟨[({ url := n.baseUrl, params := pageParams startAfter }, .ok resp)], ?_, ?_⟩
  · obtain ⟨-, rfl⟩ : page = page ∧ w' = w₁ := by
      cases hread : readPage resp.body with
      | error e => simp [hread, Hdfs.lift] at h; cases h
      | ok p => simp only [hread, Hdfs.lift] at h; exact ⟨rfl, (Prod.mk.inj h).2.symm⟩
    exact sendOr_recorded_ok hs
  · simp only [bne_iff_ne, ne_eq, Decidable.not_not] at h200
    simp [Exchange.obtainsPage, pageParams, h200]

theorem afterPage_obtains {filterDate : Option Stamp} {found : List Value}
    {rest : Int → Option (List String) → List Value →
      ExceptT Failure (StateM (σ × List Exchange)) (List Value)}
    (hrest : ∀ k next found, ObtainsPages (rest k next found)) (page : Option (Value × Int)) :
    ObtainsPages (afterPage filterDate found rest page) := by
  rcases page with _ | ⟨results, remaining⟩
  · exact ObtainsPages.pure _
  · refine ObtainsPages.bind (ObtainsPages.lift _) fun taken => ?_
    rcases taken with ⟨found', _ | next⟩
    · exact ObtainsPages.pure _
    · exact hrest _ _ _

theorem listPages_obtains (send : Send (StateM σ)) (n : Node) (filterDate : Option Stamp) :
    ∀ (fuel : Nat) (startAfter : Option (List String)) (found : List Value),
      ObtainsPages (listPages (recorded send) n filterDate fuel startAfter found)
  | 0, _, _ => ObtainsPages.throw _
  | fuel + 1, startAfter, _ =>
    ObtainsPages.bind (fetchPage_obtains send n startAfter)
      (afterPage_obtains fun _ next found => listPages_obtains send n filterDate fuel next found)

theorem files_obtains (send : Send (StateM σ)) (n : Node) (filterDate : Option Stamp) :
    ObtainsPages (n.files (recorded send) filterDate) :=
  ObtainsPages.bind (fetchPage_obtains send n none)
    (afterPage_obtains fun _ next found => listPages_obtains send n filterDate _ next found)

/-- A query of the node that answered a listing made only page requests, each answered with
status 200. -/
theorem query_obtains_its_pages {send : Send (StateM σ)} {n : Node} {p : Option Predicate}
    {after : Option Stamp} {w w' : σ × List Exchange} {l : Listing}
    (h : (n.query (recorded send) p after).run.run w = (.ok l, w')) :
    ∃ xs, w'.2 = w.2 ++ xs ∧ ∀ x ∈ xs, x.obtainsPage = true := by
  refine ObtainsPages.bind (files_obtains send n after) (fun files => ?_) w w' l h
  -- sorting the files and making their records reads no page
  refine ObtainsPages.bind (ObtainsPages.lift _) fun sorted => ?_
  refine ObtainsPages.bind (ObtainsPages.lift _) fun records => ?_
  refine ObtainsPages.bind (ObtainsPages.lift _) fun ids => ?_
  exact ObtainsPages.pure _

/-! ## A run from a file-system node -/

open Sync in
/-- A run whose source is a file-system node, reached through a recorded send, and that returned
a state counting for the watermark had each query of the node answered with a listing, from a
world in which the query obtained every page it asked for: no page request of the run failed or
came back with a status other than 200. -/
theorem completed_run_obtained_its_pages (send : Send (StateM σ)) (n : Node)
    (c : Collaborators (σ × List Exchange)) (hsrc : c.source = Live.hdfs (recorded send) n)
    (config : Replication) (s : Scene (σ × List Exchange)) {st : RunStatus}
    (h : (exec (sync (observe c) config) s).1 = .ok st)
    (hst : st.state.countsForWatermark = true) :
    ∃ run, (exec (sync (observe c) config) s).2.log = s.log ++ run ∧
      ∀ p a r, Event.call (.site .source (.query p a r)) ∈ run →
        ∃ l, r = .ok l ∧ ∃ w w', (n.query (recorded send) p a).run.run w = (.ok l, w') ∧
          ∃ xs, w'.2 = w.2 ++ xs ∧ ∀ x ∈ xs, x.obtainsPage = true := by
  obtain ⟨run, hlog, hlisted⟩ := completed_run_had_every_query_answered c config s h hst
  refine ⟨run, hlog, fun p a r he => ?_⟩
  obtain ⟨l, rfl, w, w', hq⟩ := hlisted p a r he
  rw [hsrc] at hq
  exact ⟨l, rfl, w, w', hq, query_obtains_its_pages hq⟩

/-! ## Runs against a simulated namenode -/

end CatalogSync.Hdfs

namespace CatalogSync.Sync

/-- An item store and a run history over any world that hold nothing and take every write. -/
def Ledger.blank {σ : Type} : Ledger (Op σ) where
  getItem _ _ _ _ := pure none
  failureList _ _ _ _ := pure []
  saveItem _ := pure ()
  outcomes _ := pure []
  addOutcome _ := pure ()

/-- A file-system node as both sites of a run, its requests recorded, an item store and a
history that hold nothing, a clock that stands at noon, and no one asking to stop. -/
def Collaborators.node (send : Hdfs.Send (StateM Unit)) (n : Hdfs.Node) :
    Collaborators (Unit × List Hdfs.Exchange) where
  source := Live.hdfs (Hdfs.recorded send) n
  destination := Live.hdfs (Hdfs.recorded send) n
  ledger := .blank
  clock _ := noon
  elsewhere w _ := (w, false)

/-- The scene before any run, with no exchange recorded. -/
def Scene.unrecorded : Scene (Unit × List Hdfs.Exchange) where
  world := ((), [])
  log := []
  faithful := Log.faithful_nil

end CatalogSync.Sync

namespace CatalogSync.Hdfs

open Sync

/-- The answers of a simulated namenode, through a send that keeps no state. -/
def served (nn : Sim.Namenode) : Send (StateM Unit) := fun r => pure (nn.serve r)

/-- The node of the simulated namenode's directory. -/
def dataNode : Node := ⟨"http://namenode/data/"⟩

/-- A run from an empty directory obtains its one page and succeeds. -/
theorem empty_directory_run_obtains_its_page :
    ∃ st, (exec (sync (observe (.node (served {}) dataNode)) .sample) .unrecorded).1 = .ok st ∧
      st.state.countsForWatermark = true ∧
      ∃ run, (exec (sync (observe (.node (served {}) dataNode)) .sample) .unrecorded).2.log =
          Scene.unrecorded.log ++ run ∧
        ∀ p a r, Event.call (.site .source (.query p a r)) ∈ run →
          ∃ l, r = .ok l ∧ ∃ w w', (dataNode.query (recorded (served {})) p a).run.run w =
              (.ok l, w') ∧
            ∃ xs, w'.2 = w.2 ++ xs ∧ ∀ x ∈ xs, x.obtainsPage = true := by
  obtain ⟨st, h, hst⟩ := exists_ok_of_any (p := fun st => st.state.countsForWatermark)
    (r := (exec (sync (observe (.node (served {}) dataNode)) .sample) .unrecorded).1)
    (by decide +kernel)
  exact ⟨st, h, hst, completed_run_obtained_its_pages (served {}) dataNode _ rfl .sample
    .unrecorded h hst⟩

/-- A namenode holding one file whose listing body is not JSON. -/
def garbled : Sim.Namenode where
  files := [.obj [("pathSuffix", .str "a.csv"), ("type", .str "FILE"),
    ("modificationTime", .int 1704067195000), ("length", .int 5)]]
  listBody := some (.str "garbage")

/-- A listing page that cannot be read ends the listing without failing it: against a namenode
holding a file but answering its page with a body that is not JSON, the run obtains the page,
lists no record and succeeds. -/
theorem unreadable_page_ends_in_success :
    garbled.files.length = 1 ∧
      ((exec (sync (observe (.node (served garbled) dataNode)) .sample) .unrecorded).1.toOption.map
        (·.state)) = some .success ∧
      (exec (sync (observe (.node (served garbled) dataNode)) .sample)
        .unrecorded).2.log.listings.map (·.records.length) = [0] ∧
      (exec (sync (observe (.node (served garbled) dataNode)) .sample)
        .unrecorded).2.world.2.map Exchange.obtainsPage = [true] := by
  decide +kernel

end CatalogSync.Hdfs
