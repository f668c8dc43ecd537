import CatalogSync.Catalog.Node
import CatalogSync.Store.Items
import CatalogSync.Store.History

/-!
# Which database files the stores and the catalog change

A session writes back only the file at its path (`keeps_others_session`). A session whose
statements only read writes back the database it opened, and so leaves every file there is as
it found it (`keeps_existing_session`): a SELECT that opens no transaction hands back the
connection it was given, whether it succeeds or fails (`Sql.execute_readsOnly`).

Read as frames (`Disk.Frame`), every read of the item store and of the run history keeps every
file (`ledger_reads_keep_files`), as do the reads of a catalog other than its queries
(`catalog_reads_keep_files`); every operation of the ledger changes no file but its own
(`ledger_confined_to_its_file`), and every operation of a catalog none but the catalog's
(`catalog_confined_to_its_file`). With its catalogs at other paths, the item store's file thus
changes only when an item is saved or an outcome added: the part of `Sync.Log.Truthful` that
does not depend on what the store's SELECT statements find.
-/

namespace CatalogSync

namespace Sql

/-- Whether a statement only reads rows: it opens no transaction and is a SELECT. -/
def readsOnly (sql : String) : Bool :=
  !opensTransaction sql &&
    match parse sql with
    | .ok { statement := some (.select _), .. } => true
    | _ => false

theorem settle_select {c : Connection} {sql : String} {params : List (Except Failure Datum)}
    {st : Settled} {q : Query} {n : Nat} {rest : String}
    (hp : parse sql = .ok ⟨some (.select q), n, rest⟩) (hopen : opensTransaction sql = false)
    (h : c.settle sql params = .ok st) :
    st.statement = .select q ∧ st.explainOnly = false ∧ st.connection = c ∧ st.applied = none := by
  unfold Connection.settle at h
  simp only [hp, hopen, Bool.false_and, Bool.false_eq_true, if_false, if_true,
    Statement.touchesRows, bind, Except.bind, pure, Except.pure, throw, throwThe,
    MonadExceptOf.throw] at h
  repeat' split at h
  all_goals first
    | (obtain rfl := Except.ok.inj h; exact ⟨rfl, rfl, rfl, rfl⟩)
    | cases h

theorem runRows_select {c c' : Connection} {q : Query} {params : List Datum} {want : Option Nat}
    {rows : Rows} (h : c.runRows (.select q) params want = .ok (c', rows)) : c' = c := by
  unfold Connection.runRows at h
  simp only [bind, Except.bind, pure, Except.pure] at h
  repeat' split at h
  all_goals first
    | (obtain ⟨rfl, -⟩ := Prod.mk.inj (Except.ok.inj h); rfl)
    | cases h

/-- A statement that only reads leaves a connection without a transaction as it found it,
whether it succeeds or fails. -/
theorem execute_readsOnly {sql : String} (h : readsOnly sql = true) (db : Database)
    (params : List (Except Failure Datum)) (want : Option Nat) :
    ((Connection.start db).execute sql params want).1 = Connection.start db := by
  unfold readsOnly at h
  rw [Bool.and_eq_true, Bool.not_eq_true'] at h
  obtain ⟨hopen, hsel⟩ := h
  split at hsel
  case h_2 => cases hsel
  rename_i q n rest hp
  unfold Connection.execute
  rcases hs : (Connection.start db).settle sql params with f | st
  · rfl
  obtain ⟨hstmt, hexplain, hconn, happlied⟩ := settle_select hp hopen hs
  simp only [hexplain, happlied, hstmt, hconn, Statement.touchesRows, Bool.false_eq_true,
    if_false, if_true]
  -- a failed read rolls back or keeps the connection, both of which are the one it started from
  rcases hrun : (Connection.start db).runRows (.select q) st.values want with h | ⟨c', rows⟩
  · rcases h with ⟨f, _ | _ | _ | _⟩ | _ <;> rfl
  · rw [runRows_select hrun]
    rfl

end Sql

namespace Disk

/-! ## Writing one file -/

theorem find?_eq_of_fileName {fs : Files} {p q : String} (h : fileName q = fileName p) :
    fs.find? q = fs.find? p := by
  unfold Files.find?
  rw [h]

/-- Replacing the entries of one name keeps every entry's name, so a lookup by name finds the
same entry, replaced. -/
theorem find?_map_replace (name x : String) (db : Sql.Database) (l : List (String × Sql.Database)) :
    (l.map fun e => if (e.1 == name) = true then (name, db) else e).find? (·.1 == x) =
      (l.find? (·.1 == x)).map fun e => if (e.1 == name) = true then (name, db) else e := by
  rw [List.find?_map]
  congr 2
  funext e
  by_cases he : e.1 = name <;> simp [he]

theorem find?_put_other {fs : Files} {path q : String} {db : Sql.Database}
    (h : fileName q ≠ fileName path) : (fs.put path db).find? q = fs.find? q := by
  unfold Files.put
  split
  · rfl
  dsimp only
  unfold Files.find?
  split
  · rw [find?_map_replace]
    cases hf : fs.entries.find? (·.1 == fileName q) with
    | none => rfl
    | some e =>
      have he : e.1 = fileName q := by simpa using List.find?_some hf
      have hne : ¬(e.1 = fileName path) := he ▸ h
      simp [hne]
  · rw [List.find?_append]
    cases fs.entries.find? (·.1 == fileName q) with
    | none => simp [Ne.symm h]
    | some e => rfl

theorem find?_put_self {fs : Files} {path : String} {db : Sql.Database}
    (h : isPrivate path = false) : (fs.put path db).find? path = some db := by
  unfold Files.put
  rw [if_neg (by simp [h])]
  dsimp only
  unfold Files.find?
  split
  · rename_i hany
    rw [find?_map_replace]
    obtain ⟨e, he⟩ :=
      Option.isSome_iff_exists.mp (List.find?_isSome.mpr (List.any_eq_true.mp hany))
    have hname : e.1 = fileName path := by simpa using List.find?_some he
    simp [he, hname]
  · rename_i hany
    rw [List.find?_append,
      List.find?_eq_none.mpr fun x hx hpx => hany (List.any_eq_true.mpr ⟨x, hx, hpx⟩)]
    simp

theorem put_of_private {fs : Files} {path : String} {db : Sql.Database}
    (h : isPrivate path = true) : fs.put path db = fs := by
  unfold Files.put
  rw [if_pos h]

/-- Writing a database to a path keeps every file found elsewhere, and the file at the path
when it already holds that database. -/
theorem find?_put_of_found {fs : Files} {path q : String} {db d : Sql.Database}
    (hpath : isPrivate path = false → ∀ d', fs.find? path = some d' → d' = db)
    (hq : fs.find? q = some d) : (fs.put path db).find? q = some d := by
  by_cases hn : fileName q = fileName path
  · cases hp : isPrivate path with
    | true => rw [put_of_private hp, hq]
    | false =>
      rw [find?_eq_of_fileName hn] at hq
      rw [find?_eq_of_fileName hn, find?_put_self hp, hpath hp d hq]
  · rw [find?_put_other hn, hq]

/-- Opening a database keeps every file there is, and hands back the one at its path. -/
theorem connect_ok {fs fs' : Files} {path : String} {db : Sql.Database}
    (h : fs.connect path = .ok (fs', db)) :
    (isPrivate path = false → ∀ d', fs'.find? path = some d' → d' = db) ∧
      ∀ q d, fs.find? q = some d → fs'.find? q = some d := by
  unfold Files.connect at h
  split at h
  · cases h
    exact ⟨fun hp => by simp_all, fun _ _ hq => hq⟩
  split at h
  · cases h
  split at h
  · cases h
    exact ⟨fun _ d' hd => by simp_all, fun _ _ hq => hq⟩
  · cases h
    refine ⟨fun hp d' hd => ?_, fun q d hq => find?_put_of_found (fun _ d' hd => ?_) hq⟩
    · rw [find?_put_self hp] at hd
      exact (Option.some.inj hd).symm
    · simp_all

theorem connect_other {fs fs' : Files} {path q : String} {db : Sql.Database}
    (h : fs.connect path = .ok (fs', db)) (hq : fileName q ≠ fileName path) :
    fs'.find? q = fs.find? q := by
  unfold Files.connect at h
  split at h
  · cases h
    rfl
  split at h
  · cases h
  split at h
  · cases h
    rfl
  · cases h
    exact find?_put_other hq

theorem session_run {α : Type} (path : String) (act : Session α) (fs : Files) :
    (session path act).run.run fs = match fs.connect path with
      | .error e => (.error e, fs)
      | .ok (fs', db) =>
        match (act.run).run (Sql.Connection.start db) with
        | (.ok a, c) => (.ok a, fs'.put path c.commit.saved)
        | (.error e, c) => (.error e, fs'.put path c.saved) := by
  simp only [session, get, getThe, MonadStateOf.get, liftM, monadLift, MonadLift.monadLift,
    ExceptT.run_bind, ExceptT.run_lift, StateT.run_bind, StateT.run_map]
  dsimp only [StateT.get, StateT.run, bind, StateT.bind, Functor.map, StateT.map, pure,
    StateT.pure, Id.run]
  rcases fs.connect path with e | ⟨fs', db⟩
  · rfl
  · dsimp only
    rcases ExceptT.run act (Sql.Connection.start db) with ⟨a | e, c⟩ <;> rfl

/-! ## Frames -/

/-- A relation between the files before and after a computation, that staying put and doing one
thing after another keep. -/
structure Frame where
  holds : Files → Files → Prop
  refl : ∀ fs, holds fs fs
  trans : ∀ {fs₁ fs₂ fs₃}, holds fs₁ fs₂ → holds fs₂ fs₃ → holds fs₁ fs₃

/-- Every file other than the one at `path` is found as it was. -/
def Frame.others (path : String) : Frame where
  holds fs fs' := ∀ q, fileName q ≠ fileName path → fs'.find? q = fs.find? q
  refl _ _ _ := rfl
  trans h₁ h₂ q hq := (h₂ q hq).trans (h₁ q hq)

/-- Every file there is is found as it was; new files may appear. -/
def Frame.existing : Frame where
  holds fs fs' := ∀ q d, fs.find? q = some d → fs'.find? q = some d
  refl _ _ _ h := h
  trans h₁ h₂ q d hq := h₂ q d (h₁ q d hq)

/-- Whether every run of `x` keeps the frame `F`. -/
def Frame.Keeps (F : Frame) {α : Type} (x : DiskM α) : Prop :=
  ∀ fs, F.holds fs (x.run.run fs).2

namespace Frame

variable (F : Frame) {α β : Type}

theorem keeps_of_stays {x : DiskM α} (h : ∀ fs, (x.run.run fs).2 = fs) : F.Keeps x := by
  intro fs
  rw [h fs]
  exact F.refl fs

theorem keeps_pure (a : α) : F.Keeps (pure a) := F.keeps_of_stays fun _ => rfl

theorem keeps_throw (e : Failure) : F.Keeps (throw e : DiskM α) := F.keeps_of_stays fun _ => rfl

variable {F}

/-- The rest of a computation may depend on the files it reads first. -/
theorem keeps_get_bind {g : Files → DiskM α} (h : ∀ fs, F.holds fs ((g fs).run.run fs).2) :
    F.Keeps (get >>= g) :=
  h

theorem keeps_bind {x : DiskM α} {f : α → DiskM β} (hx : F.Keeps x) (hf : ∀ a, F.Keeps (f a)) :
    F.Keeps (x >>= f) := by
  intro fs
  have h := hx fs
  simp only [ExceptT.run_bind, StateT.run_bind]
  rcases hrun : x.run.run fs with ⟨_ | a, fs'⟩ <;> rw [hrun] at h
  · exact h
  · exact F.trans h (hf a fs')

theorem keeps_tryCatch {x : DiskM α} {h : Failure → DiskM α} (hx : F.Keeps x)
    (hh : ∀ e, F.Keeps (h e)) : F.Keeps (tryCatch x h) := by
  intro fs
  have hrun := hx fs
  simp only [tryCatch, MonadExcept.tryCatch, tryCatchThe, MonadExceptOf.tryCatch,
    ExceptT.tryCatch, ExceptT.run_mk, StateT.run_bind]
  rcases hx' : x.run.run fs with ⟨e | a, fs'⟩ <;> rw [hx'] at hrun <;>
    unfold ExceptT.run at hx' <;> rw [hx']
  · exact F.trans hrun (hh e fs')
  · exact hrun

end Frame

/-- A session changes no file but the one at its path. -/
theorem keeps_others_session {α : Type} (path : String) (act : Session α) :
    (Frame.others path).Keeps (session path act) := by
  intro fs q hq
  rw [session_run]
  rcases hc : fs.connect path with e | ⟨fs', db⟩
  · rfl
  · dsimp only
    rcases (act.run).run (Sql.Connection.start db) with ⟨a | e, c⟩ <;>
    · rw [find?_put_other hq, connect_other hc hq]

/-- A session that leaves a fresh connection as it found it keeps every file there is; a missing
file at its path is created empty. -/
theorem keeps_existing_session {α : Type} {path : String} {act : Session α}
    (hact : ∀ db, ((act.run).run (Sql.Connection.start db)).2 = Sql.Connection.start db) :
    Frame.existing.Keeps (session path act) := by
  intro fs q d hq
  rw [session_run]
  rcases hc : fs.connect path with e | ⟨fs', db⟩
  · exact hq
  · obtain ⟨hpath, hkeep⟩ := connect_ok hc
    have hend := hact db
    dsimp only
    -- both ways out write back the database the session was handed
    rcases hrun : (act.run).run (Sql.Connection.start db) with ⟨a | e, c⟩ <;>
    · rw [hrun] at hend
      subst hend
      exact find?_put_of_found hpath (hkeep q d hq)

/-- Opening the database at a path, as a catalog does before it writes a record, changes no
file but that one. -/
theorem keeps_others_connect {α : Type} {path : String} {k : Unit → DiskM α}
    (hk : ∀ u, (Frame.others path).Keeps (k u)) :
    (Frame.others path).Keeps (do
      let fs ← get
      match fs.connect path with
      | .error e => do let r ← throw e; k r
      | .ok (fs, _) => do let r ← set fs; k r) := by
  refine Frame.keeps_get_bind fun fs => ?_
  rcases hc : fs.connect path with e | ⟨fs', db⟩
  · exact (Frame.others path).refl fs
  · exact (Frame.others path).trans (fun q hq => connect_other hc hq) (hk () fs')

theorem exec_keeps_connection {sql : String} (h : Sql.readsOnly sql = true)
    (params : List (Except Failure Sql.Datum)) (db : Sql.Database) :
    ((exec sql params).run.run (Sql.Connection.start db)).2 = Sql.Connection.start db :=
  Sql.execute_readsOnly h db params none

/-- A session of one statement that only reads keeps every file there is. -/
theorem keeps_existing_exec {sql : String} (h : Sql.readsOnly sql = true) (path : String)
    (params : List (Except Failure Sql.Datum)) :
    Frame.existing.Keeps (session path (exec sql params)) :=
  keeps_existing_session fun db => exec_keeps_connection h params db

end Disk

namespace Store

open Disk

section Reads

/- The reads of the ledger keep every frame that their sessions keep: what they do with the rows
they read changes no file. -/
variable {F : Frame} {path : String}
  (hs : ∀ sql params, Sql.readsOnly sql = true → F.Keeps (session path (exec sql params)))
include hs

theorem keeps_getItem (config id source destination : String) :
    F.Keeps (getItem path config id source destination) := by
  unfold getItem
  refine Frame.keeps_bind (hs _ _ (by decide +kernel)) fun rows => F.keeps_of_stays fun fs => ?_
  split
  · rfl
  · split <;> rfl

theorem keeps_failureList (config : String) (limit : Int) (source destination : String) :
    F.Keeps (failureList path config limit source destination) :=
  Frame.keeps_bind (hs _ _ (by decide +kernel)) fun _ => F.keeps_pure _

theorem keeps_outcomes (name : Value) : F.Keeps (outcomes path name) := by
  unfold outcomes
  refine Frame.keeps_bind (hs _ _ (by decide +kernel)) fun rows => F.keeps_of_stays fun fs => ?_
  split <;> rfl

end Reads

/-- Each read of the item store and of the run history keeps every database file there is. -/
theorem ledger_reads_keep_files (path : String) :
    (∀ config id source destination,
      Frame.existing.Keeps (getItem path config id source destination)) ∧
    (∀ config limit source destination,
      Frame.existing.Keeps (failureList path config limit source destination)) ∧
    ∀ name, Frame.existing.Keeps (outcomes path name) :=
  have hs (sql : String) params (h : Sql.readsOnly sql = true) := keeps_existing_exec h path params
  ⟨keeps_getItem hs, keeps_failureList hs, keeps_outcomes hs⟩

/-- Each operation of the item store and of the run history changes no file but its own. -/
theorem ledger_confined_to_its_file (path : String) (now : Stamp) :
    (∀ config id source destination,
      (Frame.others path).Keeps (getItem path config id source destination)) ∧
    (∀ config limit source destination,
      (Frame.others path).Keeps (failureList path config limit source destination)) ∧
    (∀ i, (Frame.others path).Keeps (saveItem path now i)) ∧
    (∀ name, (Frame.others path).Keeps (outcomes path name)) ∧
    ∀ o, (Frame.others path).Keeps (addOutcome path o) := by
  have hs (sql : String) params (_ : Sql.readsOnly sql = true) :=
    keeps_others_session path (exec sql params)
  refine ⟨keeps_getItem hs, keeps_failureList hs, fun i => ?_, keeps_outcomes hs, fun o => ?_⟩
  · unfold saveItem
    exact keeps_others_session path _
  · unfold addOutcome
    exact keeps_others_session path _

end Store

namespace Catalog

open Disk

theorem keeps_lift {α : Type} (F : Frame) (x : Except Failure α) : F.Keeps (lift x) :=
  F.keeps_of_stays fun _ => by cases x <;> rfl

namespace Node

variable (n : Node) {F : Frame}

theorem keeps_guard {α : Type} (action ident : String) {act : DiskM α} (h : F.Keeps act) :
    F.Keeps (n.guard action ident act) :=
  Frame.keeps_tryCatch h fun _ => F.keeps_of_stays fun _ => by dsimp only; split <;> rfl

theorem keeps_writeGuard (failed : String) {act : DiskM Bool} (h : F.Keeps act) :
    F.Keeps (n.writeGuard failed act) :=
  Frame.keeps_tryCatch h fun _ => F.keeps_of_stays fun _ => by split <;> rfl

section Reads

/- The reads of a catalog keep every frame that their sessions keep. -/
variable {n}
  (hs : ∀ sql params, Sql.readsOnly sql = true → F.Keeps (session n.path (exec sql params)))
include hs

theorem keeps_existsId (id : Except Failure Sql.Datum) (ident : String) :
    F.Keeps (n.existsId id ident) :=
  n.keeps_guard _ _ (Frame.keeps_bind (hs _ _ (by decide +kernel)) fun _ => F.keeps_pure _)

theorem keeps_readResource (r : Record) : F.Keeps (n.readResource r) := by
  unfold readResource
  refine Frame.keeps_bind (n.keeps_guard _ _ (hs _ _ (by decide +kernel))) fun rows => ?_
  split
  · dsimp only
    -- each kind of stored content either fails or goes on to read the title
    split <;>
    · refine Frame.keeps_bind ?_ fun _ => Frame.keeps_bind (keeps_lift F _) fun _ => F.keeps_pure _
      first
        | exact F.keeps_throw _
        | exact F.keeps_pure _
  · exact F.keeps_throw _

end Reads

section Writes

/- What a catalog writes goes to its own file: every session it runs is on its path, and it opens
no other database. -/
variable (n : Node)

theorem addRecord_confined (r : Record) (content : Option (List UInt8)) (mimeType : Option String)
    (caller : Option Value) : (Frame.others n.path).Keeps (n.addRecord r content mimeType caller) := by
  unfold addRecord
  dsimp only
  refine keeps_others_connect fun _ => ?_
  exact Frame.keeps_bind (keeps_lift _ _) fun _ => Frame.keeps_bind (keeps_lift _ _) fun _ =>
    Frame.keeps_bind (keeps_lift _ _) fun _ => keeps_others_session _ _

theorem updateRow_confined (r : Record) (caller : Option Value) :
    (Frame.others n.path).Keeps (n.updateRow r caller) := by
  unfold updateRow
  refine keeps_others_connect fun _ => ?_
  exact Frame.keeps_bind (keeps_lift _ _) fun _ => Frame.keeps_bind (keeps_lift _ _) fun _ =>
    Frame.keeps_bind (keeps_lift _ _) fun _ => keeps_others_session _ _

theorem exists_confined (r : Record) : (Frame.others n.path).Keeps (n.exists r) :=
  keeps_existsId (fun _ _ _ => keeps_others_session _ _) _ _

theorem writeRecords_confined (records : List Record) (caller : Option Value) (replace : Bool) :
    (Frame.others n.path).Keeps (n.writeRecords records caller replace) := by
  refine n.keeps_writeGuard _ ?_
  induction records with
  | nil => exact Frame.keeps_pure _ _
  | cons r rs ih =>
    unfold writeRecords.go
    dsimp only
    split
    · refine Frame.keeps_bind (n.exists_confined r) fun _ => ?_
      split
      · exact Frame.keeps_pure _ _
      · exact Frame.keeps_bind (n.addRecord_confined r _ _ caller) fun _ => ih
    · exact Frame.keeps_bind (n.updateRow_confined r caller) fun _ => ih

theorem writeResources_confined (resources : List Resource) (caller : Option Value)
    (replace : Bool) : (Frame.others n.path).Keeps (n.writeResources resources caller replace) := by
  refine n.keeps_writeGuard _ ?_
  induction resources with
  | nil => exact Frame.keeps_pure _ _
  | cons res rest ih =>
    unfold writeResources.go
    dsimp only
    split
    · refine Frame.keeps_bind (n.exists_confined res.record) fun _ => ?_
      split
      · exact Frame.keeps_pure _ _
      · exact Frame.keeps_bind (n.addRecord_confined res.record _ _ caller) fun _ => ih
    · exact Frame.keeps_bind (n.addRecord_confined res.record _ _ caller) fun _ => ih

theorem deleteMetadata_confined (records : List Record) :
    (Frame.others n.path).Keeps (n.deleteMetadata records) :=
  Frame.keeps_bind (keeps_lift _ _) fun _ =>
    Frame.keeps_bind (n.keeps_guard _ _ (keeps_others_session _ _)) fun _ => Frame.keeps_pure _ _

theorem query_confined (p : Option Predicate) : (Frame.others n.path).Keeps (n.query p) := by
  unfold query
  refine Frame.keeps_bind (keeps_lift _ _) fun _ => ?_
  split
  exact Frame.keeps_tryCatch (Frame.keeps_bind (keeps_others_session _ _) fun _ => Frame.keeps_pure _ _)
    fun _ => Frame.keeps_pure _ _

end Writes

end Node

theorem keeps_isAvailable (F : Frame) (n : Node) : F.Keeps n.isAvailable :=
  F.keeps_of_stays fun _ => rfl

/-- Every operation of a catalog changes no database file but its own. -/
theorem catalog_confined_to_its_file (n : Node) (caller : Option Value) :
    (Frame.others n.path).Keeps n.isAvailable ∧
    (∀ p, (Frame.others n.path).Keeps (n.query p)) ∧
    (∀ r, (Frame.others n.path).Keeps (n.exists r)) ∧
    (∀ records, (Frame.others n.path).Keeps (n.createMetadata records caller)) ∧
    (∀ records, (Frame.others n.path).Keeps (n.updateMetadata records caller)) ∧
    (∀ records, (Frame.others n.path).Keeps (n.deleteMetadata records)) ∧
    (∀ resources, (Frame.others n.path).Keeps (n.createResource resources caller)) ∧
    (∀ resources, (Frame.others n.path).Keeps (n.updateResource resources caller)) ∧
    ∀ r, (Frame.others n.path).Keeps (n.readResource r) :=
  have hs (sql : String) params (_ : Sql.readsOnly sql = true) :=
    keeps_others_session n.path (exec sql params)
  ⟨keeps_isAvailable _ n, n.query_confined, n.exists_confined,
    fun records => n.writeRecords_confined records caller false,
    fun records => n.writeRecords_confined records caller true, n.deleteMetadata_confined,
    fun resources => n.writeResources_confined resources caller false,
    fun resources => n.writeResources_confined resources caller true,
    Node.keeps_readResource hs⟩

/-- The reads of a catalog that the engine makes besides its queries keep every database file
there is. -/
theorem catalog_reads_keep_files (n : Node) :
    Frame.existing.Keeps n.isAvailable ∧ (∀ r, Frame.existing.Keeps (n.exists r)) ∧
      ∀ r, Frame.existing.Keeps (n.readResource r) :=
  have hs (sql : String) params (h : Sql.readsOnly sql = true) :=
    keeps_existing_exec h n.path params
  ⟨keeps_isAvailable _ n, fun _ => Node.keeps_existsId hs _ _, Node.keeps_readResource hs⟩

end Catalog

end CatalogSync
