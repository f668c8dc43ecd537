import CatalogSync.Proofs.Hdfs.Listing

/-!
# An unreadable page ends a listing

A page of a listing that comes back with status 200 but cannot be read as a listing does not fail
the listing. A body that is not JSON, or a JSON document without the keys down to its entries
(DirectoryListing, partialListing, FileStatuses, FileStatus), reads as no page (`readPage_eq_none`),
and a page that reads as none ends the listing there.

A listing is followed page by page through a `Cursor`: the server's world, the names the next
page starts after, and the files found so far. `ReadsPages k p q` says that `k` pages were read
one after another from `p` to `q`, each saying more entries remain. Wherever the page asked for at
`q` then reads as none, the listing ends with the files found at `q`, after any number of pages
and with any fuel left (`unreadable_page_ends_the_listing`), and listing the files of a directory
from its first page does the same (`unreadable_page_ends_the_files`).
-/

namespace CatalogSync.Hdfs

/-! ## Bodies that are no listing page -/

/-- A failure that reading a page takes for a body that is no listing: the body is not JSON, a key
of the listing is missing, or what should hold a key is no mapping. -/
def Failure.spoilsPage : Failure → Bool
  | .malformedJson _ | .missingKey _ | .wrongKind _ => true
  | _ => false

/-- What a listing document holds under DirectoryListing, partialListing, FileStatuses and
FileStatus, when each of them is there. -/
def entriesOf (doc : Value) : Option Value :=
  (doc.lookup "DirectoryListing").bind fun l => (l.lookup "partialListing").bind fun p =>
    (p.lookup "FileStatuses").bind fun s => s.lookup "FileStatus"

theorem index_of_lookup_some {x v : Value} {key : String} (h : x.lookup key = some v) :
    index x key = .ok v := by
  cases x with
  | obj fs => unfold index; rw [h]
  | _ => cases h

theorem index_of_lookup_none {x : Value} {key : String} (h : x.lookup key = none) :
    ∃ e, index x key = .error e ∧ Failure.spoilsPage e = true := by
  cases x with
  | obj fs => exact ⟨_, by unfold index; rw [h], rfl⟩
  | _ => exact ⟨_, rfl, rfl⟩

theorem index_bind_of_lookup_some {β : Type} {x v : Value} {key : String}
    (h : x.lookup key = some v) (f : Value → Except Failure β) : (index x key >>= f) = f v := by
  rw [index_of_lookup_some h]
  rfl

theorem index_bind_of_lookup_none {β : Type} {x : Value} {key : String}
    (h : x.lookup key = none) (f : Value → Except Failure β) :
    ∃ e, (index x key >>= f) = .error e ∧ Failure.spoilsPage e = true := by
  obtain ⟨e, he, hspoil⟩ := index_of_lookup_none h
  exact ⟨e, by rw [he]; rfl, hspoil⟩

theorem listingOf_spoiled {doc : Value} (h : entriesOf doc = none) :
    ∃ e, listingOf doc = .error e ∧ Failure.spoilsPage e = true := by
  unfold entriesOf at h
  unfold listingOf
  -- the first of the four keys that is missing is where reading stops
  rcases hl : doc.lookup "DirectoryListing" with _ | l
  · exact index_bind_of_lookup_none hl _
  rw [index_bind_of_lookup_some hl]
  rcases hp : l.lookup "partialListing" with _ | p
  · exact index_bind_of_lookup_none hp _
  rw [index_bind_of_lookup_some hp]
  rcases hs : p.lookup "FileStatuses" with _ | s
  · exact index_bind_of_lookup_none hs _
  rw [index_bind_of_lookup_some hs]
  simp only [hl, hp, hs, Option.bind_some] at h
  exact index_bind_of_lookup_none h _

theorem readPage_of_spoiled {body : List UInt8} {e : Failure}
    (h : (Http.jsonOf body >>= listingOf) = .error e) (he : Failure.spoilsPage e = true) :
    readPage body = .ok none := by
  unfold readPage
  rw [h]
  cases e <;> first | rfl | cases he

/-- A body that is not JSON, or a JSON document without the entries of a listing, reads as no
page, and as no failure either. -/
theorem readPage_eq_none {body : List UInt8}
    (h : (∃ m, Http.jsonOf body = .error (.malformedJson m)) ∨
      ∃ doc, Http.jsonOf body = .ok doc ∧ entriesOf doc = none) :
    readPage body = .ok none := by
  rcases h with ⟨m, hm⟩ | ⟨doc, hdoc, hnone⟩
  · exact readPage_of_spoiled (by rw [hm]; rfl) rfl
  · obtain ⟨e, he, hspoil⟩ := listingOf_spoiled hnone
    exact readPage_of_spoiled (by rw [hdoc]; exact he) hspoil

/-! ## Following a listing page by page -/

/-- Where a listing stands between two pages: the server's world, the names the next page starts
after, and the files found so far. -/
structure Cursor (σ : Type) where
  world : σ
  startAfter : Option (List String)
  found : List Value

section Pages

variable {σ : Type} (send : Send (StateM σ)) (n : Node) (filterDate : Option Stamp)

/-- The page asked for at `p` is answered with status 200 by a listing page that says more entries
remain, and the listing goes on at `q`, with the page's files added to those found. -/
def ReadsOn (p q : Cursor σ) : Prop :=
  ∃ resp results remaining,
    (send { url := n.baseUrl, params := pageParams p.startAfter }).run p.world =
      (.ok resp, q.world) ∧
    resp.status = 200 ∧ readPage resp.body = .ok (some (results, remaining)) ∧
    takePage filterDate p.found results remaining = .ok (q.found, some q.startAfter)

/-- `k` pages read one after another, each of them going on to the next. -/
inductive ReadsPages : Nat → Cursor σ → Cursor σ → Prop
  | nil (p : Cursor σ) : ReadsPages 0 p p
  | cons {k : Nat} {p q r : Cursor σ} :
      ReadsOn send n filterDate p q → ReadsPages k q r → ReadsPages (k + 1) p r

/-- The page asked for at `p` is answered with status 200 by a body that reads as no page, and
the server's world is then `w'`. -/
def EndsUnread (p : Cursor σ) (w' : σ) : Prop :=
  ∃ resp, (send { url := n.baseUrl, params := pageParams p.startAfter }).run p.world =
      (.ok resp, w') ∧
    resp.status = 200 ∧ readPage resp.body = .ok none

theorem sendOr_run_ok {ctx : String} {r : Http.Request} {w w' : σ} {resp : Http.Response}
    (h : (send r).run w = (.ok resp, w')) : (sendOr send ctx r).run.run w = (.ok resp, w') := by
  unfold sendOr
  rw [run_bind, run_liftM, h]
  rfl

theorem fetchPage_answered {a : Option (List String)} {w w' : σ} {resp : Http.Response}
    {page : Option (Value × Int)}
    (hsend : (send { url := n.baseUrl, params := pageParams a }).run w = (.ok resp, w'))
    (h200 : resp.status = 200) (hread : readPage resp.body = .ok page) :
    (fetchPage send n a).run.run w = (.ok page, w') := by
  unfold fetchPage
  rw [run_bind, sendOr_run_ok send hsend]
  simp only [h200, bne_self_eq_false, hread, lift]
  rfl

theorem listPages_readsOn {p q : Cursor σ} (h : ReadsOn send n filterDate p q) (fuel : Nat) :
    (listPages send n filterDate (fuel + 1) p.startAfter p.found).run.run p.world =
      (listPages send n filterDate fuel q.startAfter q.found).run.run q.world := by
  obtain ⟨resp, results, remaining, hsend, h200, hread, htake⟩ := h
  rw [listPages, run_bind, fetchPage_answered send n hsend h200 hread]
  simp only [afterPage, run_bind, htake, lift, run_pure]

theorem listPages_endsUnread {p : Cursor σ} {w' : σ} (h : EndsUnread send n p w') (fuel : Nat) :
    (listPages send n filterDate (fuel + 1) p.startAfter p.found).run.run p.world =
      (.ok p.found, w') := by
  obtain ⟨resp, hsend, h200, hread⟩ := h
  rw [listPages, run_bind, fetchPage_answered send n hsend h200 hread]
  rfl

/-- Wherever a page of a listing is answered with status 200 by a body that is no listing page,
after any number of pages read before it, the listing ends there with the files found on those
pages, and does not fail. -/
theorem unreadable_page_ends_the_listing {k : Nat} {p q : Cursor σ} {w' : σ}
    (hread : ReadsPages send n filterDate k p q) (hend : EndsUnread send n q w') (fuel : Nat) :
    (listPages send n filterDate (fuel + k + 1) p.startAfter p.found).run.run p.world =
      (.ok q.found, w') := by
  -- one page at a time, each taking one unit of the fuel
  induction hread generalizing fuel with
  | nil p => exact listPages_endsUnread send n filterDate hend fuel
  | @cons k p q r hstep _ ih =>
    rw [show fuel + (k + 1) + 1 = fuel + k + 1 + 1 by omega,
      listPages_readsOn send n filterDate hstep]
    exact ih hend fuel

theorem remaining_pos_of_takePage {found found' : List Value} {results : Value} {remaining : Int}
    {next : Option (List String)}
    (h : takePage filterDate found results remaining = .ok (found', some next)) :
    0 < remaining := by
  unfold takePage at h
  rcases hfiles : relevantFiles results filterDate with _ | files <;>
    simp only [hfiles, bind, Except.bind] at h
  · cases h
  rcases Int.lt_or_le 0 remaining with hpos | hle
  · exact hpos
  · simp [hle, pure, Except.pure] at h

/-- Listing the files of a directory ends, and does not fail, at a page answered with status 200
by a body that is no listing page, with the files found on the pages before it. The first page
says how many entries remain, and `pageLimit` pages more than that may follow it. -/
theorem unreadable_page_ends_the_files {k : Nat} {w w' : σ} {q : Cursor σ}
    (hread : ReadsPages send n filterDate k ⟨w, none, []⟩ q) (hend : EndsUnread send n q w')
    (hk : k ≤ pageLimit + 1) :
    (n.files send filterDate).run.run w = (.ok q.found, w') := by
  cases hread with
  | nil =>
    obtain ⟨resp, hsend, h200, hread⟩ := hend
    rw [Node.files, run_bind, fetchPage_answered send n hsend h200 hread]
    rfl
  | @cons k _ q₁ _ hstep hrest =>
    obtain ⟨resp, results, remaining, hsend, h200, hread, htake⟩ := hstep
    have hpos := remaining_pos_of_takePage filterDate htake
    -- the first page leaves fuel for every page the sequence reads after it
    have hfuel : remaining.toNat + pageLimit = remaining.toNat + pageLimit - k - 1 + k + 1 := by
      omega
    rw [Node.files, run_bind, fetchPage_answered send n hsend h200 hread]
    simp only [afterPage, run_bind, htake, lift, run_pure]
    rw [hfuel]
    exact unreadable_page_ends_the_listing send n filterDate hrest hend _

end Pages

/-! ## A namenode that breaks after a page -/

/-- The body of a response that is not JSON. -/
def garbageBody : List UInt8 := "garbage".toUTF8.toList

/-- A namenode that answers its first listing request with a page holding `newFile` and saying one
entry remains, and every later request with a body that is not JSON; its world says whether it has
answered the first. -/
def breaksAfterFirstPage : Send (StateM Bool) := fun _ answered =>
  if answered then (.ok { status := 200, body := garbageBody }, true)
  else (.ok { status := 200, body := Sim.Namenode.documentBytes (listingDocument [newFile] 1) }, true)

theorem listing_broken_after_its_first_page :
    ReadsPages breaksAfterFirstPage dataNode none 1 ⟨false, none, []⟩
        ⟨true, some ["a.csv"], [newFile]⟩ ∧
      EndsUnread breaksAfterFirstPage dataNode ⟨true, some ["a.csv"], [newFile]⟩ true ∧
      1 ≤ pageLimit + 1 ∧
      (dataNode.files breaksAfterFirstPage none).run.run false = (.ok [newFile], true) := by
  have hfirst : ReadsPages breaksAfterFirstPage dataNode none 1 ⟨false, none, []⟩
      ⟨true, some ["a.csv"], [newFile]⟩ :=
    .cons ⟨_, _, _, rfl, rfl,
      @readPage_listingDocument _ [newFile] 1 (eq_ok_of_alike (by decide +kernel)), rfl⟩ (.nil _)
  have hgarbage : ∃ m, Http.jsonOf garbageBody = .error (.malformedJson m) := by
    have hcheck : (match Http.jsonOf garbageBody with
        | .error (.malformedJson _) => true
        | _ => false) = true := by decide +kernel
    split at hcheck
    · exact ⟨_, ‹_›⟩
    · cases hcheck
  have hend : EndsUnread breaksAfterFirstPage dataNode ⟨true, some ["a.csv"], [newFile]⟩ true :=
    ⟨_, rfl, rfl, readPage_eq_none (.inl hgarbage)⟩
  exact ⟨hfirst, hend, by decide, unreadable_page_ends_the_files _ _ _ hfirst hend (by decide)⟩

end CatalogSync.Hdfs
