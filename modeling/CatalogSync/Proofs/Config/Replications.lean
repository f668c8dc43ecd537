import Mathlib
import CatalogSync.Cli.Shell
import CatalogSync.Proofs.Data.Same
import CatalogSync.Proofs.Except

/-!
# Replications of a checked configuration

A configuration is checked when it is loaded (`Config.validate`), and its replications are
read into settings when a runner is built from it (`Replication.ofValue`). The two look at
different things: reading a replication requires an `id`, which the check never looks at.
Here it is proved that a configuration that passes its check builds its replications exactly
when every replication sets an id, and that the replications it builds have different names
and each name two different sites that the configuration holds, so that a run finds both of
its sites (`checked_configuration_builds_iff_ids_are_set`).

What the check establishes is gathered in `Checked`: the sites are mappings with set names
that can be hashed, and every replication is accepted against those names
(`ReplicationAccepted`). The sites of a configuration are kept under their names as keys,
the first of equal names keeping its place; a replication finds its sites there because
equality of names is symmetric and transitive (`Value.same_symm`, `Value.same_trans`).
-/

namespace CatalogSync

namespace Config

open Sync Cli

theorem needHashable_eq_ok {v : Value} {u : Unit} :
    needHashable v = .ok u ↔ v.unhashable? = none := by
  unfold needHashable
  cases v.unhashable? <;> simp

theorem eq_get_of_sectionOf {doc v : Value} {key : String} (h : sectionOf doc key = .ok v) :
    v = doc.get key := by
  unfold sectionOf at h
  split at h <;> simp_all

theorem members_eq_asList {v : Value} {ms : List Value} (h : members v = .ok ms)
    (hobj : ∀ m ∈ ms, m.isObj = true) : ms = Api.asList v := by
  cases v with
  | list xs => cases xs <;> simp_all [members, Value.truthy, Api.asList]
  | obj fs =>
    -- a mapping is looped over by its keys, texts that fail the check of a member
    cases fs with
    | nil => simp_all [members, Value.truthy, Api.asList]
    | cons f fs =>
      simp [members, Value.truthy] at h
      subst h
      simp [Value.isObj] at hobj
  | str s =>
    -- a text is looped over by its characters, texts again
    by_cases hs : s = ""
    · simp_all [members, Value.truthy, Api.asList]
    · obtain ⟨c, cs, hcs⟩ := List.exists_cons_of_ne_nil (mt String.toList_eq_nil_iff.mp hs)
      simp [members, Value.truthy, hs] at h
      subst h
      simp [hcs, Value.isObj] at hobj
  | _ =>
    -- any other value is looped over only when unset, as empty
    simp [members, Value.truthy, ite_ok_eq_ok_iff] at h <;> simp [h, Api.asList]

/-! ## Sites -/

/-- What the check of a site establishes of it. -/
structure SiteAccepted (site : Value) : Prop where
  isObj : site.isObj = true
  name_truthy : (site.get "name").truthy = true
  name_hashable : (site.get "name").unhashable? = none

theorem checkSite_eq_ok {names out : List Value} {site : Value}
    (h : checkSite names site = .ok out) :
    SiteAccepted site ∧ out = names ++ [site.get "name"] := by
  simp only [checkSite, siteKeys, List.forIn_cons, List.forIn_nil] at h
  simp [bind_eq_ok_iff, ite_error_eq_ok_iff, ite_ok_error_bind, throw_eq_error, error_bind,
    pure_eq_ok, needHashable_eq_ok] at h
  obtain ⟨hobj, ⟨hname, -, -⟩, -, hhash, rfl⟩ := h
  exact ⟨⟨hobj, hname, hhash⟩, rfl⟩

theorem foldlM_checkSite {init out : List Value} :
    ∀ {sites : List Value}, sites.foldlM checkSite init = .ok out →
      (∀ s ∈ sites, SiteAccepted s) ∧ out = init ++ sites.map (·.get "name")
  | [], h => by simp_all [pure, Except.pure]
  | s :: sites, h => by
    rw [List.foldlM_cons, bind_eq_ok_iff] at h
    obtain ⟨names, hs, hrest⟩ := h
    obtain ⟨hacc, rfl⟩ := checkSite_eq_ok hs
    obtain ⟨haccs, rfl⟩ := foldlM_checkSite hrest
    simp_all

/-! ## Replications -/

/-- What the check of a replication establishes of it, against the names of the sites. -/
structure ReplicationAccepted (names : List Value) (r : Value) : Prop where
  isObj : r.isObj = true
  name_truthy : (r.get "name").truthy = true
  name_hashable : (r.get "name").unhashable? = none
  source_hashable : (r.get "source").unhashable? = none
  source_named : ∃ n ∈ names, (r.get "source").same n = true
  destination_hashable : (r.get "destination").unhashable? = none
  destination_named : ∃ n ∈ names, (r.get "destination").same n = true
  ends_differ : (r.get "source").same (r.get "destination") = false
  retry : ∃ k, (r.getD "failure_retry_count" (.int 5)).toInteger = .ok k ∧ 1 ≤ k

theorem checkReplication_eq_ok {names seen out : List Value} {r : Value}
    (h : checkReplication names seen r = .ok out) :
    ReplicationAccepted names r ∧ (∀ m ∈ seen, (r.get "name").same m = false) ∧
      out = seen ++ [r.get "name"] := by
  simp [checkReplication, bind_eq_ok_iff, ite_error_eq_ok_iff, ite_eq_ok_of_error_iff,
    ite_ok_error_bind, throw_eq_error, error_bind, pure_eq_ok, needHashable_eq_ok] at h
  obtain ⟨hobj, hname, hhash, hseen, hsrc, ⟨hsrcn, hdst, hdstn⟩, hends, k, hk, hk1, rfl⟩ := h
  exact ⟨⟨hobj, hname, hhash, hsrc, hsrcn, hdst, hdstn, hends, k, hk, hk1⟩, hseen, rfl⟩

theorem foldlM_checkReplication {names : List Value} :
    ∀ {rs seen out : List Value}, rs.foldlM (checkReplication names) seen = .ok out →
      (∀ r ∈ rs, ReplicationAccepted names r) ∧
      (∀ r ∈ rs, ∀ m ∈ seen, (r.get "name").same m = false) ∧
      (rs.map (·.get "name")).Pairwise fun a b => b.same a = false
  | [], _, _, _ => by simp
  | r :: rs, seen, out, h => by
    rw [List.foldlM_cons, bind_eq_ok_iff] at h
    obtain ⟨seen', hr, hrest⟩ := h
    obtain ⟨hacc, hfresh, rfl⟩ := checkReplication_eq_ok hr
    obtain ⟨haccs, hfreshs, hpair⟩ := foldlM_checkReplication hrest
    -- a later replication's name differs from every name seen before it, this one's included
    refine ⟨?_, ?_, ?_⟩
    · simp_all
    · intro r' hr' m hm
      rcases List.mem_cons.mp hr' with rfl | hr'
      · exact hfresh m hm
      · exact hfreshs r' hr' m (by simp [hm])
    · refine List.Pairwise.cons ?_ hpair
      intro b hb
      obtain ⟨r', hr', rfl⟩ := List.mem_map.mp hb
      exact hfreshs r' hr' _ (by simp)

/-- What a configuration that passes its check is made of: accepted sites, and accepted
replications with different names that name those sites. -/
structure Checked (doc : Value) : Prop where
  sites : ∀ s ∈ Api.asList (doc.get "sites"), SiteAccepted s
  replications : ∀ r ∈ Api.asList (doc.get "replications"),
    ReplicationAccepted ((Api.asList (doc.get "sites")).map (·.get "name")) r
  distinct : ((Api.asList (doc.get "replications")).map (·.get "name")).Pairwise
    fun a b => b.same a = false

theorem checked_of_validate {doc : Value} (h : validate doc = .ok ()) : Checked doc := by
  simp only [validate, bind_eq_ok_iff] at h
  obtain ⟨-, -, storage, -, hasPath, -, hrest⟩ := h
  simp only [throw_eq_error, error_bind, ite_error_eq_ok_iff, bind_eq_ok_iff] at hrest
  obtain ⟨-, sv, hsv, sites, hsites, names, hnames, rv, hrv, reps, hreps, out, hout, -⟩ := hrest
  rw [eq_get_of_sectionOf hsv] at hsites
  rw [eq_get_of_sectionOf hrv] at hreps
  obtain ⟨hsacc, rfl⟩ := foldlM_checkSite hnames
  obtain ⟨hracc, -, hpair⟩ := foldlM_checkReplication hout
  have hsites' := members_eq_asList hsites fun s hs => (hsacc s hs).isObj
  have hreps' := members_eq_asList hreps fun r hr => (hracc r hr).isObj
  subst hsites' hreps'
  exact ⟨hsacc, by simpa using hracc, hpair⟩


/-! ## Building the replications -/

theorem ofValue_eq_ok_iff {r : Value} {c : Replication} :
    Replication.ofValue r = .ok c ↔ r.isObj = true ∧
      (∀ k ∈ Replication.requiredKeys, (r.get k).truthy = true) ∧
      ∃ retry, (r.getD "failure_retry_count" (.int 5)).toInteger = .ok retry ∧ 1 ≤ retry ∧
        { id := (r.get "id").display, name := r.get "name", source := r.get "source",
          destination := r.get "destination",
          filter := if (r.get "filter").truthy then r.get "filter" else .str "",
          retryLimit := retry, metadataOnly := (r.get "metadata_only").truthy,
          suspended := (r.get "suspended").truthy : Replication } = c := by
  simp [Replication.ofValue, Replication.requiredKeys, bind_eq_ok_iff, ite_eq_ok_of_error_iff,
    throw_eq_error, error_bind, pure_eq_ok]

theorem ofValue_of_accepted {names : List Value} {r : Value} (hr : ReplicationAccepted names r)
    (hnames : ∀ n ∈ names, n.unhashable? = none ∧ n.truthy = true)
    (hid : (r.get "id").truthy = true) : ∃ c, Replication.ofValue r = .ok c := by
  have hset : ∀ v : Value, v.unhashable? = none → (∃ n ∈ names, v.same n = true) →
      v.truthy = true := by
    rintro v hv ⟨n, hn, hvn⟩
    rw [Value.truthy_eq_of_same hv hvn]
    exact (hnames n hn).2
  obtain ⟨retry, hretry, hretry1⟩ := hr.retry
  refine ⟨_, ofValue_eq_ok_iff.mpr ⟨hr.isObj, ?_, retry, hretry, hretry1, rfl⟩⟩
  simp only [Replication.requiredKeys, List.mem_cons, List.not_mem_nil, or_false,
    forall_eq_or_imp, forall_eq]
  exact ⟨hid, hr.name_truthy, hset _ hr.source_hashable hr.source_named,
    hset _ hr.destination_hashable hr.destination_named⟩

theorem fields_of_ofValue {r : Value} {c : Replication} (h : Replication.ofValue r = .ok c) :
    c.name = r.get "name" ∧ c.source = r.get "source" ∧ c.destination = r.get "destination" := by
  obtain ⟨-, -, -, -, -, rfl⟩ := ofValue_eq_ok_iff.mp h
  exact ⟨rfl, rfl, rfl⟩

theorem names_of_read {reps : List Value} {rs : List Replication}
    (h : List.Forall₂ (fun r c => Replication.ofValue r = .ok c) reps rs) :
    rs.map (·.name) = reps.map (·.get "name") := by
  induction h with
  | nil => rfl
  | cons hrc _ ih => simp [ih, (fields_of_ofValue hrc).1]

/-! ## The sites of a configuration -/

theorem findEntry_isSome_iff {α : Type} {entries : List (Value × α)} {key : Value} :
    (findEntry entries key).isSome ↔ ∃ e ∈ entries, e.1.same key = true := by
  simp [findEntry, List.find?_isSome]

section Entries

variable {α : Type} (entries : List (Value × α)) (key : Value) (a : α)

theorem setEntry_covers : ∃ e ∈ setEntry entries key a, e.1 = key ∨ e.1.same key = true := by
  unfold setEntry
  split
  · next hany =>
    obtain ⟨e, he, hsame⟩ := List.any_eq_true.mp hany
    exact ⟨(e.1, a), List.mem_map.mpr ⟨e, he, by simp [hsame]⟩, .inr hsame⟩
  · exact ⟨(key, a), by simp, .inl rfl⟩

theorem setEntry_keeps {e : Value × α} (he : e ∈ entries) :
    ∃ e' ∈ setEntry entries key a, e'.1 = e.1 := by
  unfold setEntry
  split
  · refine ⟨if e.1.same key then (e.1, a) else e, List.mem_map.mpr ⟨e, he, rfl⟩, ?_⟩
    split <;> rfl
  · exact ⟨e, by simp [he], rfl⟩

theorem key_of_mem_setEntry {e : Value × α} (he : e ∈ setEntry entries key a) :
    e.1 = key ∨ ∃ e' ∈ entries, e'.1 = e.1 := by
  unfold setEntry at he
  split at he
  · obtain ⟨e', he', rfl⟩ := List.mem_map.mp he
    exact .inr ⟨e', he', by split <;> rfl⟩
  · rcases List.mem_append.mp he with he | he
    · exact .inr ⟨e, he, rfl⟩
    · exact .inl (by simp_all)

end Entries

section Folded

variable {α : Type} (name : α → Value)

theorem key_of_mem_foldl_setEntry :
    ∀ (items : List α) (acc : List (Value × α)) {e : Value × α},
      e ∈ items.foldl (fun acc s => setEntry acc (name s) s) acc →
      (∃ e' ∈ acc, e'.1 = e.1) ∨ ∃ s ∈ items, e.1 = name s
  | [], _, _, he => .inl ⟨_, he, rfl⟩
  | s :: items, acc, e, he => by
    rcases key_of_mem_foldl_setEntry items (setEntry acc (name s) s) he with
      ⟨e', he', hkey⟩ | ⟨s', hs', hkey⟩
    · rcases key_of_mem_setEntry _ _ _ he' with h | ⟨e'', he'', h⟩
      · exact .inr ⟨s, by simp, hkey ▸ h⟩
      · exact .inl ⟨e'', he'', h.trans hkey⟩
    · exact .inr ⟨s', by simp [hs'], hkey⟩

theorem keeps_foldl_setEntry :
    ∀ (items : List α) {acc : List (Value × α)} {e : Value × α}, e ∈ acc →
      ∃ e' ∈ items.foldl (fun acc s => setEntry acc (name s) s) acc, e'.1 = e.1
  | [], _, e, he => ⟨e, he, rfl⟩
  | s :: items, acc, e, he => by
    obtain ⟨e', he', hkey⟩ := setEntry_keeps acc (name s) s he
    obtain ⟨e'', he'', hkey'⟩ := keeps_foldl_setEntry items he'
    exact ⟨e'', he'', hkey'.trans hkey⟩

theorem covers_foldl_setEntry :
    ∀ {items : List α} (acc : List (Value × α)) {s : α}, s ∈ items →
      ∃ e ∈ items.foldl (fun acc s => setEntry acc (name s) s) acc,
        e.1 = name s ∨ e.1.same (name s) = true
  | [], _, _, hs => by simp at hs
  | s' :: items, acc, s, hs => by
    rcases List.mem_cons.mp hs with rfl | hs
    · -- the entry the item set stays under its key through the items after it
      obtain ⟨e, he, hkey⟩ := setEntry_covers acc (name s) s
      obtain ⟨e', he', hkey'⟩ := keeps_foldl_setEntry name items he
      exact ⟨e', he', by rw [hkey']; exact hkey⟩
    · exact covers_foldl_setEntry (setEntry acc (name s') s') hs

end Folded

/-- A value equal to a site's name finds a site among the sites of a checked configuration:
the site's name is a key of them or equal to one, and equality of names goes both ways and
through a third name. -/
theorem findEntry_sitesOf {doc v : Value}
    (hsites : ∀ s ∈ Api.asList (doc.get "sites"), SiteAccepted s) (hv : v.unhashable? = none)
    (hnamed : ∃ n ∈ (Api.asList (doc.get "sites")).map (·.get "name"), v.same n = true) :
    (findEntry (sitesOf doc) v).isSome := by
  obtain ⟨n, hn, hvn⟩ := hnamed
  obtain ⟨s, hs, rfl⟩ := List.mem_map.mp hn
  have hnv : (s.get "name").same v = true := Value.same_symm hv hvn
  obtain ⟨e, he, hkey⟩ := covers_foldl_setEntry (fun s : Value => s.get "name") [] hs
  refine findEntry_isSome_iff.mpr ⟨e, he, ?_⟩
  rcases hkey with hkey | hkey
  · rw [hkey]
    exact hnv
  · -- the key is the name of some site, so it can be hashed
    have hehash : e.1.unhashable? = none := by
      rcases key_of_mem_foldl_setEntry (fun s : Value => s.get "name") _ [] he with ⟨_, h, -⟩ | ⟨s', hs', hkey'⟩
      · simp at h
      · rw [hkey']
        exact (hsites s' hs').name_hashable
    exact Value.same_trans hehash (hsites s hs).name_hashable hkey hnv

/-! ## A checked configuration and its replications -/

/-- The replications of a configuration that passes its check are read exactly when each of
them sets an id; the check never looks at ids. Once read, the replications have different
names, and each names two different sites that the configuration's sites hold, so that
looking up the sites of a run finds both. -/
theorem checked_configuration_builds_iff_ids_are_set {doc : Value}
    (hvalid : Config.validate doc = .ok ()) :
    ((∃ rs, (Api.asList (doc.get "replications")).mapM Replication.ofValue = .ok rs) ↔
      ∀ r ∈ Api.asList (doc.get "replications"), (r.get "id").truthy = true) ∧
    ∀ rs, (Api.asList (doc.get "replications")).mapM Replication.ofValue = .ok rs →
      (rs.map (·.name)).Pairwise (fun a b => Value.same a b = false) ∧
      ∀ r ∈ rs, (findEntry (sitesOf doc) r.source).isSome ∧
        (findEntry (sitesOf doc) r.destination).isSome ∧
        Value.same r.source r.destination = false := by
  have hc := checked_of_validate hvalid
  have hnames : ∀ n ∈ (Api.asList (doc.get "sites")).map (·.get "name"),
      n.unhashable? = none ∧ n.truthy = true := by
    intro n hn
    obtain ⟨s, hs, rfl⟩ := List.mem_map.mp hn
    exact ⟨(hc.sites s hs).name_hashable, (hc.sites s hs).name_truthy⟩
  refine ⟨⟨fun ⟨rs, hrs⟩ r hr => ?_, fun hid => ?_⟩, fun rs hrs => ?_⟩
  · -- a replication that is read sets every required key, its id among them
    obtain ⟨c, hc'⟩ := exists_forall₂_iff.mp ⟨rs, forall₂_of_mapM_eq_ok hrs⟩ r hr
    exact (ofValue_eq_ok_iff.mp hc').2.1 "id" (by simp [Replication.requiredKeys])
  · obtain ⟨rs, hrs⟩ := exists_forall₂_iff.mpr fun r hr =>
      ofValue_of_accepted (hc.replications r hr) hnames (hid r hr)
    exact ⟨rs, mapM_eq_ok_of_forall₂ hrs⟩
  · have hread := forall₂_of_mapM_eq_ok hrs
    have hmap : rs.map (·.name) = (Api.asList (doc.get "replications")).map (·.get "name") :=
      names_of_read hread
    refine ⟨?_, fun c hc' => ?_⟩
    · rw [hmap]
      refine hc.distinct.imp_of_mem fun ha _ hba => ?_
      obtain ⟨r, hr, rfl⟩ := List.mem_map.mp ha
      cases hab : Value.same (r.get "name") _
      · rfl
      · rw [Value.same_symm (hc.replications r hr).name_hashable hab] at hba
        cases hba
    · obtain ⟨r, hr, hrc⟩ := exists_of_mem_forall₂ hread hc'
      obtain ⟨-, hsrc, hdst⟩ := fields_of_ofValue hrc
      have hacc := hc.replications r hr
      rw [hsrc, hdst]
      exact ⟨findEntry_sitesOf hc.sites hacc.source_hashable hacc.source_named,
        findEntry_sitesOf hc.sites hacc.destination_hashable hacc.destination_named,
        hacc.ends_differ⟩


/-- A configuration of two sites and one replication from the first to the second. -/
def twoSiteConfiguration : Value :=
  .obj [("storage", .obj [("path", .str "r.db")]), ("logging", .obj [("version", .int 1)]),
    ("sites", .list [.obj [("name", .str "a"), ("type", .str "sqlite"), ("url", .str "a.db")],
      .obj [("name", .str "b"), ("type", .str "sqlite"), ("url", .str "b.db")]]),
    ("replications", .list [.obj [("id", .str "1"), ("name", .str "x"), ("source", .str "a"),
      ("destination", .str "b")]])]

/-- Two sites and a replication with an id between them pass the check and build. -/
theorem two_site_configuration_builds :
    Config.validate twoSiteConfiguration = .ok () ∧
    ((∃ rs, (Api.asList (twoSiteConfiguration.get "replications")).mapM Replication.ofValue =
        .ok rs) ↔
      ∀ r ∈ Api.asList (twoSiteConfiguration.get "replications"), (r.get "id").truthy = true) ∧
    ∀ rs, (Api.asList (twoSiteConfiguration.get "replications")).mapM Replication.ofValue =
        .ok rs →
      (rs.map (·.name)).Pairwise (fun a b => Value.same a b = false) ∧
      ∀ r ∈ rs, (findEntry (sitesOf twoSiteConfiguration) r.source).isSome ∧
        (findEntry (sitesOf twoSiteConfiguration) r.destination).isSome ∧
        Value.same r.source r.destination = false :=
  ⟨by rfl, checked_configuration_builds_iff_ids_are_set (by rfl)⟩

end Config

end CatalogSync
