import EdgeAgent.Proofs.Cluster.Versions

/-! A server with room for one catalog of a given name. It counts the writes, and the number of the
last one is the version of the catalog; a replacement that names another version is refused. -/

namespace EdgeAgent

/-- What the server holds: the catalog without its version, and the number of writes. -/
structure Berth where
  catalog : Option Catalog := none
  count : Nat := 0

namespace Berth

/-- The place of the catalog. -/
def place : Target := ⟨none, "shop"⟩

/-- The catalog as it is read. -/
def current (s : Berth) : Option Catalog :=
  s.catalog.map fun c => { c with metadata := { c.metadata with
    name := some place.name
    resourceVersion := some (Decimal.text s.count) } }

def stored (s : Berth) (target : Target) : Option Catalog :=
  if target = place then s.current else none

/-- The versions that were given. -/
def given (s : Berth) : Set String :=
  { version | ∃ n ≤ s.count, version = Decimal.text n }

/-- The server after a write. -/
def written (catalog : Option Catalog) (s : Berth) : Berth :=
  ⟨catalog, s.count + 1⟩

/-- A request that stores a catalog, unless it cannot. -/
def request (act : Berth → Option Catalog) : Call Berth Catalog :=
  Call.change fun s =>
    match act s with
    | none => (.error (.failed "refused"), s)
    | some c =>
      match (s.written c).current with
      | none => (.error (.failed "refused"), s)
      | some read => (.ok read, s.written c)

/-- A body is stored with the status that was stored, unless it names another version. -/
def replacement (target : Target) (body : Catalog) (s : Berth) : Option Catalog :=
  (s.stored target).bind fun c =>
    if body.metadata.resourceVersion.isSome ∧
        body.metadata.resourceVersion ≠ c.metadata.resourceVersion then none
    else some { body with status := c.status }

/-- The requests to the server. -/
def api : Api Berth CatalogSpec CatalogStatus where
  list := Call.change fun s => (.ok (s.current.toList.filter Object.managed), s)
  create := fun scope new => request fun s =>
    if ⟨scope, new.metadata.anyName⟩ = place ∧ s.catalog.isNone then some { new with status := none }
    else none
  replace := fun target body => request (replacement target body)
  patchStatus := fun target patch => request fun s => (s.stored target).bind fun c =>
    let status := (c.status.map Catalog.kind.encodeStatus).getD .null
    match Decode.value CatalogStatus.decode (status.merge patch) with
    | .ok status => some { c with status := some status }
    | .error _ => none
  delete := fun target => Call.change fun s =>
    if (s.stored target).isSome then (.ok (), s.written none) else (.error (.failed "refused"), s)

/-! ### The laws -/

theorem version_of_current {s : Berth} {o : Catalog} (h : s.current = some o) :
    o.metadata.resourceVersion = some (Decimal.text s.count) := by
  obtain ⟨c, -, rfl⟩ := Option.map_eq_some_iff.1 h
  rfl

theorem replacement_of_outdated {target : Target} {body : Catalog} {version : String} {s : Berth}
    (hversion : body.metadata.resourceVersion = some version)
    (houtdated : Intrusion.Outdated stored target version s) : replacement target body s = none := by
  rw [replacement, Option.bind_eq_none_iff]
  intro c hc
  rw [hversion]
  exact if_pos ⟨rfl, (houtdated c hc).symm⟩

theorem versioned : api.Versioned stored given where
  list := by
    rintro w objects ⟨⟩ o ho
    have hcurrent : w.state.current = some o := Option.mem_toList.1 (List.mem_filter.1 ho).1
    exact ⟨_, ⟨_, le_rfl, rfl⟩, version_of_current hcurrent⟩
  replace := by
    intro target body version w hversion houtdated
    have hrefused : api.replace target body w = (.error (.failed "refused"), w) := by
      change request (replacement target body) w = _
      rw [request, Call.change, replacement_of_outdated hversion houtdated]
    rw [hrefused]
    exact ⟨rfl, fun _ hx => nomatch hx⟩

theorem next_not_mem_given (s : Berth) : Decimal.text (s.count + 1) ∉ s.given := by
  rintro ⟨n, hn, htext⟩
  have hvalue := congrArg (Decimal.value ∘ String.toList) htext
  simp only [Function.comp_apply, Decimal.text, String.toList_ofList, Decimal.value_digits] at hvalue
  omega

/-- Another client writes the catalog. -/
theorem takes_written (s : Berth) (catalog : Option Catalog) :
    Intrusion.Takes stored given ⟨place, (s.written catalog).current⟩ s (s.written catalog) where
  stored_eq := by
    funext target
    by_cases htarget : target = place
    · rw [htarget, Function.update_self, stored, if_pos rfl]
    · rw [Function.update_of_ne htarget, stored, stored, if_neg htarget, if_neg htarget]
  given_subset := by
    rintro version ⟨n, hn, rfl⟩
    exact ⟨n, hn.trans (Nat.le_succ _), rfl⟩
  fresh := fun o ho => ⟨_, ⟨_, le_rfl, rfl⟩, version_of_current ho, s.next_not_mem_given⟩

end Berth

end EdgeAgent
