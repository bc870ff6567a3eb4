import EdgeAgent.Proofs.Cluster.Census
import EdgeAgent.Proofs.Cluster.Server

/-! A server that stores catalogs with their whole metadata. It does what the agent relies on when it
spares foreign objects: the removal of an object in the foreground takes with it only what that object
owns. -/

namespace EdgeAgent

/-- A server that stores catalogs by their names. -/
abbrev Depot := { s : Server String Catalog // s.Tidy }

namespace Depot

open Server (Tidy)

/-- How the server looks into catalogs. -/
def form : Form Catalog where
  label? name d := d.metadata.labels.bind (·.find? name)
  version? d := d.metadata.resourceVersion
  uid? d := d.metadata.uid
  owners d := (d.metadata.ownerReferences.getD []).map OwnerReference.uid
  stamp version uid d :=
    { d with metadata := { d.metadata with resourceVersion := some version, uid := uid } }
  withoutStatus d := { d with status := none }
  withStatusOf stored d := { d with status := stored.status }
  mergeStatus patch d :=
    let status := (d.status.map Catalog.kind.encodeStatus).getD .null
    match Decode.value CatalogStatus.decode (status.merge patch) with
    | .ok status => { d with status := some status }
    | .error _ => d

/-- A catalog as it is read under its name. -/
def named (name : String) (d : Catalog) : Catalog :=
  { d with metadata := { d.metadata with name := some name, ns := none } }

/-- The slots: each kind has its own, and only those of catalogs are ever taken. -/
def placed (find : String → Option Catalog) : String × Target → Option Catalog
  | (plural, ⟨none, name⟩) => if plural = Catalog.kind.plural then find name else none
  | (_, ⟨some _, _⟩) => none

def census : Census Depot (String × Target) Catalog where
  form := form
  objects s := placed s.1.find?
  edges place := (EdgeIngress.kind.plural, place)
  catalogs place := (Catalog.kind.plural, place)

variable {α β : Type}

/-- A request about the catalog at a place. -/
def request (place : Target)
    (act : String → Server String Catalog → Except Refusal α × Server String Catalog)
    (tidy : ∀ name s, s.Tidy → (act name s).2.Tidy) (read : α → β) : Call Depot β :=
  Call.change fun s =>
    match place.scope with
    | none =>
      (((act place.name s.1).1.map read).mapError fun _ => .failed "refused",
        ⟨(act place.name s.1).2, tidy _ _ s.2⟩)
    | some _ => (.error (.failed "refused"), s)

/-- The requests about the catalogs. -/
def api : Api Depot CatalogSpec CatalogStatus where
  list := Call.change fun s =>
    (.ok ((s.1.list form (fun _ => true) managerLabel managerName).map fun x => named x.1 x.2), s)
  create := fun scope new => request ⟨scope, new.metadata.anyName⟩
    (fun name s => s.create form name new) (fun _ _ h => h.create form _ new)
    (named new.metadata.anyName)
  replace := fun place new => request place (fun name s => s.replace form name new)
    (fun _ _ h => h.replace form _ new) (named place.name)
  patchStatus := fun place patch => request place (fun name s => s.patchStatus form name patch)
    (fun _ _ h => h.patchStatus form _ patch) (named place.name)
  delete := fun place => request place (fun name s => s.delete form name true)
    (fun _ _ h => h.delete form _ true) id

/-! ### The laws -/

theorem placed_update (find : String → Option Catalog) (name : String) (x : Option Catalog) :
    placed (Function.update find name x) =
      Function.update (placed find) (census.catalogs ⟨none, name⟩) x := by
  funext ⟨plural, scope, other⟩
  cases scope with
  | some ns => exact (Function.update_of_ne (by simp [census]) _ _).symm
  | none =>
      by_cases hplural : plural = Catalog.kind.plural
      · by_cases hother : other = name
        · rw [hplural, hother]
          simp [placed, census]
        · simp [placed, census, hother, Function.update_of_ne]
      · simp [placed, census, hplural]

theorem placed_store (s : Server String Catalog) (name : String) (uid : Nat → Option String)
    (object : Catalog) : placed (s.store form name uid object).2.find? =
      Function.update (placed s.find?) (census.catalogs ⟨none, name⟩)
        (some (s.store form name uid object).1) := by
  rw [Server.find?_store, placed_update]

/-- A request does what its action does. -/
theorem request_does {place : Target}
    {act : String → Server String Catalog → Except Refusal α × Server String Catalog}
    {tidy : ∀ name s, s.Tidy → (act name s).2.Tidy} {read : α → β}
    {done : (String × Target → Option Catalog) → (String × Target → Option Catalog) → Prop}
    {tells : (String × Target → Option Catalog) → β → Prop}
    (h : ∀ s, s.Tidy → place.scope = none →
      ((act place.name s).2 = s ∨ done (placed s.find?) (placed (act place.name s).2.find?)) ∧
        ∀ x, (act place.name s).1 = .ok x → tells (placed s.find?) (read x)) :
    (request place act tidy read).Does census done tells := by
  rintro ⟨⟨s, htidy⟩, log⟩
  rw [request, Call.change]
  cases hscope : place.scope with
  | some ns => exact ⟨.inl rfl, fun _ hx => nomatch hx⟩
  | none =>
      obtain ⟨hdone, htells⟩ := h s htidy hscope
      refine ⟨hdone.imp ?_ id, ?_⟩
      · intro hsame
        change placed (act place.name s).2.find? = placed s.find?
        rw [hsame]
      · intro y hy
        change ((act place.name s).1.map read).mapError _ = _ at hy
        cases hanswer : (act place.name s).1 with
        | error refusal =>
            rw [hanswer] at hy
            cases hy
        | ok x =>
            rw [hanswer] at hy
            cases hy
            exact htells x hanswer

/-- A patch of the status leaves the metadata. -/
theorem metadata_mergeStatus (patch : Json) (d : Catalog) :
    (form.mergeStatus patch d).metadata = d.metadata := by
  simp only [form]
  split <;> rfl

theorem orderly : api.Orderly census Catalog.kind census.catalogs where
  custom := fun place => .inr ⟨place, rfl⟩
  list := by
    rintro ⟨⟨s, htidy⟩, log⟩
    refine ⟨.inl rfl, ?_⟩
    rintro _ ⟨⟩ o ho
    obtain ⟨⟨name, d⟩, hmem, rfl⟩ := List.mem_map.1 ho
    rw [Server.list, List.mem_filter] at hmem
    obtain ⟨hstored, hmanaged⟩ := hmem
    rw [Bool.true_and, decide_eq_true_eq] at hmanaged
    exact ⟨⟨none, name⟩, d, rfl, ⟨rfl, rfl⟩, htidy.find?_eq_some_iff.2 hstored, hmanaged⟩
  create := by
    intro scope new
    refine @request_does _ _ ⟨scope, _⟩ (fun name s => s.create form name new)
      (fun _ _ h => h.create form _ new) _ _ _ fun s _ hscope => ?_
    cases hscope
    rcases Server.create_cases form new.metadata.anyName new s with ⟨_, heq⟩ | ⟨hfree, heq⟩
    · rw [heq]
      exact ⟨.inl rfl, fun _ hx => nomatch hx⟩
    · have hstore := placed_store s new.metadata.anyName s.newUid (form.withoutStatus new)
      rw [heq]
      refine ⟨.inr ⟨hfree, _, ?_, hstore⟩, fun _ _ => ⟨hfree, rfl, rfl⟩⟩
      exact fun hnew => hnew
  replace := by
    intro ⟨scope, name⟩ new
    refine @request_does _ _ ⟨scope, name⟩ (fun name s => s.replace form name new)
      (fun _ _ h => h.replace form _ new) _ _ _ fun s _ hscope => ?_
    cases hscope
    rcases Server.replace_cases form name new s with ⟨_, heq⟩ | ⟨stored, _, heq⟩
    · rw [heq]
      exact ⟨.inl rfl, fun _ hx => nomatch hx⟩
    · have hstore := placed_store s name (fun _ => form.uid? stored) (form.withStatusOf stored new)
      rw [heq]
      refine ⟨.inr ⟨_, ?_, hstore⟩, fun _ _ => ⟨rfl, rfl⟩⟩
      exact fun hnew => hnew
  patchStatus := by
    intro ⟨scope, name⟩ patch
    refine @request_does _ _ ⟨scope, name⟩ (fun name s => s.patchStatus form name patch)
      (fun _ _ h => h.patchStatus form _ patch) _ _ _ fun s _ hscope => ?_
    cases hscope
    rcases Server.patchStatus_cases form name patch s with ⟨_, heq⟩ | ⟨stored, hstored, heq⟩
    · rw [heq]
      exact ⟨.inl rfl, fun _ hx => nomatch hx⟩
    · have hstore := placed_store s name (fun _ => form.uid? stored) (form.mergeStatus patch stored)
      rw [heq]
      refine ⟨.inr ⟨stored, _, hstored, ?_, hstore⟩, fun _ _ => ⟨rfl, rfl⟩⟩
      intro hmanaged
      change (form.mergeStatus patch stored).metadata.labels.bind _ = _
      rw [metadata_mergeStatus]
      exact hmanaged
  delete := by
    intro ⟨scope, name⟩
    refine @request_does _ _ ⟨scope, name⟩ (fun name s => s.delete form name true)
      (fun _ _ h => h.delete form _ true) _ _ _ fun s htidy hscope => ?_
    cases hscope
    refine ⟨?_, fun _ _ => trivial⟩
    rcases htidy.delete_cases form name true with hsame | ⟨stored, hstored, hleft⟩
    · exact .inl hsame
    · refine .inr ⟨stored, hstored, ?_⟩
      rintro ⟨plural, _ | ns, other⟩
      · by_cases hplural : plural = Catalog.kind.plural
        · cases hplural
          rcases hleft other with hkept | ⟨hgone, hremoved⟩
          · exact .inl hkept
          · refine .inr ⟨?_, hremoved.imp ?_ ?_⟩
            · intro _ d hd
              change (s.delete form name true).2.find? other = some d at hd
              rw [hgone] at hd
              cases hd
            · rintro rfl
              rfl
            · rintro ⟨uid, d, huid, hd, howned⟩
              exact ⟨uid, d, huid, hd, .owned howned⟩
        · rw [placed, placed, if_neg hplural, if_neg hplural]
          exact .inl rfl
      · exact .inl rfl

end Depot

end EdgeAgent
