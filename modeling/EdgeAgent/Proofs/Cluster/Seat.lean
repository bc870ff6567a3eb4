import EdgeAgent.Proofs.Cluster.Attended
import EdgeAgent.Proofs.Cluster.Keeper

/-! What lies at a place: an object, and the child ingress that it owns. A write of a pass that asks
for an object changes what lies at its own place and nowhere else, and when all its requests are
answered, the object is there with its child ingress. A deletion leaves its place empty, and may take
along what belongs to the deleted object. -/

namespace EdgeAgent

open Sent (Missed)

variable {σ ι D Record Spec Status : Type}

/-- An object as it is stored, and the child ingress that it owns. -/
structure Seat (Spec Status : Type) where
  object : Option (Object Spec Status)
  child : Option Child.Stored

/-- A stored child ingress, if an object is its only owner. -/
def Object.owned (o : Option (Object Spec Status)) (child : Option Child.Stored) :
    Option Child.Stored :=
  o.bind fun o => child.filter fun child => child.owners = o.metadata.uid.toList

theorem Object.owned_eq_some {o : Option (Object Spec Status)} {child : Option Child.Stored}
    {x : Child.Stored} (h : owned o child = some x) : child = some x := by
  obtain ⟨_, -, hchild⟩ := Option.bind_eq_some_iff.1 h
  exact (Option.filter_eq_some_iff.1 hchild).1

theorem urlOf_ne_empty (domain : String) : urlOf domain ≠ "" := by
  intro h
  have hlength := congrArg String.length h
  rw [urlOf, String.length_append] at hlength
  simp at hlength

theorem CatalogRecord.domains_ne_nil (record : CatalogRecord) : record.domains ≠ [] := by
  rw [domains]
  split
  · exact List.cons_ne_nil _ _
  · next hcustom => exact hcustom

theorem Object.Shows.of_face_eq {reading : Option Status → Reading} {o x new : Object Spec Status}
    (h : x.Shows reading new) (hface : o.face reading = x.face reading) : o.Shows reading new := by
  have huid : o.metadata.uid = x.metadata.uid := congrArg Face.uid hface
  rw [Shows, hface, h, huid]

namespace Write

/-- The object that a write asks for. -/
def new? {R : Type} : Write R → Option R
  | create new => some new
  | update _ new => some new
  | delete _ => none

/-- An update is meant for the object that lies at its place. -/
def Suits : Write (Object Spec Status) → Option (Object Spec Status) → Prop
  | update old _, o => o = some old ∧ old.managed = true
  | _, _ => True

end Write

namespace Keeper

/-- The child ingress that is made of an object, if objects have any. -/
def child? : Keeper σ Record Spec Status → Object Spec Status → Option (Except ChildError Ingress)
  | catalogs _, _ => none
  | edges _, _ => none
  | edgesWithChildren settings _, edge => some (Child.ofEdge settings edge)

/-- What lies at a place. -/
def seat (keeper : Keeper σ Record Spec Status) (stored : σ → Store Spec Status)
    (children : σ → Target → Option Child.Stored) (s : σ) (place : Target) : Seat Spec Status where
  object := stored s place
  child := if keeper.attends then Object.owned (stored s place) (children s place) else none

/-- What comes of the child ingress of an object that is stored, by whether the write succeeds. -/
inductive Attended (keeper : Keeper σ Record Spec Status) (place : Target)
    (o : Object Spec Status) : Bool → List (Target × Ingress) → Option Child.Stored → Prop where
  | alone : keeper.child? o = none → Attended keeper place o true [] none
  | linked {ingress : Ingress} : keeper.child? o = some (.ok ingress) →
      (keeper.reading o.status).connection = some .up →
      Attended keeper place o true [(place, ingress)] (some (.of ingress))
  | unlinked {error : ChildError} {sent : List (Target × Ingress)} {child : Option Child.Stored} :
      keeper.child? o = some (.error error) → Attended keeper place o false sent child

/-- What comes of a write that asks for an object, when all its requests are answered. -/
inductive Comes (keeper : Keeper σ Record Spec Status) : Write (Object Spec Status) → Bool →
    List (Target × Ingress) → Seat Spec Status → Seat Spec Status → Prop where
  | created {new o : Object Spec Status} {ok : Bool} {sent : List (Target × Ingress)}
      {before child : Option Child.Stored} : o.Shows keeper.reading new →
      Attended keeper (Upkeep.target keeper.kind new) o ok sent child →
      Comes keeper (.create new) ok sent ⟨none, before⟩ ⟨some o, child⟩
  /-- The fingerprint of the wanted spec is recorded. -/
  | rested {old new o : Object Spec Status} {ok : Bool} {sent : List (Target × Ingress)}
      {before child : Option Child.Stored} : Upkeep.unchanged keeper.kind old new = true →
      o.face keeper.reading = old.face keeper.reading →
      Attended keeper (Upkeep.target keeper.kind old) o ok sent child →
      Comes keeper (.update old new) ok sent ⟨some old, before⟩ ⟨some o, child⟩
  | renewed {old new o : Object Spec Status} {ok : Bool} {sent : List (Target × Ingress)}
      {before child : Option Child.Stored} : Upkeep.unchanged keeper.kind old new = false →
      o.Shows keeper.reading new →
      Attended keeper (Upkeep.target keeper.kind old) o ok sent child →
      Comes keeper (.update old new) ok sent ⟨some old, before⟩ ⟨some o, child⟩

/-- A write that suits what lies at its place comes to what is wanted there, if all its requests are
answered. -/
def Came (keeper : Keeper σ Record Spec Status) (x : Write (Object Spec Status)) (ok : Bool)
    (es : List Sent) (before after : Seat Spec Status) : Prop :=
  x.Suits before.object → Missed es ∨ keeper.Comes x ok (Sent.children es) before after

/-- What a write that asks for an object does: it changes its own place alone, and comes to what is
wanted there. -/
structure Moves (keeper : Keeper σ Record Spec Status) (stored : σ → Store Spec Status)
    (children : σ → Target → Option Child.Stored) (x : Write (Object Spec Status)) (ok : Bool)
    (es : List Sent) (s s' : σ) : Prop where
  located : Located (keeper.seat stored children) (x.place keeper.kind) s s'
  comes : keeper.Came x ok es (keeper.seat stored children s (x.place keeper.kind))
    (keeper.seat stored children s' (x.place keeper.kind))

/-- What a write does. A deletion is one request; what that may do beside is a matter of its own. -/
def Does (keeper : Keeper σ Record Spec Status) (stored : σ → Store Spec Status)
    (children : σ → Target → Option Child.Stored)
    (removes : Object Spec Status → List Sent → σ → σ → Prop) :
    Write (Object Spec Status) → Bool → List Sent → σ → σ → Prop
  | .delete old, _, es, s, s' =>
    (∃ answered, es = [{ verb := .delete, answered := answered }]) ∧ removes old es s s'
  | x, ok, es, s, s' => keeper.Moves stored children x ok es s s'

/-- A deletion leaves its place empty, and maybe others, or it is not answered and changes nothing. -/
def Removes (keeper : Keeper σ Record Spec Status) (stored : σ → Store Spec Status)
    (children : σ → Target → Option Child.Stored) (along : σ → Target → Target → Prop)
    (old : Object Spec Status) (es : List Sent) (s s' : σ) : Prop :=
  Missed es ∧ keeper.seat stored children s' = keeper.seat stored children s ∨
    Empties (keeper.seat stored children) ⟨none, none⟩ (along s (Upkeep.target keeper.kind old))
      (Upkeep.target keeper.kind old) s s'

/-- A wanted object whose status is read as it is written. -/
structure Ready (keeper : Keeper σ Record Spec Status) (new : Object Spec Status) : Prop where
  wanted : new.Wanted keeper.kind
  writes : ∃ status, new.status = some status ∧ keeper.kind.Writes keeper.reading status

/-- What a write asks for can be asked for, and what it replaces lies at a place. -/
def Permits (keeper : Keeper σ Record Spec Status) : Write (Object Spec Status) → Prop
  | .create new => keeper.Ready new
  | .update old new =>
    keeper.kind.Holds ⟨old.metadata.ns, old.metadata.anyName⟩ ∧ keeper.Ready new
  | .delete _ => True

variable {keeper : Keeper σ Record Spec Status} {stored : σ → Store Spec Status}
  {children : σ → Target → Option Child.Stored}

theorem ready_of_materialize {moment : Timestamp} {record : Record} {new : Object Spec Status}
    (h : keeper.materialize moment record = .ok new) : keeper.Ready new := by
  refine ⟨(wanted_of_materialize h).1, ?_⟩
  have hedge : ∀ (record : EdgeIngressRecord) (new : EdgeIngress),
      EdgeIngressRecord.materialize moment record = .ok new → ∃ status, new.status = some status ∧
        EdgeIngress.kind.Writes EdgeIngress.reading status := by
    intro record new h
    obtain ⟨⟨-, -, hdomain⟩, rfl⟩ := materialize_edge_iff.1 h
    refine ⟨_, rfl, EdgeIngress.writes_status hdomain (urlOf_ne_empty _) ?_ rfl⟩
    exact Sha256.hex_ne_empty _
  cases keeper with
  | catalogs api =>
      obtain ⟨-, rfl⟩ := materialize_catalog_iff.1 h
      refine ⟨_, rfl, Catalog.writes_status record.domains_ne_nil ?_ (Sha256.hex_ne_empty _)⟩
      exact mt List.map_eq_nil_iff.1 record.domains_ne_nil
  | edges api => exact hedge record new h
  | edgesWithChildren settings apis => exact hedge record new h

/-! ### Writes of objects without child ingresses -/

theorem Moves.of_missed {x : Write (Object Spec Status)} {ok : Bool} {es : List Sent} {s s' : σ}
    (hlocated : Located (keeper.seat stored children) (x.place keeper.kind) s s')
    (hmissed : Missed es) : keeper.Moves stored children x ok es s s' :=
  ⟨hlocated, fun _ => .inl hmissed⟩

theorem seat_of_alone (hattends : keeper.attends = false) :
    keeper.seat stored children = fun s place => ⟨stored s place, none⟩ := by
  funext s place
  rw [seat, hattends]
  rfl

theorem child?_of_alone (hattends : keeper.attends = false) (o : Object Spec Status) :
    keeper.child? o = none := by
  cases keeper with
  | catalogs api => rfl
  | edges api => rfl
  | edgesWithChildren settings apis => cases hattends

theorem write_of_alone (hattends : keeper.attends = false) (timeout : Nat) (now : Nat → Timestamp)
    (platform : Call σ (List Record)) :
    (keeper.sides timeout now platform).write = Upkeep.write keeper.kind keeper.api := by
  cases keeper with
  | catalogs api => rfl
  | edges api => rfl
  | edgesWithChildren settings apis => cases hattends

theorem attends_traced : keeper.traced.attends = keeper.attends := by
  cases keeper <;> rfl

theorem kind_traced : keeper.traced.kind = keeper.kind := by
  cases keeper <;> rfl

theorem api_traced : keeper.traced.api = keeper.api.traced := by
  cases keeper <;> rfl

theorem located_of_stored (hattends : keeper.attends = false) {place : Target} {s s' : σ}
    (h : Located stored place s s') : Located (keeper.seat stored children) place s s' := by
  rw [seat_of_alone hattends]
  apply Located.of_ne
  intro other hother
  rw [h.eq_of_ne hother]

theorem moves_of_alone (hattends : keeper.attends = false) {x : Write (Object Spec Status)}
    {ok : Bool} {es : List Sent} {s s' : σ} (hlocated : Located stored (x.place keeper.kind) s s')
    (hcomes : x.Suits (stored s (x.place keeper.kind)) → Missed es ∨
      keeper.Comes x ok (Sent.children es) ⟨stored s (x.place keeper.kind), none⟩
        ⟨stored s' (x.place keeper.kind), none⟩) : keeper.Moves stored children x ok es s s' := by
  refine ⟨located_of_stored hattends hlocated, ?_⟩
  rw [seat_of_alone hattends]
  exact hcomes

theorem traces_create_alone (hattends : keeper.attends = false)
    (hlasting : keeper.Lasting stored children) {new : Object Spec Status}
    (hnew : keeper.Ready new) :
    Call.Traces (Upkeep.write keeper.kind keeper.api.traced (.create new))
      (Upkeep.write keeper.kind keeper.api (.create new))
      (fun s _ es s' => keeper.Moves stored children (.create new) true es s s')
      fun s es s' => keeper.Moves stored children (.create new) false es s s' := by
  obtain ⟨hwanted, status, hstatus, hwrites⟩ := hnew
  obtain ⟨name, hname⟩ := hwanted.named
  refine Call.Traces.imp ((Upkeep.traces_create hlasting.faithful.api hlasting.api hname hstatus
    hwrites).bind fun _ => .pure ()) ?_ ?_
  · rintro s _ es s' ⟨o, mid, first, rest, rfl, ⟨hsent, hfree, hstored, hshows⟩, -, rfl, rfl⟩
    apply moves_of_alone hattends ⟨_, hstored⟩
    rintro -
    rw [List.append_nil, hsent, Write.place, hfree, hstored, Function.update_self]
    exact .inr (.created hshows (.alone (child?_of_alone hattends o)))
  · rintro s es s' (⟨hmissed, -, hlocated⟩ | ⟨_, _, _, _, _, _, hnever⟩)
    · exact moves_of_alone hattends hlocated fun _ => .inl hmissed
    · exact hnever.elim

theorem traces_update_alone (hattends : keeper.attends = false)
    (hlasting : keeper.Lasting stored children) {old new : Object Spec Status}
    (hnew : keeper.Ready new) :
    Call.Traces (Upkeep.write keeper.kind keeper.api.traced (.update old new))
      (Upkeep.write keeper.kind keeper.api (.update old new))
      (fun s _ es s' => keeper.Moves stored children (.update old new) true es s s')
      fun s es s' => keeper.Moves stored children (.update old new) false es s s' := by
  obtain ⟨hwanted, status, hstatus, hwrites⟩ := hnew
  refine Call.Traces.imp ((Upkeep.traces_update hlasting.faithful.api hlasting.api hwanted hstatus
    hwrites).bind fun _ => .pure ()) ?_ ?_
  · rintro s _ es s' ⟨o, mid, first, rest, rfl, ⟨hsent, hdone⟩, -, rfl, rfl⟩
    rw [List.append_nil]
    split at hdone
    · next hunchanged =>
      obtain ⟨rfl, rfl⟩ := hdone
      apply moves_of_alone hattends (.of_eq rfl)
      rintro ⟨hold, -⟩
      rw [Write.place] at hold ⊢
      rw [hsent, hold]
      exact .inr (.rested hunchanged rfl (.alone (child?_of_alone hattends _)))
    · next hchanged =>
      obtain ⟨hstored, hshows⟩ := hdone
      apply moves_of_alone hattends ⟨_, hstored⟩
      rintro ⟨hold, -⟩
      rw [hold, hsent, Write.place, hstored, Function.update_self]
      exact .inr (.renewed (Bool.eq_false_iff.2 hchanged) hshows
        (.alone (child?_of_alone hattends o)))
  · rintro s es s' (⟨hmissed, -, hlocated⟩ | ⟨_, _, _, _, _, _, hnever⟩)
    · exact moves_of_alone hattends hlocated fun _ => .inl hmissed
    · exact hnever.elim

theorem traces_write_alone (hattends : keeper.attends = false)
    (hlasting : keeper.Lasting stored children) (timeout : Nat) (now : Nat → Timestamp)
    (platform : Call σ (List Record)) (platform' : Call (σ × List Sent) (List Record))
    {x : Write (Object Spec Status)} (hx : keeper.Permits x) {new : Object Spec Status}
    (hnew : x.new? = some new) :
    Call.Traces ((keeper.traced.sides timeout now platform').write x)
      ((keeper.sides timeout now platform).write x)
      (fun s _ es s' => keeper.Moves stored children x true es s s')
      fun s es s' => keeper.Moves stored children x false es s s' := by
  have hattends' : keeper.traced.attends = false := by rw [attends_traced, hattends]
  rw [write_of_alone hattends, write_of_alone hattends', kind_traced, api_traced]
  cases x with
  | create new => exact traces_create_alone hattends hlasting hx
  | update old new => exact traces_update_alone hattends hlasting hx.2
  | delete old => cases hnew

/-! ### Writes of edge ingresses with their child ingresses -/

section

variable {settings : ChildSettings} {apis : Child.Apis σ}
  {stored : σ → Store EdgeIngressSpec EdgeIngressStatus}
  {children : σ → Target → Option Child.Stored} {place : Target} {edge : EdgeIngress}
  {mid s s' : σ} {ok : Bool} {es : List Sent}

theorem located_of_both (hobject : Located stored place s s')
    (hchild : Located children place s s') :
    Located ((edgesWithChildren settings apis).seat stored children) place s s' := by
  apply Located.of_ne
  intro other hother
  rw [seat, seat, hobject.eq_of_ne hother, hchild.eq_of_ne hother]

/-- The child ingress of a stored edge ingress is stored, and belongs to it. -/
theorem attended_of_renews (hfaithful : apis.edges.Faithful EdgeIngress.kind stored)
    (hedge : stored mid place = some edge)
    (h : Child.Renews settings stored children edge ok es mid s') :
    Missed es ∨ ∃ o, stored s' place = some o ∧
      o.face EdgeIngress.reading = edge.face EdgeIngress.reading ∧
      (edgesWithChildren settings apis).Attended place o ok (Sent.children es)
        (Object.owned (some o) (children s' place)) := by
  have hplace := Child.placeOf_eq hfaithful hedge
  rcases h.done (hplace ▸ hedge) with hmissed | hdone
  · exact .inl hmissed
  right
  have hsame : ∀ {o : EdgeIngress}, stored s' place = some o →
      o.face EdgeIngress.reading = edge.face EdgeIngress.reading →
      Child.ofEdge settings o = Child.ofEdge settings edge := fun ho hface =>
    Child.ofEdge_eq_of_face hfaithful ho hedge hface
  cases hingress : Child.ofEdge settings edge with
  | error error =>
      rw [hingress] at hdone
      obtain ⟨rfl, o, ho, hface, -⟩ := hdone
      rw [hplace] at ho
      have herror : (edgesWithChildren settings apis).child? o = some (.error error) :=
        congrArg some ((hsame ho hface).trans hingress)
      exact ⟨o, ho, hface, .unlinked herror⟩
  | ok ingress =>
      rw [hingress] at hdone
      obtain ⟨rfl, ⟨o, ho, hface, hup⟩, hsent, hchild⟩ := hdone
      rw [hplace] at ho hsent hchild
      refine ⟨o, ho, hface, ?_⟩
      have huid : o.metadata.uid = edge.metadata.uid := congrArg Face.uid hface
      have howned : Object.owned (some o) (children s' place) = some (.of ingress) := by
        rw [hchild, Object.owned, Option.bind_some, huid]
        simp [Child.owners_of_ofEdge hingress]
      rw [howned, hsent]
      exact .linked (congrArg some ((hsame ho hface).trans hingress)) hup

theorem Moves.of_renews (hfaithful : apis.edges.Faithful EdgeIngress.kind stored)
    {x : Write EdgeIngress} {first rest : List Sent} (hfirst : Sent.children first = [])
    (hobject : Located stored (x.place EdgeIngress.kind) s mid) (hchildren : children mid = children s)
    (hplace : Child.placeOf edge = x.place EdgeIngress.kind)
    (hedge : x.Suits (stored s (x.place EdgeIngress.kind)) →
      stored mid (x.place EdgeIngress.kind) = some edge)
    (hrenews : Child.Renews settings stored children edge ok rest mid s')
    (hcomes : ∀ o child, x.Suits (stored s (x.place EdgeIngress.kind)) →
      o.face EdgeIngress.reading = edge.face EdgeIngress.reading →
      (edgesWithChildren settings apis).Attended (x.place EdgeIngress.kind) o ok
        (Sent.children rest) child →
      (edgesWithChildren settings apis).Comes x ok (Sent.children rest)
        ((edgesWithChildren settings apis).seat stored children s (x.place EdgeIngress.kind))
        ⟨some o, child⟩) :
    (edgesWithChildren settings apis).Moves stored children x ok (first ++ rest) s s' := by
  refine ⟨located_of_both (hobject.trans (hplace ▸ hrenews.object))
    ((Located.of_eq hchildren).trans (hplace ▸ hrenews.child)), fun hsuits => ?_⟩
  rcases attended_of_renews hfaithful (hedge hsuits) hrenews with
    hmissed | ⟨o, ho, hface, hattended⟩
  · exact .inl (Sent.missed_append.2 (.inr hmissed))
  · right
    have hseat : (edgesWithChildren settings apis).seat stored children s'
        (x.place EdgeIngress.kind) =
          ⟨some o, Object.owned (some o) (children s' (x.place EdgeIngress.kind))⟩ := by
      rw [← ho]
      rfl
    rw [Sent.children_append, hfirst, List.nil_append]
    exact hseat ▸ hcomes o _ hsuits hface hattended

theorem traces_create_children (hlasting : (edgesWithChildren settings apis).Lasting stored children)
    {new : EdgeIngress} (hnew : (edgesWithChildren settings apis).Ready new) :
    Call.Traces (Child.write settings apis.traced (.create new))
      (Child.write settings apis (.create new))
      (fun s _ es s' => (edgesWithChildren settings apis).Moves stored children (.create new) true
        es s s')
      fun s es s' => (edgesWithChildren settings apis).Moves stored children (.create new) false
        es s s' := by
  obtain ⟨hfaithful, hlasting, howning⟩ := hlasting
  obtain ⟨hwanted, status, hstatus, hwrites⟩ := hnew
  obtain ⟨name, hname⟩ := hwanted.named
  have hcreate := (Upkeep.traces_create hfaithful.edges hlasting hname hstatus hwrites).and_state
    (fun s s' => children s' = children s)
    (Upkeep.leaves_create howning.create howning.patchStatus new)
  have hrenew := Child.traces_renew hfaithful hlasting howning settings
  have hdone : ∀ {s mid s' : σ} {edge : EdgeIngress} {ok : Bool} {first rest : List Sent},
      Sent.children first = [] → stored s (Upkeep.target EdgeIngress.kind new) = none →
      stored mid = Function.update (stored s) (Upkeep.target EdgeIngress.kind new) (some edge) →
      edge.Shows EdgeIngress.reading new → children mid = children s →
      Child.Renews settings stored children edge ok rest mid s' →
      (edgesWithChildren settings apis).Moves stored children (.create new) ok (first ++ rest)
        s s' := by
    intro s mid s' edge ok first rest hfirst hfree hstored hshows hchildren hrenews
    have hedge : stored mid (Upkeep.target EdgeIngress.kind new) = some edge := by
      rw [hstored, Function.update_self]
    refine .of_renews hfaithful.edges hfirst ⟨_, hstored⟩ hchildren
      (Child.placeOf_eq hfaithful.edges hedge) (fun _ => hedge) hrenews ?_
    intro o child _ hface hattended
    rw [seat, Write.place, hfree]
    exact .created (hshows.of_face_eq hface) hattended
  refine Call.Traces.imp (hcreate.bind hrenew) ?_ ?_
  · rintro s _ es s' ⟨edge, mid, first, rest, rfl, ⟨⟨hsent, hfree, hstored, hshows⟩, hchildren⟩,
      hrenews⟩
    exact hdone hsent hfree hstored hshows hchildren hrenews
  · rintro s es s' (⟨⟨hmissed, -, hlocated⟩, hchildren⟩ | ⟨edge, mid, first, rest, rfl,
      ⟨⟨hsent, hfree, hstored, hshows⟩, hchildren⟩, hrenews⟩)
    · exact .of_missed (located_of_both hlocated (.of_eq hchildren)) hmissed
    · exact hdone hsent hfree hstored hshows hchildren hrenews

theorem traces_update_children (hlasting : (edgesWithChildren settings apis).Lasting stored children)
    {old new : EdgeIngress}
    (hplace : Child.placeOf old = Upkeep.target EdgeIngress.kind old)
    (hnew : (edgesWithChildren settings apis).Ready new) :
    Call.Traces (Child.write settings apis.traced (.update old new))
      (Child.write settings apis (.update old new))
      (fun s _ es s' => (edgesWithChildren settings apis).Moves stored children (.update old new) true
        es s s')
      fun s es s' => (edgesWithChildren settings apis).Moves stored children (.update old new) false
        es s s' := by
  obtain ⟨hfaithful, hlasting, howning⟩ := hlasting
  obtain ⟨hwanted, status, hstatus, hwrites⟩ := hnew
  have hupdate := (Upkeep.traces_update hfaithful.edges hlasting hwanted hstatus hwrites).and_state
    (fun s s' => children s' = children s)
    (Upkeep.leaves_update howning.replace howning.patchStatus old new)
  have hrenew := Child.traces_renew hfaithful hlasting howning settings
  have hdone : ∀ {s mid s' : σ} {edge : EdgeIngress} {ok : Bool} {first rest : List Sent},
      Sent.children first = [] →
      (if Upkeep.unchanged EdgeIngress.kind old new then edge = old ∧ mid = s
        else stored mid =
            Function.update (stored s) (Upkeep.target EdgeIngress.kind old) (some edge) ∧
          edge.Shows EdgeIngress.reading new) → children mid = children s →
      Child.Renews settings stored children edge ok rest mid s' →
      (edgesWithChildren settings apis).Moves stored children (.update old new) ok (first ++ rest)
        s s' := by
    intro s mid s' edge ok first rest hfirst hupdated hchildren hrenews
    split at hupdated
    · next hunchanged =>
      obtain ⟨rfl, rfl⟩ := hupdated
      refine .of_renews hfaithful.edges hfirst (.of_eq rfl) hchildren hplace (fun h => h.1)
        hrenews ?_
      rintro o child ⟨hold, -⟩ hface hattended
      rw [seat, hold]
      exact .rested hunchanged hface hattended
    · next hchanged =>
      obtain ⟨hstored, hshows⟩ := hupdated
      have hedge : stored mid (Upkeep.target EdgeIngress.kind old) = some edge := by
        rw [hstored, Function.update_self]
      refine .of_renews hfaithful.edges hfirst ⟨_, hstored⟩ hchildren
        (Child.placeOf_eq hfaithful.edges hedge) (fun _ => hedge) hrenews ?_
      rintro o child ⟨hold, -⟩ hface hattended
      rw [seat, hold]
      exact .renewed (Bool.eq_false_iff.2 hchanged) (hshows.of_face_eq hface) hattended
  refine Call.Traces.imp (hupdate.bind hrenew) ?_ ?_
  · rintro s _ es s' ⟨edge, mid, first, rest, rfl, ⟨⟨hsent, hupdated⟩, hchildren⟩, hrenews⟩
    exact hdone hsent hupdated hchildren hrenews
  · rintro s es s' (⟨⟨hmissed, -, hlocated⟩, hchildren⟩ | ⟨edge, mid, first, rest, rfl,
      ⟨⟨hsent, hupdated⟩, hchildren⟩, hrenews⟩)
    · exact .of_missed (located_of_both hlocated (.of_eq hchildren)) hmissed
    · exact hdone hsent hupdated hchildren hrenews

end

/-- A write that asks for an object changes what lies at its place alone. -/
theorem traces_request (hlasting : keeper.Lasting stored children) (timeout : Nat)
    (now : Nat → Timestamp) (platform : Call σ (List Record))
    (platform' : Call (σ × List Sent) (List Record)) {x : Write (Object Spec Status)}
    (hx : keeper.Permits x) {new : Object Spec Status} (hnew : x.new? = some new) :
    Call.Traces ((keeper.traced.sides timeout now platform').write x)
      ((keeper.sides timeout now platform).write x)
      (fun s _ es s' => keeper.Moves stored children x true es s s')
      fun s es s' => keeper.Moves stored children x false es s s' := by
  cases keeper with
  | catalogs api => exact traces_write_alone rfl hlasting timeout now platform platform' hx hnew
  | edges api => exact traces_write_alone rfl hlasting timeout now platform platform' hx hnew
  | edgesWithChildren settings apis =>
      cases x with
      | create new => exact traces_create_children hlasting hx
      | update old new =>
          obtain ⟨hholds, hnew⟩ := hx
          exact traces_update_children hlasting (Child.placeOf_eq_target hholds) hnew
      | delete old => cases hnew

/-! ### Deletions -/

theorem seat_of_none {s : σ} {place : Target} (h : stored s place = none) :
    keeper.seat stored children s place = ⟨none, none⟩ := by
  rw [seat, h]
  split <;> rfl

/-- A child ingress stays with the object that owns it alone. -/
theorem owned_of_kept {s s' : σ} {place : Target} {o : Object Spec Status}
    (hkept : Child.Kept stored children s s') (hbefore : stored s place = some o)
    (hafter : stored s' place = some o) (q : Target) :
    Object.owned (some o) (children s' q) = Object.owned (some o) (children s q) := by
  rcases hkept q with hsame | ⟨hgone, howner⟩
  · rw [hsame]
  · rw [hgone]
    cases hchild : children s q with
    | none => rfl
    | some child =>
        have hother : child.owners ≠ o.metadata.uid.toList := by
          intro howners
          rw [howner place o child hbefore hchild howners] at hafter
          cases hafter
        rw [Object.owned, Object.owned, Option.bind_some, Option.bind_some, Option.filter_some,
          if_neg (by simpa using hother), Option.filter_none]

theorem seat_of_kept {s s' : σ} {place : Target}
    (hkept : keeper.attends = true → Child.Kept stored children s s')
    (hsame : stored s' place = stored s place) :
    keeper.seat stored children s' place = keeper.seat stored children s place := by
  rw [seat, seat, hsame]
  split
  · next hattends =>
    cases ho : stored s place with
    | none => rfl
    | some o => rw [owned_of_kept (hkept hattends) ho (hsame.trans ho)]
  · rfl

theorem empties_seat {s s' : σ} {along : Target → Prop} {place : Target}
    (hkept : keeper.attends = true → Child.Kept stored children s s')
    (h : Empties stored none along place s s') :
    Empties (keeper.seat stored children) ⟨none, none⟩ along place s s' :=
  ⟨seat_of_none h.gone, fun other hother =>
    (h.others other hother).imp (seat_of_kept hkept) (.imp_left seat_of_none)⟩

/-- A deletion takes along what belongs to the deleted object at most. -/
theorem Collects.removes {census : Census σ ι D} (hcollects : keeper.Collects census stored children)
    (old : Object Spec Status) (w : World σ) :
    keeper.Removes stored children (census.Owns (keeper.slot census)) old
      (Sent.note .delete (keeper.api.delete (Upkeep.target keeper.kind old) w).1) w.state
      (keeper.api.delete (Upkeep.target keeper.kind old) w).2.state := by
  have hkept := fun hattends => hcollects.children hattends (Upkeep.target keeper.kind old) w
  rcases hcollects.api.cases (Upkeep.target keeper.kind old) w with ⟨hmissed, hsame⟩ | hempties
  · refine .inl ⟨⟨_, .head _, hmissed⟩, ?_⟩
    funext place
    exact seat_of_kept hkept (congrFun hsame place)
  · exact .inr (empties_seat hkept hempties)

theorem write_delete (timeout : Nat) (now : Nat → Timestamp) (platform : Call σ (List Record))
    (old : Object Spec Status) :
    (keeper.sides timeout now platform).write (.delete old) =
      Upkeep.delete keeper.kind keeper.api old := by
  cases keeper <;> rfl

/-- What a write of a pass does, by what a deletion does. -/
theorem traces_write {removes : Object Spec Status → List Sent → σ → σ → Prop}
    (hlasting : keeper.Lasting stored children)
    (hremoves : ∀ old w, removes old
      (Sent.note .delete (keeper.api.delete (Upkeep.target keeper.kind old) w).1) w.state
      (keeper.api.delete (Upkeep.target keeper.kind old) w).2.state)
    (timeout : Nat) (now : Nat → Timestamp) (platform : Call σ (List Record))
    (platform' : Call (σ × List Sent) (List Record)) {x : Write (Object Spec Status)}
    (hx : keeper.Permits x) :
    Call.Traces ((keeper.traced.sides timeout now platform').write x)
      ((keeper.sides timeout now platform).write x)
      (fun s _ es s' => keeper.Does stored children removes x true es s s')
      fun s es s' => keeper.Does stored children removes x false es s s' := by
  cases x with
  | create new => exact traces_request hlasting timeout now platform platform' hx rfl
  | update old new => exact traces_request hlasting timeout now platform platform' hx rfl
  | delete old =>
      rw [write_delete, write_delete, kind_traced, api_traced]
      exact Call.Traces.context (Call.Traces.of_forall _ fun w => ⟨⟨_, rfl⟩, hremoves old w⟩) _

end Keeper

end EdgeAgent
