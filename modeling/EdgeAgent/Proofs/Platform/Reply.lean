import EdgeAgent.Proofs.Cluster.Converged
import EdgeAgent.Proofs.Sync.Watched
import Mathlib.Data.List.Forall2

/-! Which replies of the platform count as a list of its records. A reply counts only as a whole: its
status is 200, its body is complete and holds a JSON array, and every item of the array decodes.
With any other reply a pass ends before the cluster is asked for anything, so no reply is mistaken
for a shorter list and no object is removed because of it. -/

namespace EdgeAgent

/-- The items of a list that is closed. -/
def Items.toList? : Items → Option (List Doc)
  | .closed => some []
  | .cut => none
  | .more item rest => rest.toList?.map (item :: ·)

namespace Decode

variable {α : Type} {decode : Decoder α}

theorem items_eq_ok_iff (xs : Items) (ys : List α) :
    items decode xs = .ok ys ↔
      ∃ ds, xs.toList? = some ds ∧ List.Forall₂ (fun d y => decode d = .ok y) ds ys := by
  match xs with
  | .closed =>
      rw [items, Items.toList?]
      constructor
      · intro h
        cases h
        exact ⟨[], rfl, .nil⟩
      · rintro ⟨ds, hds, hall⟩
        cases hds
        cases hall
        rfl
  | .cut =>
      rw [items, Items.toList?]
      constructor
      · intro h
        cases h
      · rintro ⟨ds, hds, -⟩
        cases hds
  | .more item rest =>
      rw [items, Items.toList?, bind_eq_ok]
      constructor
      · rintro ⟨y, hitem, hrest⟩
        obtain ⟨later, hlater, hcons⟩ := bind_eq_ok.1 hrest
        cases hcons
        obtain ⟨ds, hds, hall⟩ := (items_eq_ok_iff rest later).1 hlater
        exact ⟨item :: ds, by rw [hds]; rfl, .cons hitem hall⟩
      · rintro ⟨ds, hds, hall⟩
        obtain ⟨later, hlater, rfl⟩ := Option.map_eq_some_iff.1 hds
        cases hall with
        | cons hitem hall =>
            have hrest := (items_eq_ok_iff rest _).2 ⟨later, hlater, hall⟩
            exact ⟨_, hitem, bind_eq_ok.2 ⟨_, hrest, rfl⟩⟩

/-- Only an array is a list. -/
theorem list_eq_ok_iff {d : Doc} {ys : List α} :
    list decode d = .ok ys ↔ ∃ xs ds, d = .arr xs ∧ xs.toList? = some ds ∧
      List.Forall₂ (fun d y => decode d = .ok y) ds ys := by
  cases d with
  | arr xs =>
      rw [list, items_eq_ok_iff]
      constructor
      · rintro ⟨ds, hds, hall⟩
        exact ⟨xs, ds, rfl, hds, hall⟩
      · rintro ⟨_, ds, ⟨⟩, hds, hall⟩
        exact ⟨ds, hds, hall⟩
  | _ =>
      constructor
      · intro h
        cases h
      · rintro ⟨_, _, h, -⟩
        cases h

/-- Bytes have a value when they hold one and nothing but blanks after it. -/
theorem bytes_eq_ok_iff {bs : List UInt8} {y : α} :
    bytes decode bs = .ok y ↔ ∃ d, Doc.ofBytes bs = (d, true) ∧ decode d = .ok y := by
  rw [bytes]
  cases hread : Doc.ofBytes bs with
  | mk d complete =>
  constructor
  · intro h
    obtain ⟨x, hx, hcomplete⟩ := bind_eq_ok.1 h
    cases complete with
    | false => cases hcomplete
    | true =>
        cases hcomplete
        exact ⟨d, rfl, hx⟩
  · rintro ⟨_, ⟨⟩, hdecode⟩
    exact bind_eq_ok.2 ⟨y, hdecode, rfl⟩

end Decode

namespace PlatformReply

variable {α : Type} {decode : Decoder α} {r : PlatformReply}

/-- A complete reply of status 200 whose body is a JSON array of these items. -/
def Holds (r : PlatformReply) (ds : List Doc) : Prop :=
  r.status = 200 ∧ r.complete = true ∧
    ∃ items, Doc.ofBytes r.body = (.arr items, true) ∧ items.toList? = some ds

/-- A reply holds an array of which every item decodes as a record. -/
def Lists (decode : Decoder α) (r : PlatformReply) : Prop :=
  ∃ ds, r.Holds ds ∧ ∀ d ∈ ds, ∃ x, decode d = .ok x

theorem Holds.eq {ds ds' : List Doc} (h : r.Holds ds) (h' : r.Holds ds') : ds = ds' := by
  obtain ⟨-, -, items, hitems, hds⟩ := h
  obtain ⟨-, -, items', hitems', hds'⟩ := h'
  have hsame : items = items' := by
    rw [hitems] at hitems'
    cases hitems'
    rfl
  rw [hsame, hds'] at hds
  exact (Option.some.inj hds).symm

/-- One item that does not decode is enough. -/
theorem Holds.not_lists {before after : List Doc} {bad : Doc} {fault : Fault}
    (h : r.Holds (before ++ bad :: after)) (hbad : decode bad = .error fault) :
    ¬r.Lists decode := by
  rintro ⟨ds, hds, hall⟩
  rw [hds.eq h] at hall
  obtain ⟨x, hx⟩ := hall bad (by simp)
  rw [hbad] at hx
  cases hx

theorem records_eq_ok_iff {xs : List α} :
    r.records decode = .ok xs ↔
      ∃ ds, r.Holds ds ∧ List.Forall₂ (fun d x => decode d = .ok x) ds xs := by
  have hbytes : Decode.bytes (Decode.list decode) r.body = .ok xs ↔
      ∃ ds, (∃ items, Doc.ofBytes r.body = (.arr items, true) ∧ items.toList? = some ds) ∧
        List.Forall₂ (fun d x => decode d = .ok x) ds xs := by
    rw [Decode.bytes_eq_ok_iff]
    constructor
    · rintro ⟨d, hread, hlist⟩
      obtain ⟨items, ds, rfl, hitems, hall⟩ := Decode.list_eq_ok_iff.1 hlist
      exact ⟨ds, ⟨items, hread, hitems⟩, hall⟩
    · rintro ⟨ds, ⟨items, hread, hitems⟩, hall⟩
      exact ⟨.arr items, hread, Decode.list_eq_ok_iff.2 ⟨items, ds, rfl, hitems, hall⟩⟩
  rw [records]
  by_cases hstatus : r.status = 200
  · cases hcomplete : r.complete with
    | false =>
        rw [if_neg (not_not.2 hstatus), if_pos (show (!false) = true from rfl)]
        simp [Holds, hcomplete]
    | true =>
        rw [if_neg (not_not.2 hstatus), if_neg (by decide)]
        simp only [Holds, hstatus, hcomplete, true_and]
        rw [← hbytes]
        cases Decode.bytes (Decode.list decode) r.body with
        | ok ys => simp
        | error fault => simp
  · rw [if_pos hstatus]
    simp [Holds, hstatus]

/-- A reply that lists its records gives all of them, and any other reply none. -/
theorem lists_iff : r.Lists decode ↔ ∃ xs, r.records decode = .ok xs := by
  constructor
  · rintro ⟨ds, hds, hall⟩
    have hxs : ∃ xs, List.Forall₂ (fun d x => decode d = .ok x) ds xs := by
      clear hds
      induction ds with
      | nil => exact ⟨[], .nil⟩
      | cons d ds ih =>
          rw [List.forall_mem_cons] at hall
          obtain ⟨x, hx⟩ := hall.1
          obtain ⟨xs, hxs⟩ := ih hall.2
          exact ⟨x :: xs, .cons hx hxs⟩
    obtain ⟨xs, hxs⟩ := hxs
    exact ⟨xs, records_eq_ok_iff.2 ⟨ds, hds, hxs⟩⟩
  · rintro ⟨xs, hxs⟩
    obtain ⟨ds, hds, hall⟩ := records_eq_ok_iff.1 hxs
    refine ⟨ds, hds, fun d hd => ?_⟩
    obtain ⟨i, hi, rfl⟩ := List.getElem_of_mem hd
    have hlength := hall.length_eq
    exact ⟨xs[i], (List.forall₂_iff_get.1 hall).2 i hi (hlength ▸ hi)⟩

end PlatformReply

namespace Keeper

variable {σ Record Spec Status : Type}

/-- How the records of a reply are read. -/
def decode : Keeper σ Record Spec Status → Decoder Record
  | catalogs _ => CatalogRecord.decode
  | edges _ => EdgeIngressRecord.decode
  | edgesWithChildren _ _ => EdgeIngressRecord.decode

theorem desired_of_reply (keeper : Keeper σ Record Spec Status) (timeout : Nat)
    (now : Nat → Timestamp) (reply : PlatformReply) (w : World σ) :
    (keeper.sides timeout now (reply.answer keeper.decode)).desired w =
      match reply.records keeper.decode with
      | .ok records => (.ok (materialized keeper.materialize now records), w)
      | .error e => (.error (.failed e.message), w) := by
  have hanswer : (reply.answer keeper.decode : Call σ (List Record)) =
      Call.given (((reply.records keeper.decode).mapError PlatformError.message).mapError
        Stop.failed) := by
    rw [PlatformReply.answer]
    cases reply.records keeper.decode <;> rfl
  rw [hanswer, desired_sides]
  cases reply.records keeper.decode <;> rfl

/-- Unless a reply lists its records as a whole, a pass sends the cluster nothing and counts one
aborted pass and no operation. One item that does not decode is enough, however many do. A reply
that does list its records is never taken for a failure of the platform. -/
theorem count_of_reply (keeper : Keeper σ Record Spec Status) (timeout : Nat)
    (now : Nat → Timestamp) (reply : PlatformReply) (c : Counted (σ × List Exchange)) :
    let sides := keeper.noted.sides timeout now (reply.answer keeper.decode)
    (¬reply.Lists keeper.decode →
      (∃ error, reply.records keeper.decode = .error error ∧
        (sides.count c).world = Sides.reported c.world
          [Side.platform.entry keeper.kind.name error.message]) ∧
      (sides.count c).world.state = c.world.state ∧
      (sides.count c).counters = { c.counters with aborted := c.counters.aborted + 1 }) ∧
    (∀ before bad after fault, reply.Holds (before ++ bad :: after) →
      keeper.decode bad = .error fault → (sides.count c).world.state = c.world.state) ∧
    (reply.Lists keeper.decode → ∀ error, (sides.pass c.world).1 ≠ .aborted .platform error) := by
  intro sides
  have hdecode : keeper.noted.decode = keeper.decode := by cases keeper <;> rfl
  have hdesired := keeper.noted.desired_of_reply timeout now reply c.world
  rw [hdecode] at hdesired
  have hfailed : ¬reply.Lists keeper.decode → ∃ error,
      reply.records keeper.decode = .error error ∧
      sides.pass c.world = (.aborted .platform error.message, Sides.reported c.world
        [Side.platform.entry keeper.kind.name error.message]) := by
    intro hreply
    rw [PlatformReply.lists_iff] at hreply
    cases hrecords : reply.records keeper.decode with
    | ok records => exact absurd ⟨records, hrecords⟩ hreply
    | error error =>
        rw [hrecords] at hdesired
        refine ⟨error, rfl, ?_⟩
        have hpass := Sides.pass_of_platform_error hdesired
        rw [kind_sides, kind_noted] at hpass
        exact hpass
  have hstate : ¬reply.Lists keeper.decode → (sides.count c).world.state = c.world.state := by
    intro hreply
    obtain ⟨error, -, hpass⟩ := hfailed hreply
    rw [Sides.count, hpass]
    rfl
  refine ⟨fun hreply => ⟨?_, hstate hreply, ?_⟩, ?_, ?_⟩
  · obtain ⟨error, hrecords, hpass⟩ := hfailed hreply
    refine ⟨error, hrecords, ?_⟩
    rw [Sides.count, hpass]
  · obtain ⟨error, -, hpass⟩ := hfailed hreply
    rw [Sides.count, hpass]
    exact Counters.add_aborted c.counters .platform error.message
  · intro before bad after fault hholds hbad
    exact hstate (hholds.not_lists hbad)
  · intro hreply error hpass
    obtain ⟨records, hrecords⟩ := PlatformReply.lists_iff.1 hreply
    rw [hrecords] at hdesired
    cases hexisting : sides.existing c.world with
    | mk answer w =>
    cases answer with
    | error stop =>
        rw [Sides.pass_of_cluster_error hdesired hexisting] at hpass
        cases hpass
    | ok existing =>
        rw [Sides.pass_of_lists hdesired hexisting] at hpass
        cases hpass

end Keeper

namespace Shelf

/-- Two records of which the second has no name. -/
def nameless : PlatformReply where
  status := 200
  body := "[\x7b\"name\":\"shop\"\x7d,\x7b\x7d]".toUTF8.toList
  complete := true

/-- With such a reply the catalog of another name is left alone. -/
theorem count_of_reply_nameless :
    let sides := keeper.noted.sides 1000 (declaring "a").now (nameless.answer keeper.decode)
    ¬nameless.Lists keeper.decode ∧
      (sides.count ⟨renamed.noted [], {}⟩).world.state = (renamed.state, []) ∧
      (sides.count ⟨renamed.noted [], {}⟩).counters.aborted = 1 := by
  intro sides
  have hreply : ¬nameless.Lists keeper.decode := by
    rw [PlatformReply.lists_iff]
    rintro ⟨records, hrecords⟩
    have hrefused : nameless.records CatalogRecord.decode = .error .undecodable := by
      decide +kernel
    exact nomatch hrefused.symm.trans hrecords
  obtain ⟨-, hstate, hcounters⟩ := (keeper.count_of_reply 1000 (declaring "a").now nameless
    ⟨renamed.noted [], {}⟩).1 hreply
  exact ⟨hreply, hstate, congrArg Counters.aborted hcounters⟩

end Shelf

end EdgeAgent
