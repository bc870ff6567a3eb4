import EdgeAgent.Proofs.Routing.LastChange
import EdgeAgent.Proofs.Sync.Plan
import Mathlib.Data.List.Find

/-!
What a key says about its object. A key is cut at its last `@`, so that a name may hold the mark but
a namespace may not. Objects whose names and namespaces are without the mark have one key exactly
when they agree in both; an empty namespace counts as none. So what is kept by key, be it the
objects that no record has asked for yet or the routes of policies, is kept apart for each of them.
-/

namespace EdgeAgent

namespace Key

variable {name other ns : String} {none? : Option String}

theorem toList_of (h : ns ≠ "") :
    (of name (some ns)).text.toList = name.toList ++ '@' :: ns.toList := by
  rw [of, if_neg h, String.toList_ofList]

theorem of_of_empty (h : none?.getD "" = "") : of name none? = ⟨name⟩ := by
  cases none? with
  | none => rfl
  | some ns => exact if_pos h

theorem name_of_empty (hname : '@' ∉ name.toList) (h : none?.getD "" = "") :
    (of name none?).name = name := by
  rw [of_of_empty h, Key.name, cutLast_eq_none_iff.2 hname]

theorem ns?_of_empty (hname : '@' ∉ name.toList) (h : none?.getD "" = "") :
    (of name none?).ns? = none := by
  rw [of_of_empty h, ns?, cutLast_eq_none_iff.2 hname, Option.map_none]

/-- A key without the mark is that of no object in a namespace. -/
theorem of_ne_of_empty (hname : '@' ∉ name.toList) (h : none?.getD "" = "") (hns : ns ≠ "") :
    of other (some ns) ≠ of name none? := by
  intro heq
  have hmark : '@' ∈ (of other (some ns)).text.toList := by
    rw [toList_of hns]
    simp
  rw [heq, of_of_empty h] at hmark
  exact hname hmark

theorem ext_toList {key key' : Key} (h : key.text.toList = key'.text.toList) : key = key' := by
  cases key
  cases key'
  exact congrArg Key.mk (String.toList_inj.1 h)

/-- A key is made of its name and its namespace unless the mark stands at its end. -/
theorem of_name_ns?_iff (key : Key) :
    of key.name key.ns? = key ↔ key.text.toList.getLast? ≠ some '@' := by
  cases hcut : cutLast '@' key.text.toList with
  | none =>
      refine iff_of_true ?_ fun hlast => cutLast_eq_none_iff.1 hcut (List.mem_of_getLast? hlast)
      rw [Key.name, ns?, hcut]
      rfl
  | some parts =>
      obtain ⟨before, after⟩ := parts
      obtain ⟨hsplit, habsent⟩ := cutLast_eq_some hcut
      have hname : key.name = String.ofList before := by rw [Key.name, hcut]
      have hns : key.ns? = some (String.ofList after) := by rw [ns?, hcut, Option.map_some]
      rw [hname, hns]
      by_cases hempty : after = []
      · -- Nothing is left of the mark in a key that is made without a namespace.
        subst hempty
        refine iff_of_false (fun heq => ?_) (by simp [hsplit])
        have hlength := congrArg (fun key => key.text.toList.length) heq
        have hmade : of (String.ofList before) (some (String.ofList [])) = ⟨String.ofList before⟩ :=
          of_of_empty rfl
        simp [hmade, hsplit] at hlength
      · have hne : String.ofList after ≠ "" :=
          fun h => hempty (by simpa using congrArg String.toList h)
        refine iff_of_true (ext_toList ?_) fun hlast => habsent ?_
        · rw [toList_of hne, String.toList_ofList, String.toList_ofList, hsplit]
        · rw [hsplit, List.getLast?_append, List.getLast?_cons_of_ne_nil hempty] at hlast
          refine List.mem_of_getLast? (l := after) ?_
          cases hafter : after.getLast? with
          | none => exact absurd (List.getLast?_eq_none_iff.1 hafter) hempty
          | some c => simpa [hafter] using hlast

end Key

/-! ### Names and namespaces -/

/-- What an object is called: its name, and the namespace that it is in if it is in one. -/
structure Naming where
  name : String
  ns : Option String
  deriving DecidableEq

namespace Naming

def key (n : Naming) : Key :=
  .of n.name n.ns

/-- The name and the namespace, of which an empty one is none. -/
def parts (n : Naming) : String × String :=
  (n.name, n.ns.getD "")

/-- The mark between a name and a namespace stands in neither of them. -/
def Unmarked (n : Naming) : Prop :=
  '@' ∉ n.parts.1.toList ∧ '@' ∉ n.parts.2.toList

instance (n : Naming) : Decidable n.Unmarked :=
  inferInstanceAs (Decidable (_ ∧ _))

variable {n m : Naming}

/-- The name and the namespace can be read off the key. -/
theorem parts_key (hn : n.Unmarked) : (n.key.name, n.key.ns?.getD "") = n.parts := by
  obtain ⟨name, ns⟩ := n
  have hname : '@' ∉ name.toList := hn.1
  by_cases hempty : ns.getD "" = ""
  · rw [key, Key.name_of_empty hname hempty, Key.ns?_of_empty hname hempty, parts, hempty]
    rfl
  · cases ns with
    | none => exact absurd rfl hempty
    | some space =>
        have hspace : '@' ∉ space.toList := hn.2
        have hne : space ≠ "" := hempty
        rw [key, Key.name_of hne hspace, Key.ns?_of hne hspace]
        rfl

theorem key_congr (h : n.parts = m.parts) : n.key = m.key := by
  obtain ⟨name, ns⟩ := n
  obtain ⟨name', ns'⟩ := m
  obtain ⟨rfl, hns⟩ := Prod.mk.inj h
  by_cases hempty : ns.getD "" = ""
  · rw [key, key, Key.of_of_empty hempty, Key.of_of_empty (hns ▸ hempty)]
  · cases ns with
    | none => exact absurd rfl hempty
    | some space =>
        cases ns' with
        | none => exact absurd hns hempty
        | some space' =>
            obtain rfl : space = space' := hns
            rfl

/-- Objects have one key exactly when they agree in name and namespace. -/
theorem key_eq_iff (hn : n.Unmarked) (hm : m.Unmarked) : n.key = m.key ↔ n.parts = m.parts := by
  refine ⟨fun heq => ?_, key_congr⟩
  rw [← parts_key hn, ← parts_key hm, heq]

theorem key_text_eq_iff (hn : n.Unmarked) (hm : m.Unmarked) :
    n.key.text = m.key.text ↔ n.parts = m.parts := by
  rw [← key_eq_iff hn hm]
  exact ⟨fun h => Key.ext_toList (congrArg String.toList h), congrArg Key.text⟩

/-! ### What is kept by key -/

/-- Of values under the keys of objects, the one is found that is given last for the very object. -/
theorem find?_ofList {α : Type} {entries : List (Naming × α)}
    (hentries : ∀ e ∈ entries, e.1.Unmarked) (hn : n.Unmarked) :
    (Dict.ofList (entries.map fun e => (e.1.key.text, e.2))).find? n.key.text =
      (entries.findRev? fun e => e.1.parts = n.parts).map (·.2) := by
  rw [Dict.find?_ofList, List.findRev?_eq_find?_reverse, List.findRev?_eq_find?_reverse,
    ← List.map_reverse, List.find?_map, Option.map_map]
  congr 1
  refine List.find?_congr fun e he => ?_
  exact decide_eq_decide.2 (key_text_eq_iff (hentries e (List.mem_reverse.1 he)) hn)

variable {R : Type} {naming : R → Naming}

theorem leftOver_foldl {keyOf : R → Key} {existing asked : List R} {orphans : Step.Orphans R}
    (h : Step.LeftOver keyOf existing asked orphans) (before : List R) :
    Step.LeftOver keyOf existing (asked ++ before)
      (before.foldl (fun orphans r => orphans.erase (keyOf r).text) orphans) := by
  induction before generalizing asked orphans with
  | nil => rwa [List.append_nil]
  | cons r before ih =>
      rw [List.foldl_cons, List.append_cons]
      exact ih (h.erase r)

/-- An object is left over until an object of its name and namespace has asked for it. -/
theorem find?_orphans {existing before : List R}
    (hexisting : ∀ r ∈ existing, (naming r).Unmarked) (hbefore : ∀ r ∈ before, (naming r).Unmarked)
    (hn : n.Unmarked) :
    (before.foldl (fun orphans r => orphans.erase (naming r).key.text)
        (Step.orphansOf (fun r => (naming r).key) existing)).find? n.key.text =
      if n.parts ∈ before.map (fun r => (naming r).parts) then none
      else existing.findRev? fun r => (naming r).parts = n.parts := by
  have hleft := leftOver_foldl (Step.leftOver_orphansOf (fun r => (naming r).key) existing) before
  rw [hleft n.key, List.nil_append, Step.listed?, List.findRev?_eq_find?_reverse,
    List.findRev?_eq_find?_reverse]
  have hasked : n.key ∈ before.map (fun r => (naming r).key) ↔
      n.parts ∈ before.map fun r => (naming r).parts := by
    simp only [List.mem_map]
    exact exists_congr fun r => and_congr_right fun hr => key_eq_iff (hbefore r hr) hn
  have hlisted : existing.reverse.find? (fun r => (naming r).key = n.key) =
      existing.reverse.find? fun r => (naming r).parts = n.parts :=
    List.find?_congr fun r hr =>
      decide_eq_decide.2 (key_eq_iff (hexisting r (List.mem_reverse.1 hr)) hn)
  simp only [hasked, hlisted]

/-- The change that gives the policy of an object another spec, or removes it. -/
def change (n : Naming) : Option PolicySpec → PolicyChange
  | some spec => .upsert ⟨n.key, spec⟩
  | none => .delete n.key

theorem key_change (n : Naming) (spec? : Option PolicySpec) : (n.change spec?).key = n.key := by
  cases spec? <;> rfl

theorem spec?_change (n : Naming) (spec? : Option PolicySpec) : (n.change spec?).spec? = spec? := by
  cases spec? <;> rfl

/-- A policy has the route of the last spec that its own object was given. -/
theorem find?_routes (validate : Validator) {changes : List (Naming × Option PolicySpec)}
    (hcount : changes.length < UInt64.size) (hchanges : ∀ c ∈ changes, c.1.Unmarked)
    (hn : n.Unmarked) :
    (Register.enterAll validate .initial (changes.map fun c => c.1.change c.2)).active.find?
        n.key.text =
      ((changes.findRev? fun c => c.1.parts = n.parts).bind (·.2)).bind
        (PolicySpec.route? validate) := by
  rw [Register.find?_enterAll _ (by rwa [List.length_map]), PolicyChange.last?,
    List.findRev?_eq_find?_reverse, List.findRev?_eq_find?_reverse, ← List.map_reverse,
    List.find?_map, Option.bind_map]
  have hlast :
      changes.reverse.find? ((fun change => change.key = n.key) ∘ fun c => c.1.change c.2) =
        changes.reverse.find? fun c => c.1.parts = n.parts := by
    refine List.find?_congr fun c hc => decide_eq_decide.2 ?_
    rw [key_change, key_eq_iff (hchanges c (List.mem_reverse.1 hc)) hn]
  rw [hlast]
  congr 2
  funext c
  exact spec?_change c.1 c.2

/-- A key says of which object it is. A name of any characters and a namespace without the mark can
be read off their key, and so can a name without the mark that is in no namespace; a key that does
not end with the mark is made of what is read off it. So among objects whose names and namespaces are
without the mark, none takes the place of another: not among the objects that are left over during a
pass, not in a routing table, and not under any changes of policies. -/
theorem told_apart :
    (∀ name ns, ns ≠ "" → '@' ∉ ns.toList →
      (Key.of name (some ns)).name = name ∧ (Key.of name (some ns)).ns? = some ns ∧
      ∀ name' ns', ns' ≠ "" → '@' ∉ ns'.toList → (name', ns') ≠ (name, ns) →
        Key.of name' (some ns') ≠ Key.of name (some ns)) ∧
    (∀ name none?, '@' ∉ name.toList → none? = none ∨ none? = some "" →
      (Key.of name none?).name = name ∧ (Key.of name none?).ns? = none ∧
      ∀ other ns, ns ≠ "" → Key.of other (some ns) ≠ Key.of name none?) ∧
    (∀ key : Key, Key.of key.name key.ns? = key ↔ key.text.toList.getLast? ≠ some '@') ∧
    (∀ n m : Naming, n.Unmarked → m.Unmarked → (n.key = m.key ↔ n.parts = m.parts)) ∧
    (∀ (R : Type) (naming : R → Naming) (existing before : List R) (n : Naming),
      (∀ r ∈ existing ++ before, (naming r).Unmarked) → n.Unmarked →
      (before.foldl (fun orphans r => orphans.erase (naming r).key.text)
          (Step.orphansOf (fun r => (naming r).key) existing)).find? n.key.text =
        if n.parts ∈ before.map (fun r => (naming r).parts) then none
        else existing.findRev? fun r => (naming r).parts = n.parts) ∧
    (∀ (generation : UInt64) (entries : List (Naming × Route)) (n : Naming),
      (∀ e ∈ entries, e.1.Unmarked) → n.Unmarked →
      (RoutingTable.ofRoutes generation (entries.map fun e => (e.1.key, e.2))).find? n.key.text =
        (entries.findRev? fun e => e.1.parts = n.parts).map (·.2)) ∧
    ∀ (validate : Validator) (changes : List (Naming × Option PolicySpec)) (n : Naming),
      changes.length < UInt64.size → (∀ c ∈ changes, c.1.Unmarked) → n.Unmarked →
      (Register.enterAll validate .initial (changes.map fun c => c.1.change c.2)).active.find?
          n.key.text =
        ((changes.findRev? fun c => c.1.parts = n.parts).bind (·.2)).bind
          (PolicySpec.route? validate) := by
  refine ⟨?_, ?_, Key.of_name_ns?_iff, fun n m => key_eq_iff, ?_, ?_, ?_⟩
  · intro name ns hne hns
    refine ⟨Key.name_of hne hns, Key.ns?_of hne hns, ?_⟩
    refine fun name' ns' hne' hns' hother heq => hother ?_
    have hname := congrArg Key.name heq
    have hspace := congrArg Key.ns? heq
    rw [Key.name_of hne' hns', Key.name_of hne hns] at hname
    rw [Key.ns?_of hne' hns', Key.ns?_of hne hns] at hspace
    exact Prod.ext hname (Option.some.inj hspace)
  · intro name none? hname hnone
    have hempty : none?.getD "" = "" := by rcases hnone with rfl | rfl <;> rfl
    exact ⟨Key.name_of_empty hname hempty, Key.ns?_of_empty hname hempty,
      fun other ns hns => Key.of_ne_of_empty hname hempty hns⟩
  · intro R naming existing before n hlists hn
    exact find?_orphans (fun r hr => hlists r (List.mem_append_left _ hr))
      (fun r hr => hlists r (List.mem_append_right _ hr)) hn
  · intro generation entries n hentries hn
    rw [RoutingTable.find?, RoutingTable.ofRoutes, List.map_map]
    exact find?_ofList hentries hn
  · intro validate changes n hcount hchanges hn
    exact find?_routes validate hcount hchanges hn

/-- One name in a namespace, in another one, and in none. -/
def listed : List Naming := [⟨"shop", some "n"⟩, ⟨"shop", none⟩, ⟨"shop", some "m"⟩]

/-- The object in no namespace is asked for, with an empty namespace. Those in a namespace are
left. -/
theorem told_apart_listed :
    (Key.of "a@b" (some "n")).name = "a@b" ∧ (Key.of "shop" (some "")).ns? = none ∧
    Key.of (Key.name ⟨"a@b@n"⟩) (Key.ns? ⟨"a@b@n"⟩) = ⟨"a@b@n"⟩ ∧
    (([⟨"shop", some ""⟩] : List Naming).foldl (fun orphans r => orphans.erase r.key.text)
      (Step.orphansOf key listed)).find? "shop@n" = some ⟨"shop", some "n"⟩ ∧
    (([⟨"shop", some ""⟩] : List Naming).foldl (fun orphans r => orphans.erase r.key.text)
      (Step.orphansOf key listed)).find? "shop" = none ∧
    (Register.enterAll .rejecting .initial
      [change ⟨"shop", some "n"⟩ (some { jwt := some {} }), change ⟨"shop", some "m"⟩ none]).active.find?
        "shop@n" = PolicySpec.route? .rejecting { jwt := some {} } := by
  obtain ⟨hnamed, hnameless, hkey, -, horphans, -, hroutes⟩ := told_apart
  have hasked : ∀ r ∈ listed ++ [⟨"shop", some ""⟩], Unmarked (id r) := by decide
  refine ⟨(hnamed "a@b" "n" (by decide) (by decide)).1,
    (hnameless "shop" (some "") (by decide) (.inr rfl)).2.1, (hkey ⟨"a@b@n"⟩).2 (by decide),
    horphans Naming id listed _ ⟨"shop", some "n"⟩ hasked (by decide),
    horphans Naming id listed _ ⟨"shop", none⟩ hasked (by decide), ?_⟩
  exact hroutes .rejecting [(⟨"shop", some "n"⟩, some { jwt := some {} }), (⟨"shop", some "m"⟩, none)]
    ⟨"shop", some "n"⟩ (by decide) (by decide) (by decide)

end Naming

end EdgeAgent
