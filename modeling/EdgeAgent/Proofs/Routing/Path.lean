import EdgeAgent.Proofs.Dict
import EdgeAgent.Proofs.Http.Percent
import EdgeAgent.Routing.Answer
import Mathlib.Data.List.TakeWhile

/-!
Routing by path. The segment that names a policy is cut out of the path before it is decoded, so
that an encoded slash belongs to the key and a plain one ends it; the bytes of a key can be written
in many ways, and all of them reach the policy of this key alone. Which handlers are consulted is
read off a table whose handlers sign with the keys that they stand under; but for the signatures
such a table answers as the one without them.
-/

namespace EdgeAgent

namespace Uri

theorem takeWhile_ne_eq_getD (sep : UInt8) (bs : List UInt8) :
    bs.takeWhile (· ≠ sep) = ((cutFirst sep bs).map (·.1)).getD bs := by
  cases hcut : cutFirst sep bs with
  | none =>
      have habsent := cutFirst_eq_none_iff.1 hcut
      refine List.takeWhile_eq_self_iff.2 fun b hb => ?_
      have hne : b ≠ sep := fun h => habsent (h ▸ hb)
      simpa using hne
  | some parts =>
      obtain ⟨rfl, habsent⟩ := cutFirst_eq_some hcut
      rw [List.takeWhile_append_of_pos]
      · simp
      · intro b hb
        have hne : b ≠ sep := fun h => habsent (h ▸ hb)
        simpa using hne

/-- A path that does not end at once goes on to a query or to a fragment. -/
theorem path_of_pathAndQuery? {bs : List UInt8} {uri : Uri} (h : pathAndQuery? bs = some uri)
    (hpath : (bs.takeWhile (· ≠ 35)).takeWhile (· ≠ 63) ≠ []) :
    uri.path = (bs.takeWhile (· ≠ 35)).takeWhile (· ≠ 63) := by
  rw [pathAndQuery?] at h
  simp only [Option.ite_none_right_eq_some, Option.some.injEq] at h
  rw [takeWhile_ne_eq_getD 63] at hpath ⊢
  rw [← h.2, withoutFragment]
  cases hcut : cutFirst 63 (bs.takeWhile (· ≠ 35)) with
  | none =>
      rw [hcut] at hpath
      exact if_neg hpath
  | some parts =>
      rw [hcut] at hpath
      exact if_neg hpath

theorem pathAndQuery?_of_ofBytes? {bs : List UInt8} {uri : Uri}
    (h : ofBytes? (47 :: bs) = some uri) : pathAndQuery? (47 :: bs) = some uri := by
  unfold ofBytes? at h
  split at h
  · cases h
  · exact h

/-- A spelling between leading slashes and a tail stands in the path as it is given. -/
theorem path_of_ofBytes? {n : Nat} {bytes spelling tail : List UInt8} {uri : Uri} (hn : 1 ≤ n)
    (hspells : Percent.Spells bytes spelling)
    (htail : tail = [] ∨ (∃ more, tail = 47 :: more) ∨ ∃ more, tail = 63 :: more)
    (h : ofBytes? (List.replicate n 47 ++ spelling ++ tail) = some uri) :
    ∃ rest, uri.path = List.replicate n 47 ++ spelling ++ rest ∧
      (rest = [] ∨ ∃ more, rest = 47 :: more) := by
  have hplain : ∀ b ∈ List.replicate n 47 ++ spelling, b ≠ 35 ∧ b ≠ 63 := by
    intro b hb
    rcases List.mem_append.1 hb with hb | hb
    · rw [List.eq_of_mem_replicate hb]
      decide
    · exact ⟨(hspells.plain b hb).1, (hspells.plain b hb).2.2⟩
  have hpath : ((List.replicate n 47 ++ spelling ++ tail).takeWhile (· ≠ 35)).takeWhile (· ≠ 63) =
      List.replicate n 47 ++ spelling ++ (tail.takeWhile (· ≠ 35)).takeWhile (· ≠ 63) := by
    rw [List.takeWhile_append_of_pos fun b hb => by simpa using (hplain b hb).1,
      List.takeWhile_append_of_pos fun b hb => by simpa using (hplain b hb).2]
  obtain ⟨m, rfl⟩ := Nat.exists_eq_add_of_le' hn
  have hrelative : pathAndQuery? (List.replicate (m + 1) 47 ++ spelling ++ tail) = some uri :=
    pathAndQuery?_of_ofBytes? h
  refine ⟨(tail.takeWhile (· ≠ 35)).takeWhile (· ≠ 63), ?_, ?_⟩
  · rw [path_of_pathAndQuery? hrelative (by rw [hpath]; simp), hpath]
  · rcases htail with rfl | ⟨more, rfl⟩ | ⟨more, rfl⟩
    · exact .inl rfl
    · exact .inr ⟨(more.takeWhile (· ≠ 35)).takeWhile (· ≠ 63), by simp⟩
    · exact .inl (by simp)

end Uri

/-- The route with a handler that signs with a name and asks about nothing else. -/
def Route.signed (name : String) (route : Route) : Route :=
  { route with handler := fun request => { route.handler request with asked := [name] } }

namespace RoutingTable

variable {t : RoutingTable} {route : Route} {path : List UInt8} {key : String} {request : Request}

/-- The key that a path names: the text between the leading slashes and the next one, decoded. -/
def Names (path : List UInt8) (key : String) : Prop :=
  ∃ n segment rest, path = List.replicate n slash ++ segment ++ rest ∧ slash ∉ segment ∧
    (segment = [] → rest = []) ∧ (rest = [] ∨ ∃ more, rest = slash :: more) ∧
    key = Utf8.lossy (Percent.decode segment)

theorem firstSegment_append {n : Nat} {segment rest : List UInt8} (hsegment : slash ∉ segment)
    (hempty : segment = [] → rest = []) (hrest : rest = [] ∨ ∃ more, rest = slash :: more) :
    firstSegment (List.replicate n slash ++ segment ++ rest) = segment := by
  have hdrop : (List.replicate n slash ++ segment ++ rest).dropWhile (· = slash) =
      segment ++ rest := by
    rw [List.append_assoc, List.dropWhile_append_of_pos (by simp)]
    cases segment with
    | nil => simp [hempty rfl]
    | cons b r =>
        have hb : b ≠ slash := fun h => hsegment (h ▸ List.mem_cons_self)
        simp [hb]
  rw [firstSegment, hdrop, List.takeWhile_append_of_pos]
  · rcases hrest with rfl | ⟨more, rfl⟩ <;> simp
  · intro b hb
    have hne : b ≠ slash := fun h => hsegment (h ▸ hb)
    simpa using hne

theorem names_iff : Names path key ↔ key = keyOfPath path := by
  constructor
  · rintro ⟨n, segment, rest, rfl, hsegment, hempty, hrest, rfl⟩
    rw [keyOfPath, firstSegment_append hsegment hempty hrest]
  · rintro rfl
    have hslashes : path.takeWhile (· = slash) =
        List.replicate (path.takeWhile (· = slash)).length slash :=
      List.eq_replicate_of_mem fun b hb => by simpa using List.mem_takeWhile_imp hb
    have hrest := List.head?_dropWhile_not (· ≠ slash) (path.dropWhile (· = slash))
    refine ⟨(path.takeWhile (· = slash)).length, firstSegment path,
      (path.dropWhile (· = slash)).dropWhile (· ≠ slash), ?_, ?_, ?_, ?_, rfl⟩
    · rw [← hslashes, firstSegment, List.append_assoc, List.takeWhile_append_dropWhile,
        List.takeWhile_append_dropWhile]
    · intro hmem
      simpa using List.mem_takeWhile_imp hmem
    · intro hempty
      cases hdrop : path.dropWhile (· = slash) with
      | nil => rfl
      | cons b r =>
          have hb := List.head?_dropWhile_not (· = slash) path
          rw [hdrop] at hb
          simp [firstSegment, hdrop] at hempty hb
          exact absurd hempty hb
    · cases hdrop : (path.dropWhile (· = slash)).dropWhile (· ≠ slash) with
      | nil => exact .inl rfl
      | cons b r =>
          rw [hdrop] at hrest
          have hb : b = slash := by simpa using hrest
          exact .inr ⟨r, by rw [hb]⟩

/-- The table with each handler signing with the key that it stands under. -/
def signed (t : RoutingTable) : RoutingTable where
  generation := t.generation
  routes :=
    { entries := t.routes.entries.map fun e => (e.1, e.2.signed e.1)
      increasing := List.pairwise_map.2 t.routes.increasing }

/-- The keys of the handlers that are consulted about a request, once for each time. -/
def consulted (t : RoutingTable) (request : Request) : List String :=
  (t.signed.serve request).asked

/-- A response that says what a verdict says. -/
def Conveys (response : Response) (verdict : Verdict) : Prop :=
  (∀ headers, verdict.decision = .allow headers →
    response = ⟨200, headers, verdict.asked, verdict.log⟩) ∧
  ∀ headers, verdict.decision = .deny headers →
    response = ⟨401, headers, verdict.asked, verdict.log⟩

theorem find?_signed (t : RoutingTable) (key : String) :
    t.signed.find? key = (t.find? key).map (Route.signed key) := by
  rw [find?, find?, Dict.find?, Dict.find?, signed, List.find?_map, Option.map_map, Option.map_map]
  cases hfind : t.routes.entries.find? fun e => decide (e.1 = key) with
  | none => simpa [Function.comp_def] using hfind
  | some e =>
      have hkey : e.1 = key := by simpa using List.find?_some hfind
      simp [Function.comp_def, hfind, hkey]

theorem serve_of_names_some (hnames : Names request.uri.path key) (hroute : t.find? key = some route) :
    t.serve request = answer route request := by
  rw [serve, ← names_iff.1 hnames, hroute]

theorem serve_of_names_none (hnames : Names request.uri.path key) (hroute : t.find? key = none) :
    t.serve request = ⟨404, [], [], []⟩ := by
  rw [serve, ← names_iff.1 hnames, hroute]

theorem conveys_answer (route : Route) (request : Request) :
    Conveys (answer route request) (route.handler request) := by
  constructor
  · intro headers hallow
    rw [answer]
    simp only [hallow]
  · intro headers hdeny
    rw [answer]
    simp only [hdeny]

theorem answer_signed (route : Route) (request : Request) (name : String) :
    answer (route.signed name) request = { answer route request with asked := [name] } := by
  rw [answer, answer, Route.signed]
  cases (route.handler request).decision <;> rfl

/-- Signing changes nothing of a response but the signatures. -/
theorem serve_signed (t : RoutingTable) (request : Request) :
    t.signed.serve request = { t.serve request with asked := t.consulted request } := by
  have hnames : Names request.uri.path (keyOfPath request.uri.path) := names_iff.2 rfl
  have hsigned := find?_signed t (keyOfPath request.uri.path)
  cases hroute : t.find? (keyOfPath request.uri.path) with
  | none =>
      rw [hroute, Option.map_none] at hsigned
      rw [consulted, serve_of_names_none hnames hroute, serve_of_names_none hnames hsigned]
  | some route =>
      rw [hroute, Option.map_some] at hsigned
      rw [consulted, serve_of_names_some hnames hroute, serve_of_names_some hnames hsigned,
        answer_signed]

theorem consulted_of_names_some (hnames : Names request.uri.path key)
    (hroute : t.find? key = some route) : t.consulted request = [key] := by
  have hsigned := find?_signed t key
  rw [hroute, Option.map_some] at hsigned
  rw [consulted, serve_of_names_some hnames hsigned, answer_signed]

theorem consulted_of_names_none (hnames : Names request.uri.path key)
    (hroute : t.find? key = none) : t.consulted request = [] := by
  have hsigned := find?_signed t key
  rw [hroute, Option.map_none] at hsigned
  rw [consulted, serve_of_names_none hnames hsigned]

/-- Whatever way a key is spelled after the leading slashes, its handler is consulted once, no other
is, and its verdict is the answer. For any request at all, a handler is consulted only if its key is
the one that the path names; otherwise none is and nothing is found. -/
theorem serve_exact (t : RoutingTable) :
    (∀ (key : String) (route : Route) (n : Nat) (spelling tail : List UInt8) (uri : Uri)
      (headers : Headers), key ≠ "" → t.find? key = some route → 1 ≤ n →
      Percent.Spells (Utf8.bytes key) spelling →
      (tail = [] ∨ (∃ more, tail = slash :: more) ∨ ∃ more, tail = 63 :: more) →
      Uri.ofBytes? (List.replicate n slash ++ spelling ++ tail) = some uri →
      t.consulted ⟨uri, headers⟩ = [key] ∧
        Conveys (t.serve ⟨uri, headers⟩) (route.handler ⟨uri, headers⟩)) ∧
    ∀ request : Request,
      (∃ key route, Names request.uri.path key ∧ t.find? key = some route ∧
        t.consulted request = [key] ∧ Conveys (t.serve request) (route.handler request)) ∨
      ((∀ key, Names request.uri.path key → t.find? key = none) ∧
        t.consulted request = [] ∧ t.serve request = ⟨404, [], [], []⟩) := by
  constructor
  · intro key route n spelling tail uri headers hkey hroute hn hspells htail huri
    have hbytes : Utf8.bytes key ≠ [] := fun h => hkey (Utf8.bytes_injective h)
    have hspelling := hspells.ne_nil hbytes
    obtain ⟨rest, hpath, hrest⟩ := Uri.path_of_ofBytes? hn hspells htail huri
    have hnames : Names uri.path key := by
      refine ⟨n, spelling, rest, hpath, ?_, fun h => absurd h hspelling, hrest, ?_⟩
      · intro hmem
        exact (hspells.plain _ hmem).2.1 rfl
      · rw [hspells.decode_eq, Utf8.lossy_bytes]
    have hserve : t.serve ⟨uri, headers⟩ = answer route ⟨uri, headers⟩ :=
      serve_of_names_some hnames hroute
    rw [hserve]
    exact ⟨consulted_of_names_some hnames hroute, conveys_answer route ⟨uri, headers⟩⟩
  · intro request
    have hnames : Names request.uri.path (keyOfPath request.uri.path) := names_iff.2 rfl
    cases hroute : t.find? (keyOfPath request.uri.path) with
    | none =>
        refine .inr ⟨?_, consulted_of_names_none hnames hroute, serve_of_names_none hnames hroute⟩
        intro key hkey
        rw [names_iff.1 hkey]
        exact hroute
    | some route =>
        refine .inl ⟨_, route, hnames, hroute, consulted_of_names_some hnames hroute, ?_⟩
        rw [serve_of_names_some hnames hroute]
        exact conveys_answer route request

/-- A policy that refuses, under a key with a namespace, and one that grants, under its name. -/
def alike : RoutingTable :=
  ofRoutes 1 [(⟨"p1@test"⟩, ⟨fun _ => { decision := .deny [(.wwwAuthenticate, ⟨[66], rfl⟩)] }, "1"⟩),
    (⟨"p1"⟩, ⟨fun _ => { decision := .allow [] }, "2"⟩)]

theorem serve_exact_alike :
    Uri.ofText? "//p1%40test/x?y" = some ⟨Utf8.bytes "//p1%40test/x", some [121]⟩ ∧
    alike.consulted ⟨⟨Utf8.bytes "//p1%40test/x", some [121]⟩, []⟩ = ["p1@test"] ∧
    alike.serve ⟨⟨Utf8.bytes "//p1%40test/x", some [121]⟩, []⟩ =
      ⟨401, [(.wwwAuthenticate, ⟨[66], rfl⟩)], [], []⟩ := by
  have hspells : Percent.Spells (Utf8.bytes "p1@test") (Utf8.bytes "p1%40test") := by
    refine .literal (by decide) (by decide) (by decide) <| .literal (by decide) (by decide)
      (by decide) <| .encoded (.inl (by decide)) (.inl (by decide)) ?_
    refine .literal (by decide) (by decide) (by decide) <| .literal (by decide) (by decide)
      (by decide) <| .literal (by decide) (by decide) (by decide) <| .literal (by decide)
      (by decide) (by decide) .nil
  have huri : Uri.ofText? "//p1%40test/x?y" = some ⟨Utf8.bytes "//p1%40test/x", some [121]⟩ := by
    decide +kernel
  obtain ⟨hconsulted, hconveys⟩ := (serve_exact alike).1 "p1@test" _ 2 (Utf8.bytes "p1%40test")
    (Utf8.bytes "/x?y") _ [] (by decide) rfl (by decide) hspells (.inr (.inl ⟨_, rfl⟩)) huri
  exact ⟨huri, hconsulted, hconveys.2 _ rfl⟩

end RoutingTable

end EdgeAgent
