import KernelHub.Gateway.Client
import KernelHub.Proofs.Url

/-
The addresses that a client asks at. A name or an id that is pushed as it is takes the place of
one segment there and changes nothing else, so no two names share an address, and neither do two
endpoints. Other names break that: a dot takes no place at all, and what never counts is lost.
-/

namespace KernelHub

namespace Url

/-! ## The address of a gateway -/

/-- What is cut off from the end of a text stops at a character that is not to be cut. -/
theorem prefix_cut {p : Char → Bool} {lead cs : List Char} {c : Char} (hc : p c = false)
    (h : lead ++ [c] <+: cs) : lead ++ [c] <+: (cs.reverse.dropWhile p).reverse := by
  obtain ⟨rest, rfl⟩ := h
  rw [List.reverse_append, List.dropWhile_append]
  split
  · rw [List.reverse_append, List.reverse_singleton, List.singleton_append,
      List.dropWhile_cons_of_neg (by simp [hc])]
    simp
  · simp

theorem prefix_cleaned {lead cs : List Char} {c : Char} (hw : ∀ d ∈ lead ++ [c], 0x20 < d.toNat)
    (h : lead ++ [c] <+: cs) : lead ++ [c] <+: cleaned cs := by
  have hn : ∀ d ∈ lead ++ [c], decide (d.toNat ≤ 0x20) = false := fun d hd =>
    decide_eq_false (Nat.not_le.2 (hw d hd))
  have hd : cs.dropWhile (fun d => decide (d.toNat ≤ 0x20)) = cs := by
    obtain ⟨rest, rfl⟩ := h
    cases lead with
    | nil => exact List.dropWhile_cons_of_neg (by simp [hn c (by simp)])
    | cons d lead => exact List.dropWhile_cons_of_neg (by simp [hn d (by simp)])
  obtain ⟨rest, hr⟩ := prefix_cut (p := fun d => decide (d.toNat ≤ 0x20)) (hn c (by simp)) h
  have hi : ∀ d ∈ lead ++ [c], (!isIgnored d) = true := by
    intro d hd
    have hlt := hw d hd
    simp only [isIgnored, Bool.not_eq_true', Bool.or_eq_false_iff, decide_eq_false_iff_not]
    refine ⟨⟨?_, ?_⟩, ?_⟩ <;> rintro rfl <;> revert hlt <;> decide
  rw [cleaned, hd, ← hr, List.filter_append, List.filter_eq_self.2 hi]
  exact List.prefix_append _ _

/-- An address that is read from a text with a scheme of the web. -/
structure OfWeb (u : Url) : Prop where
  special : u.isSpecial = true
  listed : ∃ ss, u.path = .segments ss false

theorem ofWeb_afterSlashes {scheme cs : List Char} {u : Url} (hs : kindOf scheme = .web)
    (h : afterSlashes scheme cs = .ok u) : OfWeb u := by
  rw [afterSlashes] at h
  cases ha : readAuthority scheme cs with
  | error e => rw [ha] at h; cases h
  | ok a =>
    rw [ha] at h
    cases h
    refine ⟨?_, _, rfl⟩
    change (kindOf scheme).isSpecial = true
    rw [hs]
    rfl

theorem scheme?_of_prefix {scheme cs : List Char} (hs : scheme ∈ ["http".toList, "https".toList])
    (h : scheme ++ [':'] <+: cs) : ∃ rest, scheme? cs = some (scheme, rest) := by
  obtain ⟨rest, rfl⟩ := h
  refine ⟨rest, ?_⟩
  simp only [List.mem_cons, List.not_mem_nil, or_false] at hs
  obtain rfl | rfl := hs <;> rfl

theorem web_of_scheme {scheme : List Char} (hs : scheme ∈ ["http".toList, "https".toList]) :
    kindOf scheme = .web ∧ ∀ d ∈ scheme ++ [':'], 0x20 < d.toNat := by
  simp only [List.mem_cons, List.not_mem_nil, or_false] at hs
  obtain rfl | rfl := hs <;> exact ⟨rfl, by simp⟩

theorem ofWeb_read (scheme : List Char) {s : String} {u : Url}
    (hs : scheme ∈ ["http".toList, "https".toList]) (hp : scheme ++ [':'] <+: s.toList)
    (h : read s = .ok u) : OfWeb u := by
  obtain ⟨hk, hw⟩ := web_of_scheme hs
  obtain ⟨rest, hr⟩ := scheme?_of_prefix hs (prefix_cleaned hw hp)
  rw [read, hr] at h
  simp only [hk] at h
  exact ofWeb_afterSlashes hk h

/-- The segments of an address that others are pushed after. -/
def root (u : Url) : List (List Char) :=
  match u.path with
  | .segments ss _ => stem (withoutEmpty ss)
  | .opaqueText _ => []

theorem holds_root {name : List Char} (u : Url) (hn : name ≠ []) (ss : List (List Char)) :
    Holds (u.root ++ spelled name :: ss) := by
  have hs : spelled name ≠ [] := fun he => hn <| by
    have hb : bytes [] = bytes name := (congrArg decode he).symm.trans (decode_spelled name)
    exact (bytes_injective hb).symm
  refine ⟨by simp, fun he => ?_⟩
  obtain ⟨-, h1⟩ | ⟨-, h2⟩ := List.append_eq_singleton_iff.1 he
  · exact hs (List.cons.inj h1).1
  · cases h2

/-- The segments of names below an address. -/
theorem extend?_of_web {u : Url} (hu : OfWeb u) {n : String} (hn : Plain n.toList)
    (names : List String) :
    u.extend? (n :: names) = some { u with
      path := .segments ((names.map String.toList).foldl (push true)
        (u.root ++ [spelled n.toList])) false } := by
  obtain ⟨ss, hp⟩ := hu.listed
  simp only [extend?, hp, hu.special, List.map_cons, List.foldl_cons, push_plain hn, root]

theorem text_below {u : Url} {ss ts : List (List Char)} (hs : ∀ s ∈ ss, '/' ∉ s)
    (ht : ∀ t ∈ ts, '/' ∉ t)
    (h : { u with path := .segments (u.root ++ ss) false : Url }.text =
      { u with path := .segments (u.root ++ ts) false : Url }.text) : ss = ts := by
  have hc := String.ofList_injective h
  simp only [chars, Path.chars, segmentChars, List.flatMap_append, List.append_assoc,
    List.append_cancel_left_eq, List.cons.injEq, true_and, List.append_cancel_right_eq] at hc
  exact segmentChars_injective hs ht hc

end Url

namespace Gateway.Client

open Url (Plain Spells OfWeb Holds)

/-- The name or id that a call is about. -/
def named? : Request → Option String
  | .spec name => some name
  | .model id => some id
  | .has id => some id
  | .shutdown id _ => some id
  | .interrupt id => some id
  | .restart id _ => some id
  | _ => none

/-- An address for a call: the gateway's own, and after its segments exactly one for each part
of the endpoint, which spells it. -/
def Routed (c : Client) (r : Request) (u : Url) : Prop :=
  ∃ ss, List.Forall₂ Spells ((endpoint r).map String.toList) ss ∧
    u = { c.base with path := .segments (c.base.root ++ ss) false }

/-- How the addresses of a client's calls look. -/
structure Routes (c : Client) : Prop where
  /-- There is one for each call. -/
  total : ∀ r, ∃ u, c.address (endpoint r) = .ok u
  /-- It spells the endpoint, exactly if the name in it, if any, is plain. -/
  routed : ∀ r u, endpoint r ≠ [] → c.address (endpoint r) = .ok u →
    (Routed c r u ↔ ∀ s, named? r = some s → Plain s.toList)
  /-- Addresses that spell their endpoints tell them apart, and with them the names. -/
  apart : ∀ r r' u u', Routed c r u → Routed c r' u' → u.text = u'.text → endpoint r = endpoint r'

variable {c : Client} {r r' : Request} {u u' : Url}

theorem prefix_of_after? {lead s : String} (h : (Config.after? lead s).isNone = false) :
    lead.toList <+: s.toList := by
  rw [Config.after?] at h
  split at h
  · next hp => exact List.isPrefixOf_iff_prefix.1 hp
  · cases h

theorem prefix_httpBase {config : Config} {scheme : List Char}
    (h : scheme ++ "://".toList <+: config.url.toList) :
    scheme ++ [':'] <+: config.httpBase.toList := by
  rw [Config.httpBase, Config.trimSlashes, String.toList_ofList]
  refine Url.prefix_cut (by decide) (List.IsPrefix.trans ?_ h)
  exact (List.prefix_append_right_inj scheme).2 (by decide)

theorem ofWeb_of_make {config : Config} {env : Environment} (h : make config env = .ok c) :
    OfWeb c.base := by
  simp only [make] at h
  split at h
  · cases h
  next hs =>
  split at h
  · cases h
  next base hb =>
  have hw : OfWeb base := by
    rw [Bool.and_eq_true, not_and_or, Bool.not_eq_true, Bool.not_eq_true] at hs
    obtain hs | hs := hs
    · exact Url.ofWeb_read "http".toList (by simp)
        (prefix_httpBase (prefix_of_after? hs)) hb
    · exact Url.ofWeb_read "https".toList (by simp)
        (prefix_httpBase (prefix_of_after? hs)) hb
  split at h
  · cases h
  · cases h
    exact hw

theorem exists_address (hb : OfWeb c.base) (names : List String) :
    ∃ u, c.address names = .ok u := by
  obtain ⟨ss, hp⟩ := hb.listed
  simp [address, Url.extend?, hp]

/-- The places of a name in an endpoint. -/
theorem endpoint_of_named {s : String} (h : named? r = some s) :
    ∃ group more, endpoint r = "api" :: group :: s :: more ∧ Plain group.toList ∧
      ∀ n ∈ more, Plain n.toList := by
  cases r <;> cases h <;> exact ⟨_, _, rfl, by decide, by decide⟩

theorem api_of_endpoint (h : endpoint r ≠ []) : ∃ names, endpoint r = "api" :: names := by
  cases r <;> first | exact ⟨_, rfl⟩ | exact absurd rfl h

theorem plain_api : Plain "api".toList := by decide

theorem plain_endpoint (h : ∀ s, named? r = some s → Plain s.toList) :
    ∀ n ∈ endpoint r, Plain n.toList := by
  cases hn : named? r with
  | none =>
    have hs : ∀ n ∈ ["api", "kernelspecs"], Plain n.toList := by decide
    have hk : ∀ n ∈ ["api", "kernels"], Plain n.toList := by decide
    cases r <;> cases hn <;> first | exact hs | exact hk | exact nofun
  | some s =>
    obtain ⟨group, more, he, hg, hm⟩ := endpoint_of_named hn
    simp only [he, List.forall_mem_cons]
    exact ⟨plain_api, hg, h s hn, hm⟩

theorem api_ne_nil : "api".toList ≠ [] := by decide

/-- Where all parts of an endpoint are plain, each becomes the segment that spells it. -/
theorem routed_of_plain (hb : OfWeb c.base) (hr : endpoint r ≠ [])
    (hp : ∀ n ∈ endpoint r, Plain n.toList) (ha : c.address (endpoint r) = .ok u) :
    Routed c r u := by
  obtain ⟨names, he⟩ := api_of_endpoint hr
  have hp' : ∀ n ∈ names.map String.toList, Plain n :=
    List.forall_mem_map.2 fun n hn => hp n (he ▸ List.mem_cons_of_mem _ hn)
  simp only [he, address, Url.extend?_of_web hb plain_api,
    Url.foldl_push hp' (Url.holds_root c.base api_ne_nil [])] at ha
  cases ha
  refine ⟨((endpoint r).map String.toList).map Url.spelled, ?_, ?_⟩
  · rw [List.forall₂_map_right_iff, List.forall₂_same]
    exact List.forall_mem_map.2 fun n hn => Url.spells_spelled (hp n hn)
  · rw [he, List.append_assoc]
    rfl

/-- A name that is not plain is lost, or becomes a segment that does not spell it. -/
theorem plain_of_routed (hb : OfWeb c.base) {s : String} (hs : named? r = some s)
    (ha : c.address (endpoint r) = .ok u) (hu : Routed c r u) : Plain s.toList := by
  by_contra hns
  obtain ⟨group, more, he, hg, hm⟩ := endpoint_of_named hs
  have hm' : ∀ n ∈ more.map String.toList, Plain n := List.forall_mem_map.2 hm
  have hapi := Url.holds_root c.base api_ne_nil []
  obtain ⟨as, h1, rfl⟩ := hu
  rw [he] at h1
  obtain ⟨a, bs, -, h2, rfl⟩ := List.forall₂_cons_left_iff.1 h1
  obtain ⟨b, ss, -, h3, rfl⟩ := List.forall₂_cons_left_iff.1 h2
  simp only [he, address, Url.extend?_of_web hb plain_api, List.map_cons, List.foldl_cons,
    Url.push_plain hg, Url.stem_of_holds hapi, Except.ok.injEq, Url.mk.injEq,
    Url.Path.segments.injEq, true_and, and_true] at ha
  have hl : (c.base.root ++ [Url.spelled "api".toList] ++ [Url.spelled group.toList]).length =
      (c.base.root ++ [a, b]).length := by simp
  refine Url.not_spelled hns (Url.holds_append hapi _) hm' hl ?_ h3
  rw [List.foldl_cons, ha, List.append_assoc]
  rfl

theorem apart_of_routed (hu : Routed c r u) (hu' : Routed c r' u') (h : u.text = u'.text) :
    endpoint r = endpoint r' := by
  have closed {names ss : List (List Char)} (hs : List.Forall₂ Spells names ss) :
      ∀ s ∈ ss, '/' ∉ s := by
    induction hs with
    | nil => exact nofun
    | cons h _ ih =>
      exact List.forall_mem_cons.2 ⟨fun hc => absurd (h.closed '/' hc) (by decide), ih⟩
  obtain ⟨ss, hs, rfl⟩ := hu
  obtain ⟨ts, ht, rfl⟩ := hu'
  obtain rfl := Url.text_below (closed hs) (closed ht) h
  have hi : Relator.LeftUnique Spells := fun _ _ _ => Spells.injective
  exact List.map_injective_iff.2 (fun _ _ => String.toList_inj.1) (hi.forall₂ hs ht)

/-- Plain names never change the route of a call, and only they do not: for every client that
can be made, and whatever names and ids it is asked for. -/
theorem routes_of_make {config : Config} {env : Environment} (h : make config env = .ok c) :
    Routes c := by
  have hb := ofWeb_of_make h
  refine ⟨fun r => exists_address hb _, fun r u hr ha => ⟨fun hu s hs => ?_, fun hp => ?_⟩,
    fun _ _ _ _ => apart_of_routed⟩
  · exact plain_of_routed hb hs ha hu
  · exact routed_of_plain hb hr (plain_endpoint hp) ha

/-- A gateway below a path of its own. -/
def nestedConfig : Config := { url := "http://[::1]:8888/base/" }

/-- The client that is made for it. -/
def nestedClient : Client where
  config := nestedConfig
  base := {
    scheme := "http".toList
    authority := some { host := "[::1]".toList, port := some 8888 }
    path := .segments ["base".toList] false }
  headers := []

/-- A name full of what could change a route is one segment. -/
theorem routes_nested : make nestedConfig [] = .ok nestedClient ∧ Routes nestedClient ∧
    (nestedClient.address (endpoint (.interrupt "../a b?%2e"))).map (·.text) =
      .ok "http://[::1]:8888/base/api/kernels/..%2Fa%20b%3F%252e/interrupt" := by
  have hm : make nestedConfig [] = .ok nestedClient := rfl
  exact ⟨hm, routes_of_make hm, rfl⟩

/-- To interrupt the kernel `.` asks at the address of the kernel `interrupt`, and two kernels
whose ids differ by a tab have one address. -/
theorem routes_collide : make nestedConfig [] = .ok nestedClient ∧
    nestedClient.address (endpoint (.interrupt ".")) =
      nestedClient.address (endpoint (.model "interrupt")) ∧
    nestedClient.address (endpoint (.model "a\tb")) =
      nestedClient.address (endpoint (.model "ab")) :=
  ⟨rfl, rfl, rfl⟩

end Gateway.Client

end KernelHub
