import KernelHub.Gateway.Channel
import KernelHub.Proofs.Gateway.Routes
import KernelHub.Proofs.Uuid

/-
Where channels connect, if nobody says. The address of a gateway is read twice then: once as it
stands, for the calls, and once with its scheme changed in the text. The reader treats both
schemes alike, down to the port that is left out, so what it reads differs in the scheme only; and
with it the addresses below, up to the session in the query.
-/

namespace KernelHub

namespace Url

/-! ## Reading under another scheme -/

/-- What does not count at the end of a text is the same after any lead. -/
theorem exists_cleaned (rest : List Char) :
    ∃ tail, ∀ lead : List Char, lead ≠ [] → (∀ d ∈ lead, 0x20 < d.toNat) →
      cleaned (lead ++ rest) = lead ++ tail := by
  refine ⟨((rest.reverse.dropWhile fun d => decide (d.toNat ≤ 0x20)).reverse).filter
    fun c => !isIgnored c, fun lead hl hw => ?_⟩
  have hn : ∀ d ∈ lead, ¬ decide (d.toNat ≤ 0x20) = true := fun d hd => by
    have := hw d hd
    simp only [decide_eq_true_eq]
    omega
  have hi : ∀ d ∈ lead, (!isIgnored d) = true := by
    intro d hd
    have hlt := hw d hd
    simp only [isIgnored, Bool.not_eq_true', Bool.or_eq_false_iff, decide_eq_false_iff_not]
    refine ⟨⟨?_, ?_⟩, ?_⟩ <;> rintro rfl <;> revert hlt <;> decide
  have hd : (lead ++ rest).dropWhile (fun d => decide (d.toNat ≤ 0x20)) = lead ++ rest := by
    obtain ⟨d, lead, rfl⟩ := List.exists_cons_of_ne_nil hl
    exact List.dropWhile_cons_of_neg (hn d List.mem_cons_self)
  have hr : lead.reverse.dropWhile (fun d => decide (d.toNat ≤ 0x20)) = lead.reverse := by
    obtain ⟨d, more, he⟩ := List.exists_cons_of_ne_nil (mt List.reverse_eq_nil_iff.1 hl)
    rw [he]
    exact List.dropWhile_cons_of_neg (hn d (List.mem_reverse.1 (he ▸ List.mem_cons_self)))
  rw [cleaned, hd, List.reverse_append, List.dropWhile_append]
  split
  · next he =>
    rw [List.isEmpty_iff.1 he, hr, List.reverse_reverse, List.filter_eq_self.2 hi]
    simp
  · rw [List.reverse_append, List.reverse_reverse, List.filter_append, List.filter_eq_self.2 hi]

/-- Two schemes of the web that leave out the same port. -/
structure Alike (s t : List Char) : Prop where
  web : kindOf s = .web ∧ kindOf t = .web
  port : defaultPort? s = defaultPort? t

variable {s t : List Char}

theorem readAuthority_of_alike (h : Alike s t) (cs : List Char) :
    readAuthority t cs = readAuthority s cs := by
  have hp : readPort t = readPort s := by
    funext ds
    simp only [readPort, h.port]
  simp only [readAuthority, hp, h.web.1, h.web.2]

theorem afterSlashes_of_alike (h : Alike s t) (cs : List Char) :
    afterSlashes t cs = (afterSlashes s cs).map fun u => { u with scheme := t } := by
  simp only [afterSlashes, readAuthority_of_alike h, h.web.1, h.web.2]
  cases readAuthority s cs with
  | error e => rfl
  | ok a =>
    simp only [bind, Except.bind, Except.map, withRest, h.web.1, h.web.2]
    rfl

theorem extend?_of_alike {u : Url} (h : Alike u.scheme t) (names : List String) :
    { u with scheme := t }.extend? names =
      (u.extend? names).map fun u => { u with scheme := t } := by
  obtain ⟨scheme, authority, path, query, fragment⟩ := u
  have hk : (kindOf t).isSpecial = (kindOf scheme).isSpecial := by rw [h.web.1, h.web.2]
  cases path with
  | opaqueText o => rfl
  | segments ss marked => simp only [extend?, isSpecial, kind, hk, Option.map_some]

/-! ## The scheme of channels -/

/-- The schemes of calls. -/
def callSchemes : List (List Char) := ["http".toList, "https".toList]

/-- The scheme of channels in the place of a scheme of calls. -/
def channelScheme (scheme : List Char) : List Char :=
  if scheme = "http".toList then "ws".toList
  else if scheme = "https".toList then "wss".toList
  else scheme

theorem alike_channelScheme (hs : s ∈ callSchemes) : Alike s (channelScheme s) := by
  simp only [callSchemes, List.mem_cons, List.not_mem_nil, or_false] at hs
  obtain rfl | rfl := hs <;> exact ⟨⟨rfl, rfl⟩, rfl⟩

/-- A text with the scheme of channels in the place of its own reads as the same address, but
for the scheme. -/
theorem read_channelScheme (hs : s ∈ callSchemes) {a b : String} {rest : List Char}
    (ha : a.toList = s ++ "://".toList ++ rest)
    (hb : b.toList = channelScheme s ++ "://".toList ++ rest) :
    read b = (read a).map fun u => { u with scheme := channelScheme s } := by
  obtain ⟨tail, ht⟩ := exists_cleaned rest
  have hl := alike_channelScheme hs
  have hr : scheme? (s ++ "://".toList ++ tail) = some (s, "//".toList ++ tail) ∧
      scheme? (channelScheme s ++ "://".toList ++ tail) =
        some (channelScheme s, "//".toList ++ tail) := by
    simp only [callSchemes, List.mem_cons, List.not_mem_nil, or_false] at hs
    obtain rfl | rfl := hs <;> exact ⟨rfl, rfl⟩
  have hw : (∀ d ∈ s ++ "://".toList, 0x20 < d.toNat) ∧
      ∀ d ∈ channelScheme s ++ "://".toList, 0x20 < d.toNat := by
    have visible {lead : List Char} (ha : lead.all (fun d => decide (0x20 < d.toNat)) = true) :
        ∀ d ∈ lead, 0x20 < d.toNat := fun d hd => of_decide_eq_true (List.all_eq_true.1 ha d hd)
    simp only [callSchemes, List.mem_cons, List.not_mem_nil, or_false] at hs
    obtain rfl | rfl := hs <;> exact ⟨visible rfl, visible rfl⟩
  rw [read, read, ha, hb, ht _ (by simp) hw.1, ht _ (by simp) hw.2, hr.1, hr.2]
  simp only [hl.web.1, hl.web.2]
  exact afterSlashes_of_alike hl _

theorem scheme_afterSlashes {cs : List Char} {u : Url} (h : afterSlashes s cs = .ok u) :
    u.scheme = s := by
  rw [afterSlashes] at h
  cases ha : readAuthority s cs with
  | error e => rw [ha] at h; cases h
  | ok a => rw [ha] at h; cases h; rfl

theorem scheme_read (hs : s ∈ callSchemes) {a : String} {u : Url} (hp : s ++ [':'] <+: a.toList)
    (h : read a = .ok u) : u.scheme = s := by
  obtain ⟨hk, hw⟩ := web_of_scheme hs
  obtain ⟨rest, hr⟩ := scheme?_of_prefix hs (prefix_cleaned hw hp)
  rw [read, hr] at h
  simp only [hk] at h
  exact scheme_afterSlashes h

/-! ## Pairs -/

/-- A query with one more pair at its end. -/
def queryWith (query : Option (List Char)) (pair : List Char) : List Char :=
  match query with
  | some [] => pair
  | some q => q ++ '&' :: pair
  | none => pair

theorem keepPair_uuid (u : Uuid) : ∀ c ∈ u.chars, keepPair c = true := by
  have hd : ∀ k : Fin 16, keepPair (Hex.digit k.val) = true := by decide
  intro c hc
  obtain rfl | ⟨k, hk, rfl⟩ := Uuid.mem_chars hc
  · rfl
  · exact hd ⟨k, hk⟩

/-- The pair that names a session. -/
def sessionPair (session : SessionId) : List Char :=
  "session_id=".toList ++ (toString session).toList

theorem withPair_session (u : Url) (session : SessionId) :
    u.withPair "session_id" (toString session) =
      { u with query := some (queryWith u.query (sessionPair session)) } := by
  have hk : encode keepPair "session_id".toList = "session_id".toList := rfl
  have hv : encode keepPair (toString session).toList = (toString session).toList := by
    have hc : (toString session).toList = session.uuid.chars := String.toList_ofList
    rw [hc]
    exact encode_of_kept (keepPair_uuid session.uuid)
  have hp : "session_id".toList ++ '=' :: (toString session).toList = sessionPair session := rfl
  simp only [withPair, hk, hv, hp]
  rfl

end Url

namespace Gateway

open Url (callSchemes channelScheme queryWith sessionPair)

variable {config : Config} {s : List Char}

/-! ## The two bases -/

theorem after?_of_append {lead a : String} {rest : List Char} (h : a.toList = lead.toList ++ rest) :
    Config.after? lead a = some (String.ofList rest) := by
  have hp : lead.toList.isPrefixOf a.toList = true :=
    List.isPrefixOf_iff_prefix.2 ⟨rest, h.symm⟩
  rw [Config.after?, if_pos hp, h, ← String.length_toList, List.drop_left]

/-- What is left of the address of a gateway without the slashes at its end: its scheme at least. -/
theorem httpBase_of_url {rest : List Char} (h : config.url.toList = s ++ "://".toList ++ rest) :
    (∃ more, config.httpBase.toList = s ++ "://".toList ++ more) ∨
      config.httpBase.toList = s ++ [':'] := by
  have hc : ("://".toList.reverse ++ s.reverse).dropWhile (· = '/') = ':' :: s.reverse := rfl
  rw [Config.httpBase, Config.trimSlashes, String.toList_ofList, h, List.reverse_append,
    List.dropWhile_append]
  split
  · rw [List.reverse_append, hc]
    exact .inr (by simp)
  · exact .inl ⟨_, by rw [List.reverse_append, List.reverse_reverse]⟩

theorem channelBase_of_httpBase (hs : s ∈ callSchemes) (hn : config.channelUrl = none)
    {rest : List Char} (h : config.httpBase.toList = s ++ "://".toList ++ rest) :
    config.channelBase.toList = channelScheme s ++ "://".toList ++ rest := by
  simp only [callSchemes, List.mem_cons, List.not_mem_nil, or_false] at hs
  obtain rfl | rfl := hs
  · have hp : Config.after? "http://" config.httpBase = some (String.ofList rest) :=
      after?_of_append h
    have hq : Config.after? "https://" config.httpBase = none := by
      rw [Config.after?, h]
      rfl
    simp [Config.channelBase, hn, hp, hq, channelScheme]
  · have hp : Config.after? "https://" config.httpBase = some (String.ofList rest) :=
      after?_of_append h
    simp [Config.channelBase, hn, hp, channelScheme]

/-- A client is made of the address as it is read, after one of the schemes of calls. -/
theorem base_of_make {env : Environment} {c : Client} (h : Client.make config env = .ok c) :
    ∃ s ∈ callSchemes, ∃ rest, config.httpBase.toList = s ++ "://".toList ++ rest ∧
      Url.read config.httpBase = .ok c.base := by
  have bare (s : List Char) (hs : s ∈ callSchemes) (h : config.httpBase.toList = s ++ [':'])
      {u : Url} : Url.read config.httpBase ≠ .ok u := by
    have he : config.httpBase = String.ofList (s ++ [':']) := by rw [← h, String.ofList_toList]
    rw [he]
    simp only [callSchemes, List.mem_cons, List.not_mem_nil, or_false] at hs
    obtain rfl | rfl := hs <;> exact nofun
  simp only [Client.make] at h
  split at h
  · cases h
  next hl =>
  split at h
  · cases h
  next base hb =>
  have hu : ∃ s ∈ callSchemes, s ++ "://".toList <+: config.url.toList := by
    rw [Bool.and_eq_true, not_and_or, Bool.not_eq_true, Bool.not_eq_true] at hl
    obtain hl | hl := hl
    · exact ⟨"http".toList, .head _, Client.prefix_of_after? hl⟩
    · exact ⟨"https".toList, .tail _ (.head _), Client.prefix_of_after? hl⟩
  obtain ⟨s, hs, rest, hr⟩ := hu
  have hc : c.base = base := by
    split at h <;> cases h
    rfl
  obtain ⟨more, hm⟩ | hm := httpBase_of_url hr.symm
  · exact ⟨s, hs, more, hm, hc ▸ hb⟩
  · exact absurd hb (bare s hs hm)

/-! ## The addresses of channels -/

/-- Where a channel to a kernel is, below a gateway. -/
def channelEndpoint (kernel : String) : List String := ["api", "kernels", kernel, "channels"]

/-- Where no other address is set, the address of a channel is the one that a call at the same
place would have, under the scheme of channels and with the session at the end of the query: for
every client that can be made, every kernel id and every session. -/
theorem channelUrl_of_make {env : Environment} {c : Client} (h : Client.make config env = .ok c)
    (hn : config.channelUrl = none) (kernel : String) (session : SessionId) :
    ∃ u, c.address (channelEndpoint kernel) = .ok u ∧ u.scheme ∈ callSchemes ∧
      channelUrl config.channelBase kernel session = .ok { u with
        scheme := channelScheme u.scheme
        query := some (queryWith u.query (sessionPair session)) } := by
  obtain ⟨s, hs, rest, hr, hb⟩ := base_of_make h
  have hsb : c.base.scheme = s :=
    Url.scheme_read hs ⟨"//".toList ++ rest, by rw [hr]; simp⟩ hb
  have hv : Url.read config.channelBase =
      .ok { c.base with scheme := channelScheme s } := by
    rw [Url.read_channelScheme hs hr (channelBase_of_httpBase hs hn hr), hb]
    rfl
  obtain ⟨u, hu⟩ := Client.exists_address (Client.ofWeb_of_make h) (channelEndpoint kernel)
  have he : c.base.extend? (channelEndpoint kernel) = some u := by
    rw [Client.address] at hu
    split at hu <;> cases hu
    assumption
  have hus : u.scheme = s := by
    rw [Url.extend?] at he
    split at he <;> cases he
    exact hsb
  have hal : Url.Alike c.base.scheme (channelScheme s) := hsb.symm ▸ Url.alike_channelScheme hs
  have hw : { c.base with scheme := channelScheme s }.extend? (channelEndpoint kernel) =
      some { u with scheme := channelScheme s } := by
    rw [Url.extend?_of_alike hal, he]
    rfl
  refine ⟨u, hu, hus ▸ hs, ?_⟩
  rw [channelUrl, hv]
  simp only [channelEndpoint] at hw
  simp only [hw, Url.withPair_session, hus]

/-- A gateway whose address holds a user, a port that is left out, a path, a query to encode and
slashes at the end. -/
def queriedConfig : Config := { url := "https://me:s@[::1]:443/hub/?tag=a b//" }

/-- The client that is made for it. -/
def queriedClient : Client where
  config := queriedConfig
  base := {
    scheme := "https".toList
    authority := some {
      username := "me".toList, password := some "s".toList, host := "[::1]".toList }
    path := .segments ["hub".toList, []] false
    query := some "tag=a%20b".toList }
  headers := []

/-- Both addresses of a kernel whose id holds a slash. -/
theorem channelUrl_queried : Client.make queriedConfig [] = .ok queriedClient ∧
    queriedConfig.channelUrl = none ∧
    (queriedClient.address (channelEndpoint "a/b")).map (·.text) =
      .ok "https://me:s@[::1]/hub/api/kernels/a%2Fb/channels?tag=a%20b" ∧
    (channelUrl queriedConfig.channelBase "a/b" .zero).map (·.text) = .ok
      ("wss://me:s@[::1]/hub/api/kernels/a%2Fb/channels?tag=a%20b&" ++
        "session_id=00000000-0000-0000-0000-000000000000") := by
  have hm : Client.make queriedConfig [] = .ok queriedClient := rfl
  obtain ⟨u, hu, -, hv⟩ := channelUrl_of_make hm rfl "a/b" .zero
  refine ⟨hm, rfl, rfl, ?_⟩
  have he : queriedClient.address (channelEndpoint "a/b") = .ok { queriedClient.base with
      path := .segments (["hub", "api", "kernels", "a%2Fb", "channels"].map String.toList)
        false } := rfl
  rw [hv]
  cases hu.symm.trans he
  rfl

end Gateway

end KernelHub
