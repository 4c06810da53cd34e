import Mathlib.Data.List.Basic
import KernelHub.Gateway.Channel
import KernelHub.Proofs.Entries
import KernelHub.Proofs.Table

/-
The headers of calls and of handshakes. Both are one list, laid over what the message has of its
own, so both carry the same value under a name: the last of the list. They differ in what they
can carry: a call takes any value that a client can be made with, and a handshake only ASCII. So a
channel can fail to connect for a header that every call is sent with.
-/

namespace KernelHub.Gateway

namespace Headers

variable {hs : Headers} {k v : String}

/-! ## What is sent under a name -/

/-- A name as it is sent. -/
def key (name : String) : String := String.ofList (name.toList.map Char.toLower)

/-- The headers of a message that has some of its own: each replaces what stands under its name. -/
def overlay (own : Table String String) (hs : Headers) : Table String String :=
  hs.foldl (fun t h => Table.set (key h.1) h.2 t) own

/-- The last value under a name. -/
def last? (k : String) (hs : Headers) : Option String :=
  (hs.reverse.find? fun h => key h.1 = k).map (·.2)

theorem last?_cons (h : String × String) (hs : Headers) (k : String) :
    last? k (h :: hs) = (last? k hs).or (if key h.1 = k then some h.2 else none) := by
  rw [last?, last?, List.reverse_cons, List.find?_append, Option.map_or]
  by_cases hk : key h.1 = k <;> simp [hk]

theorem find?_overlay (own : Table String String) (hs : Headers) (k : String) :
    Table.find? k (overlay own hs) = (last? k hs).or (Table.find? k own) := by
  induction hs generalizing own with
  | nil => rfl
  | cons h hs ih =>
    have ho : overlay own (h :: hs) = overlay (Table.set (key h.1) h.2 own) hs := rfl
    rw [ho, ih, last?_cons, Table.find?_set]
    by_cases hk : key h.1 = k
    · cases last? k hs <;> simp [hk]
    · simp [hk, Ne.symm hk]

theorem find?_sent (hs : Headers) (k : String) : Table.find? k (sent hs) = last? k hs := by
  have h := find?_overlay [] hs k
  rwa [Table.find?_nil, Option.or_none] at h

theorem nodup_sent (hs : Headers) : (Table.keys (sent hs)).Nodup := by
  have go (t : Table String String) (ht : (Table.keys t).Nodup) :
      (Table.keys (overlay t hs)).Nodup := by
    induction hs generalizing t with
    | nil => exact ht
    | cons h hs ih => exact ih _ (Table.nodup_set ht _ _)
  exact go [] List.nodup_nil

theorem mem_sent : (k, v) ∈ sent hs ↔ last? k hs = some v := by
  rw [Table.mem_iff_find? (nodup_sent hs), find?_sent]

theorem last?_eq_some : last? k hs = some v ↔
    ∃ name pre post, hs = pre ++ (name, v) :: post ∧ key name = k ∧ ∀ h ∈ post, key h.1 ≠ k := by
  simp only [last?, Option.map_eq_some_iff, List.find?_eq_some_iff_append, decide_eq_true_eq]
  constructor
  · rintro ⟨⟨name, v⟩, ⟨hk, pre, post, hr, hn⟩, rfl⟩
    refine ⟨name, post.reverse, pre.reverse, ?_, hk, fun h hh => ?_⟩
    · rw [← List.reverse_reverse hs, hr]
      simp
    · simpa using hn h (List.mem_reverse.1 hh)
  · rintro ⟨name, pre, post, rfl, hk, hn⟩
    exact ⟨(name, v), ⟨hk, post.reverse, pre.reverse, by simp, by simpa using hn⟩, rfl⟩

theorem last?_eq_none : last? k hs = none ↔ ∀ h ∈ hs, key h.1 ≠ k := by simp [last?]

theorem exists_last? {h : String × String} (hh : h ∈ hs) : ∃ v, last? (key h.1) hs = some v := by
  rw [← Option.isSome_iff_exists, last?, Option.isSome_map, List.find?_isSome]
  exact ⟨h, List.mem_reverse.2 hh, decide_eq_true rfl⟩

end Headers

open Headers (key last?)

variable {config : Config} {env : Environment} {k v : String}

/-- What a client sends under a name: the value of the last configured header, in the order of
their names, whose name differs from it in case only; if there is none, who asks. -/
inductive Config.Sends (config : Config) (env : Environment) : String → String → Prop
  | configured {name v : String} (mem : (name, v) ∈ config.headers)
      (last : ∀ h ∈ config.headers, key h.1 = key name → h.1 ≤ name) : Sends config env (key name) v
  | token {t : String} (resolved : config.resolvedToken env = some t)
      (alone : ∀ h ∈ config.headers, key h.1 ≠ "authorization") :
      Sends config env "authorization" ("token " ++ t)

theorem key_authorization : key "authorization" = "authorization" := by decide

/-- In the order of names, the last header is the one with the greatest name. -/
theorem last?_ordered {es : Entries String} (ho : es.Ordered) : last? k es = some v ↔
    ∃ name, (name, v) ∈ es ∧ key name = k ∧ ∀ h ∈ es, key h.1 = k → h.1 ≤ name := by
  rw [Headers.last?_eq_some]
  constructor
  · rintro ⟨name, pre, post, rfl, hk, hn⟩
    refine ⟨name, by simp, hk, fun h hh he => ?_⟩
    obtain ⟨-, -, hp⟩ := List.pairwise_append.1 ho
    obtain hh | hh := List.mem_append.1 hh
    · exact String.not_lt.1 (String.lt_asymm (hp h hh _ List.mem_cons_self))
    · obtain rfl | hh := List.mem_cons.1 hh
      · exact String.le_refl _
      · exact absurd he (hn h hh)
  · rintro ⟨name, hm, hk, hl⟩
    obtain ⟨pre, post, rfl⟩ := List.append_of_mem hm
    refine ⟨name, pre, post, rfl, hk, fun h hh he => ?_⟩
    have hlt : name < h.1 := (List.pairwise_cons.1 (List.pairwise_append.1 ho).2.1).1 h hh
    exact String.not_le.2 hlt (hl h (List.mem_append_right _ (List.mem_cons_of_mem _ hh)) he)

theorem sends_iff (ho : config.headers.Ordered) :
    config.Sends env k v ↔ last? k (config.requestHeaders env) = some v := by
  have hc : last? k (config.requestHeaders env) = (last? k config.headers).or
      ((config.resolvedToken env).bind fun t =>
        if "authorization" = k then some ("token " ++ t) else none) := by
    rw [Config.requestHeaders]
    cases config.resolvedToken env with
    | some t => rw [Headers.last?_cons, key_authorization, Option.bind_some]
    | none => rw [Option.bind_none, Option.or_none]
  rw [hc, Option.or_eq_some_iff, last?_ordered ho]
  constructor
  · rintro (⟨hm, hl⟩ | ⟨ht, ha⟩)
    · exact .inl ⟨_, hm, rfl, hl⟩
    · refine .inr ⟨Headers.last?_eq_none.2 ha, ?_⟩
      rw [ht, Option.bind_some, if_pos rfl]
  · rintro (⟨name, hm, rfl, hl⟩ | ⟨hn, ht⟩)
    · exact .configured hm hl
    · obtain ⟨t, hr, ht⟩ := Option.bind_eq_some_iff.1 ht
      split at ht <;> cases ht
      next hk => exact hk ▸ .token hr (hk ▸ Headers.last?_eq_none.1 hn)

/-! ## What stands in the way -/

namespace Channel

variable {ch : Channel}

/-- The channel without headers. -/
def bare (ch : Channel) : Channel := { ch with headers := [] }

/-- Does an attempt get as far as a handshake? -/
def reaches (ch : Channel) (h : Handshake) : Bool :=
  ch.obstacle?.isNone && ch.hasScheme &&
    match h with
    | .unreachable _ => false
    | .late => false
    | _ => true

theorem obstacle?_bare (hf : Headers.fault? ch.headers = none) :
    ch.obstacle? = ch.bare.obstacle? := by
  simp only [obstacle?, hf]
  rfl

/-- Headers that can be sent matter to a handshake only, and there only if one is not ASCII. -/
theorem connect_eq (hf : Headers.fault? ch.headers = none) (h : Handshake) :
    (ch.connect h).2 = if ch.bare.reaches h && !ch.canHandshake then
      .error (.transport "UTF-8 encoding error") else (ch.bare.connect h).2 := by
  have hs : ch.hasScheme = ch.bare.hasScheme := rfl
  have hb : ch.bare.canHandshake = true := rfl
  simp only [connect, reaches, obstacle?_bare hf, hs, hb]
  cases ch.bare.obstacle? with
  | some e => rfl
  | none => cases h <;> cases ch.bare.hasScheme <;> cases ch.canHandshake <;> rfl

end Channel

theorem headers_of_make {c : Client} (hm : Client.make config env = .ok c) :
    c.config = config ∧ c.headers = config.requestHeaders env ∧
      Headers.fault? c.headers = none := by
  simp only [Client.make] at hm
  split at hm
  · cases hm
  split at hm
  · cases hm
  split at hm <;> cases hm
  next hf => exact ⟨rfl, rfl, hf⟩

theorem headers_of_channelMake {c : Client} {ch : Channel} {kernel : String} {session : SessionId}
    (hc : Channel.make c kernel session = .ok ch) : ch.headers = c.headers := by
  cases hu : channelUrl c.config.channelBase kernel session with
  | error e => simp [Channel.make, hu, bind, Except.bind] at hc
  | ok u =>
    simp only [Channel.make, hu, bind, Except.bind] at hc
    cases hc
    rfl

/-- For every client that can be made, calls and the handshakes of every channel carry the same
value under every configured name and that of who asks: the last one. What handshakes have of
their own is replaced. And a channel connects as it would without headers, unless the attempt
gets as far as a handshake and some value is not ASCII, which no handshake can carry. -/
theorem headers_of_channel {c : Client} {ch : Channel} {kernel : String} {session : SessionId}
    (ho : config.headers.Ordered) (hm : Client.make config env = .ok c)
    (hc : Channel.make c kernel session = .ok ch) :
    (∀ h ∈ config.requestHeaders env, ∃ v, config.Sends env (key h.1) v ∧
      Table.find? (key h.1) (Headers.sent c.headers) = some v ∧
      ∀ own, Table.find? (key h.1) (Headers.overlay own ch.headers) = some v) ∧
    ∀ h, (ch.bare.reaches h = true → (∃ k v, config.Sends env k v ∧ ¬ Headers.isAscii v) →
        (ch.connect h).2 = .error (.transport "UTF-8 encoding error")) ∧
      ((ch.bare.reaches h = true → ∀ k v, config.Sends env k v → Headers.isAscii v) →
        (ch.connect h).2 = (ch.bare.connect h).2) := by
  obtain ⟨-, hh, hf⟩ := headers_of_make hm
  have hch : ch.headers = config.requestHeaders env := (headers_of_channelMake hc).trans hh
  have hcan : ch.canHandshake = true ↔ ∀ k v, config.Sends env k v → Headers.isAscii v := by
    simp only [Channel.canHandshake, List.all_eq_true, Prod.forall, Headers.mem_sent, hch,
      sends_iff ho]
  refine ⟨fun h hmem => ?_, fun h => ?_⟩
  · obtain ⟨v, hv⟩ := Headers.exists_last? hmem
    refine ⟨v, (sends_iff ho).2 hv, ?_, fun own => ?_⟩
    · rw [hh, Headers.find?_sent, hv]
    · rw [hch, Headers.find?_overlay, hv, Option.some_or]
  · rw [Channel.connect_eq (by rwa [headers_of_channelMake hc]) h]
    refine ⟨fun hr ⟨k, v, hs, ha⟩ => ?_, fun hall => ?_⟩
    · have hn : ch.canHandshake = false := Bool.eq_false_iff.2 fun hy => ha (hcan.1 hy k v hs)
      rw [hr, hn]
      rfl
    · cases hr : ch.bare.reaches h with
      | false => rfl
      | true => simp [hcan.2 (hall hr)]

/-- A gateway that is told who uses it, under two names that differ in case only. -/
def namedConfig : Config where
  url := "http://[::1]"
  token := some "t"
  headers := [("AUTHORIZATION", "a"), ("X-User", "Zoe"), ("x-user", "Zoë")]

/-- The client that is made for it. -/
def namedClient : Client where
  config := namedConfig
  base := {
    scheme := "http".toList
    authority := some { host := "[::1]".toList }
    path := .segments [[]] false }
  headers := [("authorization", "token t"), ("AUTHORIZATION", "a"), ("X-User", "Zoe"),
    ("x-user", "Zoë")]

/-- A channel that it opens. -/
def namedChannel : Channel where
  url := {
    scheme := "ws".toList
    authority := some { host := "[::1]".toList }
    path := .segments (["api", "kernels", "k", "channels"].map String.toList) false
    query := some "session_id=00000000-0000-0000-0000-000000000000".toList }
  headers := namedClient.headers
  connectTimeout := 40

theorem make_named : Client.make namedConfig [] = .ok namedClient ∧
    Channel.make namedClient "k" .zero = .ok namedChannel := by
  decide +kernel

/-- Its calls carry the last value under each name, and its channels cannot connect. -/
theorem headers_of_channel_named : Client.make namedConfig [] = .ok namedClient ∧
    Channel.make namedClient "k" .zero = .ok namedChannel ∧ namedConfig.headers.Ordered ∧
    Table.find? "authorization" (Headers.sent namedClient.headers) = some "a" ∧
    namedConfig.Sends [] "x-user" "Zoë" ∧
    (namedChannel.connect .accepted).2 = .error (.transport "UTF-8 encoding error") := by
  have ho : namedConfig.headers.Ordered :=
    Entries.ordered_iff.2 (by decide +kernel)
  have hs : namedConfig.Sends [] "x-user" "Zoë" := (sends_iff ho).2 (by decide +kernel)
  have ⟨hm, hc⟩ := make_named
  obtain ⟨carried, connected⟩ := headers_of_channel ho hm hc
  obtain ⟨v, hv, hf, -⟩ := carried ("AUTHORIZATION", "a") (by decide)
  obtain rfl : v = "a" := Option.some.inj (((sends_iff ho).1 hv).symm.trans (by decide +kernel))
  exact ⟨hm, hc, ho, hf, hs, (connected .accepted).1 (by decide +kernel)
    ⟨"x-user", "Zoë", hs, by decide +kernel⟩⟩

/-- A channel that would connect without headers does not, for one that every call is sent with. -/
theorem header_blocks_channel : Client.make namedConfig [] = .ok namedClient ∧
    Channel.make namedClient "k" .zero = .ok namedChannel ∧
    Table.find? "x-user" (Headers.sent namedClient.headers) = some "Zoë" ∧
    (namedChannel.connect .accepted).2 = .error (.transport "UTF-8 encoding error") ∧
    (namedChannel.bare.connect .accepted).2 = .ok () :=
  ⟨make_named.1, make_named.2, by decide +kernel⟩

end KernelHub.Gateway
