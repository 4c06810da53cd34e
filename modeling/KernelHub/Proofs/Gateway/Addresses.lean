import KernelHub.Proofs.Gateway.Channels
import KernelHub.Proofs.Url.Parts

/-
What the address of a channel tells. Its text, cut at its marks and slashes, ends in the four
segments that lead to the kernel's channels and in the pair that names the session; all else is
the base's own. So a kernel and a session can be read off their address, whatever the base.
-/

namespace KernelHub

namespace Url

variable {u : Url} {ss : List (List Char)} {marked : Bool}

/-! ## Segments at the end -/

/-- The address with other segments, if it has segments at all. -/
def withSegments (u : Url) (ss : List (List Char)) : Url :=
  match u.path with
  | .segments _ marked => { u with path := .segments ss marked }
  | .opaqueText _ => u

theorem withSegments_of_listed (h : u.path = .segments ss marked) (ts : List (List Char)) :
    u.withSegments ts = { u with path := .segments ts marked } := by
  rw [withSegments, h]

theorem listed_of_extend? {names : List String} {v : Url} (h : u.extend? names = some v) :
    ∃ ss marked, u.path = .segments ss marked := by
  rw [extend?] at h
  split at h
  · cases h
  · next ss marked hp => exact ⟨ss, marked, hp⟩

theorem front_withSegments (h : u.path = .segments ss marked) (ts us : List (List Char)) :
    (u.withSegments (ts ++ us)).front = (u.withSegments ts).front ++ segmentChars us := by
  simp only [withSegments_of_listed h, front, Path.chars, segmentChars, List.flatMap_append,
    List.append_assoc, List.cons_append]

theorem root_subset (h : u.path = .segments ss marked) : u.root ⊆ ss := by
  rw [root, h]
  have hs : stem (withoutEmpty ss) ⊆ withoutEmpty ss := by
    simp only [stem]
    split <;> simp
  have he : withoutEmpty ss ⊆ ss := by
    simp only [withoutEmpty]
    split
    · exact List.dropLast_subset ss
    · exact List.Subset.refl ss
  exact List.Subset.trans hs he

/-- Each plain name that is pushed becomes one segment, whatever the scheme. -/
theorem extend?_of_plain (h : u.path = .segments ss marked) {n : String} {names : List String}
    (hne : n.toList ≠ []) (hn : ∀ m ∈ n :: names, Plain m.toList) :
    u.extend? (n :: names) = some (u.withSegments (u.root ++
      (n :: names).map fun m => encode (keepSegment u.isSpecial) m.toList)) := by
  rw [List.forall_mem_cons] at hn
  -- After an empty first segment the next one would take its place.
  have hs : encode (keepSegment u.isSpecial) n.toList ≠ [] := fun he => hne <| by
    have hb : bytes [] = bytes n.toList := (congrArg decode he).symm.trans (decode_segment _ _)
    exact (bytes_injective hb).symm
  have hh : Holds (u.root ++ [encode (keepSegment u.isSpecial) n.toList]) := by
    refine ⟨by simp, fun he => ?_⟩
    obtain ⟨-, h1⟩ | ⟨-, h2⟩ := List.append_eq_singleton_iff.1 he
    · exact hs (List.cons.inj h1).1
    · cases h2
  have hr : stem (withoutEmpty ss) = u.root := by rw [root, h]
  simp only [extend?, h, List.map_cons, List.foldl_cons, push_of_plain hn.1, hr,
    foldl_push_of_plain _ (List.forall_mem_map.2 hn.2) hh, withSegments]
  simp

/-- Segments at the end of a text are its last parts between slashes. -/
theorem splitOn_segmentChars (cs : List Char) (h : ∀ s ∈ ss, '/' ∉ s) :
    (cs ++ segmentChars ss).splitOn '/' = cs.splitOn '/' ++ ss := by
  induction ss generalizing cs with
  | nil => simp [segmentChars]
  | cons s ss ih =>
    rw [List.forall_mem_cons] at h
    have hc : cs ++ segmentChars (s :: ss) = cs ++ '/' :: (s ++ segmentChars ss) := rfl
    rw [hc, List.splitOn_append_cons_self, ih s h.2, List.splitOn_eq_singleton h.1]
    rfl

/-- No segment that is pushed holds a slash or a mark. -/
theorem not_mem_segment (special : Bool) (cs : List Char) :
    ∀ c ∈ encode (keepSegment special) cs, c ≠ '/' ∧ c ≠ '?' ∧ c ≠ '#' := by
  have hd : ∀ k : Fin 16, Hex.upperDigit k.val ≠ '/' ∧ Hex.upperDigit k.val ≠ '?' ∧
    Hex.upperDigit k.val ≠ '#' := by decide
  intro c hc
  obtain ⟨-, hk⟩ | rfl | ⟨n, hn, rfl⟩ := mem_encode hc
  · refine ⟨?_, ?_, ?_⟩ <;> rintro rfl <;> cases special <;> cases hk
  · decide
  · exact hd ⟨n, hn⟩

/-! ## Pairs -/

/-- The pairs of a query. Between two `&` there may be none. -/
def pairs (query : Option (List Char)) : List (List Char) :=
  ((query.getD []).splitOn '&').filter (· ≠ [])

theorem pairs_queryWith (query : Option (List Char)) {pair : List Char} (hp : '&' ∉ pair)
    (hne : pair ≠ []) : pairs (some (queryWith query pair)) = pairs query ++ [pair] := by
  have hs : (pair.splitOn '&').filter (· ≠ []) = [pair] := by
    rw [List.splitOn_eq_singleton hp]
    simp [hne]
  rw [pairs, Option.getD_some, queryWith.eq_def]
  split
  · simpa [pairs] using hs
  · next q _ =>
    rw [List.splitOn_append_cons_self, List.filter_append, hs]
    rfl
  · simpa [pairs] using hs

theorem mem_queryWith {query : Option (List Char)} {pair : List Char} {c : Char}
    (h : c ∈ queryWith query pair) : (∃ q, query = some q ∧ c ∈ q) ∨ c = '&' ∨ c ∈ pair := by
  rw [queryWith.eq_def] at h
  split at h
  · exact .inr (.inr h)
  · next q _ => simpa using h
  · exact .inr (.inr h)

theorem sessionPair_eq (session : SessionId) :
    sessionPair session = "session_id=".toList ++ session.uuid.chars :=
  congrArg ("session_id=".toList ++ ·) String.toList_ofList

theorem not_mem_sessionPair (session : SessionId) :
    ∀ c ∈ sessionPair session, c ≠ '&' ∧ c ≠ '#' := by
  have hk : "session_id=".toList.all (fun c => c ≠ '&' && c ≠ '#') = true := rfl
  have hd : ∀ k : Fin 16, Hex.digit k.val ≠ '&' ∧ Hex.digit k.val ≠ '#' := by decide
  rw [sessionPair_eq, List.forall_mem_append]
  refine ⟨fun c hc => by simpa using List.all_eq_true.1 hk c hc, fun c hc => ?_⟩
  obtain rfl | ⟨k, hk, rfl⟩ := Uuid.mem_chars hc
  · decide
  · exact hd ⟨k, hk⟩

theorem sessionPair_ne_nil (session : SessionId) : sessionPair session ≠ [] :=
  List.append_ne_nil_of_left_ne_nil (by simp) _

end Url

namespace Gateway

open Url (Plain parts pairs sessionPair)

/-- The parts between slashes of what stands before the segments pushed. -/
def lead (base : Url) : List (List Char) := (base.withSegments base.root).front.splitOn '/'

/-- An address whose text tells a kernel and a session, and has all else from a base. -/
structure Tells (base : Url) (kernel : String) (session : SessionId) (text : List Char) : Prop where
  /-- Before the query, the last four segments are those of the kernel's channels. -/
  segments : ∃ x, (parts text).1.splitOn '/' =
      lead base ++ ["api".toList, "kernels".toList, x, "channels".toList] ∧
    (∀ c ∈ x, c ≠ '/' ∧ c ≠ '?' ∧ c ≠ '#') ∧ Url.decode x = Url.bytes kernel.toList
  /-- The last pair of the query is that of the session. -/
  session : pairs (parts text).2.1 = pairs base.query ++ [sessionPair session]
  fragment : (parts text).2.2 = base.fragment

variable {base : String} {b u : Url} {kernel kernel' : String} {session session' : SessionId}
  {text : List Char}

/-- The text of an address tells no two kernels, and no two sessions. -/
theorem Tells.injective (h : Tells b kernel session text) (h' : Tells b kernel' session' text) :
    kernel = kernel' ∧ session = session' := by
  obtain ⟨x, hx, -, hd⟩ := h.segments
  obtain ⟨y, hy, -, hd'⟩ := h'.segments
  have he := List.append_cancel_left (hx.symm.trans hy)
  obtain rfl : x = y := by simpa using he
  refine ⟨String.toList_injective (Url.bytes_injective (hd.symm.trans hd')), ?_⟩
  have hs := List.append_cancel_left (h.session.symm.trans h'.session)
  have ht : (toString session).toList = (toString session').toList :=
    List.append_cancel_left (List.cons.inj hs).1
  have hu : session.uuid = session'.uuid := Uuid.toString_injective (String.toList_injective ht)
  cases session
  cases session'
  exact congrArg _ hu

/-- A base that is read, and on whose path segments can be pushed. -/
theorem base_of_channelUrl (h : channelUrl base kernel session = .ok u) :
    ∃ b ss marked, Url.read base = .ok b ∧ b.path = .segments ss marked := by
  rw [channelUrl] at h
  split at h
  · cases h
  next b hb =>
  split at h
  · cases h
  next v hv =>
  obtain ⟨ss, marked, hp⟩ := Url.listed_of_extend? hv
  exact ⟨b, ss, marked, hb, hp⟩

/-- The segments that lead from a base to the channels of a kernel. -/
def trail (b : Url) (kernel : String) : List (List Char) :=
  (channelEndpoint kernel).map fun n => Url.encode (Url.keepSegment b.isSpecial) n.toList

theorem trail_eq (b : Url) (kernel : String) : trail b kernel = ["api".toList, "kernels".toList,
    Url.encode (Url.keepSegment b.isSpecial) kernel.toList, "channels".toList] := by
  simp only [trail, channelEndpoint, List.map_cons, List.map_nil]
  cases b.isSpecial <;> rfl

/-- No segment that leads there holds a slash or a mark. -/
theorem of_mem_trail {t : List Char} (h : t ∈ trail b kernel) : Url.Unmarked t ∧ '/' ∉ t := by
  obtain ⟨n, -, rfl⟩ := List.mem_map.1 h
  have hm := Url.not_mem_segment b.isSpecial n.toList
  exact ⟨fun c hc => by simp [Url.isMark, (hm c hc).2], fun hc => (hm _ hc).1 rfl⟩

/-- The address below a base with the given segments at its end and the pair of a session. -/
def below (b : Url) (ts : List (List Char)) (session : SessionId) : Url :=
  { b.withSegments (b.root ++ ts) with
    query := some (Url.queryWith b.query (sessionPair session)) }

/-- The address of a channel to a kernel whose id is plain. -/
theorem channelUrl_of_plain {ss : List (List Char)} {marked : Bool} (hb : Url.read base = .ok b)
    (hp : b.path = .segments ss marked) (hk : Plain kernel.toList) (session : SessionId) :
    channelUrl base kernel session = .ok (below b (trail b kernel) session) := by
  have hn : ∀ n ∈ channelEndpoint kernel, Plain n.toList := by
    simp only [channelEndpoint, List.forall_mem_cons]
    exact ⟨by decide, by decide, hk, by decide, List.forall_mem_nil _⟩
  have he := Url.extend?_of_plain hp Client.api_ne_nil hn
  have hq (ts : List (List Char)) : (b.withSegments ts).query = b.query := by
    rw [Url.withSegments_of_listed hp]
  have he' : b.extend? ["api", "kernels", kernel, "channels"] =
      some (b.withSegments (b.root ++ trail b kernel)) := he
  simp only [channelUrl, hb, he', Url.withPair_session, hq, below]

theorem tidy_below {ss ts : List (List Char)} {marked : Bool} (hb : b.Tidy)
    (hp : b.path = .segments ss marked) (ht : ∀ t ∈ ts, Url.Unmarked t) (session : SessionId) :
    (below b ts session).Tidy := by
  have hs : ∀ s ∈ ss, Url.Unmarked s :=
    Url.unmarked_segmentChars.1 (Url.unmarked_append.1 (hp ▸ hb.path)).2
  have hr : ∀ s ∈ b.root, Url.Unmarked s := fun s hm => hs s (Url.root_subset hp hm)
  simp only [below, Url.withSegments_of_listed hp]
  exact {
    scheme := hb.scheme
    authority := hb.authority
    path := Url.unmarked_pathChars (List.forall_mem_append.2 ⟨hr, ht⟩) marked
    query := by
      rintro q ⟨⟩ hm
      obtain ⟨q, hq, hm⟩ | hm | hm := Url.mem_queryWith hm
      · exact hb.query q hq hm
      · cases hm
      · exact (Url.not_mem_sessionPair session _ hm).2 rfl
    fragment := hb.fragment }

/-- What is below the base is read back from the text of the address. -/
theorem tells_below {ss : List (List Char)} {marked : Bool} (hb : b.Tidy)
    (hp : b.path = .segments ss marked) (kernel : String) (session : SessionId) :
    Tells b kernel session (below b (trail b kernel) session).text.toList := by
  have ht : (below b (trail b kernel) session).Tidy :=
    tidy_below hb hp (fun _ h => (of_mem_trail h).1) session
  have hf : (below b (trail b kernel) session).front =
      (b.withSegments b.root).front ++ Url.segmentChars (trail b kernel) :=
    Url.front_withSegments hp b.root _
  have hs (t : List Char) (h : t ∈ trail b kernel) : '/' ∉ t := (of_mem_trail h).2
  rw [Url.text, String.toList_ofList]
  refine ⟨⟨_, ?_, Url.not_mem_segment b.isSpecial kernel.toList,
    Url.decode_segment b.isSpecial kernel.toList⟩, ?_, ?_⟩
  · rw [Url.parts_chars ht, hf, Url.splitOn_segmentChars _ hs, trail_eq, lead]
  · rw [Url.parts_chars ht]
    exact Url.pairs_queryWith b.query (fun h => (Url.not_mem_sessionPair session _ h).1 rfl)
      (Url.sessionPair_ne_nil session)
  · rw [Url.parts_chars ht]
    simp only [below, Url.withSegments_of_listed hp]

/-- The address of a channel can be read back. Where one address can be made at a base, one is
made for every plain kernel id and every session: it has the scheme and the authority of the base,
and its text tells the kernel and the session and has all else from the base. So no two channels
below one base share an address. -/
theorem channelUrl_read_back (h : channelUrl base kernel session = .ok u) :
    ∃ b, Url.read base = .ok b ∧
      (∀ kernel session, Plain kernel.toList → ∃ u, channelUrl base kernel session = .ok u ∧
        u.scheme = b.scheme ∧ u.authority = b.authority ∧ Tells b kernel session u.text.toList) ∧
      ∀ kernel kernel' session session' u u', Plain kernel.toList → Plain kernel'.toList →
        channelUrl base kernel session = .ok u → channelUrl base kernel' session' = .ok u' →
        u.text = u'.text → kernel = kernel' ∧ session = session' := by
  obtain ⟨b, ss, marked, hb, hp⟩ := base_of_channelUrl h
  have made (kernel : String) (session : SessionId) (hk : Plain kernel.toList) :
      ∃ u, channelUrl base kernel session = .ok u ∧
        u.scheme = b.scheme ∧ u.authority = b.authority ∧ Tells b kernel session u.text.toList := by
    refine ⟨_, channelUrl_of_plain hb hp hk session, ?_, ?_, tells_below (Url.tidy_read hb) hp _ _⟩
    all_goals rw [below, Url.withSegments_of_listed hp]
  refine ⟨b, hb, made, fun kernel kernel' session session' u u' hk hk' hu hu' ht => ?_⟩
  obtain ⟨v, hv, -, -, tells⟩ := made kernel session hk
  obtain ⟨v', hv', -, -, tells'⟩ := made kernel' session' hk'
  obtain rfl : u = v := Except.ok.inj (hu.symm.trans hv)
  obtain rfl : u' = v' := Except.ok.inj (hu'.symm.trans hv')
  exact tells.injective (ht ▸ tells')

/-- A base with a user, slashes at the end of its path, a query and a fragment. -/
def crowdedBase : String := "ws://me:s@[::1]:8080/hub//?x=1&&y#f"

/-- The address below it of a kernel whose id holds slashes, marks and percent signs. -/
theorem channelUrl_read_back_crowded :
    (channelUrl crowdedBase "a/?#%2Fé" .zero).map (·.text) = .ok
      ("ws://me:s@[::1]:8080/hub//api/kernels/a%2F%3F%23%252F%C3%A9/channels?x=1&&y&" ++
        "session_id=00000000-0000-0000-0000-000000000000#f") ∧
    ∃ u b, channelUrl crowdedBase "a/?#%2Fé" .zero = .ok u ∧ Url.read crowdedBase = .ok b ∧
      Tells b "a/?#%2Fé" .zero u.text.toList := by
  refine ⟨by decide +kernel, ?_⟩
  obtain ⟨u, hu⟩ : ∃ u, channelUrl crowdedBase "a/?#%2Fé" .zero = .ok u := ⟨_, rfl⟩
  obtain ⟨b, hb, made, -⟩ := channelUrl_read_back hu
  obtain ⟨v, hv, -, -, tells⟩ := made "a/?#%2Fé" .zero (by decide)
  exact ⟨v, b, hv, hb, tells⟩

end Gateway

end KernelHub
