import KernelHub.Proofs.Url
import KernelHub.Url.Reader

/-
What parts the text of an address. A question mark starts the query and a hash sign the fragment,
and an address that was read holds neither anywhere before that: what could stand for one was
encoded or refused. So its text is cut at the first of them into what it was made from.
-/

namespace KernelHub.Url

/-- Does the character start the query or the fragment? -/
def isMark (c : Char) : Bool := c = '?' || c = '#'

/-- A text that no query and no fragment starts in. -/
def Unmarked (cs : List Char) : Prop := ∀ c ∈ cs, isMark c = false

variable {cs ds : List Char} {keep : Char → Bool} {k : Kind}

theorem unmarked_nil : Unmarked [] := nofun

theorem unmarked_cons {c : Char} : Unmarked (c :: cs) ↔ isMark c = false ∧ Unmarked cs :=
  List.forall_mem_cons

theorem unmarked_append : Unmarked (cs ++ ds) ↔ Unmarked cs ∧ Unmarked ds :=
  List.forall_mem_append

theorem unmarked_of_all (h : cs.all (fun c => !isMark c) = true) : Unmarked cs :=
  fun c hc => by simpa using List.all_eq_true.1 h c hc

theorem isMark_upperDigit {n : Nat} (h : n < 16) : isMark (Hex.upperDigit n) = false := by
  have : ∀ k : Fin 16, isMark (Hex.upperDigit k.val) = false := by decide
  exact this ⟨n, h⟩

/-- An encoded text has no marks but those of its text that are kept. -/
theorem unmarked_encode (h : ∀ c ∈ cs, keep c = true → isMark c = false) :
    Unmarked (encode keep cs) := by
  intro c hc
  obtain ⟨hm, hk⟩ | rfl | ⟨n, hn, rfl⟩ := mem_encode hc
  · exact h c hm hk
  · rfl
  · exact isMark_upperDigit hn

theorem isMark_of_keepPath {c : Char} (h : keepPath c = true) : isMark c = false := by
  simp only [keepPath, Bool.and_eq_true, Bool.not_eq_true', List.contains_eq_mem,
    decide_eq_false_iff_not, List.mem_cons, not_or] at h
  simp [isMark, h.2.1, h.2.2.1]

theorem isMark_of_keepUserinfo {c : Char} (h : keepUserinfo c = true) : isMark c = false := by
  rw [keepUserinfo, Bool.and_eq_true] at h
  exact isMark_of_keepPath h.1

/-! ## Schemes and hosts -/

theorem unmarked_toLower (h : Unmarked cs) : Unmarked (cs.map Char.toLower) := by
  intro c hc
  obtain ⟨d, hd, rfl⟩ := List.mem_map.1 hc
  obtain he | ⟨n, hn, -, he⟩ := of_toLower d
  · exact he.symm ▸ h d hd
  · have : ∀ n : Fin 26, isMark (Char.ofNat (97 + n)) = false := by decide
    exact he.symm ▸ this ⟨n, hn⟩

theorem unmarked_scheme {scheme rest : List Char} (h : scheme? cs = some (scheme, rest)) :
    Unmarked scheme := by
  simp only [scheme?] at h
  split at h
  · split at h <;> cases h
    refine unmarked_toLower fun d hd => Bool.eq_false_iff.2 fun hm => ?_
    have hs := List.all_eq_true.1 List.all_takeWhile d hd
    simp only [isMark, Bool.or_eq_true, decide_eq_true_eq] at hm
    obtain rfl | rfl := hm <;> revert hs <;> decide
  · cases h

theorem unmarked_toDigits {b : Nat} (h : 1 < b) (hb : b ≤ 16) (n : Nat) :
    Unmarked (Nat.toDigits b n) := by
  have hd : ∀ k : Fin 16, isMark (Nat.digitChar k) = false := by decide
  induction n using Nat.strongRecOn with
  | _ n ih =>
    rw [Nat.toDigits_eq_if h]
    split
    · next hn => exact unmarked_cons.2 ⟨hd ⟨n, by omega⟩, unmarked_nil⟩
    · next hn =>
      have hm : n % b < 16 := Nat.lt_of_lt_of_le (Nat.mod_lt n (by omega)) hb
      exact unmarked_append.2 ⟨ih _ (Nat.div_lt_self (by omega) h),
        unmarked_cons.2 ⟨hd ⟨n % b, hm⟩, unmarked_nil⟩⟩

theorem unmarked_intercalate (hs : Unmarked cs) {ts : List (List Char)}
    (ht : ∀ t ∈ ts, Unmarked t) : Unmarked (List.intercalate cs ts) := by
  induction ts with
  | nil => exact unmarked_nil
  | cons t ts ih =>
    rw [List.forall_mem_cons] at ht
    cases ts with
    | nil =>
      rw [List.intercalate_singleton]
      exact ht.1
    | cons t' ts =>
      rw [List.intercalate_cons_cons]
      exact unmarked_append.2 ⟨unmarked_append.2 ⟨ht.1, hs⟩, ih ht.2⟩

theorem unmarked_bracketed (h : bracketed cs = .ok ds) : Unmarked ds := by
  have joined (ps : List Nat) : Unmarked (joined ps) :=
    unmarked_intercalate (unmarked_of_all rfl) fun t ht => by
      obtain ⟨n, -, rfl⟩ := List.mem_map.1 ht
      exact unmarked_toDigits (by decide) (by decide) n
  rw [bracketed] at h
  split at h
  · split at h
    · next ps _ =>
      cases h
      refine unmarked_cons.2 ⟨rfl, unmarked_append.2 ⟨?_, unmarked_of_all rfl⟩⟩
      rw [ipv6Chars]
      split
      · exact unmarked_append.2 ⟨unmarked_append.2 ⟨joined _, unmarked_of_all rfl⟩, joined _⟩
      · exact joined _
    · cases h
  · cases h

theorem unmarked_asciiDomain (h : asciiDomain? cs = some ds) : Unmarked ds := by
  rw [asciiDomain?] at h
  simp only [Option.bind_eq_bind, Option.bind_eq_some_iff] at h
  obtain ⟨_, -, es, -, h⟩ := h
  split at h <;> cases h
  next hf =>
  intro c hc
  have hn : forbiddenInDomain c = false := by
    simpa using fun hc' => hf (List.any_eq_true.2 ⟨c, hc, hc'⟩)
  refine Bool.eq_false_iff.2 fun hm => ?_
  simp only [isMark, Bool.or_eq_true, decide_eq_true_eq] at hm
  obtain rfl | rfl := hm <;> revert hn <;> decide

theorem unmarked_specialHost (h : specialHost cs = .ok ds) : Unmarked ds := by
  simp only [specialHost] at h
  split at h
  · exact unmarked_bracketed h
  · split at h
    · cases h
    · cases h
    · next es he =>
      split at h
      · split at h
        · next n _ =>
          cases h
          refine unmarked_intercalate (unmarked_of_all rfl) fun t ht => ?_
          obtain ⟨i, -, rfl⟩ := List.mem_map.1 ht
          exact unmarked_toDigits (by decide) (by decide) _
        · cases h
      · cases h
        exact unmarked_asciiDomain he

theorem unmarked_plainHost (h : plainHost cs = .ok ds) : Unmarked ds := by
  simp only [plainHost] at h
  split at h
  · exact unmarked_bracketed h
  · split at h
    · cases h
    · next ha =>
      cases h
      refine unmarked_encode fun c hc _ => Bool.eq_false_iff.2 fun hm => ha ?_
      simp only [isMark, Bool.or_eq_true, decide_eq_true_eq] at hm
      obtain rfl | rfl := hm <;> exact List.any_eq_true.2 ⟨_, hc, rfl⟩

theorem unmarked_host (h : readHost k cs = .ok ds) : Unmarked ds := by
  cases k with
  | other => exact unmarked_plainHost h
  | web | file => exact unmarked_specialHost h

/-! ## Authorities -/

/-- An authority that is read has its user encoded, and a host that was read. -/
theorem authority_of_read {scheme rest : List Char} {a : Authority}
    (h : readAuthority scheme cs = .ok (a, rest)) : ∃ name secret host text port,
      readHost (kindOf scheme) text = .ok host ∧ a = {
        username := encode keepUserinfo name
        password := if secret = [] then none else some (encode keepUserinfo secret)
        host, port } := by
  simp only [readAuthority, bind, Except.bind, pure, Except.pure, throw, throwThe,
    MonadExceptOf.throw] at h
  split at h
  · cases h
  split at h
  · cases h
  next host hh =>
  split at h
  · cases h
  split at h
  · split at h
    · cases h
    split at h <;> cases h
    exact ⟨_, _, _, _, _, hh, rfl⟩
  · split at h <;> cases h
    exact ⟨_, _, _, _, _, hh, rfl⟩

theorem unmarked_authorityChars {a : Authority} (hn : Unmarked a.username)
    (hs : ∀ p, a.password = some p → Unmarked p) (hh : Unmarked a.host) : Unmarked a.chars := by
  have sign (w : List Char) (hw : Unmarked w) : Unmarked (if w = [] then [] else w ++ ['@']) := by
    split
    · exact unmarked_nil
    · exact unmarked_append.2 ⟨hw, unmarked_of_all rfl⟩
  refine unmarked_append.2 ⟨unmarked_append.2 ⟨sign _ (unmarked_append.2 ⟨hn, ?_⟩), hh⟩, ?_⟩
  · split
    · next p hp => exact unmarked_cons.2 ⟨rfl, hs p hp⟩
    · exact unmarked_nil
  · split
    · exact unmarked_cons.2 ⟨rfl, unmarked_toDigits (by decide) (by decide) _⟩
    · exact unmarked_nil

theorem unmarked_authority {scheme rest : List Char} {a : Authority}
    (h : readAuthority scheme cs = .ok (a, rest)) : Unmarked a.chars := by
  have user (ds : List Char) : Unmarked (encode keepUserinfo ds) :=
    unmarked_encode fun c _ => isMark_of_keepUserinfo
  obtain ⟨name, secret, host, text, port, hh, rfl⟩ := authority_of_read h
  refine unmarked_authorityChars (user name) (fun p hp => ?_) (unmarked_host hh)
  dsimp only at hp
  split at hp <;> cases hp
  exact user secret

/-! ## Paths -/

theorem unmarked_stepBack {ss : List (List Char)} (hs : ∀ s ∈ ss, Unmarked s) :
    ∀ s ∈ stepBack ss, Unmarked s := by
  rw [stepBack]
  split
  · exact hs
  · exact fun s h => hs s (List.dropLast_subset ss h)

theorem unmarked_placed {s : List Char} (h : Unmarked s) (ss : List (List Char)) :
    Unmarked (placed k ss s) := by
  rw [placed]
  split
  · exact unmarked_append.2 ⟨fun c hc => h c (List.mem_of_mem_take hc), unmarked_of_all rfl⟩
  · exact h

theorem unmarked_walk {ss ts : List (List Char)} (hs : ∀ s ∈ ss, Unmarked s)
    (ht : ∀ t ∈ ts, Unmarked t) : ∀ s ∈ walk k ss ts, Unmarked s := by
  have snoc {ss : List (List Char)} {s : List Char} (hs : ∀ s ∈ ss, Unmarked s) (h : Unmarked s) :
      ∀ t ∈ ss ++ [s], Unmarked t := List.forall_mem_append.2 ⟨hs, List.forall_mem_singleton.2 h⟩
  fun_induction walk k ss ts with
  | case1 => exact hs
  | case2 => exact snoc (unmarked_stepBack hs) unmarked_nil
  | case3 => exact snoc hs unmarked_nil
  | case4 ss s => exact snoc hs (unmarked_placed (ht s (.head _)) ss)
  | case5 ss s more _ _ ih => exact ih (unmarked_stepBack hs) fun t h => ht t (.tail _ h)
  | case6 ss s more _ _ _ ih => exact ih hs fun t h => ht t (.tail _ h)
  | case7 ss s more _ _ _ ih =>
    exact ih (snoc hs (unmarked_placed (ht s (.head _)) ss)) fun t h => ht t (.tail _ h)

theorem unmarked_readSegments (k : Kind) (cs : List Char) :
    ∀ s ∈ readSegments k cs, Unmarked s := by
  refine unmarked_walk nofun fun t ht => ?_
  obtain ⟨p, -, rfl⟩ := List.mem_map.1 ht
  exact unmarked_encode fun c _ => isMark_of_keepPath

theorem unmarked_pathSegments (k : Kind) (cs : List Char) :
    ∀ s ∈ pathSegments k cs, Unmarked s := by
  rw [pathSegments.eq_def]
  split
  · split
    · exact List.forall_mem_singleton.2 unmarked_nil
    · exact nofun
  · exact unmarked_readSegments k _

theorem unmarked_withoutLead {ss : List (List Char)} (h : ∀ s ∈ ss, Unmarked s) :
    ∀ s ∈ withoutLead ss, Unmarked s := by
  rw [withoutLead]
  split
  · exact List.forall_mem_singleton.2 unmarked_nil
  · exact fun s hs => h s (List.dropWhile_subset _ hs)

theorem unmarked_segmentChars {ss : List (List Char)} :
    Unmarked (segmentChars ss) ↔ ∀ s ∈ ss, Unmarked s := by
  induction ss with
  | nil => simp [segmentChars, unmarked_nil]
  | cons s ss ih =>
    have hc : segmentChars (s :: ss) = '/' :: (s ++ segmentChars ss) := rfl
    rw [hc, unmarked_cons, unmarked_append, ih, List.forall_mem_cons]
    simp [isMark]

theorem unmarked_pathChars {ss : List (List Char)} (h : ∀ s ∈ ss, Unmarked s) (marked : Bool) :
    Unmarked (Path.segments ss marked).chars := by
  refine unmarked_append.2 ⟨?_, unmarked_segmentChars.2 h⟩
  split
  · exact unmarked_of_all rfl
  · exact unmarked_nil

/-! ## Addresses -/

/-- An address whose text can be told from its parts. -/
structure Tidy (u : Url) : Prop where
  scheme : Unmarked u.scheme
  authority : ∀ a, u.authority = some a → Unmarked a.chars
  path : Unmarked u.path.chars
  query : ∀ q, u.query = some q → '#' ∉ q
  fragment : ∀ f, u.fragment = some f → ∀ c ∈ f, keepFragment c = true

theorem keepFragment_encode (cs : List Char) :
    ∀ c ∈ encode keepFragment cs, keepFragment c = true := by
  have hd : ∀ k : Fin 16, keepFragment (Hex.upperDigit k.val) = true := by decide
  intro c hc
  obtain ⟨-, hk⟩ | rfl | ⟨n, hn, rfl⟩ := mem_encode hc
  · exact hk
  · rfl
  · exact hd ⟨n, hn⟩

theorem not_mem_encodeQuery (special : Bool) (cs : List Char) :
    '#' ∉ encode (keepQuery special) cs := by
  have hd : ∀ k : Fin 16, '#' ≠ Hex.upperDigit k.val := by decide
  intro hc
  obtain ⟨-, hk⟩ | he | ⟨n, hn, he⟩ := mem_encode hc
  · cases special <;> cases hk
  · cases he
  · exact hd ⟨n, hn⟩ he

/-- The text of a path ends at the first mark. -/
theorem unmarked_path (cs : List Char) : Unmarked (parts cs).1 := by
  intro c hc
  have hq := List.all_eq_true.1 List.all_takeWhile c hc
  have hf := List.all_eq_true.1 List.all_takeWhile c ((List.takeWhile_subset _) hc)
  simp only [decide_eq_true_eq] at hq hf
  simp [isMark, hq, hf]

theorem tidy_withRest {scheme : List Char} {authority : Option Authority} {path : Path}
    (hs : Unmarked scheme) (ha : ∀ a, authority = some a → Unmarked a.chars)
    (hp : Unmarked path.chars) (cs : List Char) : Tidy (withRest scheme authority path cs) where
  scheme := hs
  authority := ha
  path := hp
  query q hq := by
    obtain ⟨q', -, rfl⟩ := Option.map_eq_some_iff.1 hq
    exact not_mem_encodeQuery _ _
  fragment f hf := by
    simp only [withRest, parts] at hf
    split at hf <;> cases hf
    exact keepFragment_encode _

theorem tidy_afterSlashes {scheme : List Char} {u : Url} (hs : Unmarked scheme)
    (h : afterSlashes scheme cs = .ok u) : Tidy u := by
  rw [afterSlashes] at h
  cases ha : readAuthority scheme cs with
  | error e => rw [ha] at h; cases h
  | ok a =>
    rw [ha] at h
    cases h
    refine tidy_withRest hs (fun b hb => ?_) (unmarked_pathChars (unmarked_pathSegments _ _) _) _
    cases hb
    exact unmarked_authority ha

theorem tidy_readFile {scheme : List Char} {u : Url} (hs : Unmarked scheme)
    (h : readFile scheme cs = .ok u) : Tidy u := by
  have made {host : List Char} {ss : List (List Char)} (hh : Unmarked host)
      (hp : ∀ s ∈ ss, Unmarked s) (cs : List Char) :
      Tidy (withRest scheme (some { host }) (.segments (withoutLead ss) false) cs) := by
    refine tidy_withRest hs (fun a ha => ?_) (unmarked_pathChars (unmarked_withoutLead hp) _) cs
    cases ha
    exact unmarked_authorityChars unmarked_nil (fun _ h => nomatch h) hh
  simp only [readFile, bind, Except.bind, pure, Except.pure] at h
  split at h
  · split at h
    · split at h
      · cases h
        exact made unmarked_nil (unmarked_readSegments _ _) _
      split at h
      · cases h
        exact made unmarked_nil (unmarked_readSegments _ _) _
      split at h
      · cases h
      next host hh =>
      split at h <;> cases h
      · exact made unmarked_nil (unmarked_readSegments _ _) _
      · refine made ?_ (unmarked_pathSegments _ _) _
        split
        · exact unmarked_nil
        · exact unmarked_host hh
    · cases h
      exact made unmarked_nil (unmarked_pathSegments _ _) _
  · cases h
    exact made unmarked_nil (unmarked_pathSegments _ _) _

theorem tidy_readOther {scheme : List Char} {u : Url} (hs : Unmarked scheme)
    (h : readOther scheme cs = .ok u) : Tidy u := by
  rw [readOther.eq_def] at h
  split at h
  · exact tidy_afterSlashes hs h
  · cases h
    refine tidy_withRest hs ?_ (unmarked_pathChars (unmarked_pathSegments _ _) _) _
    exact nofun
  · cases h
    refine tidy_withRest hs ?_ ?_ _
    · exact nofun
    · exact unmarked_encode fun c hc _ => unmarked_path _ c hc

/-- Every address that is read is tidy. -/
theorem tidy_read {s : String} {u : Url} (h : read s = .ok u) : Tidy u := by
  rw [read] at h
  split at h
  · cases h
  · next scheme rest hsc =>
    have hs := unmarked_scheme hsc
    split at h
    · exact tidy_afterSlashes hs h
    · exact tidy_readFile hs h
    · exact tidy_readOther hs h

/-- The text before the query and the fragment. -/
def front (u : Url) : List Char :=
  u.scheme ++ ':' :: ((match u.authority with
    | some a => '/' :: '/' :: a.chars
    | none => []) ++ u.path.chars)

/-- A part of a text after its mark, if there is one. -/
def after (mark : Char) : Option (List Char) → List Char
  | some cs => mark :: cs
  | none => []

theorem chars_eq (u : Url) : u.chars = u.front ++ after '?' u.query ++ after '#' u.fragment := by
  simp only [chars, front, List.append_assoc, List.cons_append]
  rfl

theorem unmarked_front {u : Url} (h : Tidy u) : Unmarked u.front := by
  refine unmarked_append.2 ⟨h.scheme, unmarked_cons.2 ⟨rfl, unmarked_append.2 ⟨?_, h.path⟩⟩⟩
  split
  · next a ha => exact unmarked_cons.2 ⟨rfl, unmarked_cons.2 ⟨rfl, h.authority a ha⟩⟩
  · exact unmarked_nil

/-- A text is cut at the first mark. -/
theorem takeWhile_after {mark : Char} (h : mark ∉ cs) (part : Option (List Char)) :
    (cs ++ after mark part).takeWhile (· ≠ mark) = cs ∧
      (cs ++ after mark part).dropWhile (· ≠ mark) = after mark part := by
  have hc : ∀ c ∈ cs, decide (c ≠ mark) = true := fun c hc => decide_eq_true fun he => h (he ▸ hc)
  rw [List.takeWhile_append_of_pos hc, List.dropWhile_append_of_pos hc]
  cases part <;> simp [after]

/-- The text of an address is cut into what it was made from. -/
theorem parts_chars {u : Url} (h : Tidy u) : parts u.chars = (u.front, u.query, u.fragment) := by
  have hm : ∀ c ∈ u.front, c ≠ '?' ∧ c ≠ '#' := fun c hc => by
    simpa [isMark] using unmarked_front h c hc
  have hq : '#' ∉ u.front ++ after '?' u.query := by
    rw [List.mem_append, not_or]
    refine ⟨fun hc => (hm _ hc).2 rfl, fun hc => ?_⟩
    cases hu : u.query with
    | none => rw [hu] at hc; cases hc
    | some q =>
      rw [hu] at hc
      exact h.query q hu ((List.mem_cons.1 hc).resolve_left (by decide))
  -- The fragment is cut off first, so a question mark in it starts no query.
  obtain ⟨t1, d1⟩ := takeWhile_after hq u.fragment
  obtain ⟨t2, d2⟩ := takeWhile_after (fun hc => (hm _ hc).1 rfl) u.query
  simp only [parts, chars_eq, t1, d1, t2, d2]
  refine Prod.ext rfl (Prod.ext ?_ ?_)
  · cases u.query <;> rfl
  · cases hf : u.fragment with
    | none => rfl
    | some f => exact congrArg some (encode_of_kept (h.fragment f hf))

end KernelHub.Url
