import Mathlib.Data.List.Forall2
import KernelHub.Url

/-
What becomes of a name that is pushed as a segment. Encoded, it decodes to itself and holds
nothing that would end it: that is so of every name. But the dots are not encoded, and the
characters that never count are gone before anything is encoded: so only a plain name is
pushed as the one segment that spells it.
-/

namespace KernelHub.Url

/-! ## Bytes -/

/-- A text as bytes. -/
def bytes (cs : List Char) : List UInt8 := cs.flatMap String.utf8EncodeChar

theorem bytes_injective {cs ds : List Char} (h : bytes cs = bytes ds) : cs = ds := by
  have hb : (String.ofList cs).toByteArray = (String.ofList ds).toByteArray := by
    rw [String.toByteArray_ofList, String.toByteArray_ofList]
    exact congrArg List.toByteArray h
  exact String.ofList_injective (String.toByteArray_inj.1 hb)

theorem bytes_cons (c : Char) (cs : List Char) :
    bytes (c :: cs) = String.utf8EncodeChar c ++ bytes cs := rfl

/-! ## Encoding -/

theorem decode_encodeByte (b : UInt8) (cs : List Char) :
    decode (encodeByte b ++ cs) = b :: decode cs := by
  have hb : b.toNat < 256 := b.toNat_lt
  have hn : 16 * (b.toNat / 16) + b.toNat % 16 = b.toNat := by omega
  have hd : Hex.value? (Hex.upperDigit (b.toNat / 16)) = some (b.toNat / 16) :=
    Hex.value?_upperDigit (by omega)
  have hm : Hex.value? (Hex.upperDigit (b.toNat % 16)) = some (b.toNat % 16) :=
    Hex.value?_upperDigit (by omega)
  simp only [encodeByte, List.cons_append, List.nil_append, decode, hd, hm, hn, UInt8.ofNat_toNat]

theorem decode_encodeBytes (bs : List UInt8) (cs : List Char) :
    decode (bs.flatMap encodeByte ++ cs) = bs ++ decode cs := by
  induction bs with
  | nil => rfl
  | cons b bs ih => rw [List.flatMap_cons, List.append_assoc, decode_encodeByte, ih]; rfl

theorem decode_cons {c : Char} (hc : c ≠ '%') (cs : List Char) :
    decode (c :: cs) = String.utf8EncodeChar c ++ decode cs := by
  rw [decode]
  rintro a b ds rfl
  exact absurd rfl hc

/-- Whatever is kept, if only percent signs are not, an encoded text decodes to itself. -/
theorem decode_encode {keep : Char → Bool} (hk : keep '%' = false) (cs : List Char) :
    decode (encode keep cs) = bytes cs := by
  induction cs with
  | nil => rfl
  | cons c cs ih =>
    have he : encode keep (c :: cs) = encodeChar keep c ++ encode keep cs := rfl
    rw [he, bytes_cons, encodeChar]
    split
    · next h =>
      have hc : c ≠ '%' := fun e => by rw [e, hk] at h; cases h
      rw [List.singleton_append, decode_cons hc, ih]
    · rw [decode_encodeBytes, ih]

/-- An encoded text holds what was kept, percent signs and digits. -/
theorem mem_encode {keep : Char → Bool} {cs : List Char} {c : Char} (h : c ∈ encode keep cs) :
    (c ∈ cs ∧ keep c = true) ∨ c = '%' ∨ ∃ n < 16, c = Hex.upperDigit n := by
  obtain ⟨d, hm, hd⟩ := List.mem_flatMap.1 h
  rw [encodeChar] at hd
  split at hd
  · next hk => exact .inl (List.mem_singleton.1 hd ▸ ⟨hm, hk⟩)
  · obtain ⟨b, -, hb⟩ := List.mem_flatMap.1 hd
    have hlt : b.toNat < 256 := b.toNat_lt
    simp only [encodeByte, List.mem_cons, List.not_mem_nil, or_false] at hb
    obtain rfl | rfl | rfl := hb
    · exact .inr (.inl rfl)
    · exact .inr (.inr ⟨_, by omega, rfl⟩)
    · exact .inr (.inr ⟨_, by omega, rfl⟩)

theorem encode_of_kept {keep : Char → Bool} {cs : List Char} (h : ∀ c ∈ cs, keep c = true) :
    encode keep cs = cs := by
  induction cs with
  | nil => rfl
  | cons c cs ih =>
    have he : encode keep (c :: cs) = encodeChar keep c ++ encode keep cs := rfl
    rw [he, encodeChar, if_pos (h c List.mem_cons_self),
      ih fun d hd => h d (List.mem_cons_of_mem c hd)]
    rfl

/-! ## Segments -/

/-- Does the character end a segment in the text of a special address? -/
def isEnd (c : Char) : Bool := ['/', '\\', '?', '#'].contains c

/-- A segment that spells a name: it decodes to the name, nothing in it ends it, and it is no
relative step. -/
structure Spells (name : List Char) (s : List Char) : Prop where
  decodes : decode s = bytes name
  closed : ∀ c ∈ s, isEnd c = false
  stays : isSingleDot s = false ∧ isDoubleDot s = false

/-- Is the name pushed as it is? -/
structure Plain (name : List Char) : Prop where
  stays : name ≠ ['.'] ∧ name ≠ ['.', '.']
  counts : ∀ c ∈ name, isIgnored c = false

instance (name : List Char) : Decidable (Plain name) :=
  decidable_of_iff
    ((name ≠ ['.'] ∧ name ≠ ['.', '.']) ∧ (name.all fun c => isIgnored c == false) = true)
    ⟨fun h => ⟨h.1, by simpa using h.2⟩, fun h => ⟨h.stays, by simpa using h.counts⟩⟩

theorem Spells.injective {m n s : List Char} (hm : Spells m s) (hn : Spells n s) : m = n :=
  bytes_injective (hm.decodes.symm.trans hn.decodes)

/-- A character is its own lower case, or a capital. -/
theorem of_toLower (c : Char) :
    c.toLower = c ∨ ∃ k < 26, c = Char.ofNat (65 + k) ∧ c.toLower = Char.ofNat (97 + k) := by
  by_cases hc : 65 ≤ c.toNat ∧ c.toNat ≤ 90
  · have hk (k : Fin 26) : (Char.ofNat (65 + k)).toLower = Char.ofNat (97 + k) := by
      revert k
      decide
    have hn : 65 + (c.toNat - 65) = c.toNat := by omega
    have he : c = Char.ofNat (65 + (c.toNat - 65)) := by rw [hn, Char.ofNat_toNat]
    refine .inr ⟨c.toNat - 65, by omega, he, ?_⟩
    rw [← hk ⟨c.toNat - 65, by omega⟩, ← he]
  · exact .inl (dif_neg hc)

theorem eq_of_toLower {c d : Char} (h : c.toLower = d) (hd : ∀ k < 26, d ≠ Char.ofNat (97 + k)) :
    c = d := by
  obtain he | ⟨k, hk, -, he⟩ := of_toLower c
  · exact he.symm.trans h
  · exact absurd (h.symm.trans he) (hd k hk)

theorem value?_of_toLower_e {c : Char} (h : c.toLower = 'e') : Hex.value? c = some 14 := by
  obtain he | ⟨k, hk, rfl, he⟩ := of_toLower c
  · rw [he.symm.trans h]; rfl
  · rw [h] at he
    revert k
    decide

/-- A dot, and the same dot encoded. -/
def dots : List (List Char) := [['.'], ['%', '2', 'e']]

/-- However a dot is written, it decodes to a dot. -/
theorem decode_of_dot {s dot more : List Char} (hd : dot ∈ dots)
    (hs : s.map Char.toLower = dot ++ more) :
    ∃ s', s'.map Char.toLower = more ∧ decode s = bytes ['.'] ++ decode s' := by
  simp only [dots, List.mem_cons, List.not_mem_nil, or_false] at hd
  obtain rfl | rfl := hd
  · obtain ⟨a, s', rfl, ha, hm⟩ := List.map_eq_cons_iff.1 hs
    obtain rfl := eq_of_toLower ha (by decide)
    exact ⟨s', hm, decode_cons (by decide) s'⟩
  · obtain ⟨a, s1, rfl, ha, h1⟩ := List.map_eq_cons_iff.1 hs
    obtain ⟨b, s2, rfl, hb, h2⟩ := List.map_eq_cons_iff.1 h1
    obtain ⟨c, s3, rfl, hc, h3⟩ := List.map_eq_cons_iff.1 h2
    obtain rfl := eq_of_toLower ha (by decide)
    obtain rfl := eq_of_toLower hb (by decide)
    refine ⟨s3, h3, ?_⟩
    rw [decode, value?_of_toLower_e hc]
    rfl

theorem plain_mem_dots : ['.'] ∈ dots := .head _

theorem coded_mem_dots : ['%', '2', 'e'] ∈ dots := .tail _ (.head _)

theorem decode_of_isSingleDot {s : List Char} (h : isSingleDot s = true) :
    decode s = bytes ['.'] := by
  have hs : ∃ d ∈ dots, s.map Char.toLower = d ++ [] := by
    simp only [isSingleDot, Bool.or_eq_true, decide_eq_true_eq] at h
    obtain h | h := h
    · exact ⟨_, plain_mem_dots, h⟩
    · exact ⟨_, coded_mem_dots, h⟩
  obtain ⟨d, hd, hs⟩ := hs
  obtain ⟨s', hm, he⟩ := decode_of_dot hd hs
  rw [he, List.map_eq_nil_iff.1 hm]
  rfl

theorem decode_of_isDoubleDot {s : List Char} (h : isDoubleDot s = true) :
    decode s = bytes ['.', '.'] := by
  have hs : ∃ d ∈ dots, ∃ e ∈ dots, s.map Char.toLower = d ++ (e ++ []) := by
    simp only [isDoubleDot, Bool.or_eq_true, decide_eq_true_eq] at h
    obtain ((h | h) | h) | h := h
    · exact ⟨_, plain_mem_dots, _, plain_mem_dots, h⟩
    · exact ⟨_, plain_mem_dots, _, coded_mem_dots, h⟩
    · exact ⟨_, coded_mem_dots, _, plain_mem_dots, h⟩
    · exact ⟨_, coded_mem_dots, _, coded_mem_dots, h⟩
  obtain ⟨d, hd, e, he, hs⟩ := hs
  obtain ⟨s1, h1, e1⟩ := decode_of_dot hd hs
  obtain ⟨s2, h2, e2⟩ := decode_of_dot he h1
  rw [e1, e2, List.map_eq_nil_iff.1 h2]
  rfl

theorem isEnd_upperDigit {n : Nat} (h : n < 16) : isEnd (Hex.upperDigit n) = false := by
  have : ∀ k : Fin 16, isEnd (Hex.upperDigit k.val) = false := by decide
  exact this ⟨n, h⟩

theorem not_isEnd_of_keepSegment {c : Char} (h : keepSegment true c = true) : isEnd c = false := by
  simp only [keepSegment, keepPath, Bool.and_eq_true, Bool.not_eq_true', List.contains_eq_mem,
    decide_eq_false_iff_not, List.mem_cons, List.not_mem_nil, or_false, not_or,
    Bool.true_and] at h
  obtain ⟨⟨⟨-, hash, query, -, -⟩, slash, -⟩, backslash⟩ := h
  simp [isEnd, slash, backslash, query, hash]

/-- A name as a segment, whatever it holds. -/
def spelled (name : List Char) : List Char := encode (keepSegment true) name

/-- Whatever the scheme, a segment that is pushed decodes to its name. -/
theorem decode_segment (special : Bool) (name : List Char) :
    decode (encode (keepSegment special) name) = bytes name :=
  decode_encode (by cases special <;> rfl) name

theorem decode_spelled (name : List Char) : decode (spelled name) = bytes name :=
  decode_segment true name

/-- What decodes to a plain name is no relative step. -/
theorem not_dots_of_plain {name s : List Char} (h : Plain name) (hs : decode s = bytes name) :
    isSingleDot s = false ∧ isDoubleDot s = false := by
  refine ⟨Bool.eq_false_iff.2 fun hd => h.stays.1 ?_, Bool.eq_false_iff.2 fun hd => h.stays.2 ?_⟩
  · exact bytes_injective (hs.symm.trans (decode_of_isSingleDot hd))
  · exact bytes_injective (hs.symm.trans (decode_of_isDoubleDot hd))

theorem spells_spelled {name : List Char} (h : Plain name) : Spells name (spelled name) where
  decodes := decode_spelled name
  closed c hc := by
    obtain ⟨-, hk⟩ | rfl | ⟨n, hn, rfl⟩ := mem_encode hc
    · exact not_isEnd_of_keepSegment hk
    · rfl
    · exact isEnd_upperDigit hn
  stays := not_dots_of_plain h (decode_spelled name)

/-! ## Pushing -/

theorem push_of_plain {name : List Char} (h : Plain name) (special : Bool)
    (ss : List (List Char)) :
    push special ss name = stem ss ++ [encode (keepSegment special) name] := by
  have hf : (name.filter fun c => !isIgnored c) = name :=
    List.filter_eq_self.2 fun c hc => by simp [h.counts c hc]
  have hs := not_dots_of_plain h (decode_segment special name)
  have hd : ¬ (name = ['.'] ∨ name = ['.', '.']) := not_or.2 h.stays
  simp only [push, if_neg hd, hf, hs.1, hs.2, Bool.false_eq_true, if_false]

theorem push_plain {name : List Char} (h : Plain name) (ss : List (List Char)) :
    push true ss name = stem ss ++ [spelled name] := push_of_plain h true ss

/-- A path that is more than one empty segment. -/
def Holds (ss : List (List Char)) : Prop := ss ≠ [] ∧ ss ≠ [[]]

theorem stem_of_holds {ss : List (List Char)} (h : Holds ss) : stem ss = ss := if_neg h.2

theorem holds_append {ss : List (List Char)} (h : Holds ss) (ts : List (List Char)) :
    Holds (ss ++ ts) := by
  refine ⟨fun he => h.1 (List.append_eq_nil_iff.1 he).1, fun he => ?_⟩
  obtain ⟨h1, -⟩ | ⟨h2, -⟩ := List.append_eq_singleton_iff.1 he
  · exact h.1 h1
  · exact h.2 h2

theorem foldl_push_of_plain (special : Bool) {names : List (List Char)}
    (hn : ∀ n ∈ names, Plain n) {ss : List (List Char)} (hs : Holds ss) :
    names.foldl (push special) ss = ss ++ names.map (encode (keepSegment special)) := by
  induction names generalizing ss with
  | nil => simp
  | cons n names ih =>
    rw [List.foldl_cons, push_of_plain (hn n List.mem_cons_self), stem_of_holds hs,
      ih (fun m hm => hn m (List.mem_cons_of_mem n hm)) (holds_append hs _), List.append_assoc]
    rfl

theorem foldl_push {names : List (List Char)} (hn : ∀ n ∈ names, Plain n) {ss : List (List Char)}
    (hs : Holds ss) : names.foldl (push true) ss = ss ++ names.map spelled :=
  foldl_push_of_plain true hn hs

/-- A name that is not plain is not pushed as a segment that spells it. -/
theorem push_of_not_plain {name : List Char} (h : ¬ Plain name) {ss : List (List Char)}
    (hs : Holds ss) :
    (push true ss name).length = ss.length ∨
      ∃ s, push true ss name = ss ++ [s] ∧ ¬ Spells name s := by
  have hne : ¬ Spells name [] := fun hsp => by
    have hb : bytes [] = bytes name := hsp.decodes
    rw [← bytes_injective hb] at h
    exact h ⟨⟨nofun, nofun⟩, nofun⟩
  by_cases hd : name = ['.'] ∨ name = ['.', '.']
  · exact .inl (by rw [push, if_pos hd])
  · simp only [push, if_neg hd, stem_of_holds hs]
    split
    · by_cases hl : ss.getLast?.any startsAtDrive = true
      · exact .inr ⟨[], by rw [stepBack, if_pos hl], hne⟩
      · refine .inl ?_
        have := List.length_pos_iff.2 hs.1
        rw [stepBack, if_neg hl, List.length_append, List.length_dropLast, List.length_singleton]
        omega
    · split
      · exact .inr ⟨[], rfl, hne⟩
      · refine .inr ⟨_, rfl, fun hsp => h ⟨not_or.1 hd, fun c hc => ?_⟩⟩
        have hb := (decode_spelled _).symm.trans hsp.decodes
        rw [← bytes_injective hb] at hc
        simpa using (List.mem_filter.1 hc).2

theorem length_push_le (name : List Char) (ss : List (List Char)) :
    (push true ss name).length ≤ ss.length + 1 := by
  have hs : (stem ss).length ≤ ss.length := by
    rw [stem]
    split <;> simp
  have hb : (stepBack (stem ss)).length ≤ (stem ss).length := by
    rw [stepBack]
    split <;> simp
  simp only [push]
  split
  · omega
  · split
    · rw [List.length_append, List.length_singleton]
      omega
    · split <;> rw [List.length_append, List.length_singleton] <;> omega

theorem length_foldl_push_le (names ss : List (List Char)) :
    (names.foldl (push true) ss).length ≤ ss.length + names.length := by
  induction names generalizing ss with
  | nil => simp
  | cons n names ih =>
    have h1 := ih (push true ss n)
    have h2 := length_push_le n ss
    rw [List.foldl_cons, List.length_cons]
    omega

/-- Where a name is not plain, the segments in its place and after it do not spell the names. -/
theorem not_spelled {name : List Char} (h : ¬ Plain name) {names ss ss' ts : List (List Char)}
    (hs : Holds ss) (hn : ∀ n ∈ names, Plain n) (hl : ss.length = ss'.length)
    (ht : (name :: names).foldl (push true) ss = ss' ++ ts) :
    ¬ List.Forall₂ Spells (name :: names) ts := by
  intro hf
  rw [List.foldl_cons] at ht
  obtain hp | ⟨s, he, hsp⟩ := push_of_not_plain h hs
  · have h1 := length_foldl_push_le names (push true ss name)
    have h2 := hf.length_eq
    rw [ht, List.length_append, hp, ← h2, List.length_cons] at h1
    omega
  · rw [he, foldl_push hn (holds_append hs _), List.append_assoc] at ht
    rw [← (List.append_inj ht hl).2] at hf
    cases hf with
    | cons h1 _ => exact hsp h1

/-! ## Written paths -/

theorem takeWhile_segment {s : List Char} (h : '/' ∉ s) (ss : List (List Char)) :
    (s ++ segmentChars ss).takeWhile (· ≠ '/') = s := by
  have hs : ∀ c ∈ s, decide (c ≠ '/') = true := fun c hc =>
    decide_eq_true fun he => h (he ▸ hc)
  rw [List.takeWhile_append_of_pos hs]
  cases ss with
  | nil => simp [segmentChars]
  | cons t ss => simp [segmentChars]

/-- The segments of a path can be told from its text, if none holds a slash. -/
theorem segmentChars_injective {ss ts : List (List Char)} (hs : ∀ s ∈ ss, '/' ∉ s)
    (ht : ∀ t ∈ ts, '/' ∉ t) (h : segmentChars ss = segmentChars ts) : ss = ts := by
  induction ss generalizing ts with
  | nil =>
    cases ts with
    | nil => rfl
    | cons t ts => cases h
  | cons s ss ih =>
    cases ts with
    | nil => cases h
    | cons t ts =>
      have hst : s ++ segmentChars ss = t ++ segmentChars ts := List.tail_eq_of_cons_eq h
      have he : s = t := by
        rw [← takeWhile_segment (hs s List.mem_cons_self) ss, hst,
          takeWhile_segment (ht t List.mem_cons_self)]
      subst he
      rw [ih (fun x hx => hs x (List.mem_cons_of_mem _ hx))
        (fun x hx => ht x (List.mem_cons_of_mem _ hx)) (List.append_cancel_left hst)]

end KernelHub.Url
