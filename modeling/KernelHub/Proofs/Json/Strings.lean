import KernelHub.Json.Printer
import KernelHub.Json.Reader

/-
Strings between quotes. A string is written piece by piece, a character as itself or with a
backslash, and the reader takes just that off the front of a text. What the printer writes for a
character is one piece, which stands for the same character again.
-/

namespace KernelHub.Json.Document

variable {cs rest t ts : List Char} {p : Piece} {ps : List Piece} {s : Option String}

/-- A piece as it stands in a text: a character, a letter after a backslash, or a code. -/
inductive PieceText : Piece → List Char → Prop
  | plain (c : Char) (hc : 0x20 ≤ c.toNat) (hq : c ≠ '"') (hb : c ≠ '\\') :
    PieceText (.plain c) [c]
  | letter (c d : Char) (hd : shortEscape? d = some c) : PieceText (.plain c) ['\\', d]
  | code (a b c d : Char) (ns : List Nat) (h : Hex.values? [a, b, c, d] = some ns) :
    PieceText (.unit (Hex.ofValues ns)) ['\\', 'u', a, b, c, d]

inductive PiecesText : List Piece → List Char → Prop
  | nil : PiecesText [] []
  | cons (p : Piece) (ps : List Piece) (t ts : List Char) (hp : PieceText p t)
    (h : PiecesText ps ts) : PiecesText (p :: ps) (t ++ ts)

/-- A string as it stands in a text. -/
inductive StringText : Option String → List Char → Prop
  | mk (ps : List Piece) (t : List Char) (h : PiecesText ps t) :
    StringText ((joined? ps).map String.ofList) ('"' :: (t ++ ['"']))

theorem PieceText.run (h : PieceText p t) (cs : List Char) :
    pieces (t ++ cs) = (pieces cs).map fun (ps, rest) => (p :: ps, rest) := by
  cases h with
  | plain c hc hq hb =>
    rw [List.singleton_append, pieces]
    · rw [if_neg (not_or.2 ⟨Nat.not_lt.2 hc, hb⟩)]
      cases pieces cs <;> rfl
    · exact hq
    · rintro _ _ _ _ _ rfl
      exact absurd rfl hb
    · rintro _ _ rfl
      exact absurd rfl hb
  | letter c d hd =>
    rw [List.cons_append, List.singleton_append, pieces]
    · rw [hd]
      cases pieces cs <;> rfl
    · rintro _ _ _ _ _ rfl
      cases hd
  | code a b c d ns hn =>
    change pieces ('\\' :: 'u' :: a :: b :: c :: d :: cs) = _
    rw [pieces, hn]
    cases pieces cs <;> rfl

theorem PiecesText.run (h : PiecesText ps t) (rest : List Char) :
    pieces (t ++ '"' :: rest) = some (ps, rest) := by
  induction h with
  | nil => rfl
  | cons p ps t ts hp _ ih =>
    rw [List.append_assoc, hp.run, ih]
    rfl

theorem pieces_sound (h : pieces cs = some (ps, rest)) :
    ∃ t, PiecesText ps t ∧ cs = t ++ '"' :: rest := by
  induction cs using pieces.induct generalizing ps with
  | case1 => cases h
  | case2 cs =>
    cases h
    exact ⟨[], .nil, rfl⟩
  | case3 a b c d cs ih =>
    rw [pieces] at h
    obtain ⟨ns, hn, h⟩ := Option.bind_eq_some_iff.1 h
    obtain ⟨⟨ps, rest⟩, hr, h⟩ := Option.bind_eq_some_iff.1 h
    cases h
    obtain ⟨t, ht, rfl⟩ := ih hr
    exact ⟨_, .cons _ _ _ t (.code a b c d ns hn) ht, rfl⟩
  | case4 c cs hu ih =>
    rw [pieces.eq_4 _ _ hu] at h
    obtain ⟨d, hd, h⟩ := Option.bind_eq_some_iff.1 h
    obtain ⟨⟨ps, rest⟩, hr, h⟩ := Option.bind_eq_some_iff.1 h
    cases h
    obtain ⟨t, ht, rfl⟩ := ih hr
    exact ⟨_, .cons _ _ _ t (.letter d c hd) ht, rfl⟩
  | case5 c cs hq hu hb hc =>
    rw [pieces.eq_5 _ _ hq hu hb, if_pos hc] at h
    cases h
  | case6 c cs hq hu hb hc ih =>
    rw [pieces.eq_5 _ _ hq hu hb, if_neg hc] at h
    obtain ⟨⟨ps, rest⟩, hr, h⟩ := Option.bind_eq_some_iff.1 h
    cases h
    obtain ⟨t, ht, rfl⟩ := ih hr
    obtain ⟨hlow, hback⟩ := not_or.1 hc
    exact ⟨_, .cons _ _ _ t (.plain c (Nat.not_lt.1 hlow) hq hback) ht, rfl⟩

theorem StringText.run (h : StringText s t) :
    ∃ cs, t = '"' :: cs ∧ ∀ more, stringAfter (cs ++ more) = some (s, more) := by
  obtain ⟨ps, t, h⟩ := h
  refine ⟨_, rfl, fun more => ?_⟩
  rw [List.append_assoc, List.singleton_append, stringAfter, h.run]
  rfl

theorem stringAfter_sound (h : stringAfter cs = some (s, rest)) :
    ∃ t, StringText s ('"' :: t) ∧ cs = t ++ rest := by
  obtain ⟨⟨ps, rest⟩, hp, h⟩ := Option.map_eq_some_iff.1 h
  cases h
  obtain ⟨t, ht, rfl⟩ := pieces_sound hp
  exact ⟨_, .mk ps t ht, by simp⟩

/-! ## Printed strings -/

/-- The piece that is written for a character. -/
structure Writes (c : Char) (p : Piece) : Prop where
  text : PieceText p (escape c)
  joined : ∀ ps, joined? (p :: ps) = (joined? ps).map (c :: ·)

theorem writes_letter {c d : Char} (he : Json.escape c = ['\\', d])
    (hd : shortEscape? d = some c) : Writes c (.plain c) where
  text := he ▸ .letter c d hd
  joined _ := rfl

theorem values?_text_control : ∀ n < 0x20,
    Hex.values? (Hex.text 4 n) = some (Hex.valuesOf 4 n) ∧ Hex.ofValues (Hex.valuesOf 4 n) = n := by
  decide

theorem writes_control {c : Char} (hc : c.toNat < 0x20)
    (he : Json.escape c = '\\' :: 'u' :: Hex.text 4 c.toNat) : Writes c (.unit c.toNat) where
  text := by
    obtain ⟨hv, ho⟩ := values?_text_control c.toNat hc
    have h := PieceText.code _ _ _ _ _ hv
    rw [ho] at h
    exact he ▸ h
  joined ps := by
    have hh : isHigh c.toNat = false := by simp [isHigh]; omega
    have hl : isLow c.toNat = false := by simp [isLow]; omega
    rw [joined?.eq_def]
    simp only [hh, hl, Bool.false_eq_true, if_false, Char.ofNat_toNat]

theorem writes_plain {c : Char} (he : Json.escape c = [c]) (hc : 0x20 ≤ c.toNat)
    (hq : c ≠ '"') (hb : c ≠ '\\') : Writes c (.plain c) where
  text := he ▸ .plain c hc hq hb
  joined _ := rfl

theorem exists_writes (c : Char) : ∃ p, Writes c p := by
  by_cases h : c ∈ ['"', '\\', '\x08', '\x0c', '\n', '\r', '\t']
  · simp only [List.mem_cons, List.not_mem_nil, or_false] at h
    obtain rfl | rfl | rfl | rfl | rfl | rfl | rfl := h <;> exact ⟨_, writes_letter rfl rfl⟩
  · simp only [List.mem_cons, List.not_mem_nil, or_false, not_or] at h
    obtain ⟨hq, hb, h1, h2, h3, h4, h5⟩ := h
    have he : Json.escape c =
        if c.toNat < 0x20 then '\\' :: 'u' :: Hex.text 4 c.toNat else [c] := by
      simp only [Json.escape, hq, hb, h1, h2, h3, h4, h5, if_false]
    by_cases hc : c.toNat < 0x20
    · exact ⟨_, writes_control hc (he.trans (if_pos hc))⟩
    · exact ⟨_, writes_plain (he.trans (if_neg hc)) (Nat.not_lt.1 hc) hq hb⟩

theorem exists_pieces (cs : List Char) :
    ∃ ps, PiecesText ps (cs.flatMap escape) ∧ joined? ps = some cs := by
  induction cs with
  | nil => exact ⟨[], .nil, rfl⟩
  | cons c cs ih =>
    obtain ⟨ps, hp, hj⟩ := ih
    obtain ⟨p, hw⟩ := exists_writes c
    refine ⟨p :: ps, .cons p ps _ _ hw.text hp, ?_⟩
    rw [hw.joined, hj]
    rfl

/-- What the printer writes for a string. -/
theorem stringText_quoted (s : String) : StringText (some s) (quoted s) := by
  obtain ⟨ps, hp, hj⟩ := exists_pieces s.toList
  have h := StringText.mk ps _ hp
  rw [hj, Option.map_some, String.ofList_toList] at h
  exact h

end KernelHub.Json.Document
