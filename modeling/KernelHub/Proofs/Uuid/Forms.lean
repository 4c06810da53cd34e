import Mathlib.Data.List.Basic
import Mathlib.Data.List.Induction
import KernelHub.Proofs.Uuid

/-
The texts that name an identifier, by the 32 digits that stand in them. A text is read exactly
when it has one of the four forms, and what it is read as depends on the digits alone, whatever
their case.
-/

namespace KernelHub

/-! ## Digits -/

namespace Hex

theorem digit_of_value? {c : Char} {v : Nat} (h : value? c = some v) :
    v < 16 ∧ digit v = c.toLower := by
  have hascii : c.toNat < 128 := by
    simp only [value?] at h
    split at h
    · omega
    · split at h
      · omega
      · split at h
        · omega
        · cases h
  have hall : ∀ n < 128, ∀ v, value? (Char.ofNat n) = some v →
      v < 16 ∧ digit v = (Char.ofNat n).toLower := by
    intro n hn v hv
    have hd : ∀ n < 128, (value? (Char.ofNat n)).all fun v =>
        v < 16 ∧ digit v = (Char.ofNat n).toLower := by decide
    simpa [hv] using hd n hn
  have hc := hall c.toNat hascii v
  rw [Char.ofNat_toNat] at hc
  exact hc h

theorem values?_eq_some {cs : List Char} {vs : List Nat} (h : values? cs = some vs) :
    (∀ v ∈ vs, v < 16) ∧ vs.map digit = cs.map Char.toLower := by
  induction cs generalizing vs with
  | nil =>
    cases h
    exact ⟨nofun, rfl⟩
  | cons c cs ih =>
    simp only [values?, List.mapM_cons, Option.bind_eq_bind, Option.bind_eq_some_iff,
      Option.pure_def, Option.some.injEq] at h
    obtain ⟨v, hv, ws, hws, rfl⟩ := h
    obtain ⟨hlt, he⟩ := digit_of_value? hv
    obtain ⟨hlts, hes⟩ := ih hws
    exact ⟨List.forall_mem_cons.2 ⟨hlt, hlts⟩, by rw [List.map_cons, he, hes, List.map_cons]⟩

theorem exists_values? {cs : List Char} (h : ∀ c ∈ cs, isDigit c = true) :
    ∃ vs, values? cs = some vs := by
  induction cs with
  | nil => exact ⟨[], rfl⟩
  | cons c cs ih =>
    obtain ⟨hc, hcs⟩ := List.forall_mem_cons.1 h
    obtain ⟨v, hv⟩ := Option.isSome_iff_exists.1 hc
    obtain ⟨vs, hvs⟩ := ih hcs
    refine ⟨v :: vs, ?_⟩
    rw [values?, List.mapM_cons, hv, show cs.mapM value? = some vs from hvs]
    rfl

theorem isDigit_of_values? {cs : List Char} {vs : List Nat} (h : values? cs = some vs) :
    ∀ c ∈ cs, isDigit c = true := by
  induction cs generalizing vs with
  | nil => exact nofun
  | cons c cs ih =>
    simp only [values?, List.mapM_cons, Option.bind_eq_bind, Option.bind_eq_some_iff] at h
    obtain ⟨v, hv, ws, hws, -⟩ := h
    exact List.forall_mem_cons.2 ⟨by rw [isDigit, hv]; rfl, ih hws⟩

theorem isDigit_digit {n : Nat} (h : n < 16) : isDigit (digit n) = true := by
  rw [isDigit, value?_digit h]
  rfl

theorem valuesOf_succ (width n : Nat) :
    valuesOf (width + 1) n = valuesOf width (n / 16) ++ [n % 16] := by
  rw [valuesOf, List.range_succ, List.map_append, List.map_singleton]
  congr 1
  · refine List.map_congr_left fun i hi => ?_
    have hw : width + 1 - 1 - i = width - 1 - i + 1 := by
      have := List.mem_range.1 hi
      omega
    rw [hw, Nat.pow_eq, Nat.pow_succ, Nat.mul_comm, ← Nat.div_div_eq_div_mul]
    rfl
  · simp

theorem ofValues_append (vs : List Nat) (v : Nat) :
    ofValues (vs ++ [v]) = 16 * ofValues vs + v := by
  simp [ofValues]

/-- Values below sixteen are the digits of the number they stand for. -/
theorem valuesOf_ofValues {vs : List Nat} (h : ∀ v ∈ vs, v < 16) :
    valuesOf vs.length (ofValues vs) = vs ∧ ofValues vs < 16 ^ vs.length := by
  induction vs using List.reverseRecOn with
  | nil => exact ⟨rfl, by decide⟩
  | append_singleton vs v ih =>
    simp only [List.forall_mem_append, List.forall_mem_singleton] at h
    obtain ⟨hv, hlt⟩ := ih h.1
    have hdiv : (16 * ofValues vs + v) / 16 = ofValues vs := by omega
    have hmod : (16 * ofValues vs + v) % 16 = v := by omega
    rw [List.length_append, List.length_singleton, ofValues_append]
    refine ⟨by rw [valuesOf_succ, hdiv, hmod, hv], ?_⟩
    rw [Nat.pow_succ]
    omega

end Hex

namespace Uuid

variable {cs ds es : List Char} {u : Uuid}

/-- 32 hexadecimal digits. -/
structure Digits (ds : List Char) : Prop where
  length : ds.length = 32
  hex : ∀ c ∈ ds, Hex.isDigit c = true

theorem digits_digits (u : Uuid) : Digits u.digits where
  length := length_digits u
  hex c hc := by
    obtain ⟨k, hk, rfl⟩ := Hex.mem_text hc
    exact Hex.isDigit_digit hk

theorem toLower_digits (u : Uuid) : u.digits.map Char.toLower = u.digits := by
  have hd : ∀ k < 16, (Hex.digit k).toLower = Hex.digit k := by decide
  refine (List.map_congr_left fun c hc => ?_).trans (List.map_id _)
  obtain ⟨k, hk, rfl⟩ := Hex.mem_text hc
  exact hd k hk

/-- Digits are read as the identifier that is written with them, in lower case. -/
theorem ofDigits?_eq_some : ofDigits? ds = some u ↔ Digits ds ∧ ds.map Char.toLower = u.digits := by
  have hread {vs : List Nat} (hl : ds.length = 32) (hv : Hex.values? ds = some vs) :
      (ofNat (Hex.ofValues vs)).digits = ds.map Char.toLower := by
    obtain ⟨hlt, he⟩ := Hex.values?_eq_some hv
    have hlen : vs.length = 32 := by
      rw [← hl, ← List.length_map Char.toLower, ← he, List.length_map]
    obtain ⟨hvs, hn⟩ := Hex.valuesOf_ofValues hlt
    rw [hlen] at hvs hn
    rw [digits, toNat_ofNat hn, Hex.text, hvs, he]
  constructor
  · intro h
    simp only [ofDigits?] at h
    split at h
    · next hl =>
      obtain ⟨vs, hv, rfl⟩ := Option.map_eq_some_iff.1 h
      exact ⟨⟨hl, Hex.isDigit_of_values? hv⟩, (hread hl hv).symm⟩
    · cases h
  · rintro ⟨hd, he⟩
    obtain ⟨vs, hv⟩ := Hex.exists_values? hd.hex
    rw [ofDigits?, if_pos hd.length, hv, Option.map_some]
    exact congrArg some (digits_injective ((hread hd.length hv).trans he))

theorem Digits.exists_eq (h : Digits ds) : ∃ u : Uuid, ds.map Char.toLower = u.digits := by
  obtain ⟨vs, hv⟩ := Hex.exists_values? h.hex
  have hu : ofDigits? ds = some (ofNat (Hex.ofValues vs)) := by
    rw [ofDigits?, if_pos h.length, hv, Option.map_some]
  exact ⟨_, (ofDigits?_eq_some.1 hu).2⟩

/-! ## Forms -/

/-- The text has one of the four forms, with these digits in it. -/
inductive Spells (ds : List Char) : List Char → Prop
  | plain : Spells ds ds
  | hyphenated : Spells ds (hyphenate ds)
  | braced : Spells ds ('{' :: hyphenate ds ++ ['}'])
  /-- After `urn:uuid:`, in any case. -/
  | urn {lead} (hl : lead.map Char.toLower = urnLead) : Spells ds (lead ++ hyphenate ds)

theorem length_hyphenate (hd : ds.length = 32) : (hyphenate ds).length = 36 := by
  simp [hyphenate, hd]

/-- Groups of the right lengths with a hyphen between each two. -/
theorem hyphenate_groups {a b c d e : List Char} (ha : a.length = 8) (hb : b.length = 4)
    (hc : c.length = 4) (hd : d.length = 4) :
    hyphenate (a ++ b ++ c ++ d ++ e) =
      a ++ '-' :: (b ++ '-' :: (c ++ '-' :: (d ++ '-' :: e))) := by
  simp [hyphenate, List.drop_append, ha, hb, hc, hd, List.drop_of_length_le]

/-- 32 digits fall into the five groups. -/
theorem exists_groups (hd : ds.length = 32) : ∃ a b c d e : List Char,
    ds = a ++ b ++ c ++ d ++ e ∧ a.length = 8 ∧ b.length = 4 ∧ c.length = 4 ∧ d.length = 4 ∧
      e.length = 12 := by
  refine ⟨ds.take 8, (ds.drop 8).take 4, (ds.drop 12).take 4, (ds.drop 16).take 4, ds.drop 20, ?_,
    by simp [hd], by simp [hd], by simp [hd], by simp [hd], by simp [hd]⟩
  have step (a k : Nat) : (ds.drop a).take k ++ ds.drop (a + k) = ds.drop a := by
    rw [← List.drop_drop, List.take_append_drop]
  simp only [List.append_assoc]
  rw [step 16 4, step 12 4, step 8 4, List.take_append_drop]

theorem groups?_eq_some : groups? cs = some ds ↔ ds.length = 32 ∧ cs = hyphenate ds := by
  constructor
  · intro h
    simp only [groups?] at h
    split at h
    · next hc =>
      obtain ⟨hl, h8, h13, h18, h23⟩ := hc
      cases h
      refine ⟨by simp [hl], ?_⟩
      -- The text is cut at its hyphens.
      have cut (a k : Nat) {b : Nat} (hb : a + k + 1 = b) (h : cs[a + k]? = some '-') :
          (cs.drop a).take k ++ '-' :: cs.drop b = cs.drop a := by
        obtain ⟨hlt, hc⟩ := List.getElem?_eq_some_iff.1 h
        rw [← hb, ← hc, List.getElem_cons_drop hlt, ← List.drop_drop, List.take_append_drop]
      rw [hyphenate_groups (by simp [hl]) (by simp [hl]) (by simp [hl]) (by simp [hl]),
        cut 19 4 rfl h23, cut 14 4 rfl h18, cut 9 4 rfl h13]
      exact (cut 0 8 rfl h8).symm
    · cases h
  · rintro ⟨hl, rfl⟩
    obtain ⟨a, b, c, d, e, rfl, ha, hb, hc, hd, he⟩ := exists_groups hl
    rw [hyphenate_groups ha hb hc hd, groups?, if_pos]
    · simp [List.drop_append, ha, hb, hc, hd, List.drop_of_length_le]
    · simp [ha, hb, hc, hd, he]

theorem unbrace?_eq_some : unbrace? cs = some ds ↔ cs = '{' :: ds ++ ['}'] := by
  constructor
  · intro h
    unfold unbrace? at h
    split at h
    · next inner =>
      split at h
      · next hlast =>
        cases h
        rw [List.cons_append, List.dropLast_append_getLast? '}' hlast]
      · cases h
    · cases h
  · rintro rfl
    simp [unbrace?]

theorem afterUrn?_eq_some :
    afterUrn? cs = some ds ↔
      ∃ lead : List Char, lead.map Char.toLower = urnLead ∧ cs = lead ++ ds := by
  constructor
  · intro h
    simp only [afterUrn?] at h
    split at h
    · next hl =>
      cases h
      exact ⟨cs.take 9, hl, (List.take_append_drop 9 cs).symm⟩
    · cases h
  · rintro ⟨lead, hl, rfl⟩
    have hlen : lead.length = 9 := by rw [← List.length_map Char.toLower, hl]; rfl
    rw [afterUrn?, List.take_left' hlen, List.drop_left' hlen, if_pos hl]

/-- A text is read exactly when it has one of the four forms, and is read by its digits. -/
theorem ofChars?_eq_some : ofChars? cs = some u ↔ ∃ ds, Spells ds cs ∧ ofDigits? ds = some u := by
  have off32 {cs : List Char} (h : cs.length ≠ 32) : ofDigits? cs = none := if_neg h
  have off36 {cs : List Char} (h : cs.length ≠ 36) : groups? cs = none := if_neg fun hc => h hc.1
  simp only [ofChars?, Option.orElse_eq_orElse, Option.orElse_eq_or, Option.or_eq_some_iff]
  constructor
  · rintro (h | ⟨-, h | ⟨-, h | ⟨-, h⟩⟩⟩)
    · exact ⟨cs, .plain, h⟩
    · obtain ⟨ds, hg, hd⟩ := Option.bind_eq_some_iff.1 h
      obtain ⟨-, rfl⟩ := groups?_eq_some.1 hg
      exact ⟨ds, .hyphenated, hd⟩
    · obtain ⟨ds, hg, hd⟩ := Option.bind_eq_some_iff.1 h
      obtain ⟨inner, hb, hg⟩ := Option.bind_eq_some_iff.1 hg
      obtain ⟨-, rfl⟩ := groups?_eq_some.1 hg
      obtain rfl := unbrace?_eq_some.1 hb
      exact ⟨ds, .braced, hd⟩
    · obtain ⟨ds, hg, hd⟩ := Option.bind_eq_some_iff.1 h
      obtain ⟨inner, hb, hg⟩ := Option.bind_eq_some_iff.1 hg
      obtain ⟨-, rfl⟩ := groups?_eq_some.1 hg
      obtain ⟨lead, hl, rfl⟩ := afterUrn?_eq_some.1 hb
      exact ⟨ds, .urn hl, hd⟩
  · rintro ⟨ds, hs, hd⟩
    have hl := (ofDigits?_eq_some.1 hd).1.length
    have hh := length_hyphenate hl
    have hg : groups? (hyphenate ds) = some ds := groups?_eq_some.2 ⟨hl, rfl⟩
    -- The lengths of the forms differ, so the readers of the earlier ones refuse the text.
    cases hs with
    | plain => exact .inl hd
    | hyphenated => exact .inr ⟨off32 (by omega), .inl (by rw [hg]; exact hd)⟩
    | braced =>
      have hn : ('{' :: hyphenate ds ++ ['}']).length = 38 := by simp [hh]
      refine .inr ⟨off32 (by omega), .inr ⟨by rw [off36 (by omega)]; rfl, .inl ?_⟩⟩
      rw [unbrace?_eq_some.2 rfl, Option.bind_some, hg]
      exact hd
    | @urn lead hlead =>
      have hn : (lead ++ hyphenate ds).length = 45 := by
        rw [List.length_append, hh, ← List.length_map Char.toLower, hlead]
        rfl
      refine .inr ⟨off32 (by omega), .inr ⟨by rw [off36 (by omega)]; rfl, .inr ⟨?_, ?_⟩⟩⟩
      · have hb : (unbrace? (lead ++ hyphenate ds)).bind groups? = none := by
          refine Option.bind_eq_none_iff.2 fun inner hb => off36 fun h36 => ?_
          have hc := congrArg List.length (unbrace?_eq_some.1 hb)
          simp only [List.length_append, List.length_cons, List.length_nil] at hc hn
          omega
        rw [hb]
        rfl
      · rw [afterUrn?_eq_some.2 ⟨lead, hlead, rfl⟩, Option.bind_some, hg]
        exact hd

theorem read_eq_ok {s : String} : read s = .ok u ↔ ofChars? s.toList = some u := by
  rw [read]
  cases ofChars? s.toList <;> simp

/-- A text with an identifier's digits, of either case and in any of the forms, is read as it. -/
theorem read_of_spells {s : String} (hs : Spells ds s.toList) (hd : Digits ds)
    (hu : ds.map Char.toLower = u.digits) : read s = .ok u :=
  read_eq_ok.2 (ofChars?_eq_some.2 ⟨ds, hs, ofDigits?_eq_some.2 ⟨hd, hu⟩⟩)

end Uuid

end KernelHub
