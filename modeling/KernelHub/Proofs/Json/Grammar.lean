import KernelHub.Proofs.Json
import KernelHub.Proofs.Json.Numbers
import KernelHub.Proofs.Json.Strings

/-
The grammar of texts. A value is written with blanks around it, an array as its items with commas
between them and an object as its members. The reader takes exactly the texts of this grammar, and
each for the document it writes down.
-/

namespace KernelHub.Json.Document

/-- Blanks, or nothing. -/
def Blank (cs : List Char) : Prop := ∀ c ∈ cs, isBlank c = true

/-- At least one part, with commas between them. -/
inductive Listed {α : Type} (R : α → List Char → Prop) : List α → List Char → Prop
  | one (a : α) (t : List Char) (h : R a t) : Listed R [a] t
  | more (a : α) (as : List α) (t ts : List Char) (h : R a t) (hs : Listed R as ts) :
    Listed R (a :: as) (t ++ ',' :: ts)

mutual

/-- A value as it stands in a text, with blanks around it. -/
inductive Written : Document → List Char → Prop
  | mk (d : Document) (before t after : List Char) (hb : Blank before) (h : Bare d t)
    (ha : Blank after) : Written d (before ++ (t ++ after))

/-- A value without the blanks around it. -/
inductive Bare : Document → List Char → Prop
  | null : Bare .null ['n', 'u', 'l', 'l']
  | true : Bare (.bool true) ['t', 'r', 'u', 'e']
  | false : Bare (.bool false) ['f', 'a', 'l', 's', 'e']
  | number (n : Numeral) (t : List Char) (h : NumeralText n t) : Bare (.number n) t
  | string (s : Option String) (t : List Char) (h : StringText s t) : Bare (.string s) t
  | noItems (b : List Char) (hb : Blank b) : Bare (.array []) ('[' :: (b ++ [']']))
  | items (ds : List Document) (t : List Char) (h : Listed Written ds t) :
    Bare (.array ds) ('[' :: (t ++ [']']))
  | noMembers (b : List Char) (hb : Blank b) : Bare (.object []) ('{' :: (b ++ ['}']))
  | members (ms : List (Option String × Document)) (t : List Char) (h : Listed Member ms t) :
    Bare (.object ms) ('{' :: (t ++ ['}']))

/-- A member of an object: a string, a colon and a value. -/
inductive Member : Option String × Document → List Char → Prop
  | mk (k : Option String) (d : Document) (before s after t : List Char) (hb : Blank before)
    (hs : StringText k s) (ha : Blank after) (h : Written d t) :
    Member (k, d) (before ++ (s ++ (after ++ ':' :: t)))

end

variable {fuel : Nat} {d : Document} {ds : List Document} {k : Option String}
  {ms : List (Option String × Document)} {b cs rest more s t : List Char}

/-! ## Blanks -/

theorem blank_nil : Blank [] := nofun

theorem Bare.written (h : Bare d t) : Written d t := by
  have hw := Written.mk d [] t [] blank_nil h blank_nil
  rwa [List.nil_append, List.append_nil] at hw

theorem not_isBlank_of_isDigit {c : Char} (h : c.isDigit = true) : isBlank c = false := by
  rw [Bool.eq_false_iff]
  intro hb
  simp only [isBlank, Bool.or_eq_true, decide_eq_true_eq] at hb
  obtain ((rfl | rfl) | rfl) | rfl := hb <;> cases h

theorem skipBlanks_append (hb : Blank b) (cs : List Char) :
    skipBlanks (b ++ cs) = skipBlanks cs := List.dropWhile_append_of_pos hb

theorem skipBlanks_self (hb : Blank b) : skipBlanks b = [] := by
  have h := skipBlanks_append hb []
  rwa [List.append_nil] at h

theorem skipBlanks_cons {c : Char} (hc : isBlank c = false) (cs : List Char) :
    skipBlanks (c :: cs) = c :: cs := List.dropWhile_cons_of_neg (Bool.eq_false_iff.1 hc)

theorem exists_blank (cs : List Char) : ∃ b, Blank b ∧ cs = b ++ skipBlanks cs :=
  ⟨cs.takeWhile isBlank, List.all_eq_true.1 List.all_takeWhile,
    List.takeWhile_append_dropWhile.symm⟩

theorem ends_append (hb : Blank b) (h : Ends cs) : Ends (b ++ cs) := by
  cases b with
  | nil => exact h
  | cons c b =>
    have hc := hb c List.mem_cons_self
    simp only [isBlank, Bool.or_eq_true, decide_eq_true_eq] at hc
    obtain ((rfl | rfl) | rfl) | rfl := hc <;> exact ends_cons rfl (by decide) _

/-! ## The start of a value -/

/-- Neither a blank nor the end of an array. -/
def Starts (cs : List Char) : Prop := ∃ c more, cs = c :: more ∧ isBlank c = false ∧ c ≠ ']'

theorem Bare.starts (h : Bare d t) : Starts t := by
  cases h with
  | number n t h =>
    obtain ⟨c, more, rfl, rfl | hd⟩ := h.starts
    · exact ⟨_, _, rfl, rfl, by decide⟩
    · refine ⟨_, _, rfl, not_isBlank_of_isDigit hd, ?_⟩
      rintro rfl
      cases hd
  | string s t h =>
    obtain ⟨cs, rfl, -⟩ := h.run
    exact ⟨_, _, rfl, rfl, by decide⟩
  | _ => exact ⟨_, _, rfl, rfl, by decide⟩

theorem Bare.skip (h : Bare d t) (more : List Char) : skipBlanks (t ++ more) = t ++ more := by
  obtain ⟨c, cs, rfl, hc, -⟩ := h.starts
  exact skipBlanks_cons hc _

/-- Behind blanks there is a character like this. -/
def Opens (p : Char → Prop) (cs : List Char) : Prop := ∃ c more, skipBlanks cs = c :: more ∧ p c

theorem Written.opens (h : Written d t) (more : List Char) : Opens (· ≠ ']') (t ++ more) := by
  obtain ⟨_, before, t, after, hb, h, -⟩ := h
  rw [Opens, List.append_assoc, List.append_assoc, skipBlanks_append hb, h.skip]
  obtain ⟨c, cs, rfl, -, hc⟩ := h.starts
  exact ⟨c, _, rfl, hc⟩

theorem Member.opens {m : Option String × Document} (h : Member m t) (more : List Char) :
    Opens (· = '"') (t ++ more) := by
  obtain ⟨k, d, before, s, after, t, hb, hs, -, -⟩ := h
  obtain ⟨cs, rfl, -⟩ := hs.run
  rw [Opens, List.append_assoc, skipBlanks_append hb]
  exact ⟨_, _, rfl, rfl⟩

/-- A list opens like its first part. -/
theorem Listed.opens {α : Type} {R : α → List Char → Prop} {as : List α} {p : Char → Prop}
    (hp : ∀ a t, R a t → ∀ more, Opens p (t ++ more)) (h : Listed R as t) (more : List Char) :
    Opens p (t ++ more) := by
  cases h with
  | one a t h => exact hp a t h more
  | more a as t ts h hs =>
    rw [List.append_assoc]
    exact hp a t h _

/-! ## One step of the reader -/

theorem skipBlanks_skipBlanks (cs : List Char) : skipBlanks (skipBlanks cs) = skipBlanks cs := by
  obtain ⟨b, hb, he⟩ := exists_blank cs
  exact (skipBlanks_append hb (skipBlanks cs)).symm.trans (congrArg skipBlanks he.symm)

theorem value_skipBlanks (fuel : Nat) (cs : List Char) :
    value fuel (skipBlanks cs) = value fuel cs := by
  cases fuel with
  | zero => rfl
  | succ fuel => rw [value.eq_def, value.eq_def _ cs]; simp only [skipBlanks_skipBlanks]

theorem items_skipBlanks (fuel : Nat) (cs : List Char) :
    items fuel (skipBlanks cs) = items fuel cs := by
  cases fuel with
  | zero => rfl
  | succ fuel => rw [items.eq_def, items.eq_def _ cs]; simp only [value_skipBlanks]

theorem members_skipBlanks (fuel : Nat) (cs : List Char) :
    members fuel (skipBlanks cs) = members fuel cs := by
  cases fuel with
  | zero => rfl
  | succ fuel => rw [members.eq_def, members.eq_def _ cs]; simp only [skipBlanks_skipBlanks]

theorem value_number {n : Numeral} (h : NumeralText n t) (fuel : Nat) (hm : Ends more) :
    value (fuel + 1) (t ++ more) = some (.number n, more) := by
  have hs := (Bare.number n t h).skip more
  obtain ⟨c, cs, rfl, hc⟩ := h.starts
  have hne {e : Char} {es : List Char} (hd : e ≠ '-' ∧ e.isDigit = false)
      (he : c :: cs ++ more = e :: es) : False := by
    rw [(List.cons.inj he).1] at hc
    obtain hc | hc := hc
    · exact hd.1 hc
    · rw [hd.2] at hc
      cases hc
  rw [value.eq_def]
  simp only [hs]
  split
  all_goals try next he => exact (hne (by decide) he).elim
  rw [h.run hm]
  rfl

theorem value_string (hs : StringText k s) (fuel : Nat) (more : List Char) :
    value (fuel + 1) (s ++ more) = some (.string k, more) := by
  obtain ⟨cs, rfl, hr⟩ := hs.run
  rw [value.eq_def]
  change (stringAfter (cs ++ more)).map _ = _
  rw [hr]
  rfl

theorem value_bracket (fuel : Nat) (cs : List Char) : value (fuel + 1) ('[' :: cs) =
    match skipBlanks cs with
    | ']' :: rest => some (.array [], rest)
    | rest => (items fuel rest).map fun (ds, rest) => (.array ds, rest) := by
  rw [value.eq_def]
  rfl

theorem value_brace (fuel : Nat) (cs : List Char) : value (fuel + 1) ('{' :: cs) =
    match skipBlanks cs with
    | '}' :: rest => some (.object [], rest)
    | rest => (members fuel rest).map fun (ms, rest) => (.object ms, rest) := by
  rw [value.eq_def]
  rfl

theorem value_items (fuel : Nat) (h : Opens (· ≠ ']') cs) :
    value (fuel + 1) ('[' :: cs) = (items fuel cs).map fun (ds, rest) => (.array ds, rest) := by
  obtain ⟨c, more, h, hc⟩ := h
  rw [value_bracket, ← items_skipBlanks fuel cs, h]
  split
  · next he => exact absurd (List.cons.inj he).1 hc
  · rfl

theorem value_members (fuel : Nat) (h : Opens (· = '"') cs) :
    value (fuel + 1) ('{' :: cs) = (members fuel cs).map fun (ms, rest) => (.object ms, rest) := by
  obtain ⟨_, more, h, rfl⟩ := h
  rw [value_brace, ← members_skipBlanks fuel cs, h]
  rfl

theorem items_last (h : value fuel cs = some (d, rest)) (hr : skipBlanks rest = ']' :: more) :
    items (fuel + 1) cs = some ([d], more) := by
  rw [items.eq_def]
  simp only [h, hr, Option.bind_eq_bind, Option.bind_some]
  rfl

theorem items_more {rest' : List Char} (h : value fuel cs = some (d, rest))
    (hr : skipBlanks rest = ',' :: more) (hi : items fuel more = some (ds, rest')) :
    items (fuel + 1) cs = some (d :: ds, rest') := by
  rw [items.eq_def]
  simp only [h, hr, hi, Option.bind_eq_bind, Option.bind_some]
  rfl

theorem members_last (hb : Blank b) (hs : StringText k s) {after : List Char} (ha : Blank after)
    (h : value fuel cs = some (d, rest)) (hr : skipBlanks rest = '}' :: more) :
    members (fuel + 1) (b ++ (s ++ (after ++ ':' :: cs))) = some ([(k, d)], more) := by
  obtain ⟨cs', rfl, hk⟩ := hs.run
  rw [members.eq_def]
  simp only [skipBlanks_append hb]
  change (stringAfter (cs' ++ (after ++ ':' :: cs))).bind _ = _
  simp only [hk, Option.bind_some, skipBlanks_append ha]
  change (value fuel cs).bind _ = _
  simp only [h, Option.bind_some, hr]
  rfl

theorem members_more (hb : Blank b) (hs : StringText k s) {after : List Char} (ha : Blank after)
    (h : value fuel cs = some (d, rest)) (hr : skipBlanks rest = ',' :: more) {rest' : List Char}
    (hm : members fuel more = some (ms, rest')) :
    members (fuel + 1) (b ++ (s ++ (after ++ ':' :: cs))) = some ((k, d) :: ms, rest') := by
  obtain ⟨cs', rfl, hk⟩ := hs.run
  rw [members.eq_def]
  simp only [skipBlanks_append hb]
  change (stringAfter (cs' ++ (after ++ ':' :: cs))).bind _ = _
  simp only [hk, Option.bind_some, skipBlanks_append ha]
  change (value fuel cs).bind _ = _
  simp only [h, Option.bind_some, hr]
  change (members fuel more).bind _ = _
  rw [hm]
  rfl

/-! ## Every text is read -/

/-- The text is read as the document, whatever follows. The length of the text is fuel enough: an
array takes two steps before its first item, but it has a character at either end. -/
def IsRead (d : Document) (t : List Char) : Prop :=
  ∀ fuel more, t.length ≤ fuel → Ends more → value fuel (t ++ more) = some (d, more)

theorem exists_succ {n : Nat} (h : 0 < n) : ∃ k, n = k + 1 := ⟨n - 1, by omega⟩

theorem Written.run (h : Written d t) (hd : ∀ t, Bare d t → IsRead d t) (hf : t.length ≤ fuel)
    (hm : Ends more) : ∃ after, Blank after ∧ value fuel (t ++ more) = some (d, after ++ more) := by
  obtain ⟨_, before, t, after, hb, h, ha⟩ := h
  rw [List.length_append, List.length_append] at hf
  refine ⟨after, ha, ?_⟩
  rw [List.append_assoc, List.append_assoc, ← value_skipBlanks, skipBlanks_append hb, h.skip]
  exact hd t h fuel _ (by omega) (ends_append ha hm)

theorem Listed.items (h : Listed Written ds t) (hd : ∀ d ∈ ds, ∀ t, Bare d t → IsRead d t)
    (hf : t.length < fuel) (more : List Char) :
    items fuel (t ++ ']' :: more) = some (ds, more) := by
  induction h generalizing fuel with
  | one d t h =>
    obtain ⟨fuel, rfl⟩ := exists_succ (Nat.zero_lt_of_lt hf)
    obtain ⟨after, ha, hv⟩ := h.run (hd d List.mem_cons_self) (Nat.le_of_lt_succ hf)
      (ends_cons (c := ']') rfl (by decide) more)
    exact items_last hv (skipBlanks_append ha _)
  | more d ds t ts h hs ih =>
    obtain ⟨fuel, rfl⟩ := exists_succ (Nat.zero_lt_of_lt hf)
    rw [List.length_append, List.length_cons] at hf
    obtain ⟨hd, hds⟩ := List.forall_mem_cons.1 hd
    obtain ⟨after, ha, hv⟩ := h.run hd (by omega : t.length ≤ fuel)
      (ends_cons (c := ',') rfl (by decide) (ts ++ ']' :: more))
    rw [List.append_assoc]
    exact items_more hv (skipBlanks_append ha _) (ih hds (by omega))

theorem Listed.members (h : Listed Member ms t) (hd : ∀ m ∈ ms, ∀ t, Bare m.2 t → IsRead m.2 t)
    (hf : t.length < fuel) (more : List Char) :
    members fuel (t ++ '}' :: more) = some (ms, more) := by
  induction h generalizing fuel with
  | one m t h =>
    obtain ⟨fuel, rfl⟩ := exists_succ (Nat.zero_lt_of_lt hf)
    obtain ⟨k, d, before, s, after, t, hb, hs, ha, h⟩ := h
    simp only [List.length_append, List.length_cons] at hf
    obtain ⟨behind, hb', hv⟩ := h.run (hd (k, d) List.mem_cons_self) (by omega : t.length ≤ fuel)
      (ends_cons (c := '}') rfl (by decide) more)
    simp only [List.append_assoc, List.cons_append]
    exact members_last hb hs ha hv (skipBlanks_append hb' _)
  | more m ms t ts h _ ih =>
    obtain ⟨fuel, rfl⟩ := exists_succ (Nat.zero_lt_of_lt hf)
    obtain ⟨k, d, before, s, after, t, hb, hs, ha, h⟩ := h
    simp only [List.length_append, List.length_cons] at hf
    obtain ⟨hd, hds⟩ := List.forall_mem_cons.1 hd
    obtain ⟨behind, hb', hv⟩ := h.run hd (by omega : t.length ≤ fuel)
      (ends_cons (c := ',') rfl (by decide) (ts ++ '}' :: more))
    simp only [List.append_assoc, List.cons_append]
    exact members_more hb hs ha hv (skipBlanks_append hb' _) (ih hds (by omega))

/-- A value takes at least one step. -/
theorem isRead_of_step (h : Bare d t) (hs : ∀ fuel more, t.length ≤ fuel + 1 → Ends more →
    value (fuel + 1) (t ++ more) = some (d, more)) : IsRead d t := by
  intro fuel more hf hm
  obtain ⟨c, cs, he, -⟩ := h.starts
  obtain ⟨fuel, rfl⟩ := exists_succ (Nat.lt_of_lt_of_le (he ▸ Nat.zero_lt_succ cs.length) hf)
  exact hs fuel more hf hm

theorem Bare.isRead (h : Bare d t) : IsRead d t := by
  induction d using Document.induct generalizing t with
  | null =>
    refine isRead_of_step h fun fuel more _ _ => ?_
    cases h
    rfl
  | bool b =>
    refine isRead_of_step h fun fuel more _ _ => ?_
    cases h <;> rfl
  | number n =>
    refine isRead_of_step h fun fuel more _ hm => ?_
    cases h with | number n t h => exact value_number h fuel hm
  | string s =>
    refine isRead_of_step h fun fuel more _ _ => ?_
    cases h with | string s t h => exact value_string h fuel more
  | array ds ih =>
    refine isRead_of_step h fun fuel more hf _ => ?_
    cases h with
    | noItems b hb =>
      have he : '[' :: (b ++ [']']) ++ more = '[' :: (b ++ ']' :: more) := by simp
      rw [he, value_bracket, skipBlanks_append hb]
      rfl
    | items ds t h =>
      rw [List.length_cons, List.length_append, List.length_singleton] at hf
      have hs := Listed.opens (fun _ _ => Written.opens) h (']' :: more)
      have he : '[' :: (t ++ [']']) ++ more = '[' :: (t ++ ']' :: more) := by simp
      rw [he, value_items fuel hs, h.items (fun d hd t h => ih d hd h) (by omega) more]
      rfl
  | object ms ih =>
    refine isRead_of_step h fun fuel more hf _ => ?_
    cases h with
    | noMembers b hb =>
      have he : '{' :: (b ++ ['}']) ++ more = '{' :: (b ++ '}' :: more) := by simp
      rw [he, value_brace, skipBlanks_append hb]
      rfl
    | members ms t h =>
      rw [List.length_cons, List.length_append, List.length_singleton] at hf
      have hs := Listed.opens (fun _ _ => Member.opens) h ('}' :: more)
      have he : '{' :: (t ++ ['}']) ++ more = '{' :: (t ++ '}' :: more) := by simp
      rw [he, value_members fuel hs, h.members (fun m hm t h => ih m hm h) (by omega) more]
      rfl

/-! ## What is read is a text -/

def ValueSound (fuel : Nat) : Prop := ∀ cs d rest, value fuel cs = some (d, rest) →
  ∃ b t, Blank b ∧ Bare d t ∧ cs = b ++ (t ++ rest)

def ItemsSound (fuel : Nat) : Prop := ∀ cs ds rest, items fuel cs = some (ds, rest) →
  ∃ t, Listed Written ds t ∧ cs = t ++ ']' :: rest

def MembersSound (fuel : Nat) : Prop := ∀ cs ms rest, members fuel cs = some (ms, rest) →
  ∃ t, Listed Member ms t ∧ cs = t ++ '}' :: rest

/-- What is skipped behind a value belongs to it. -/
theorem ValueSound.written (hv : ValueSound fuel) (h : value fuel cs = some (d, rest)) :
    ∃ t, Written d t ∧ cs = t ++ skipBlanks rest := by
  obtain ⟨b, t, hb, ht, rfl⟩ := hv _ _ _ h
  obtain ⟨a, ha, he⟩ := exists_blank rest
  refine ⟨_, .mk d b t a hb ht ha, ?_⟩
  simp only [List.append_assoc, ← he]

theorem items_sound_succ (hv : ValueSound fuel) (hi : ItemsSound fuel) : ItemsSound (fuel + 1) := by
  intro cs ds rest h
  rw [items.eq_def] at h
  obtain ⟨⟨d, after⟩, hd, h⟩ := Option.bind_eq_some_iff.1 h
  obtain ⟨t, ht, hcs⟩ := hv.written hd
  simp only at h
  split at h
  · next more hr =>
    cases h
    exact ⟨t, .one d t ht, by rw [hcs, hr]⟩
  · next more hr =>
    obtain ⟨⟨ds, after'⟩, hds, h⟩ := Option.bind_eq_some_iff.1 h
    cases h
    obtain ⟨ts, hts, hmore⟩ := hi _ _ _ hds
    exact ⟨_, .more d ds t ts ht hts, by rw [hcs, hr, hmore]; simp⟩
  · cases h

theorem members_sound_succ (hv : ValueSound fuel) (hm : MembersSound fuel) :
    MembersSound (fuel + 1) := by
  intro cs ms rest h
  rw [members.eq_def] at h
  simp only at h
  obtain ⟨b, hb, hcs⟩ := exists_blank cs
  split at h
  · next cs' hq =>
    obtain ⟨⟨k, after⟩, hk, h⟩ := Option.bind_eq_some_iff.1 h
    obtain ⟨s, hs, hcs'⟩ := stringAfter_sound hk
    obtain ⟨a, ha, hafter⟩ := exists_blank after
    simp only at h
    split at h
    · next colon hc =>
      obtain ⟨⟨d, after'⟩, hd, h⟩ := Option.bind_eq_some_iff.1 h
      obtain ⟨t, ht, hcolon⟩ := hv.written hd
      have hmem : Member (k, d) (b ++ ('"' :: s ++ (a ++ ':' :: t))) := .mk k d b _ a t hb hs ha ht
      have he : cs = b ++ ('"' :: s ++ (a ++ ':' :: t)) ++ skipBlanks after' := by
        rw [hcs, hq, hcs', hafter, hc, hcolon]
        simp
      simp only at h
      split at h
      · next more hr =>
        cases h
        exact ⟨_, .one _ _ hmem, by rw [he, hr]⟩
      · next more hr =>
        obtain ⟨⟨ms, after''⟩, hms, h⟩ := Option.bind_eq_some_iff.1 h
        cases h
        obtain ⟨ts, hts, hmore⟩ := hm _ _ _ hms
        exact ⟨_, .more _ ms _ ts hmem hts, by rw [he, hr, hmore]; simp⟩
      · cases h
    · cases h
  · cases h

theorem value_sound_succ (hi : ItemsSound fuel) (hm : MembersSound fuel) :
    ValueSound (fuel + 1) := by
  intro cs d rest h
  rw [value.eq_def] at h
  simp only at h
  obtain ⟨b, hb, hcs⟩ := exists_blank cs
  refine ⟨b, ?_⟩
  rw [hcs]
  split at h
  · next hs =>
    cases h
    exact ⟨_, hb, .null, by rw [hs]; rfl⟩
  · next hs =>
    cases h
    exact ⟨_, hb, .true, by rw [hs]; rfl⟩
  · next hs =>
    cases h
    exact ⟨_, hb, .false, by rw [hs]; rfl⟩
  · next hs =>
    obtain ⟨⟨s, after⟩, ht, h⟩ := Option.map_eq_some_iff.1 h
    cases h
    obtain ⟨t, ht, he⟩ := stringAfter_sound ht
    exact ⟨_, hb, .string s _ ht, by rw [hs, he]; rfl⟩
  · next cs' hs =>
    obtain ⟨b', hb', hcs'⟩ := exists_blank cs'
    split at h
    · next he =>
      cases h
      exact ⟨_, hb, .noItems b' hb', by rw [hs, hcs', he]; simp⟩
    · rw [items_skipBlanks] at h
      obtain ⟨⟨ds, after⟩, hds, h⟩ := Option.map_eq_some_iff.1 h
      cases h
      obtain ⟨t, ht, he⟩ := hi _ _ _ hds
      exact ⟨_, hb, .items ds t ht, by rw [hs, he]; simp⟩
  · next cs' hs =>
    obtain ⟨b', hb', hcs'⟩ := exists_blank cs'
    split at h
    · next he =>
      cases h
      exact ⟨_, hb, .noMembers b' hb', by rw [hs, hcs', he]; simp⟩
    · rw [members_skipBlanks] at h
      obtain ⟨⟨ms, after⟩, hms, h⟩ := Option.map_eq_some_iff.1 h
      cases h
      obtain ⟨t, ht, he⟩ := hm _ _ _ hms
      exact ⟨_, hb, .members ms t ht, by rw [hs, he]; simp⟩
  · obtain ⟨⟨n, after⟩, hn, h⟩ := Option.map_eq_some_iff.1 h
    cases h
    obtain ⟨t, ht, he⟩ := numeral_sound hn
    exact ⟨t, hb, .number n t ht, by rw [he]⟩

theorem sound (fuel : Nat) : ValueSound fuel ∧ ItemsSound fuel ∧ MembersSound fuel := by
  induction fuel with
  | zero =>
    refine ⟨fun cs d rest h => ?_, fun cs ds rest h => ?_, fun cs ms rest h => ?_⟩
    · rw [value] at h
      cases h
    · rw [items] at h
      cases h
    · rw [members] at h
      cases h
  | succ fuel ih =>
    obtain ⟨hv, hi, hm⟩ := ih
    exact ⟨value_sound_succ hi hm, items_sound_succ hv hi, members_sound_succ hv hm⟩

/-! ## Whole texts -/

/-- A text is read as just the document that it writes down. -/
theorem ofChars?_eq_some : ofChars? cs = some d ↔ Written d cs := by
  constructor
  · intro h
    rw [ofChars?] at h
    split at h
    · next d rest hv =>
      split at h
      · next hr =>
        cases h
        obtain ⟨t, ht, he⟩ := (sound _).1.written hv
        rw [hr, List.append_nil] at he
        exact he ▸ ht
      · cases h
    · cases h
  · intro h
    obtain ⟨after, ha, hv⟩ := h.run (fun _ => Bare.isRead) (Nat.le_succ cs.length) ends_nil
    rw [List.append_nil, List.append_nil] at hv
    rw [ofChars?, hv]
    exact if_pos (skipBlanks_self ha)

theorem read?_eq_some {s : String} : read? s = some d ↔ Written d s.toList := ofChars?_eq_some

end KernelHub.Json.Document
