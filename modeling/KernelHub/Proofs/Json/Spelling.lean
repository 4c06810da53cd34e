import KernelHub.Proofs.Json.Records

/-
Ways to write a record. The members of an object may stand in any order and among others that are
no fields; an array has the fields in their order, up to where only defaults are left. All that
decoding takes from a document is what is given for each field, with the default in the place of
what is missing.
-/

namespace KernelHub.Json

namespace Document

variable {fields : List String} {defaults : List (Option Json)} {d d' : Document} {f : String}
  {ms ms' : List (Option String × Document)}

/-! ## Objects -/

/-- The same object but for the order of its members and those that are no fields. -/
inductive Respelled (fields : List String) : Document → Document → Prop
  | order (ms ms' : List (Option String × Document)) (h : ms.Perm ms') :
    Respelled fields (.object ms) (.object ms')
  | foreign (ms ms' : List (Option String × Document)) (k : String) (d : Document)
    (h : k ∉ fields) : Respelled fields (.object (ms ++ ms')) (.object (ms ++ (some k, d) :: ms'))
  | symm (d d' : Document) (h : Respelled fields d d') : Respelled fields d' d
  | trans (d d' d'' : Document) (h : Respelled fields d d') (h' : Respelled fields d' d'') :
    Respelled fields d d''

theorem hasKey_some (j f : String) (d : Document) : hasKey j (some f, d) = decide (j = f) :=
  decide_eq_decide.2 ⟨fun h => (Option.some.inj h).symm, fun h => congrArg some h.symm⟩

/-- How often a field comes. -/
def times (f : String) (ms : List (Option String × Document)) : Nat := (ms.filter (hasKey f)).length

theorem slots?_object (fields : List String) (ms : List (Option String × Document)) :
    (object ms).slots? fields =
      if ms.all (·.1.isSome) ∧ ∀ f ∈ fields, times f ms ≤ 1 then
        some (fields.map fun f => ((ms.filter (hasKey f)).head?).map (·.2))
      else none := by
  simp only [slots?, List.head?_filter, Bool.and_eq_true, List.all_eq_true, decide_eq_true_eq,
    times]

/-- Of members that come at most once the order does not show. -/
theorem head?_of_perm {α : Type} {l l' : List α} (h : l.Perm l') (hl : l.length ≤ 1) :
    l.head? = l'.head? := by
  match l, hl with
  | [], _ => rw [h.nil_eq]
  | [a], _ => rw [List.singleton_perm.1 h]

theorem slots?_congr (hs : ms.all (·.1.isSome) = ms'.all (·.1.isSome))
    (hf : ∀ f ∈ fields, (ms.filter (hasKey f)).Perm (ms'.filter (hasKey f))) :
    (object ms).slots? fields = (object ms').slots? fields := by
  have htimes : (∀ f ∈ fields, times f ms ≤ 1) ↔ ∀ f ∈ fields, times f ms' ≤ 1 :=
    forall₂_congr fun f h => by rw [times, times, (hf f h).length_eq]
  rw [slots?_object, slots?_object, hs]
  simp only [htimes]
  split
  · next h =>
    refine congrArg some (List.map_congr_left fun f hm => ?_)
    have hl : (ms.filter (hasKey f)).length ≤ 1 := htimes.2 h.2 f hm
    rw [head?_of_perm (hf f hm) hl]
  · rfl

/-- Another way to write an object gives every field the same. -/
theorem slots?_respelled (h : Respelled fields d d') : d.slots? fields = d'.slots? fields := by
  induction h with
  | order ms ms' h => exact slots?_congr h.all_eq fun f _ => h.filter _
  | foreign ms ms' k d hk =>
    refine slots?_congr (by simp) fun f hf => ?_
    have hne : ¬ hasKey f (some k, d) = true := by
      rw [hasKey_some, decide_eq_true_eq]
      rintro rfl
      exact hk hf
    rw [List.filter_append, List.filter_append, List.filter_cons_of_neg hne]
  | symm d d' _ ih => exact ih.symm
  | trans d d' d'' _ _ ih ih' => exact ih.trans ih'

/-- What a member that is a field gives shows in its own field only. -/
theorem slots?_member (f : String) (ms ms' : List (Option String × Document)) (d : Document) :
    (object (ms ++ (some f, d) :: ms')).slots? fields =
      if (ms ++ ms').all (·.1.isSome) ∧
          ∀ j ∈ fields, times j (ms ++ ms') + (if j = f then 1 else 0) ≤ 1 then
        some (fields.map fun j =>
          if j = f then some d else (((ms ++ ms').filter (hasKey j)).head?).map (·.2))
      else none := by
  have hmove : (ms ++ (some f, d) :: ms').Perm ((some f, d) :: (ms ++ ms')) := List.perm_middle
  rw [slots?_congr hmove.all_eq fun j _ => hmove.filter _, slots?_object]
  have hcond : (((some f, d) :: (ms ++ ms')).all (·.1.isSome) ∧
      ∀ j ∈ fields, times j ((some f, d) :: (ms ++ ms')) ≤ 1) ↔
        (ms ++ ms').all (·.1.isSome) ∧
          ∀ j ∈ fields, times j (ms ++ ms') + (if j = f then 1 else 0) ≤ 1 := by
    refine and_congr (by simp) (forall₂_congr fun j _ => ?_)
    rw [times, List.filter_cons, hasKey_some]
    by_cases h : j = f <;> simp [h, times]
  simp only [hcond]
  split
  · next hc =>
    refine congrArg some (List.map_congr_left fun j hj => ?_)
    rw [List.filter_cons, hasKey_some]
    by_cases h : j = f <;> simp [h]
  · rfl

/-- No field may come twice. -/
theorem slots?_repeated (hf : f ∈ fields) (h : 1 < times f ms) :
    (object ms).slots? fields = none := by
  rw [slots?_object, if_neg]
  rintro ⟨-, hall⟩
  exact Nat.not_le.2 h (hall f hf)

/-! ## Arrays -/

theorem slots?_array (fields : List String) (items : List Document) : (array items).slots? fields =
    if items.length ≤ fields.length then
      some (items.map some ++ List.replicate (fields.length - items.length) none)
    else none := rfl

theorem slots?_long {items : List Document} (h : fields.length < items.length) :
    (array items).slots? fields = none := if_neg (Nat.not_le.2 h)

theorem length_slots? {ss : List (Option Document)} (h : d.slots? fields = some ss) :
    ss.length = fields.length := by
  cases d with
  | object ms =>
    rw [slots?_object] at h
    split at h
    · rw [← Option.some.inj h, List.length_map]
    · cases h
  | array items =>
    simp only [slots?] at h
    split at h
    · rw [← Option.some.inj h, List.length_append, List.length_map, List.length_replicate]
      omega
    · cases h
  | _ => cases h

theorem documentItems_eq (vs : List Json) : documentItems vs = vs.map Json.document := by
  induction vs with
  | nil => rfl
  | cons v vs ih => rw [documentItems, ih, List.map_cons]

/-! ## Defaults -/

/-- What is given for each field, and the default for what is missing. -/
def filled (defaults : List (Option Json)) (ss : List (Option Document)) : List (Option Document) :=
  List.zipWith (fun v s => s.or (v.map Json.document)) defaults ss

def given? (fields : List String) (defaults : List (Option Json)) (d : Document) :
    Option (List (Option Document)) := (d.slots? fields).map (filled defaults)

/-- What stands in an array, and the defaults that were left away. -/
theorem filled_take {vs : List Json} {k : Nat} (hk : (vs.drop k).map some = defaults.drop k)
    (hl : vs.length = defaults.length) :
    filled defaults ((documentItems (vs.take k)).map some ++
      List.replicate (defaults.length - (documentItems (vs.take k)).length) none) =
        vs.map fun v => some v.document := by
  induction vs generalizing defaults k with
  | nil =>
    cases defaults with
    | nil => rfl
    | cons v defaults => cases hl
  | cons v vs ih =>
    cases defaults with
    | nil => cases hl
    | cons w defaults =>
      have hl' : vs.length = defaults.length := Nat.succ.inj hl
      cases k with
      | zero =>
        obtain ⟨rfl, hk'⟩ := List.cons.inj hk
        have hi := ih (k := 0) hk' hl'
        rw [List.take_zero] at hi
        exact congrArg (some v.document :: ·) hi
      | succ k =>
        have hi := ih (k := k) hk hl'
        rw [List.take_succ_cons, documentItems, List.length_cons, List.length_cons,
          Nat.add_sub_add_right]
        exact congrArg (some v.document :: ·) hi

theorem given?_array {vs : List Json} {k : Nat} (hk : (vs.drop k).map some = defaults.drop k)
    (hl : vs.length = fields.length) (hd : defaults.length = fields.length) :
    (Json.array (vs.take k)).document.given? fields defaults =
      some (vs.map fun v => some v.document) := by
  have hlen : (documentItems (vs.take k)).length ≤ fields.length := by
    rw [documentItems_eq, List.length_map, List.length_take, hl]
    exact Nat.min_le_right _ _
  rw [given?, document, slots?, if_pos hlen, ← hd]
  exact congrArg some (filled_take hk (hl.trans hd.symm))

/-! ## Decoding -/

variable {α : Type}

theorem required_of_or {read : Document → Option α} {s s' : Option Document} {b : Option α}
    (h : s.or none = s'.or none) (hs : required read s = b) : required read s' = b := by
  rw [Option.or_none, Option.or_none] at h
  rw [← h, hs]

/-- A field whose default is written where it is missing reads the same. -/
theorem defaulted_of_or {a : α} {read : Document → Option α} {s s' : Option Document}
    {b : Option α} (h : s.or (some d) = s'.or (some d)) (hs : defaulted a read s = b)
    (hd : read d = some a) : defaulted a read s' = b := by
  have hread (s : Option Document) : defaulted a read s = (s.or (some d)).bind read := by
    cases s with
    | none => exact hd.symm
    | some d => rfl
  rw [hread, ← h, ← hread, hs]

/-- Decoding takes nothing from a document but what is given for each field. -/
structure Takes (fields : List String) (defaults : List (Option Json))
    (decode? : Document → Option α) : Prop where
  length : defaults.length = fields.length
  given : ∀ d d' a, d.given? fields defaults = d'.given? fields defaults →
    decode? d = some a → decode? d' = some a
  refuses : ∀ d, d.slots? fields = none → decode? d = none

theorem Takes.congr {decode? : Document → Option α} (ht : Takes fields defaults decode?)
    (h : d.given? fields defaults = d'.given? fields defaults) : decode? d = decode? d' :=
  Option.ext fun a => ⟨ht.given d d' a h, ht.given d' d a h.symm⟩

theorem exists_slots {ss : List (Option Document)}
    (h : d.given? fields defaults = d'.given? fields defaults) (hs : d.slots? fields = some ss) :
    ∃ ss', ss'.length = fields.length ∧ d'.slots? fields = some ss' ∧
      filled defaults ss = filled defaults ss' := by
  rw [given?, hs, Option.map_some] at h
  obtain ⟨ss', hs', hf⟩ := Option.map_eq_some_iff.1 h.symm
  exact ⟨ss', length_slots? hs', hs', hf.symm⟩

/-- Decoding does not depend on how a record is written. -/
structure Free (fields : List String) (defaults : List (Option Json)) (values : α → List Json)
    (toJson : α → Json) (decode? : Document → Option α) : Prop where
  /-- Neither the order of the members nor members that are no fields matter. -/
  respelled : ∀ d d', Respelled fields d d' → decode? d = decode? d'
  /-- No field may come twice. -/
  repeated : ∀ ms, ∀ f ∈ fields, 1 < times f ms → decode? (.object ms) = none
  /-- The array of the fields is as good as the object, also with defaults at its end cut off. -/
  listed : ∀ a k, ((values a).drop k).map some = defaults.drop k →
    decode? (Json.array ((values a).take k)).document = decode? (toJson a).document
  /-- An array must not be longer. -/
  extra : ∀ a v, decode? (Json.array (values a ++ [v])).document = none

theorem Takes.free {values : α → List Json} {toJson : α → Json} {decode? : Document → Option α}
    (ht : Takes fields defaults decode?) (hl : ∀ a, (values a).length = fields.length)
    (hv : ∀ a, (toJson a).document.given? fields defaults =
      some ((values a).map fun v => some v.document)) :
    Free fields defaults values toJson decode? where
  respelled d d' h := ht.congr (by rw [given?, given?, slots?_respelled h])
  repeated ms f hf h := ht.refuses _ (slots?_repeated hf h)
  listed a k hk := ht.congr (by rw [given?_array hk (hl a) ht.length, hv])
  extra a v := by
    refine ht.refuses _ (slots?_long ?_)
    rw [documentItems_eq, List.length_map, List.length_append, hl a]
    exact Nat.lt_succ_self _

/-! ## Texts -/

/-- Reading a text does not depend on how the record that stands in it at a place is written. -/
structure FreeText {β : Type} (place : Document → Document) (fields : List String)
    (defaults : List (Option Json)) (values : α → List Json) (toJson : α → Json)
    (readAll? : String → Option β) : Prop where
  /-- Neither the order of the members nor members that are no fields matter. -/
  respelled : ∀ d d', Respelled fields d d' → ∀ t t' : String, Written (place d) t.toList →
    Written (place d') t'.toList → readAll? t = readAll? t'
  /-- No field may come twice. -/
  repeated : ∀ ms, ∀ f ∈ fields, 1 < times f ms → ∀ t : String,
    Written (place (.object ms)) t.toList → readAll? t = none
  /-- The array of the fields is as good as the object, also with defaults at its end cut off. -/
  listed : ∀ a k, ((values a).drop k).map some = defaults.drop k → ∀ t t' : String,
    Written (place (Json.array ((values a).take k)).document) t.toList →
    Written (place (toJson a).document) t'.toList → readAll? t = readAll? t'
  /-- An array must not be longer. -/
  extra : ∀ a v, ∀ t : String, Written (place (Json.array (values a ++ [v])).document) t.toList →
    readAll? t = none

/-- What decoding does not depend on, reading a text does not either. -/
theorem Free.text {values : α → List Json} {toJson : α → Json} {decode? : Document → Option α}
    {β : Type} {decodeAll? : Document → Option β} {place : Document → Document}
    (hf : Free fields defaults values toJson decode?)
    (hsame : ∀ d d', decode? d = decode? d' → decodeAll? (place d) = decodeAll? (place d'))
    (hnone : ∀ d, decode? d = none → decodeAll? (place d) = none) :
    FreeText place fields defaults values toJson fun t => (read? t).bind decodeAll? where
  respelled d d' h t t' ht ht' := by
    rw [read?_eq_some.2 ht, read?_eq_some.2 ht']
    exact hsame d d' (hf.respelled d d' h)
  repeated ms f hm h t ht := by
    rw [read?_eq_some.2 ht]
    exact hnone _ (hf.repeated ms f hm h)
  listed a k hk t t' ht ht' := by
    rw [read?_eq_some.2 ht, read?_eq_some.2 ht']
    exact hsame _ _ (hf.listed a k hk)
  extra a v t ht := by
    rw [read?_eq_some.2 ht]
    exact hnone _ (hf.extra a v)

/-- Reading a text gives what is written there, however it is written. -/
structure FreelyRead (fields : List String) (defaults : List (Option Json))
    (values : α → List Json) (toJson : α → Json) (Sound : α → Prop) (result : α → α)
    (readAll? : String → Option α) : Prop
    extends FreeText id fields defaults values toJson readAll? where
  /-- What can be written comes back. -/
  written : ∀ a, Sound a → (toJson a).ReadsBack → (toJson a).depth ≤ maxDepth → ∀ t : String,
    Written (toJson a).document t.toList → readAll? t = some (result a)

theorem Free.read {values : α → List Json} {toJson : α → Json} {decode? : Document → Option α}
    {Sound : α → Prop} {result : α → α} (hf : Free fields defaults values toJson decode?)
    (hback : ∀ a, Sound a → (toJson a).ReadsBack → (toJson a).depth ≤ maxDepth →
      decode? (toJson a).document = some (result a)) :
    FreelyRead fields defaults values toJson Sound result fun t => (read? t).bind decode? where
  toFreeText := hf.text (fun _ _ h => h) fun _ h => h
  written a hs hb hd t ht := by
    rw [read?_eq_some.2 ht]
    exact hback a hs hb hd

end Document

end KernelHub.Json
