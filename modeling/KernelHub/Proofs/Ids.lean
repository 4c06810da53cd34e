import KernelHub.Ids.Wire
import KernelHub.Proofs.Json.Text
import KernelHub.Proofs.Uuid.Order

/-
Identifiers of kernels and of sessions as clients meet them: printed, read back from any of the
forms they may be written in, carried in JSON, and sorted.
-/

namespace KernelHub

open Json (Document)

namespace Uuid

variable {ds cs : List Char}

theorem hyphenate_map {f : Char → Char} (hf : f '-' = '-') (ds : List Char) :
    hyphenate (ds.map f) = (hyphenate ds).map f := by
  simp only [hyphenate, List.map_append, List.map_cons, List.map_take, List.map_drop, hf]

theorem toLower_upper (u : Uuid) : (u.digits.map Char.toUpper).map Char.toLower = u.digits := by
  have hd : ∀ k < 16, (Hex.digit k).toUpper.toLower = Hex.digit k := by decide
  rw [List.map_map]
  refine (List.map_congr_left fun c hc => ?_).trans (List.map_id _)
  obtain ⟨k, hk, rfl⟩ := Hex.mem_text hc
  exact hd k hk

theorem digits_upper (u : Uuid) : Digits (u.digits.map Char.toUpper) where
  length := by rw [List.length_map, length_digits]
  hex c hc := by
    have hd : ∀ k < 16, Hex.isDigit (Hex.digit k).toUpper = true := by decide
    obtain ⟨d, hm, rfl⟩ := List.mem_map.1 hc
    obtain ⟨k, hk, rfl⟩ := Hex.mem_text hm
    exact hd k hk

end Uuid

/-- What a type of identifiers owes, given how it is printed, read, carried in JSON and
abbreviated. -/
structure Typed {Id : Type} [ToString Id] [LT Id] (uuid : Id → Uuid)
    (read : String → Except IdError Id) (toJson : Id → Json) (readJson? : String → Option Id)
    (short : Id → String) : Prop where
  /-- The written form is read back. -/
  written : ∀ a : Id, read (toString a) = .ok a
  /-- So is the JSON text. -/
  json : ∀ a, readJson? (toJson a).text = some a
  /-- So are the digits alone, and the written form in upper case, in braces and as a name. -/
  simple : ∀ a, read (String.ofList (uuid a).digits) = .ok a
  upper : ∀ a : Id, read (toString a).toUpper = .ok a
  braced : ∀ a : Id, read ("\x7b" ++ toString a ++ "\x7d") = .ok a
  urn : ∀ a : Id, read ("urn:uuid:" ++ toString a) = .ok a
  /-- A text is read exactly when it is digits in one of the four forms. -/
  accepted : ∀ s, (∃ a, read s = .ok a) ↔ ∃ ds, Uuid.Digits ds ∧ Uuid.Spells ds s.toList
  /-- Two such texts name one identifier exactly when they have the same digits up to case. -/
  same : ∀ s t ds es, Uuid.Digits ds → Uuid.Spells ds s.toList → Uuid.Digits es →
    Uuid.Spells es t.toList → (read s = read t ↔ ds.map Char.toLower = es.map Char.toLower)
  /-- Sorting identifiers sorts what is printed. -/
  ordered : ∀ a b : Id, a < b ↔ Text.bytes (toString a) < Text.bytes (toString b)
  /-- The short form is how the written form begins. -/
  abbreviated : ∀ a, (short a).toList = (toString a).toList.take 8

/-- A type that wraps an identifier and adds nothing to it owes what it should. -/
theorem typed_of {Id : Type} [ToString Id] [LT Id] {mk : Uuid → Id} {uuid : Id → Uuid}
    {read : String → Except IdError Id} {toJson : Id → Json} {readJson? : String → Option Id}
    {short : Id → String} {noun : String} (mk_uuid : ∀ a, mk (uuid a) = a)
    (uuid_mk : ∀ u, uuid (mk u) = u) (hshow : ∀ a, toString a = toString (uuid a))
    (hlt : ∀ a b, a < b ↔ uuid a < uuid b)
    (hread : ∀ s, read s = match Uuid.read s with
      | .ok u => .ok (mk u)
      | .error e => .error ⟨noun, s, e⟩)
    (hjson : ∀ a, toJson a = .string (toString a))
    (hback : ∀ t, readJson? t =
      (Document.read? t).bind fun d => d.string?.bind fun s => (read s).toOption)
    (hshort : ∀ a, short a = (uuid a).short) : Typed uuid read toJson readJson? short := by
  have hok (s : String) (a : Id) : read s = .ok a ↔ Uuid.read s = .ok (uuid a) := by
    rw [hread]
    cases Uuid.read s with
    | ok u =>
      simp only [Except.ok.injEq]
      exact ⟨fun h => by rw [← h, uuid_mk], fun h => by rw [h, mk_uuid]⟩
    | error e => simp
  have hshow' (a : Id) : (toString a).toList = Uuid.hyphenate (uuid a).digits := by
    rw [hshow]
    exact String.toList_ofList
  have named {a : Id} {s : String} (hs : Uuid.Spells (uuid a).digits s.toList) : read s = .ok a :=
    (hok s a).2 (Uuid.read_of_spells hs (Uuid.digits_digits _) (Uuid.toLower_digits _))
  have written (a : Id) : read (toString a) = .ok a := by
    refine named ?_
    rw [hshow']
    exact .hyphenated
  have spelled {s : String} {ds : List Char} (hd : Uuid.Digits ds) (hs : Uuid.Spells ds s.toList) :
      ∃ a, read s = .ok a ∧ ds.map Char.toLower = (uuid a).digits := by
    obtain ⟨u, hu⟩ := hd.exists_eq
    refine ⟨mk u, (hok s _).2 ?_, by rw [uuid_mk, hu]⟩
    rw [uuid_mk]
    exact Uuid.read_of_spells hs hd hu
  constructor
  case written => exact written
  case json =>
    intro a
    rw [hback, hjson, Json.read?_text]
    change (read (toString a)).toOption = some a
    rw [written]
    rfl
  case simple =>
    intro a
    refine named ?_
    rw [String.toList_ofList]
    exact .plain
  case upper =>
    intro a
    have hs : Uuid.Spells ((uuid a).digits.map Char.toUpper) (toString a).toUpper.toList := by
      rw [String.toUpper, String.toList_map, hshow', ← Uuid.hyphenate_map rfl]
      exact .hyphenated
    exact (hok _ a).2 (Uuid.read_of_spells hs (Uuid.digits_upper _) (Uuid.toLower_upper _))
  case braced =>
    intro a
    refine named ?_
    rw [String.toList_append, String.toList_append, hshow']
    exact .braced
  case urn =>
    intro a
    refine named ?_
    rw [String.toList_append, hshow']
    exact .urn rfl
  case accepted =>
    intro s
    constructor
    · rintro ⟨a, h⟩
      obtain ⟨ds, hs, hd⟩ := Uuid.ofChars?_eq_some.1 (Uuid.read_eq_ok.1 ((hok s a).1 h))
      exact ⟨ds, (Uuid.ofDigits?_eq_some.1 hd).1, hs⟩
    · rintro ⟨ds, hd, hs⟩
      obtain ⟨a, ha, -⟩ := spelled hd hs
      exact ⟨a, ha⟩
  case same =>
    intro s t ds es hd hs he ht
    obtain ⟨a, ha, hda⟩ := spelled hd hs
    obtain ⟨b, hb, heb⟩ := spelled he ht
    rw [ha, hb, hda, heb, Except.ok.injEq]
    constructor
    · rintro rfl
      rfl
    · intro h
      rw [← mk_uuid a, Uuid.digits_injective h, mk_uuid]
  case ordered =>
    intro a b
    rw [hlt, hshow a, hshow b, Uuid.bytes_lt]
  case abbreviated =>
    intro a
    rw [hshort, hshow', Uuid.short, String.toList_ofList, Uuid.hyphenate]
    simp [Uuid.length_digits]

/-- Identifiers of kernels and of sessions owe the same. -/
theorem ids_typed :
    Typed KernelId.uuid KernelId.read KernelId.toJson KernelId.readJson? KernelId.short ∧
      Typed SessionId.uuid SessionId.read SessionId.toJson SessionId.readJson? SessionId.short :=
  ⟨typed_of (fun _ => rfl) (fun _ => rfl) (fun _ => rfl) (fun _ _ => Iff.rfl) (fun _ => rfl)
      (fun _ => rfl) (fun _ => rfl) fun _ => rfl,
    typed_of (fun _ => rfl) (fun _ => rfl) (fun _ => rfl) (fun _ _ => Iff.rfl) (fun _ => rfl)
      (fun _ => rfl) (fun _ => rfl) fun _ => rfl⟩

end KernelHub
