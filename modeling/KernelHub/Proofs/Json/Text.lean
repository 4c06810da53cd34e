import KernelHub.Proofs.Json.Doubles
import KernelHub.Proofs.Json.Grammar

/-
The text of a value writes down the document that has the value's parts in their places, and the
document evaluates to the value where the value is one that reading can give and its doubles read
back.
-/

namespace KernelHub.Json

open Document

mutual

/-- Do all doubles in the value read back? -/
def ReadsBack : Json → Prop
  | .double x => x.ReadsBack
  | .array vs => ItemsReadBack vs
  | .object ms => MembersReadBack ms
  | _ => True

def ItemsReadBack : List Json → Prop
  | [] => True
  | v :: vs => v.ReadsBack ∧ ItemsReadBack vs

def MembersReadBack : List (String × Json) → Prop
  | [] => True
  | (_, v) :: ms => v.ReadsBack ∧ MembersReadBack ms

end

theorem itemsReadBack_iff {vs : List Json} : ItemsReadBack vs ↔ ∀ v ∈ vs, v.ReadsBack := by
  induction vs with
  | nil => simp [ItemsReadBack]
  | cons v vs ih => rw [ItemsReadBack, ih, List.forall_mem_cons]

theorem membersReadBack_iff {ms : List (String × Json)} :
    MembersReadBack ms ↔ ∀ m ∈ ms, m.2.ReadsBack := by
  induction ms with
  | nil => simp [MembersReadBack]
  | cons m ms ih => rw [MembersReadBack, ih, List.forall_mem_cons]

mutual

/-- What the text of a value is read as. -/
def document : Json → Document
  | .null => .null
  | .bool b => .bool b
  | .int n => .number (intNumeral n)
  | .double x => ((numeral x.chars).map fun (n, _) => Document.number n).getD .null
  | .string s => .string (some s)
  | .array vs => .array (documentItems vs)
  | .object ms => .object (documentMembers ms)

def documentItems : List Json → List Document
  | [] => []
  | v :: vs => v.document :: documentItems vs

def documentMembers : List (String × Json) → List (Option String × Document)
  | [] => []
  | (k, v) :: ms => (some k, v.document) :: documentMembers ms

end

/-! ## Reading a text -/

/-- The items that follow another, each behind a comma, and the end of the array. -/
theorem exists_listed_items {vs : List Json} (hs : ∀ v ∈ vs, Bare v.document v.chars) {v : Json}
    (h : Bare v.document v.chars) : ∃ t, v.chars ++ charsItems vs = t ++ [']'] ∧
      Listed Written (v.document :: documentItems vs) t := by
  induction vs generalizing v with
  | nil => exact ⟨v.chars, rfl, .one _ _ h.written⟩
  | cons w vs ih =>
    obtain ⟨hw, hvs⟩ := List.forall_mem_cons.1 hs
    obtain ⟨t, ht, hl⟩ := ih hvs hw
    exact ⟨_, by simp [charsItems, ht], .more _ _ _ t h.written hl⟩

theorem member_quoted (k : String) {v : Json} (h : Bare v.document v.chars) :
    Member (some k, v.document) (quoted k ++ ':' :: v.chars) :=
  .mk _ _ [] _ [] _ blank_nil (stringText_quoted k) blank_nil h.written

theorem exists_listed_members {ms : List (String × Json)}
    (hs : ∀ m ∈ ms, Bare m.2.document m.2.chars) (k : String) {v : Json}
    (h : Bare v.document v.chars) :
    ∃ t, quoted k ++ ':' :: (v.chars ++ charsMembers ms) = t ++ ['}'] ∧
      Listed Member ((some k, v.document) :: documentMembers ms) t := by
  induction ms generalizing k v with
  | nil => exact ⟨_, by simp [charsMembers], .one _ _ (member_quoted k h)⟩
  | cons m ms ih =>
    obtain ⟨j, w⟩ := m
    obtain ⟨hw, hms⟩ := List.forall_mem_cons.1 hs
    obtain ⟨t, ht, hl⟩ := ih hms j hw
    exact ⟨_, by simp [charsMembers, ht], .more _ _ _ t (member_quoted k h) hl⟩

theorem document_double (x : Double) :
    ∃ n, (double x).document = .number n ∧ NumeralText n x.chars := by
  obtain ⟨n, hn⟩ := x.exists_numeral_chars
  have hr := hn.run ends_nil
  rw [List.append_nil] at hr
  exact ⟨n, by rw [document, hr]; rfl, hn⟩

/-- What the printer writes for a value is a text of its document. -/
theorem bare_chars (v : Json) : Bare v.document v.chars := by
  induction v using induct with
  | null => exact .null
  | bool b =>
    cases b with
    | true => exact .true
    | false => exact .false
  | int n => exact .number _ _ (intNumeral_text n)
  | double x =>
    obtain ⟨n, hd, hn⟩ := document_double x
    rw [hd]
    exact .number n _ hn
  | string s => exact .string _ _ (stringText_quoted s)
  | array vs ih =>
    cases vs with
    | nil => exact .noItems [] blank_nil
    | cons v vs =>
      obtain ⟨hv, hvs⟩ := List.forall_mem_cons.1 ih
      obtain ⟨t, ht, hl⟩ := exists_listed_items hvs hv
      rw [chars, List.cons_append, ht]
      exact .items _ t hl
  | object ms ih =>
    rcases ms with _ | ⟨⟨k, v⟩, ms⟩
    · exact .noMembers [] blank_nil
    · obtain ⟨hv, hms⟩ := List.forall_mem_cons.1 ih
      obtain ⟨t, ht, hl⟩ := exists_listed_members hms k hv
      have he : (object ((k, v) :: ms)).chars = '{' :: (t ++ ['}']) := by
        rw [← ht]
        simp [chars]
      rw [he]
      exact .members _ t hl

/-- The text of a value is read as its document. -/
theorem read?_text (v : Json) : Document.read? v.text = some v.document := by
  rw [read?_eq_some, text, String.toList_ofList]
  exact (bare_chars v).written

/-! ## Evaluating what was read -/

/-- The numeral that a double is written as has its value where the double reads back. -/
theorem numeral_double {x : Double} (h : x.ReadsBack) :
    ∃ n, (double x).document = .number n ∧ n.value? = some (.double x) := by
  obtain ⟨n, hn, -⟩ := document_double x
  have hr : Json.read? (double x).text = some (double x) := h
  rw [Json.read?, read?_text, Option.bind_some, hn, value?] at hr
  exact ⟨n, hn, hr⟩

theorem values?_documentItems {room : Nat} {vs : List Json}
    (h : ∀ v ∈ vs, v.document.value? room = some v) :
    values? room (documentItems vs) = some vs := by
  induction vs with
  | nil => rfl
  | cons v vs ih =>
    rw [List.forall_mem_cons] at h
    rw [documentItems, values?, h.1, ih h.2]
    rfl

theorem members?_documentMembers {room : Nat} {ms : List (String × Json)}
    (h : ∀ m ∈ ms, m.2.document.value? room = some m.2) :
    members? room (documentMembers ms) = some ms := by
  induction ms with
  | nil => rfl
  | cons m ms ih =>
    rw [List.forall_mem_cons] at h
    rw [documentMembers, members?, h.1, ih h.2]
    rfl

/-- The document of a value evaluates to the value. -/
theorem value?_document {v : Json} (h : v.ReadsBack) (hn : v.Normal) {room : Nat}
    (hd : v.depth ≤ room) : v.document.value? room = some v := by
  induction v using induct generalizing room with
  | null => rw [document, value?]
  | bool b => rw [document, value?]
  | int n =>
    rw [document, value?]
    exact value?_int hn
  | double x =>
    obtain ⟨n, hx, hv⟩ := numeral_double h
    rw [hx, value?, hv]
  | string s => rw [document, value?]; rfl
  | array vs ih =>
    obtain ⟨room, rfl⟩ : ∃ r, room = r + 1 := ⟨room - 1, by rw [depth] at hd; omega⟩
    have hvs : values? room (documentItems vs) = some vs :=
      values?_documentItems fun v hv => ih v hv (itemsReadBack_iff.1 h v hv)
        (normalItems_iff.1 hn v hv) (depthItems_le.1 (Nat.le_of_succ_le_succ hd) v hv)
    rw [document, value?, hvs]
    rfl
  | object ms ih =>
    obtain ⟨room, rfl⟩ : ∃ r, room = r + 1 := ⟨room - 1, by rw [depth] at hd; omega⟩
    have hms : members? room (documentMembers ms) = some ms :=
      members?_documentMembers fun m hm => ih m hm (membersReadBack_iff.1 h m hm)
        (normalMembers_iff.1 hn.2 m hm) (depthMembers_le.1 (Nat.le_of_succ_le_succ hd) m hm)
    rw [document, value?, hms]
    change some (object (Entries.ofList ms)) = _
    rw [Entries.ofList_of_ordered hn.1]

end KernelHub.Json
