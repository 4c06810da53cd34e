import KernelHub.Proofs.Entries
import KernelHub.Json.Document

/-
Induction over values and documents: through the items of an array and the members of an object
at once. What is asked of all parts of a value is asked of each.
-/

namespace KernelHub

namespace Json

variable {r : Nat}

theorem induct {motive : Json → Prop} (null : motive .null) (bool : ∀ b, motive (.bool b))
    (int : ∀ n, motive (.int n)) (double : ∀ x, motive (.double x))
    (string : ∀ s, motive (.string s)) (array : ∀ vs, (∀ v ∈ vs, motive v) → motive (.array vs))
    (object : ∀ ms, (∀ m ∈ ms, motive m.2) → motive (.object ms)) (v : Json) : motive v :=
  @Json.rec motive (fun vs => ∀ v ∈ vs, motive v) (fun ms => ∀ m ∈ ms, motive m.2)
    (fun m => motive m.2)
    null bool int double string array object nofun
    (fun _ _ hv hvs => List.forall_mem_cons.2 ⟨hv, hvs⟩) nofun
    (fun _ _ hm hms => List.forall_mem_cons.2 ⟨hm, hms⟩) (fun _ _ hv => hv) v

theorem normalItems_iff {vs : List Json} : NormalItems vs ↔ ∀ v ∈ vs, v.Normal := by
  induction vs with
  | nil => simp [NormalItems]
  | cons v vs ih => rw [NormalItems, ih, List.forall_mem_cons]

theorem normalMembers_iff {ms : List (String × Json)} :
    NormalMembers ms ↔ ∀ m ∈ ms, m.2.Normal := by
  induction ms with
  | nil => simp [NormalMembers]
  | cons m ms ih => rw [NormalMembers, ih, List.forall_mem_cons]

theorem depthItems_le {vs : List Json} : depthItems vs ≤ r ↔ ∀ v ∈ vs, v.depth ≤ r := by
  induction vs with
  | nil => simp [depthItems]
  | cons v vs ih => rw [depthItems, Nat.max_le, ih, List.forall_mem_cons]

theorem depthMembers_le {ms : List (String × Json)} :
    depthMembers ms ≤ r ↔ ∀ m ∈ ms, m.2.depth ≤ r := by
  induction ms with
  | nil => simp [depthMembers]
  | cons m ms ih => rw [depthMembers, Nat.max_le, ih, List.forall_mem_cons]

theorem Document.induct {motive : Document → Prop} (null : motive .null)
    (bool : ∀ b, motive (.bool b)) (number : ∀ n, motive (.number n))
    (string : ∀ s, motive (.string s)) (array : ∀ ds, (∀ d ∈ ds, motive d) → motive (.array ds))
    (object : ∀ ms, (∀ m ∈ ms, motive m.2) → motive (.object ms)) (d : Document) : motive d :=
  @Document.rec motive (fun ds => ∀ d ∈ ds, motive d) (fun ms => ∀ m ∈ ms, motive m.2)
    (fun m => motive m.2)
    null bool number string array object nofun
    (fun _ _ hd hds => List.forall_mem_cons.2 ⟨hd, hds⟩) nofun
    (fun _ _ hm hms => List.forall_mem_cons.2 ⟨hm, hms⟩) (fun _ _ hd => hd) d

end Json

end KernelHub
