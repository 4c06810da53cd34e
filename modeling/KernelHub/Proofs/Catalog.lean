import KernelHub.Catalog
import KernelHub.Proofs.Entries

/-
The law of a merge. Which names the catalog has, which of several types of one name it shows,
what is changed about a type on the way, and what the merge leaves behind as the record of
which names came from where.
-/

namespace KernelHub

namespace Catalog

/-- The last type of a name in a listing. -/
def last? (specs : List Spec) (name : String) : Option Spec :=
  (specs.filter fun s => s.name = name).getLast?

/-- The type, with another text to show. -/
def shown (s : Spec) (suffix : String) : Spec :=
  { s with displayName := Spec.suffixed s.displayName suffix }

/-- What a merge of two listings has to give, and to leave behind. -/
structure Lawful (c : Config) (home remote : List Spec) (types : Entries Spec) (p : Provenance) :
    Prop where
  /-- The catalog is a map. -/
  ordered : types.Ordered
  keys : ∀ n, n ∈ Entries.keys types ↔ n ∈ home.map Spec.name ∨ n ∈ remote.map Spec.name
  /-- A name offered at home stands for the last type of that name at home. -/
  atHome : ∀ n, n ∈ home.map Spec.name →
    Entries.find? n types = (last? home n).map (shown · c.homeSuffix)
  /-- Any other name stands for the last remote type of that name. -/
  atGateway : ∀ n, n ∉ home.map Spec.name →
    Entries.find? n types = (last? remote n).map (shown · c.remoteSuffix)
  /-- The names on record are sets. -/
  homeSet : p.home.Pairwise (· < ·)
  remoteSet : p.remote.Pairwise (· < ·)
  fromHome : ∀ n, n ∈ p.home ↔ n ∈ home.map Spec.name
  fromGateway : ∀ n, n ∈ p.remote ↔ n ∈ Entries.keys types ∧ n ∉ home.map Spec.name

variable {c : Config} {home remote : List Spec} {n suffix : String}

theorem last?_eq_none : last? home n = none ↔ n ∉ home.map Spec.name := by simp [last?]

theorem exists_last? : (∃ s, last? home n = some s) ↔ n ∈ home.map Spec.name := by
  rw [← Option.isSome_iff_exists, ← Option.ne_none_iff_isSome, ne_eq, last?_eq_none,
    Decidable.not_not]

theorem find?_named (n suffix : String) (specs : List Spec) :
    Entries.find? n (named suffix specs) = (last? specs n).map (shown · suffix) := by
  rw [named, Entries.find?_ofList, last?, List.getLast?_filter, ← List.map_reverse,
    List.find?_map]
  simp only [Option.map_map]
  rfl

theorem mem_keys_named : n ∈ Entries.keys (named suffix home) ↔ n ∈ home.map Spec.name := by
  rw [named, Entries.mem_keys_ofList, List.map_map]
  rfl

/-- A remote type counts unless a type at home hides it. -/
theorem last?_visible (n : String) : last? (remote.filter fun s => s.name ∉ home.map Spec.name) n =
    if n ∈ home.map Spec.name then none else last? remote n := by
  simp only [last?, List.filter_filter]
  split
  · next hn =>
    rw [List.getLast?_eq_none_iff, List.filter_eq_nil_iff]
    intro s _ hs
    simp only [Bool.and_eq_true, decide_eq_true_eq] at hs
    exact hs.2 (hs.1 ▸ hn)
  · next hn =>
    congr 1
    refine List.filter_congr fun s _ => ?_
    by_cases hs : s.name = n
    · simp only [hs, decide_true, Bool.true_and, decide_eq_true_eq]
      exact hn
    · simp [hs]

theorem find?_union (n : String) {es more : Entries Spec} (hm : more.Ordered) :
    Entries.find? n (union es more) = (Entries.find? n more).or (Entries.find? n es) := by
  rw [union, Entries.find?_foldl, Entries.find?_last hm.nodup]

theorem find?_merge (c : Config) (home remote : List Spec) (n : String) :
    Entries.find? n (merge c home remote) =
      if n ∈ home.map Spec.name then (last? home n).map (shown · c.homeSuffix)
      else (last? remote n).map (shown · c.remoteSuffix) := by
  have hr : Entries.find? n (atGateway c home remote) =
      if n ∈ home.map Spec.name then none
      else (last? remote n).map (shown · c.remoteSuffix) := by
    rw [atGateway, find?_named, last?_visible]
    split <;> rfl
  have hh : Entries.find? n (atHome c home) = (last? home n).map (shown · c.homeSuffix) :=
    find?_named n _ home
  have ho : (atGateway c home remote).Ordered := Entries.ordered_ofList _
  rw [merge, find?_union n ho, hr, hh]
  split
  · rfl
  · next hn => simp [last?_eq_none.2 hn]

theorem mem_keys_merge : n ∈ Entries.keys (merge c home remote) ↔
    n ∈ home.map Spec.name ∨ n ∈ remote.map Spec.name := by
  rw [Entries.mem_keys, find?_merge]
  split
  · next hn =>
    obtain ⟨s, hs⟩ := exists_last?.2 hn
    simp [hn, hs]
  · next hn =>
    simp only [Option.map_eq_some_iff, hn, false_or, ← exists_last?]
    exact ⟨fun ⟨_, s, hs, _⟩ => ⟨s, hs⟩, fun ⟨s, hs⟩ => ⟨_, s, hs, rfl⟩⟩

/-- A merge gives what it has to. -/
theorem lawful_merge (c : Config) (home remote : List Spec) :
    Lawful c home remote (merge c home remote) (provenance c home remote) where
  ordered := Entries.ordered_foldl (Entries.ordered_ofList _) _
  keys n := mem_keys_merge
  atHome n hn := by rw [find?_merge, if_pos hn]
  atGateway n hn := by rw [find?_merge, if_neg hn]
  homeSet := Entries.ordered_iff.1 (Entries.ordered_ofList _)
  remoteSet := Entries.ordered_iff.1 (Entries.ordered_ofList _)
  fromHome n := mem_keys_named
  fromGateway n := by
    rw [mem_keys_merge]
    refine mem_keys_named.trans ?_
    simp only [List.mem_map, List.mem_filter]
    grind

/-- The first name of a listing is one of its names, and there is one unless it is empty. -/
theorem mem_of_firstName? {specs : List Spec} (hf : firstName? specs = some n) :
    n ∈ specs.map Spec.name :=
  mem_keys_named.1 (List.mem_of_head? hf)

theorem of_firstName?_eq_none {specs : List Spec} (hf : firstName? specs = none) :
    n ∉ specs.map Spec.name := by
  have hk : Entries.keys (named "" specs) = [] := List.head?_eq_none_iff.1 hf
  intro hn
  have hm : n ∈ Entries.keys (named "" specs) := mem_keys_named.2 hn
  rw [hk] at hm
  cases hm

/-- No name is on record on both sides. -/
theorem Lawful.apart {types : Entries Spec} {p : Provenance}
    (h : Lawful c home remote types p) (n : String) :
    ¬ (p.isHome n = true ∧ p.isRemote n = true) := by
  simp only [Provenance.isHome, Provenance.isRemote, decide_eq_true_eq]
  rintro ⟨hh, hr⟩
  exact ((h.fromGateway n).1 hr).2 ((h.fromHome n).1 hh)

end Catalog

end KernelHub
