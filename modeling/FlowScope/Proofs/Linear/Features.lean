import FlowScope.Linear.Bigram
import Mathlib.Data.List.Sort

/-!
# Feature vectors as maps

A feature vector that ascends by index (`IsAscending`) has at most one entry for each index, so it is a
map from indices to values: it is determined by what looking up gives, and so is its part up to an index
(`IsAscending.upTo_eq`). The vectors of lists of entries are ascending (`isAscending_ofList`).
-/

namespace FlowScope

namespace Features

section Entries

variable {α : Type} {f g : List (Nat × α)}

/-- The entries ascend by index, so that there is at most one of each. -/
def IsAscending (f : List (Nat × α)) : Prop := f.Pairwise fun a b => a.1 < b.1

/-- The entries with an index from `1` to `count`. -/
def upTo (count : Nat) (f : List (Nat × α)) : List (Nat × α) :=
  f.filter fun entry => 1 ≤ entry.1 ∧ entry.1 ≤ count

theorem mem_upTo_iff {count : Nat} {entry : Nat × α} :
    entry ∈ upTo count f ↔ entry ∈ f ∧ 1 ≤ entry.1 ∧ entry.1 ≤ count := by
  rw [upTo, List.mem_filter, decide_eq_true_eq]

theorem IsAscending.upTo (hf : IsAscending f) (count : Nat) : IsAscending (upTo count f) :=
  List.Pairwise.filter _ hf

theorem IsAscending.lookup_eq_some_iff (hf : IsAscending f) {index : Nat} {value : α} :
    f.lookup index = some value ↔ (index, value) ∈ f := by
  induction f with
  | nil => simp
  | cons entry later ih =>
      obtain ⟨hentry, hlater⟩ := List.pairwise_cons.mp hf
      obtain ⟨index', value'⟩ := entry
      rw [List.lookup_cons, List.mem_cons]
      by_cases heq : index = index'
      · subst heq
        -- all later entries have larger indices
        have hnot : (index, value) ∉ later := by
          intro hmem
          exact Nat.lt_irrefl index (hentry _ hmem)
        simp [hnot, eq_comm]
      · have hbeq : (index == index') = false := beq_eq_false_iff_ne.mpr heq
        rw [hbeq, ← ih hlater]
        simp [heq]

theorem IsAscending.nodup (hf : IsAscending f) : f.Nodup := by
  refine List.Pairwise.imp ?_ hf
  rintro a b hlt rfl
  exact Nat.lt_irrefl _ hlt

/-- Ascending entries are determined by which there are. -/
theorem IsAscending.eq_of_mem_iff (hf : IsAscending f) (hg : IsAscending g)
    (h : ∀ entry, entry ∈ f ↔ entry ∈ g) : f = g := by
  have hperm : f.Perm g := (List.perm_ext_iff_of_nodup hf.nodup hg.nodup).mpr h
  refine hperm.eq_of_pairwise ?_ hf hg
  intro a b _ _ hab hba
  exact absurd hba (Nat.lt_asymm hab)

/-- Ascending entries are determined by what looking up gives. -/
theorem IsAscending.eq_of_lookup_eq (hf : IsAscending f) (hg : IsAscending g)
    (h : ∀ index, f.lookup index = g.lookup index) : f = g := by
  apply hf.eq_of_mem_iff hg
  rintro ⟨index, value⟩
  rw [← hf.lookup_eq_some_iff, ← hg.lookup_eq_some_iff, h]

/-- Feature vectors that give the features the same values have the same entries for them. -/
theorem IsAscending.upTo_eq (hf : IsAscending f) (hg : IsAscending g) {count : Nat}
    (h : ∀ index, 1 ≤ index → index ≤ count → f.lookup index = g.lookup index) :
    Features.upTo count f = Features.upTo count g := by
  apply (hf.upTo count).eq_of_mem_iff (hg.upTo count)
  rintro ⟨index, value⟩
  rw [mem_upTo_iff, mem_upTo_iff]
  refine and_congr_left fun hindex => ?_
  rw [← hf.lookup_eq_some_iff, ← hg.lookup_eq_some_iff, h index hindex.1 hindex.2]

/-- One more index lets at most one more entry in, and that at the end. -/
theorem IsAscending.upTo_succ (hf : IsAscending f) (count : Nat) :
    Features.upTo (count + 1) f =
      Features.upTo count f ++ ((f.lookup (count + 1)).map (Prod.mk (count + 1))).toList := by
  -- both sides ascend, so it is enough to compare which entries they have
  apply (hf.upTo _).eq_of_mem_iff
  · refine List.pairwise_append.mpr ⟨hf.upTo count, ?_, ?_⟩
    · cases f.lookup (count + 1) <;> simp
    · intro a ha b hb
      have hle := (mem_upTo_iff.mp ha).2.2
      obtain ⟨value, -, rfl⟩ := by simpa using hb
      exact Nat.lt_succ_of_le hle
  · rintro ⟨index, value⟩
    have hlast : (index, value) ∈ ((f.lookup (count + 1)).map (Prod.mk (count + 1))).toList ↔
        (index, value) ∈ f ∧ index = count + 1 := by
      rw [Option.mem_toList, Option.map_eq_some_iff]
      simp only [hf.lookup_eq_some_iff]
      constructor
      · rintro ⟨_, hmem, ⟨⟩⟩
        exact ⟨hmem, rfl⟩
      · rintro ⟨hmem, rfl⟩
        exact ⟨value, hmem, rfl⟩
    rw [List.mem_append, hlast, mem_upTo_iff, mem_upTo_iff, ← and_or_left]
    refine and_congr_right fun _ => ?_
    constructor <;> omega

/-- Looking up among other values for the same indices. -/
theorem lookup_map {β : Type} (value : α → β) (f : List (Nat × α)) (index : Nat) :
    (f.map fun entry => (entry.1, value entry.2)).lookup index = (f.lookup index).map value := by
  induction f with
  | nil => rfl
  | cons entry later ih =>
      rw [List.map_cons, List.lookup_cons, List.lookup_cons]
      split
      · rfl
      · exact ih

end Entries

/-- The vector in double precision. -/
def widened (f : Features) : List (Nat × Float) := f.map fun entry => (entry.1, entry.2.toFloat)

theorem IsAscending.widened {f : Features} (hf : IsAscending f) : IsAscending f.widened :=
  List.pairwise_map.mpr hf

theorem lookup_widened (f : Features) (index : Nat) :
    f.widened.lookup index = (f.lookup index).map Float32.toFloat :=
  lookup_map Float32.toFloat f index

/-- Setting the value of an index leaves those of all others. -/
theorem lookup_set (f : Features) (index : Nat) (value : Float32) (other : Nat) :
    (f.set index value).lookup other = if other = index then some value else f.lookup other := by
  induction f with
  | nil => grind [set]
  | cons entry later ih => grind [set]

theorem mem_of_mem_set {f : Features} {index : Nat} {value : Float32} {entry : Nat × Float32}
    (h : entry ∈ f.set index value) : entry = (index, value) ∨ entry ∈ f := by
  induction f with
  | nil => exact .inl (List.mem_singleton.mp h)
  | cons first later ih =>
      rw [set] at h
      split at h
      · exact List.mem_cons.mp h
      split at h
      · exact (List.mem_cons.mp h).imp_right (List.mem_cons_of_mem first)
      · rcases List.mem_cons.mp h with rfl | h
        · exact .inr (List.mem_cons_self ..)
        · exact (ih h).imp_right (List.mem_cons_of_mem first)

/-- Setting a value keeps the entries ascending. -/
theorem IsAscending.set {f : Features} (hf : IsAscending f) (index : Nat) (value : Float32) :
    IsAscending (f.set index value) := by
  induction f with
  | nil => exact List.pairwise_singleton ..
  | cons first later ih =>
      obtain ⟨hfirst, hlater⟩ := List.pairwise_cons.mp hf
      rw [Features.set]
      split
      next hlt =>
          -- the entry goes in front of all that are there
          refine List.pairwise_cons.mpr ⟨?_, hf⟩
          intro entry hentry
          rcases List.mem_cons.mp hentry with rfl | hentry
          · exact hlt
          · exact Nat.lt_trans hlt (hfirst entry hentry)
      next hle =>
          split
          next heq =>
              subst heq
              exact List.pairwise_cons.mpr ⟨hfirst, hlater⟩
          next hne =>
              -- or somewhere behind the first one
              refine List.pairwise_cons.mpr ⟨?_, ih hlater⟩
              intro entry hentry
              rcases mem_of_mem_set hentry with rfl | hentry
              · exact Nat.lt_of_le_of_ne (Nat.not_lt.mp hle) (Ne.symm hne)
              · exact hfirst entry hentry

theorem IsAscending.foldl_set {f : Features} (hf : IsAscending f) (entries : List (Nat × Float32)) :
    IsAscending (entries.foldl (fun f entry => Features.set entry.1 entry.2 f) f) := by
  induction entries generalizing f with
  | nil => exact hf
  | cons entry later ih => exact ih (hf.set entry.1 entry.2)

/-- The vector of any list of entries is ascending. -/
theorem isAscending_ofList (entries : List (Nat × Float32)) : IsAscending (ofList entries) :=
  IsAscending.foldl_set List.Pairwise.nil entries

end Features
end FlowScope
