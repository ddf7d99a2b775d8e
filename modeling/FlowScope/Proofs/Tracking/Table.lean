import FlowScope.Flow.Tracker
import Mathlib.Data.List.Nodup

/-!
# The table of flows, seen through `find?`

A table holds one entry at most for each conversation (`FlowTable.KeysUnique`), and every operation
keeps it so. Under that condition each operation is an equation about `find?`, which is all that later
modules use of a table; the list behind it stays closed.
-/

namespace FlowScope

namespace FlowTable

variable {table : FlowTable} {c d : Conversation} {entry : TableEntry}

/-- No conversation has two entries. -/
def KeysUnique (table : FlowTable) : Prop := (table.entries.map (·.1)).Nodup

/-! ### Uniqueness of the keys -/

theorem keysUnique_empty (expiration : Option Nat) :
    KeysUnique { expiration, entries := [] } := List.nodup_nil

theorem KeysUnique.filter (h : table.KeysUnique) (keep : Conversation × TableEntry → Bool) :
    KeysUnique { table with entries := table.entries.filter keep } :=
  List.Nodup.sublist (List.Sublist.map _ List.filter_sublist) h

theorem KeysUnique.insert (h : table.KeysUnique) (c : Conversation) (entry : TableEntry) :
    (table.insert c entry).KeysUnique := by
  show (c :: (table.erase c).entries.map (·.1)).Nodup
  refine List.nodup_cons.mpr ⟨?_, h.filter _⟩
  intro hmem
  obtain ⟨e, he, hec⟩ := List.mem_map.mp hmem
  have hne := (List.mem_filter.mp he).2
  simp [hec] at hne

/-! ### What is found after an operation -/

@[simp] theorem insert_expiration : (table.insert c entry).expiration = table.expiration := rfl

theorem find?_erase_of_ne (h : d ≠ c) : (table.erase c).find? d = table.find? d := by
  show (table.entries.filter (·.1 ≠ c)).lookup d = table.entries.lookup d
  induction table.entries with
  | nil => rfl
  | cons e rest ih =>
      by_cases hec : e.1 = c
      · have hdc : (d == e.1) = false := by simpa [hec] using h
        rw [List.filter_cons_of_neg (by simpa using hec), List.lookup_cons, hdc]
        exact ih
      · rw [List.filter_cons_of_pos (by simpa using hec), List.lookup_cons, List.lookup_cons, ih]

@[simp] theorem find?_insert_self : (table.insert c entry).find? c = some entry :=
  List.lookup_cons_self

theorem find?_insert_of_ne (h : d ≠ c) : (table.insert c entry).find? d = table.find? d := by
  have hdc : (d == c) = false := by simpa using h
  show ((c, entry) :: (table.erase c).entries).lookup d = _
  rw [List.lookup_cons, hdc]
  exact find?_erase_of_ne h

/-- Dropping entries drops them from what is found. A second entry of a conversation could come to
light here; hence the condition. -/
theorem find?_filter (h : table.KeysUnique) (keep : TableEntry → Bool) (c : Conversation) :
    find? { table with entries := table.entries.filter (keep ·.2) } c =
      (table.find? c).filter keep := by
  obtain ⟨expiration, entries⟩ := table
  have hk : (entries.map (·.1)).Nodup := h
  show (entries.filter (keep ·.2)).lookup c = (entries.lookup c).filter keep
  clear h
  induction entries with
  | nil => rfl
  | cons e rest ih =>
      obtain ⟨d, entry⟩ := e
      rw [List.map_cons, List.nodup_cons] at hk
      have hih := ih hk.2
      rw [List.lookup_cons]
      by_cases hcd : c = d
      · subst hcd
        have hrest : rest.lookup c = none := by
          rw [List.lookup_eq_none_iff]
          intro x hx
          have hne : c ≠ x.1 := fun heq => hk.1 (List.mem_map.mpr ⟨x, hx, heq.symm⟩)
          simpa using hne
        rw [hrest] at hih
        cases hkeep : keep entry with
        | true => simp [hkeep, Option.filter]
        | false =>
            -- the entry is dropped, and there is no other to take its place
            simpa [hkeep, Option.filter] using hih
      · have hne : (c == d) = false := by simpa using hcd
        rw [hne]
        cases hkeep : keep entry with
        | true => simp only [List.filter_cons, hkeep, if_true, List.lookup_cons, hne, hih]
        | false => simp [hkeep, hih]

/-! ### The number of entries -/

/-- The keys being unique, erasing a conversation takes one entry away, or none. -/
theorem length_erase (h : table.KeysUnique) (c : Conversation) :
    (table.erase c).entries.length + (if (table.find? c).isSome then 1 else 0) =
      table.entries.length := by
  obtain ⟨expiration, entries⟩ := table
  have hk : (entries.map (·.1)).Nodup := h
  show (entries.filter (·.1 ≠ c)).length + (if (entries.lookup c).isSome then 1 else 0) = _
  clear h
  induction entries with
  | nil => rfl
  | cons e rest ih =>
      obtain ⟨d, entry⟩ := e
      rw [List.map_cons, List.nodup_cons] at hk
      have hih := ih hk.2
      by_cases hcd : c = d
      · subst hcd
        -- keys are unique, so this is the only one that goes
        have hrest : rest.filter (·.1 ≠ c) = rest := by
          apply List.filter_eq_self.mpr
          intro x hx
          have hne : x.1 ≠ c := fun heq => hk.1 (List.mem_map.mpr ⟨x, hx, heq⟩)
          simpa using hne
        rw [List.filter_cons_of_neg (by simp), hrest, List.lookup_cons_self, Option.isSome_some,
          if_pos rfl]
        rfl
      · have hne : (c == d) = false := by simpa using hcd
        have hdc : d ≠ c := Ne.symm hcd
        simp only [List.lookup_cons, hne, List.filter_cons, decide_not, hdc, decide_false,
          Bool.not_false, if_true, List.length_cons] at hih ⊢
        omega

theorem length_insert (h : table.KeysUnique) (c : Conversation) (entry : TableEntry) :
    (table.insert c entry).entries.length + (if (table.find? c).isSome then 1 else 0) =
      table.entries.length + 1 := by
  have herase := length_erase h c
  show (table.erase c).entries.length + 1 + _ = _
  omega

/-! ### Expiration -/

/-- An entry has expired once the expiration time has passed since it was last seen. By a clock that was set
back in between, no time has passed. -/
theorem isExpired_eq_false_iff {now : Int} :
    table.isExpired now entry = false ↔
      ∀ ttl, table.expiration = some ttl → (now - entry.lastSeen).toNat < ttl := by
  unfold isExpired elapsed
  cases table.expiration with
  | none => simp
  | some ttl => simp

end FlowTable
end FlowScope
