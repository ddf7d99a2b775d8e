/-!
# Histories

What happened to numbered things, the latest first. The events of one thing are found by its number
(`History.about`): recording an event changes what is known of its own thing only.
-/

namespace FlowScope

/-- Events with the number of the thing that each is about, the latest first. -/
abbrev History (ε : Type) := List (Nat × ε)

namespace History

variable {ε : Type}

def record (h : History ε) (i : Nat) (event : ε) : History ε := (i, event) :: h

/-- What happened to one thing, the latest first. -/
def about (h : History ε) (i : Nat) : List ε :=
  h.filterMap fun entry => if entry.1 = i then some entry.2 else none

@[simp] theorem about_record_self (h : History ε) (i : Nat) (event : ε) :
    (h.record i event).about i = event :: h.about i := by
  simp [record, about]

@[simp] theorem about_record_of_ne (h : History ε) {i j : Nat} (event : ε) (hij : i ≠ j) :
    (h.record i event).about j = h.about j := by
  simp [record, about, hij]

end History
end FlowScope
