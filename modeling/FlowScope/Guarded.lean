import FlowScope.Bytes

/-!
# Guarded computations

Reading a byte string by offsets can go wrong in two ways that must not be confused:

* the input may be **refused**, for a reason that the reader chooses — the ordinary answer to input
  that does not have the expected form;
* a **fault** may occur — an item outside a list is asked for, a length is subtracted from a
  smaller one, or an offset outgrows a 64-bit word.

`Guarded ε α` keeps them apart: refusals carry an `ε`, faults a `Fault`. Code written against it says
where its arithmetic could leave its bounds, so that "never faults" is a statement about it.
-/

namespace FlowScope

/-- Ways in which a computation leaves its bounds. -/
inductive Fault
  /-- An item or a range outside the list was asked for. -/
  | outOfRange
  /-- A number was subtracted from a smaller one. -/
  | underflow
  /-- A sum or product does not fit the word it is kept in. -/
  | overflow
  deriving Repr, DecidableEq

/-- Why a guarded computation stopped without a value. -/
inductive Halt (ε : Type)
  | refused (reason : ε)
  | fault (cause : Fault)
  deriving Repr, DecidableEq

/-- Computations that may refuse their input with an `ε`, or fault. -/
abbrev Guarded (ε : Type) := Except (Halt ε)

namespace Guarded

variable {ε α : Type}

/-! ### Refusals and faults -/

def refuse (reason : ε) : Guarded ε α := .error (.refused reason)

def halt (cause : Fault) : Guarded ε α := .error (.fault cause)

/-- Whether the computation delivered a value. -/
def accepts : Guarded ε α → Bool
  | .ok _ => true
  | .error _ => false

/-- The computation did not fault: it delivered a value or refused. -/
def Safe (x : Guarded ε α) : Prop := ∀ cause, x ≠ .error (.fault cause)

/-- The value or the refusal, with `onFault` for a computation that faults. -/
def settle (onFault : ε) : Guarded ε α → Except ε α
  | .ok a => .ok a
  | .error (.refused reason) => .error reason
  | .error (.fault _) => .error onFault

/-! ### Arithmetic on words -/

/-- One more than the largest value of a 64-bit word. -/
def wordLimit : Nat := 0x10000000000000000

/-- The sum, which must stay below a limit. -/
def addBelow (limit a b : Nat) : Guarded ε Nat :=
  if a + b < limit then pure (a + b) else halt .overflow

def add (a b : Nat) : Guarded ε Nat := addBelow wordLimit a b

def mul (a b : Nat) : Guarded ε Nat :=
  if a * b < wordLimit then pure (a * b) else halt .overflow

def sub (a b : Nat) : Guarded ε Nat :=
  if b ≤ a then pure (a - b) else halt .underflow

/-! ### Items that must be there -/

/-- The octet at offset `i`; asking for one outside the string is a fault. -/
def octet (bytes : Bytes) (i : Nat) : Guarded ε UInt8 :=
  match bytes[i]? with
  | some b => pure b
  | none => halt .outOfRange

/-- The `width` octets at offset `start`; they must all be there. -/
def slice (bytes : Bytes) (start width : Nat) : Guarded ε Bytes :=
  match bytes.field? start width with
  | some piece => pure piece
  | none => halt .outOfRange

/-- What follows the first `start` items of a list; there must be that many. -/
def tail (items : List α) (start : Nat) : Guarded ε (List α) :=
  if start ≤ items.length then pure (items.drop start) else halt .outOfRange

end Guarded

/-! ### Probes -/

/-- A test on input: it refuses what it does not recognise, without giving a reason. -/
abbrev Probe := Guarded Unit

namespace Probe

variable {α : Type}

/-- The input is not recognised. -/
def mismatch : Probe α := Guarded.refuse ()

/-- Goes on only if the condition holds. -/
def demand (condition : Prop) [Decidable condition] : Probe Unit :=
  if condition then pure () else mismatch

/-- The value if there is one, and a mismatch otherwise. -/
def ofOption : Option α → Probe α
  | some a => pure a
  | none => mismatch

/-- The second probe where the first does not recognise the input; a fault is final. -/
def orElse (first second : Probe α) : Probe α :=
  match first with
  | .error (.refused _) => second
  | settled => settled

/-- The number in the `width` octets at `start`, or a mismatch if some of them are missing. The end
of the field is computed first, so it must fit a word. -/
def number (bytes : Bytes) (start width : Nat) : Probe Nat := do
  let _ ← Guarded.add start width
  ofOption (bytes.number? start width)

end Probe
end FlowScope
