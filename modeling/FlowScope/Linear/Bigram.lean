import FlowScope.Bytes

/-!
# Bigram features

The features of a payload are the numbers of its bigrams, the pairs of adjacent octets. The pair
`(a, b)` has the index `256 a + b + 1`, so the indices are `1` to `65536`. A feature vector lists the
indices that occur, ascending, each with its value.
-/

namespace FlowScope

/-- A sparse vector: indices with values, ascending by index, each index once. -/
abbrev Features := List (Nat × Float32)

namespace Features

/-- Sets the value of an index. -/
def set (index : Nat) (value : Float32) : Features → Features
  | [] => [(index, value)]
  | entry :: later =>
    if index < entry.1 then (index, value) :: entry :: later
    else if index = entry.1 then (index, value) :: later
    else entry :: set index value later

/-- The vector of a list of entries; of two entries with one index, the later one counts. -/
def ofList (entries : List (Nat × Float32)) : Features :=
  entries.foldl (fun features entry => set entry.1 entry.2 features) []

end Features

namespace Bigram

def index (a b : UInt8) : Nat := a.toNat * 256 + b.toNat + 1

/-- The index at each position of a payload. -/
def indices (payload : Bytes) : List Nat := payload.zipWith index payload.tail

/-- Counts one more index, which is no larger than those counted so far. -/
def tallyStep (i : Nat) : List (Nat × Nat) → List (Nat × Nat)
  | [] => [(i, 1)]
  | (j, n) :: later => if i = j then (j, n + 1) :: later else (i, 1) :: (j, n) :: later

/-- How often each index of an ascending list occurs in it. -/
def tally (is : List Nat) : List (Nat × Nat) := is.foldr tallyStep []

/-- How often each bigram occurs in a payload, ascending by index. -/
def counts (payload : Bytes) : List (Nat × Nat) := tally (indices payload).mergeSort

/-- Up to here a single-precision number can count in steps of one. -/
def countLimit : Nat := 0x1000000

/-- A count as a single-precision number. -/
def countValue (n : Nat) : Float32 := Float32.ofNat (min n countLimit)

def features (payload : Bytes) : Features :=
  (counts payload).map fun entry => (entry.1, countValue entry.2)

end Bigram
end FlowScope
