/-!
# Cutting lists at marks

`pieces` cuts a list at the elements that are marks and drops these. Lines, words and
zero-terminated names are all cut this way. `trimmed` only drops the marks at both ends.
-/

namespace FlowScope

variable {α : Type}

/-- Puts an element in front of the first piece. -/
def pushPiece (x : α) : List (List α) → List (List α)
  | [] => [[x]]
  | piece :: later => (x :: piece) :: later

/-- The pieces between the marks; there is one more piece than there are marks. -/
def pieces (isMark : α → Bool) (xs : List α) : List (List α) :=
  xs.foldr (fun x later => if isMark x then [] :: later else pushPiece x later) [[]]

/-- The pieces that are ended by a mark, and the last one if it is not empty. -/
def endedPieces (isMark : α → Bool) (xs : List α) : List (List α) :=
  let all := pieces isMark xs
  match all.getLast? with
  | some [] => all.dropLast
  | _ => all

/-- The pieces that are not empty. -/
def fullPieces (isMark : α → Bool) (xs : List α) : List (List α) :=
  (pieces isMark xs).filter (!·.isEmpty)

/-- What is between the marks at both ends. -/
def trimmed (isMark : α → Bool) (xs : List α) : List α :=
  ((xs.dropWhile isMark).reverse.dropWhile isMark).reverse

end FlowScope
