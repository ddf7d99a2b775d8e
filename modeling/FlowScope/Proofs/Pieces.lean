import FlowScope.Pieces
import Mathlib.Data.List.TakeWhile

/-!
# Lists that are cut at marks

`pieces` is described piece by piece: the first piece ends where the list ends or at the first mark
(`pieces_of_free`, `pieces_append_cons`, and conversely `exists_of_pieces_eq_cons`).

`endedPieces` is defined from all the pieces of a list, and from the last of them. Here it is described
from the front, element by element (`endedPieces_cons`), and from that by appending: what is ended by a
mark is cut apart from what follows it (`endedPieces_append`).

`wholePieces` cuts at the same places but leaves each mark at the end of its piece, so nothing is lost:
the pieces, put together, are the list again. Any selection of whole pieces can be put together, and is
cut into these same pieces (`IsWhole.endedPieces_flatten`).
-/

namespace FlowScope

variable {α : Type} {isMark : α → Bool}

/-! ## All the pieces -/

theorem pieces_ne_nil (isMark : α → Bool) (xs : List α) : pieces isMark xs ≠ [] := by
  cases xs with
  | nil => simp [pieces]
  | cons x xs =>
      rw [pieces, List.foldr_cons]
      split
      · simp
      · cases List.foldr _ [[]] xs <;> simp [pushPiece]

theorem pieces_cons (isMark : α → Bool) (x : α) (xs : List α) :
    pieces isMark (x :: xs) =
      if isMark x then [] :: pieces isMark xs else pushPiece x (pieces isMark xs) := rfl

/-- The first piece ends with the list, or a mark ends it. -/
theorem exists_of_pieces_eq_cons {xs piece : List α} {later : List (List α)}
    (h : pieces isMark xs = piece :: later) :
    (∀ x ∈ piece, isMark x = false) ∧
      (later = [] ∧ xs = piece ∨
        ∃ m rest, isMark m = true ∧ xs = piece ++ m :: rest ∧ pieces isMark rest = later) := by
  induction xs generalizing piece later with
  | nil =>
      cases h
      exact ⟨by simp, .inl ⟨rfl, rfl⟩⟩
  | cons x xs ih =>
      rw [pieces_cons] at h
      split at h
      next hx =>
        -- the first element is a mark, so the first piece is empty
        cases h
        exact ⟨by simp, .inr ⟨x, xs, hx, rfl, rfl⟩⟩
      next hx =>
        have hx : isMark x = false := by simpa using hx
        obtain ⟨first, others, hpieces⟩ := List.exists_cons_of_ne_nil (pieces_ne_nil isMark xs)
        rw [hpieces, pushPiece] at h
        cases h
        obtain ⟨hfree, hends⟩ := ih hpieces
        refine ⟨List.forall_mem_cons.mpr ⟨hx, hfree⟩, ?_⟩
        rcases hends with ⟨rfl, rfl⟩ | ⟨m, rest, hm, rfl, hrest⟩
        · exact .inl ⟨rfl, rfl⟩
        · exact .inr ⟨m, rest, hm, rfl, hrest⟩

theorem pieces_of_free {piece : List α} (hfree : ∀ x ∈ piece, isMark x = false) :
    pieces isMark piece = [piece] := by
  induction piece with
  | nil => rfl
  | cons x piece ih =>
      obtain ⟨hx, hpiece⟩ := List.forall_mem_cons.mp hfree
      rw [pieces_cons, hx, if_neg Bool.false_ne_true, ih hpiece, pushPiece]

theorem pieces_append_cons {piece : List α} {m : α} (hfree : ∀ x ∈ piece, isMark x = false)
    (hm : isMark m = true) (rest : List α) :
    pieces isMark (piece ++ m :: rest) = piece :: pieces isMark rest := by
  induction piece with
  | nil => rw [List.nil_append, pieces_cons, if_pos hm]
  | cons x piece ih =>
      obtain ⟨hx, hpiece⟩ := List.forall_mem_cons.mp hfree
      rw [List.cons_append, pieces_cons, hx, if_neg Bool.false_ne_true, ih hpiece, pushPiece]

/-! ## Pieces that are ended -/

@[simp] theorem endedPieces_nil (isMark : α → Bool) : endedPieces isMark [] = [] := rfl

/-- A mark ends an empty piece, any other element joins the piece after it. -/
theorem endedPieces_cons (isMark : α → Bool) (x : α) (xs : List α) :
    endedPieces isMark (x :: xs) =
      if isMark x then [] :: endedPieces isMark xs else pushPiece x (endedPieces isMark xs) := by
  obtain ⟨piece, later, hpieces⟩ := List.exists_cons_of_ne_nil (pieces_ne_nil isMark xs)
  unfold endedPieces
  rw [pieces_cons, hpieces]
  -- a mark begins a piece, and any other element goes to the front of the first one
  cases isMark x with
  | true =>
      dsimp only
      rw [if_pos rfl, if_pos rfl, List.getLast?_cons_cons]
      split <;> simp
  | false =>
      rw [if_neg Bool.false_ne_true, if_neg Bool.false_ne_true]
      cases later with
      | nil => cases piece <;> simp [pushPiece]
      | cons next later =>
          dsimp only [pushPiece]
          rw [List.getLast?_cons_cons, List.getLast?_cons_cons]
          split <;> simp

theorem endedPieces_ne_nil {xs : List α} (hxs : xs ≠ []) : endedPieces isMark xs ≠ [] := by
  cases xs with
  | nil => exact absurd rfl hxs
  | cons x xs =>
      rw [endedPieces_cons]
      split
      · simp
      · cases endedPieces isMark xs <;> simp [pushPiece]

/-- Only an empty piece is left out. -/
theorem mem_endedPieces_iff {xs piece : List α} (hne : piece ≠ []) :
    piece ∈ endedPieces isMark xs ↔ piece ∈ pieces isMark xs := by
  unfold endedPieces
  dsimp only
  split
  next hlast =>
    obtain ⟨front, hfront⟩ := List.getLast?_eq_some_iff.mp hlast
    rw [hfront, List.dropLast_concat]
    simp [hne]
  next => rfl

theorem length_pushPiece_le (x : α) (l : List (List α)) : (pushPiece x l).length ≤ l.length + 1 := by
  cases l <;> simp [pushPiece]

theorem length_endedPieces_le (isMark : α → Bool) (xs : List α) :
    (endedPieces isMark xs).length ≤ xs.length := by
  induction xs with
  | nil => simp
  | cons x xs ih =>
      have hpush := length_pushPiece_le x (endedPieces isMark xs)
      rw [endedPieces_cons, List.length_cons]
      split
      · simpa using ih
      · omega

theorem pushPiece_append {x : α} {l : List (List α)} (hl : l ≠ []) (l' : List (List α)) :
    pushPiece x (l ++ l') = pushPiece x l ++ l' := by
  cases l with
  | nil => exact absurd rfl hl
  | cons piece later => rfl

/-- What is ended by a mark is cut apart from what follows. -/
theorem endedPieces_append_cons (xs ys : List α) {m : α} (hm : isMark m = true) :
    endedPieces isMark (xs ++ m :: ys) =
      endedPieces isMark (xs ++ [m]) ++ endedPieces isMark ys := by
  induction xs with
  | nil => simp [endedPieces_cons, hm]
  | cons x xs ih =>
      have hne : endedPieces isMark (xs ++ [m]) ≠ [] := endedPieces_ne_nil (by simp)
      rw [List.cons_append, List.cons_append, endedPieces_cons, endedPieces_cons, ih]
      split
      · rfl
      · exact pushPiece_append hne _

theorem endedPieces_append {xs : List α} (hxs : ∀ x, xs.getLast? = some x → isMark x = true)
    (ys : List α) : endedPieces isMark (xs ++ ys) = endedPieces isMark xs ++ endedPieces isMark ys := by
  rcases List.eq_nil_or_concat xs with rfl | ⟨front, m, rfl⟩
  · rfl
  · have hm : isMark m = true := hxs m (by simp)
    simp [endedPieces_append_cons front ys hm]

/-- Nothing is left between the marks at both ends if there are only marks. -/
theorem trimmed_eq_nil_iff {xs : List α} : trimmed isMark xs = [] ↔ ∀ x ∈ xs, isMark x = true := by
  unfold trimmed
  rw [List.reverse_eq_nil_iff, List.dropWhile_eq_nil_iff]
  constructor
  · intro h
    -- the first element that is no mark is in front of what is left, and none is
    cases hfront : xs.dropWhile isMark with
    | nil => exact List.dropWhile_eq_nil_iff.mp hfront
    | cons x rest =>
        have hx := List.head?_dropWhile_not isMark xs
        rw [hfront] at h hx
        have hmark : isMark x = true := h x (by simp)
        rw [List.head?_cons] at hx
        exact absurd hmark (by simpa using hx)
  · intro h
    rw [List.dropWhile_eq_nil_iff.mpr h]
    simp

theorem trimmed_snoc (xs : List α) {m : α} (hm : isMark m = true) :
    trimmed isMark (xs ++ [m]) = trimmed isMark xs := by
  unfold trimmed
  rw [List.dropWhile_append]
  split
  next h =>
    have hxs : xs.dropWhile isMark = [] := by simpa using h
    simp [hxs, hm]
  next => simp [hm]

/-- A mark at the end adds no piece, or an empty one. -/
theorem endedPieces_snoc (xs : List α) {m : α} (hm : isMark m = true) :
    endedPieces isMark (xs ++ [m]) = endedPieces isMark xs ∨
      endedPieces isMark (xs ++ [m]) = endedPieces isMark xs ++ [[]] := by
  induction xs with
  | nil => simp [endedPieces_cons, hm]
  | cons x xs ih =>
      rw [List.cons_append, endedPieces_cons, endedPieces_cons]
      -- the mark ends a piece that is there, or it ends an empty one behind another mark
      rcases ih with h | h
      · rw [h]
        exact .inl rfl
      · rw [h]
        split
        · exact .inr rfl
        · cases endedPieces isMark xs with
          | nil => exact .inl rfl
          | cons piece later => exact .inr rfl

/-! ## Whole pieces -/

/-- The pieces with the marks that end them. -/
def wholePieces (isMark : α → Bool) (xs : List α) : List (List α) :=
  xs.foldr (fun x later => if isMark x then [x] :: later else pushPiece x later) []

/-- Pieces that end with their only mark; the last one need not have a mark, but then it is not
empty. -/
inductive IsWhole (isMark : α → Bool) : List (List α) → Prop
  | nil : IsWhole isMark []
  | last {piece : List α} (hne : piece ≠ []) (hfree : ∀ x ∈ piece, isMark x = false) :
      IsWhole isMark [piece]
  | cons {piece : List α} {m : α} {later : List (List α)} (hfree : ∀ x ∈ piece, isMark x = false)
      (hm : isMark m = true) (hlater : IsWhole isMark later) :
      IsWhole isMark ((piece ++ [m]) :: later)

theorem wholePieces_cons (isMark : α → Bool) (x : α) (xs : List α) :
    wholePieces isMark (x :: xs) =
      if isMark x then [x] :: wholePieces isMark xs else pushPiece x (wholePieces isMark xs) := rfl

theorem isWhole_wholePieces (isMark : α → Bool) (xs : List α) :
    IsWhole isMark (wholePieces isMark xs) := by
  induction xs with
  | nil => exact .nil
  | cons x xs ih =>
      rw [wholePieces_cons]
      split
      next hx =>
        show IsWhole isMark (([] ++ [x]) :: _)
        exact .cons (by simp) hx ih
      next hx =>
        have hx : isMark x = false := by simpa using hx
        generalize wholePieces isMark xs = l at ih
        cases ih with
        | nil => exact .last (by simp) (by simpa using hx)
        | last hne hfree => exact .last (by simp) (List.forall_mem_cons.mpr ⟨hx, hfree⟩)
        | cons hfree hm hlater => exact .cons (List.forall_mem_cons.mpr ⟨hx, hfree⟩) hm hlater

/-- No element is lost. -/
theorem flatten_wholePieces (isMark : α → Bool) (xs : List α) :
    (wholePieces isMark xs).flatten = xs := by
  induction xs with
  | nil => rfl
  | cons x xs ih =>
      rw [wholePieces_cons]
      split
      · rw [List.flatten_cons, ih, List.singleton_append]
      · rw [← List.cons_inj_right x] at ih
        rw [← ih]
        cases wholePieces isMark xs <;> rfl

namespace IsWhole

variable {l : List (List α)}

theorem filter (h : IsWhole isMark l) (keep : List α → Bool) : IsWhole isMark (l.filter keep) := by
  induction h with
  | nil => exact .nil
  | last hne hfree =>
      rw [List.filter_cons, List.filter_nil]
      split
      · exact .last hne hfree
      · exact .nil
  | cons hfree hm hlater ih =>
      rw [List.filter_cons]
      split
      · exact .cons hfree hm ih
      · exact ih

theorem endedPieces_of_free {piece : List α} (hne : piece ≠ [])
    (hfree : ∀ x ∈ piece, isMark x = false) : endedPieces isMark piece = [piece] := by
  induction piece with
  | nil => exact absurd rfl hne
  | cons x piece ih =>
      obtain ⟨hx, hpiece⟩ := List.forall_mem_cons.mp hfree
      rw [endedPieces_cons, hx, if_neg Bool.false_ne_true]
      cases piece with
      | nil => rfl
      | cons y piece => rw [ih (by simp) hpiece]; rfl

theorem endedPieces_of_ended {piece : List α} {m : α} (hfree : ∀ x ∈ piece, isMark x = false)
    (hm : isMark m = true) : endedPieces isMark (piece ++ [m]) = [piece] := by
  induction piece with
  | nil => simp [endedPieces_cons, hm]
  | cons x piece ih =>
      obtain ⟨hx, hpiece⟩ := List.forall_mem_cons.mp hfree
      rw [List.cons_append, endedPieces_cons, hx, if_neg Bool.false_ne_true, ih hpiece]
      rfl

theorem takeWhile_of_free {piece : List α} (hfree : ∀ x ∈ piece, isMark x = false) :
    piece.takeWhile (!isMark ·) = piece :=
  List.takeWhile_eq_self_iff.mpr fun x hx => by simp [hfree x hx]

theorem takeWhile_of_ended {piece : List α} {m : α} (hfree : ∀ x ∈ piece, isMark x = false)
    (hm : isMark m = true) : (piece ++ [m]).takeWhile (!isMark ·) = piece := by
  rw [List.takeWhile_append_of_pos fun x hx => by simp [hfree x hx]]
  simp [hm]

/-- Whole pieces that are put together are cut apart again, and lose their marks. -/
theorem endedPieces_flatten (h : IsWhole isMark l) :
    endedPieces isMark l.flatten = l.map (·.takeWhile (!isMark ·)) := by
  induction h with
  | nil => rfl
  | last hne hfree => simp [endedPieces_of_free hne hfree, takeWhile_of_free hfree]
  | @cons piece m later hfree hm hlater ih =>
      have hended : ∀ x, (piece ++ [m]).getLast? = some x → isMark x = true := by simpa using hm
      rw [List.flatten_cons, List.map_cons, takeWhile_of_ended hfree hm, endedPieces_append hended,
        ih, endedPieces_of_ended hfree hm, List.singleton_append]

/-- Who does not see marks at the end finds the same in the pieces as in the whole pieces. -/
theorem map_endedPieces_flatten {β : Type} {view : List α → β} (h : IsWhole isMark l)
    (hview : ∀ piece m, isMark m = true → view (piece ++ [m]) = view piece) :
    (endedPieces isMark l.flatten).map view = l.map view := by
  rw [h.endedPieces_flatten]
  induction h with
  | nil => rfl
  | last hne hfree => simp [takeWhile_of_free hfree]
  | cons hfree hm hlater ih =>
      simp only [List.map_cons, takeWhile_of_ended hfree hm, hview _ _ hm, ih]

end IsWhole
end FlowScope
