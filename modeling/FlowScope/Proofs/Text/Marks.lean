import FlowScope.Text.Quoted
import Mathlib.Data.List.Basic

/-!
# Numbers between marks

Addresses are written as numbers with marks between them. No digit is a mark, so a text can be cut at its
marks again: at the first of a kind (`append_inj_of_lacks`), or at all of a kind (`intercalate_inj`). What is
cut out are the numbers, and no two numbers are written alike (`toDigits_injective`).

`Lacks c text` is what it takes to cut at `c`. There is one lemma for each way to put a text together.
-/

namespace FlowScope.Text

/-! ## Digits -/

theorem digitChar_inj : ∀ d < 16, ∀ e < 16, Nat.digitChar d = Nat.digitChar e → d = e := by
  decide

/-- The last digit, behind those of the rest of the number if there is any. -/
theorem toDigits_eq_append {base : Nat} (hbase : 1 < base) (n : Nat) :
    Nat.toDigits base n =
      (if n < base then [] else Nat.toDigits base (n / base)) ++ [Nat.digitChar (n % base)] := by
  rw [Nat.toDigits_eq_if hbase]
  split
  next hsmall => rw [Nat.mod_eq_of_lt hsmall, List.nil_append]
  next => rfl

/-- By induction on the number, which loses its last digit. -/
theorem toDigits_injective {base : Nat} (hbase : 1 < base) (hdigits : base ≤ 16) :
    Function.Injective (Nat.toDigits base) := by
  intro n
  induction n using Nat.strongRecOn with
  | ind n ih =>
      intro m h
      rw [toDigits_eq_append hbase, toDigits_eq_append hbase m] at h
      obtain ⟨hfront, hlast⟩ := List.append_inj' h rfl
      -- the last digit is the remainder, and the digits before it are those of the quotient
      have hmod : n % base = m % base := by
        have hn := Nat.mod_lt n (Nat.zero_lt_of_lt hbase)
        have hm := Nat.mod_lt m (Nat.zero_lt_of_lt hbase)
        exact digitChar_inj _ (by omega) _ (by omega) (List.singleton_inj.mp hlast)
      have hdiv : n / base = m / base := by
        split at hfront
        next hn =>
          split at hfront
          next hm => rw [Nat.div_eq_of_lt hn, Nat.div_eq_of_lt hm]
          next => exact absurd hfront.symm Nat.toDigits_ne_nil
        next hn =>
          split at hfront
          next => exact absurd hfront Nat.toDigits_ne_nil
          next => exact ih _ (Nat.div_lt_self (by omega) hbase) hfront
      rw [← Nat.div_add_mod n base, ← Nat.div_add_mod m base, hdiv, hmod]

theorem hexadecimal_injective : Function.Injective hexadecimal := by
  intro n m h
  apply toDigits_injective (by decide) (Nat.le_refl 16)
  exact String.ofList_injective h

theorem toString_injective : Function.Injective fun n : Nat => toString n := by
  intro n m h
  have hbase : 1 < 10 := by decide
  apply toDigits_injective hbase (by decide)
  exact String.ofList_injective h

theorem hexadecimal_ne_empty (n : Nat) : hexadecimal n ≠ "" := by
  intro h
  have hchars := congrArg String.toList h
  rw [hexadecimal, String.toList_ofList] at hchars
  exact Nat.toDigits_ne_nil hchars

/-! ## Marks -/

/-- The characters that stand between the numbers of an address. -/
def marks : List Char := [':', '.', ',', '[', ']']

theorem digitChar_notMem_marks (d : Nat) : Nat.digitChar d ∉ marks := by
  unfold marks
  simp only [List.mem_cons, List.not_mem_nil, or_false, not_or]
  exact ⟨Nat.digitChar_ne _ rfl, Nat.digitChar_ne _ rfl, Nat.digitChar_ne _ rfl,
    Nat.digitChar_ne _ rfl, Nat.digitChar_ne _ rfl⟩

theorem exists_of_mem_toDigits {base n : Nat} (hbase : 1 < base) {c : Char}
    (h : c ∈ Nat.toDigits base n) : ∃ d, c = Nat.digitChar d := by
  induction n using Nat.strongRecOn with
  | ind n ih =>
      rw [toDigits_eq_append hbase] at h
      rcases List.mem_append.mp h with hfront | hlast
      · split at hfront
        next => cases hfront
        next hn => exact ih _ (Nat.div_lt_self (by omega) hbase) hfront
      · exact ⟨_, List.mem_singleton.mp hlast⟩

/-! ## Texts that lack a character -/

/-- The character does not occur in the text. -/
def Lacks (c : Char) (text : String) : Prop := c ∉ text.toList

variable {c : Char} {a a' b b' mark : String} {texts texts' : List String}

theorem Lacks.append (ha : Lacks c a) (hb : Lacks c b) : Lacks c (a ++ b) := by
  unfold Lacks at *
  simp [ha, hb]

theorem lacks_toDigits (hc : c ∈ marks) {base : Nat} (hbase : 1 < base) (n : Nat) :
    Lacks c (String.ofList (Nat.toDigits base n)) := by
  intro hmem
  rw [String.toList_ofList] at hmem
  obtain ⟨d, rfl⟩ := exists_of_mem_toDigits hbase hmem
  exact digitChar_notMem_marks d hc

theorem lacks_intercalate (hmark : Lacks c mark) (htexts : ∀ text ∈ texts, Lacks c text) :
    Lacks c (mark.intercalate texts) := by
  induction texts with
  | nil => simp [Lacks]
  | cons text texts ih =>
      obtain ⟨htext, htexts⟩ := List.forall_mem_cons.mp htexts
      cases texts with
      | nil => rwa [String.intercalate_singleton]
      | cons next later =>
          rw [String.intercalate_cons_cons]
          exact (htext.append hmark).append (ih htexts)

/-! ## Cutting texts -/

theorem append_cons_inj {front front' behind behind' : List Char} (hfront : c ∉ front)
    (hfront' : c ∉ front') (h : front ++ c :: behind = front' ++ c :: behind') :
    front = front' ∧ behind = behind' := by
  -- the mark ends both fronts at the same place, as it is in neither
  induction front generalizing front' with
  | nil =>
      cases front' with
      | nil => exact ⟨rfl, (List.cons.inj h).2⟩
      | cons d front' =>
          obtain ⟨rfl, -⟩ := List.cons.inj h
          exact absurd List.mem_cons_self hfront'
  | cons d front ih =>
      cases front' with
      | nil =>
          obtain ⟨rfl, -⟩ := List.cons.inj h
          exact absurd List.mem_cons_self hfront
      | cons d' front' =>
          obtain ⟨rfl, hrest⟩ := List.cons.inj h
          rw [List.mem_cons, not_or] at hfront hfront'
          obtain ⟨rfl, rfl⟩ := ih hfront.2 hfront'.2 hrest
          exact ⟨rfl, rfl⟩

/-- Two texts that agree agree on both sides of their first mark of a kind. -/
theorem append_inj_of_lacks (hmark : mark.toList = [c]) (ha : Lacks c a) (ha' : Lacks c a')
    (h : a ++ mark ++ b = a' ++ mark ++ b') : a = a' ∧ b = b' := by
  have hchars := congrArg String.toList h
  simp only [String.toList_append, hmark, List.append_assoc, List.cons_append, List.nil_append] at hchars
  obtain ⟨hfront, hbehind⟩ := append_cons_inj ha ha' hchars
  exact ⟨String.toList_inj.mp hfront, String.toList_inj.mp hbehind⟩

/-- Texts that lack a mark are known from their text with that mark between them. -/
theorem intercalate_inj (hmark : mark.toList = [c]) (htexts : ∀ text ∈ texts, Lacks c text)
    (htexts' : ∀ text ∈ texts', Lacks c text) (hne : texts ≠ []) (hne' : texts' ≠ [])
    (h : mark.intercalate texts = mark.intercalate texts') : texts = texts' := by
  have hfree {texts : List String} (htexts : ∀ text ∈ texts, Lacks c text) :
      ∀ chars ∈ texts.map String.toList, c ∉ chars := by
    intro chars hchars
    obtain ⟨text, htext, rfl⟩ := List.mem_map.mp hchars
    exact htexts text htext
  have hchars := congrArg String.toList h
  rw [String.toList_intercalate, String.toList_intercalate, hmark] at hchars
  -- splitting at the mark gives back the texts
  have hpieces := congrArg (List.splitOn c) hchars
  rw [List.splitOn_intercalate c (hfree htexts) (by simpa using hne),
    List.splitOn_intercalate c (hfree htexts') (by simpa using hne')] at hpieces
  have hinjective : Function.Injective String.toList := fun _ _ => String.toList_injective
  exact List.map_injective_iff.mpr hinjective hpieces

end FlowScope.Text
