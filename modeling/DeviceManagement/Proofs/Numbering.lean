import DeviceManagement.ManagedType.Basic
import Mathlib.Data.List.Nodup
import Mathlib.Order.Bounds.Basic

/-!
# Numbers for new instances

An instance for which no id is asked gets a number. To look for one is to take the numbers in
turn until one is not taken (`Search`), and this ends although it knows no bound: numbers have
different decimal forms, so that of more numbers than there are ids one is free. It ends with the
least free number, which is the fresh id (`search_iff`).
-/

namespace DeviceManagement

/-- Different numbers have different decimal forms. -/
theorem nodup_map_repr (count : Nat) :
  ((List.range count).map fun n => (n + 1).repr).Nodup
  := by
  apply List.nodup_range.map
  intro n m h
  have hdigits : Nat.toDigits 10 (n + 1) = Nat.toDigits 10 (m + 1) := by
    rw [← Nat.toList_repr, ← Nat.toList_repr, show (n + 1).repr = (m + 1).repr from h]
  apply Nat.succ.inj
  calc
    n + 1 = Nat.ofDigitChars 10 (Nat.toDigits 10 (n + 1)) 0 := Nat.ofDigitChars_ten_toDigits.symm
    _ = Nat.ofDigitChars 10 (Nat.toDigits 10 (m + 1)) 0 := by rw [hdigits]
    _ = m + 1 := Nat.ofDigitChars_ten_toDigits

namespace ManagedType

/-- The positive numbers whose decimal form is not among some ids. -/
def freeNumbers (ids : List String) : Set Nat :=
  { n | 1 ≤ n ∧ n.repr ∉ ids }

/-- Of one more number than there are ids, one is not taken. -/
theorem exists_mem_freeNumbers (ids : List String) :
  ∃ n ≤ ids.length, n + 1 ∈ freeNumbers ids
  := by
  by_contra htaken
  have hsubset : ((List.range (ids.length + 1)).map fun n => (n + 1).repr) ⊆ ids := by
    intro id hid
    obtain ⟨n, hn, rfl⟩ := List.mem_map.mp hid
    by_contra hfree
    exact htaken ⟨n, Nat.le_of_lt_succ (List.mem_range.mp hn), Nat.succ_pos n, hfree⟩
  have hlength := (nodup_map_repr _).length_le_of_subset hsubset
  rw [List.length_map, List.length_range] at hlength
  exact absurd hlength (Nat.not_succ_le_self _)

/-- The fresh id is the least free number, which is not beyond the number of ids and one. -/
theorem exists_freshId_eq (ids : List String) :
  ∃ n, IsLeast (freeNumbers ids) n ∧ n ≤ ids.length + 1 ∧ freshId ids = n.repr
  := by
  rw [freshId, List.find?_map]
  cases hfind : (List.range (ids.length + 1)).find?
      ((fun id => !ids.contains id) ∘ fun n => (n + 1).repr) with
  | none =>
      obtain ⟨n, hn, hfree⟩ := exists_mem_freeNumbers ids
      have htaken := List.find?_eq_none.mp hfind n (List.mem_range.mpr (Nat.lt_succ_of_le hn))
      simp [hfree.2] at htaken
  | some n =>
      obtain ⟨hfree, hmem, hbefore⟩ := List.find?_range_eq_some.mp hfind
      use n + 1
      refine ⟨⟨⟨Nat.succ_pos n, by simpa using hfree⟩, ?_⟩, List.mem_range.mp hmem, rfl⟩
      rintro m ⟨hm, hfree⟩
      -- A smaller free number would have been found before.
      by_contra hlt
      have htaken := hbefore (m - 1) (by omega)
      rw [Function.comp_apply, Nat.sub_add_cancel hm] at htaken
      simp [hfree] at htaken

theorem freshId_notMem (ids : List String) :
  freshId ids ∉ ids
  := by
  obtain ⟨n, hn, -, hfresh⟩ := exists_freshId_eq ids
  rw [hfresh]
  exact hn.1.2

/-! ### Searching without a bound -/

/-- The search for a free number, from the number `n` on, ends with an id. -/
inductive Search (ids : List String) : (n : Nat) → (id : String) → Prop
  | free {n : Nat} (h : n.repr ∉ ids) : Search ids n n.repr
  | taken {n : Nat} {id : String} (h : n.repr ∈ ids) (hrest : Search ids (n + 1) id) :
      Search ids n id

section

variable {ids : List String} {n : Nat} {id : String}

theorem search_iff_of_notMem (h : n.repr ∉ ids) :
  Search ids n id ↔ id = n.repr
  := by
  constructor
  · intro hsearch
    cases hsearch with
    | free _ => rfl
    | taken htaken _ => exact absurd htaken h
  · rintro rfl
    exact .free h

theorem search_iff_of_mem (h : n.repr ∈ ids) :
  Search ids n id ↔ Search ids (n + 1) id
  := by
  constructor
  · intro hsearch
    cases hsearch with
    | free hfree => exact absurd h hfree
    | taken _ hrest => exact hrest
  · exact .taken h

end

/-- From no number beyond it, the search ends with the least free number. -/
theorem search_iff_of_isLeast
    {ids : List String} {start distance : Nat} (hstart : 1 ≤ start)
    (h : IsLeast (freeNumbers ids) (start + distance)) (id : String) :
  Search ids start id ↔ id = (start + distance).repr
  := by
  induction distance generalizing start with
  | zero => exact search_iff_of_notMem h.1.2
  | succ distance ih =>
      have htaken : start.repr ∈ ids := by
        by_contra hfree
        have hle := h.2 ⟨hstart, hfree⟩
        omega
      rw [Nat.add_comm distance, ← Nat.add_assoc] at h ⊢
      rw [search_iff_of_mem htaken]
      exact ih (Nat.le_add_left 1 start) h

/-- The search from one on ends with the fresh id, and with nothing else. -/
theorem search_iff (ids : List String) (id : String) :
  Search ids 1 id ↔ id = freshId ids
  := by
  obtain ⟨n, hn, -, hfresh⟩ := exists_freshId_eq ids
  obtain ⟨distance, rfl⟩ := Nat.exists_eq_add_of_le hn.1.1
  rw [hfresh]
  exact search_iff_of_isLeast (Nat.le_refl 1) hn id

end ManagedType

end DeviceManagement
