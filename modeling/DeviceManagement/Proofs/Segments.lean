import DeviceManagement.NodePath

/-!
# Splitting and joining paths

A path is joined from names by putting a separator between any two of them, and is split into names
at its separators, except for one in front and one at the end of it, next to which no name is read.

* A path that is split and joined again is as it was but for these two separators
  (`ofSegments_segments`).
* Names that are joined and split again are as they were unless the first or the last of them is
  empty (`segments_ofSegments_iff`): a path of names has a separator at an end if and only if the
  name there is empty.
-/

namespace DeviceManagement.NodePath

/-! ### Separators at the ends -/

section

variable {cs : List Char}

theorem dropLeading_of_head?_ne (h : cs.head? ≠ some separator) :
  dropLeading cs = cs
  := by
  cases cs with
  | nil => rfl
  | cons c rest =>
      rw [dropLeading, if_neg]
      rintro rfl
      exact h rfl

theorem dropTrailing_of_getLast?_ne (h : cs.getLast? ≠ some separator) :
  dropTrailing cs = cs
  := if_neg h

theorem length_dropLeading_lt (h : cs.head? = some separator) :
  (dropLeading cs).length < cs.length
  := by
  obtain ⟨rest, rfl⟩ := List.head?_eq_some_iff.mp h
  rw [dropLeading, if_pos rfl]
  apply Nat.lt_succ_self

theorem length_dropTrailing_le (cs : List Char) :
  (dropTrailing cs).length ≤ cs.length
  := by
  rw [dropTrailing]
  split
  · rw [List.length_dropLast]
    apply Nat.sub_le
  · apply Nat.le_refl

theorem length_dropTrailing_lt (h : cs.getLast? = some separator) :
  (dropTrailing cs).length < cs.length
  := by
  obtain ⟨front, rfl⟩ := List.getLast?_eq_some_iff.mp h
  rw [dropTrailing, if_pos h, List.dropLast_concat, List.length_append]
  apply Nat.lt_succ_self

/-- What is dropped at the ends of a text are separators, and there is nothing to drop only if there
are none. -/
theorem dropTrailing_dropLeading_eq_iff :
  dropTrailing (dropLeading cs) = cs
    ↔ cs.head? ≠ some separator ∧ cs.getLast? ≠ some separator
  := by
  constructor
  · intro h
    have hhead : cs.head? ≠ some separator := by
      intro hhead
      have hlt := length_dropLeading_lt hhead
      have hle := length_dropTrailing_le (dropLeading cs)
      rw [h] at hle
      omega
    rw [dropLeading_of_head?_ne hhead] at h
    refine ⟨hhead, ?_⟩
    intro hlast
    have hlt := length_dropTrailing_lt hlast
    rw [h] at hlt
    exact Nat.lt_irrefl _ hlt
  · rintro ⟨hhead, hlast⟩
    rw [dropLeading_of_head?_ne hhead, dropTrailing_of_getLast?_ne hlast]

end

theorem toList_copy_dropPrefix (s : String.Slice) :
  (s.dropPrefix separator).copy.toList = dropLeading s.copy.toList
  := by
  rw [String.Slice.dropPrefix]
  cases h : s.dropPrefix? separator with
  | none =>
      rw [String.Slice.dropPrefix?_eq_none_iff, String.Slice.startsWith_char_eq_head?] at h
      rw [Option.getD_none, dropLeading_of_head?_ne (by simpa using h)]
  | some rest =>
      rw [String.Slice.eq_append_of_dropPrefix?_char_eq_some h, Option.getD_some]
      simp [dropLeading]

theorem toList_copy_dropSuffix (s : String.Slice) :
  (s.dropSuffix separator).copy.toList = dropTrailing s.copy.toList
  := by
  rw [String.Slice.dropSuffix]
  cases h : s.dropSuffix? separator with
  | none =>
      rw [String.Slice.dropSuffix?_eq_none_iff, String.Slice.endsWith_char_eq_getLast?] at h
      rw [Option.getD_none, dropTrailing_of_getLast?_ne (by simpa using h)]
  | some front =>
      rw [String.Slice.eq_append_of_dropSuffix?_char_eq_some h, Option.getD_some]
      simp [dropTrailing]

/-! ### Splitting -/

/-- No part of a text that is split at its separators contains one. -/
theorem notMem_of_mem_splitOn {cs part : List Char} (h : part ∈ cs.splitOn separator) :
  separator ∉ part
  := by
  induction cs generalizing part with
  | nil =>
      rw [List.splitOn_nil, List.mem_singleton] at h
      subst h
      apply List.not_mem_nil
  | cons c cs ih =>
      obtain ⟨first, rest, hsplit⟩ := List.exists_cons_of_ne_nil (List.splitOn_ne_nil separator cs)
      rw [List.splitOn_cons_eq_if_modifyHead, hsplit] at h
      rw [hsplit] at ih
      split at h
      · rcases List.mem_cons.mp h with rfl | hpart
        · apply List.not_mem_nil
        · apply ih hpart
      · next hc =>
          rcases List.mem_cons.mp h with rfl | hpart
          · rw [List.mem_cons, not_or]
            constructor
            · rintro rfl
              exact hc (beq_self_eq_true _)
            · apply ih List.mem_cons_self
          · apply ih (List.mem_cons_of_mem first hpart)

section

variable {path : String}

theorem segments_of_dropLeading_eq_nil (h : dropLeading path.toList = []) :
  segments path = []
  := by
  unfold segments
  rw [h]
  rfl

theorem segments_of_dropLeading
    {inner : List Char} (hne : inner ≠ []) (h : dropLeading path.toList = inner) :
  segments path = ((dropTrailing inner).splitOn separator).map String.ofList
  := by
  unfold segments
  dsimp only
  rw [h, List.isEmpty_eq_false_iff.mpr hne]
  rfl

theorem notMem_of_mem_segments {name : String} (h : name ∈ segments path) :
  separator ∉ name.toList
  := by
  by_cases hinner : dropLeading path.toList = []
  · rw [segments_of_dropLeading_eq_nil hinner] at h
    exact absurd h List.not_mem_nil
  · rw [segments_of_dropLeading hinner rfl] at h
    obtain ⟨part, hpart, rfl⟩ := List.mem_map.mp h
    rw [String.toList_ofList]
    apply notMem_of_mem_splitOn hpart

end

/-! ### Joining -/

theorem toList_ofSegments (names : List String) :
  (ofSegments names).toList = [separator].intercalate (names.map String.toList)
  := String.toList_ofList

/-- A path that is split and joined again is as it was but for the separators at its ends. -/
theorem toList_ofSegments_segments (path : String) :
  (ofSegments (segments path)).toList = dropTrailing (dropLeading path.toList)
  := by
  rw [toList_ofSegments]
  by_cases hinner : dropLeading path.toList = []
  · rw [segments_of_dropLeading_eq_nil hinner, hinner]
    rfl
  · have htexts (parts : List (List Char)) :
        (parts.map String.ofList).map String.toList = parts := by simp
    rw [segments_of_dropLeading hinner rfl, htexts, List.intercalate_splitOn]

theorem ofSegments_segments (path : String) :
  ofSegments (segments path) = ((path.dropPrefix separator).dropSuffix separator).copy
  := by
  apply String.toList_inj.mp
  rw [toList_ofSegments_segments, toList_copy_dropSuffix, String.dropPrefix,
    toList_copy_dropPrefix, String.copy_toSlice]

/-- Joined texts start with the first of them. -/
theorem exists_intercalate_cons (text : List Char) (texts : List (List Char)) :
  ∃ rest, [separator].intercalate (text :: texts) = text ++ rest
  := by
  cases texts with
  | nil =>
      refine ⟨[], ?_⟩
      rw [List.intercalate_singleton, List.append_nil]
  | cons next texts =>
      refine ⟨[separator] ++ [separator].intercalate (next :: texts), ?_⟩
      rw [List.intercalate_cons_cons, List.append_assoc]

/-- Nothing comes of joining only if there is nothing to be joined. -/
theorem intercalate_eq_nil_iff {texts : List (List Char)} :
  [separator].intercalate texts = [] ↔ texts = [] ∨ texts = [[]]
  := by
  match texts with
  | [] => simp
  | [text] => simp
  | text :: next :: texts => simp [List.intercalate_cons_cons]

section

variable
  {texts : List (List Char)} (hsep : ∀ text ∈ texts, separator ∉ text)
  (hne : [separator].intercalate texts ≠ [])

include hsep hne

/-- Joined texts have a separator in front if and only if the first of them is empty. -/
theorem head?_intercalate_eq_iff :
  ([separator].intercalate texts).head? = some separator ↔ texts.head? = some []
  := by
  match texts with
  | [] => exact absurd rfl hne
  | [[]] => exact absurd rfl hne
  | [] :: next :: texts => simp [List.intercalate_cons_cons]
  | (c :: text) :: texts =>
      obtain ⟨rest, hrest⟩ := exists_intercalate_cons (c :: text) texts
      have hc : c ≠ separator := by
        rintro rfl
        exact hsep _ List.mem_cons_self List.mem_cons_self
      simp [hrest, hc]

/-- Joined texts have a separator at the end if and only if the last of them is empty. -/
theorem getLast?_intercalate_eq_iff :
  ([separator].intercalate texts).getLast? = some separator ↔ texts.getLast? = some []
  := by
  induction texts with
  | nil => exact absurd rfl hne
  | cons text texts ih =>
      cases texts with
      | nil =>
          rw [List.intercalate_singleton] at hne ⊢
          have hlast : text.getLast? ≠ some separator := by
            intro hlast
            exact hsep text List.mem_cons_self (List.mem_of_getLast? hlast)
          simp [hlast, hne]
      | cons next texts =>
          rw [List.forall_mem_cons] at hsep
          rw [List.intercalate_cons_cons, List.getLast?_cons_cons]
          by_cases hrest : [separator].intercalate (next :: texts) = []
          · -- The separator behind a text is the last one if an empty text is all that follows.
            have hempty : next :: texts = [[]] := by
              simpa using intercalate_eq_nil_iff.mp hrest
            simp [hempty]
          · rw [List.getLast?_append, List.getLast?_eq_some_getLast hrest, Option.some_or,
              ← List.getLast?_eq_some_getLast hrest]
            apply ih hsep.2 hrest

end

theorem map_toList_eq_some_nil_iff {name : Option String} :
  name.map String.toList = some [] ↔ name = some ""
  := by
  cases name <;> simp

/-- Names are the names of the path they are joined to if this has no separator at its ends. -/
theorem segments_ofSegments_iff_dropped
    {names : List String} (hsep : ∀ name ∈ names, separator ∉ name.toList)
    (hne : (ofSegments names).toList ≠ []) :
  segments (ofSegments names) = names
    ↔ dropTrailing (dropLeading (ofSegments names).toList) = (ofSegments names).toList
  := by
  constructor
  · intro h
    rw [← toList_ofSegments_segments, h]
  · intro h
    have hends := dropTrailing_dropLeading_eq_iff.mp h
    have hleading := dropLeading_of_head?_ne hends.1
    have hsplit : (ofSegments names).toList.splitOn separator = names.map String.toList := by
      rw [toList_ofSegments] at hne ⊢
      apply List.splitOn_intercalate
      · rw [List.forall_mem_map]
        apply hsep
      · intro hnil
        rw [hnil] at hne
        exact hne rfl
    rw [segments_of_dropLeading hne hleading, dropTrailing_of_getLast?_ne hends.2, hsplit,
      List.map_map]
    simp

/-- Names without separators are the names of the path they are joined to if and only if there are
none or the first and the last of them are not empty. -/
theorem segments_ofSegments_iff
    {names : List String} (hsep : ∀ name ∈ names, separator ∉ name.toList) :
  segments (ofSegments names) = names
    ↔ names = [] ∨ names.head? ≠ some "" ∧ names.getLast? ≠ some ""
  := by
  by_cases hne : (ofSegments names).toList = []
  · -- No names and a single empty one are joined to the same path, which has no names.
    rw [toList_ofSegments, intercalate_eq_nil_iff, List.map_eq_nil_iff] at hne
    rcases hne with rfl | hempty
    · exact iff_of_true rfl (.inl rfl)
    · obtain ⟨name, rfl, hname⟩ := List.map_eq_singleton_iff.mp hempty
      obtain rfl := String.toList_eq_nil_iff.mp hname
      decide
  · have htexts : ∀ text ∈ names.map String.toList, separator ∉ text := by
      rw [List.forall_mem_map]
      apply hsep
    have hnil : names ≠ [] := by
      rintro rfl
      exact hne rfl
    have hjoined := toList_ofSegments names
    rw [hjoined] at hne
    calc segments (ofSegments names) = names
        ↔ dropTrailing (dropLeading (ofSegments names).toList) = (ofSegments names).toList :=
          segments_ofSegments_iff_dropped hsep (by rwa [hjoined])
      _ ↔ (ofSegments names).toList.head? ≠ some separator
          ∧ (ofSegments names).toList.getLast? ≠ some separator :=
          dropTrailing_dropLeading_eq_iff
      _ ↔ names.head? ≠ some "" ∧ names.getLast? ≠ some "" := by
          rw [hjoined, Ne, head?_intercalate_eq_iff htexts hne, Ne,
            getLast?_intercalate_eq_iff htexts hne, List.head?_map, List.getLast?_map,
            map_toList_eq_some_nil_iff, map_toList_eq_some_nil_iff]
      _ ↔ names = [] ∨ names.head? ≠ some "" ∧ names.getLast? ≠ some "" := by
          rw [or_iff_right hnil]

/-! ### Both ways -/

/-- Names without separators are read back from the path they are joined to if and only if there are
none or neither the first nor the last of them is empty. From the names of a path, which have no
separators, the path is joined again but for one separator in front and then one at the end. -/
theorem segments_invert_joining :
  (∀ names : List String, (∀ name ∈ names, separator ∉ name.toList) →
      (segments (ofSegments names) = names
        ↔ names = [] ∨ names.head? ≠ some "" ∧ names.getLast? ≠ some ""))
    ∧ ∀ path : String,
      ofSegments (segments path) = ((path.dropPrefix separator).dropSuffix separator).copy
        ∧ ∀ name ∈ segments path, separator ∉ name.toList
  := by
  constructor
  · intro names hsep
    apply segments_ofSegments_iff hsep
  · intro path
    constructor
    · apply ofSegments_segments
    · intro name hname
      apply notMem_of_mem_segments hname

/-- An empty name is read back between two others, and at the end it is not. -/
theorem segments_invert_joining_empty_name :
  (∀ name ∈ ["a", "", "b"], separator ∉ name.toList)
    ∧ segments (ofSegments ["a", "", "b"]) = ["a", "", "b"]
    ∧ (∀ name ∈ ["a", ""], separator ∉ name.toList)
    ∧ segments (ofSegments ["a", ""]) ≠ ["a", ""]
  := by
  have hinner : ∀ name ∈ ["a", "", "b"], separator ∉ name.toList := by decide
  have hlast : ∀ name ∈ ["a", ""], separator ∉ name.toList := by decide
  refine ⟨hinner, ?_, hlast, ?_⟩
  · apply (segments_invert_joining.1 _ hinner).mpr
    decide
  · apply (not_congr (segments_invert_joining.1 _ hlast)).mpr
    decide

/-- Of several separators at an end only one is dropped, and the others are next to empty names. -/
example : segments "//a//" = ["", "a", ""] ∧ segments "//" = [""] ∧ segments "/" = [] := by
  decide +kernel

end DeviceManagement.NodePath
