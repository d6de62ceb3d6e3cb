import DeviceManagement.Proofs.Segments

/-!
# Paths of names

A path is written by putting a separator between names. `IsName` tells which texts can be read
back from such a path: those that are not empty and have no separator inside. The names of a path
are read back by `segments`, and one by one by `splitFirst`, with or without one more separator
in front. The two ways of reading agree on every path in which no two separators are adjacent
(`IsSingle.reads`).
-/

namespace DeviceManagement.NodePath

/-- A name that can be told apart in a path: it is not empty and contains no separator. -/
def IsName (name : String) : Prop :=
  name ≠ "" ∧ separator ∉ name.toList

instance (name : String) : Decidable (IsName name) :=
  inferInstanceAs (Decidable (_ ∧ _))

theorem IsName.toList_ne_nil {name : String} (h : IsName name) :
  name.toList ≠ []
  := by
  intro hnil
  exact h.1 (String.toList_eq_nil_iff.mp hnil)

/-! ### Reading all names -/

/-- A text that starts with a name has no separator in front. -/
theorem dropLeading_append
    {front : List Char} (hne : front ≠ []) (hfront : separator ∉ front) (rest : List Char) :
  dropLeading (front ++ rest) = front ++ rest
  := by
  apply dropLeading_of_head?_ne
  rw [List.head?_append, List.head?_eq_some_head hne, Option.some_or,
    ← List.head?_eq_some_head hne]
  intro hhead
  exact hfront (List.mem_of_head? hhead)

/-- The names of a path that is written from names are these names. -/
theorem segments_ofSegments {names : List String} (h : ∀ name ∈ names, IsName name) :
  segments (ofSegments names) = names
  := by
  apply (segments_ofSegments_iff fun name hname => (h name hname).2).mpr
  right
  constructor
  · intro hhead
    exact (h "" (List.mem_of_head? hhead)).1 rfl
  · intro hlast
    exact (h "" (List.mem_of_getLast? hlast)).1 rfl

/-! ### Reading the first name -/

theorem bne_separator_of_notMem {name : List Char} (hname : separator ∉ name) :
  ∀ c ∈ name, (c != separator) = true
  := by
  intro c hc
  rw [bne_iff_ne]
  rintro rfl
  exact hname hc

/-- The first name of a path, behind one separator more if there is one. -/
theorem splitFirst_of_dropLeading
    {path : String} {name rest : List Char} (hname : separator ∉ name)
    (h : dropLeading path.toList = name ++ separator :: rest) :
  splitFirst path = (String.ofList name, String.ofList rest)
  := by
  have hall := bne_separator_of_notMem hname
  unfold splitFirst
  dsimp only
  rw [h, List.takeWhile_append_of_pos hall, List.dropWhile_append_of_pos hall]
  simp

variable {name : String}

theorem splitFirst_append (h : IsName name) (rest : String) :
  splitFirst (name ++ "/" ++ rest) = (name, rest)
  := by
  have hleading : dropLeading (name ++ "/" ++ rest).toList
      = name.toList ++ separator :: rest.toList := by
    rw [String.toList_append, String.toList_append, List.append_assoc]
    exact dropLeading_append h.toList_ne_nil h.2 _
  rw [splitFirst_of_dropLeading h.2 hleading, String.ofList_toList, String.ofList_toList]

theorem splitFirst_slash_append (h : separator ∉ name.toList) (rest : String) :
  splitFirst ("/" ++ (name ++ "/" ++ rest)) = (name, rest)
  := by
  have hleading : dropLeading ("/" ++ (name ++ "/" ++ rest)).toList
      = name.toList ++ separator :: rest.toList := by
    rw [String.toList_append, String.toList_append, String.toList_append, List.append_assoc]
    rfl
  rw [splitFirst_of_dropLeading h hleading, String.ofList_toList, String.ofList_toList]

/-! ### Reading all names, one by one -/

/-- No two separators stand next to each other in a path. -/
def IsSingle (path : String) : Prop :=
  ¬ [separator, separator] <:+: path.toList

instance (path : String) : Decidable (IsSingle path) :=
  inferInstanceAs (Decidable (¬ _))

theorem dropLeading_suffix (cs : List Char) :
  dropLeading cs <:+ cs
  := by
  cases cs with
  | nil => exact List.suffix_rfl
  | cons c rest =>
      rw [dropLeading]
      split
      · exact List.suffix_cons c rest
      · exact List.suffix_rfl

theorem dropTrailing_of_notMem {cs : List Char} (h : separator ∉ cs) :
  dropTrailing cs = cs
  := by
  apply dropTrailing_of_getLast?_ne
  intro hlast
  exact h (List.mem_of_getLast? hlast)

theorem dropTrailing_append {back : List Char} (hne : back ≠ []) (front : List Char) :
  dropTrailing (front ++ back) = front ++ dropTrailing back
  := by
  rw [dropTrailing, dropTrailing, List.getLast?_append, List.getLast?_eq_some_getLast hne,
    Option.some_or, List.dropLast_append_of_ne_nil hne]
  split <;> rfl

section

variable {path : String} {name : List Char} (hname : separator ∉ name)
include hname

theorem segments_of_notMem (hne : name ≠ []) (h : dropLeading path.toList = name) :
  segments path = [String.ofList name]
  := by
  rw [segments_of_dropLeading hne h, dropTrailing_of_notMem hname,
    List.splitOn_eq_singleton hname]
  rfl

theorem splitFirst_of_notMem (h : dropLeading path.toList = name) :
  splitFirst path = (String.ofList name, "")
  := by
  have hall := bne_separator_of_notMem hname
  unfold splitFirst
  dsimp only
  rw [h, ← List.append_nil name, List.takeWhile_append_of_pos hall,
    List.dropWhile_append_of_pos hall]
  simp

/-- Put in front of a path again, a name is not taken for a separator. -/
theorem dropLeading_rejoined (hne : name ≠ []) (rest : String) :
  dropLeading (String.ofList name ++ "/" ++ rest).toList = name ++ separator :: rest.toList
  := by
  rw [String.toList_append, String.toList_append, String.toList_ofList, List.append_assoc]
  exact dropLeading_append hne hname _

/-- Behind the first name of a path follow the names of the rest. -/
theorem segments_of_append_cons
    {rest : String} (hrest : rest.toList.head? ≠ some separator)
    (h : dropLeading path.toList = name ++ separator :: rest.toList) :
  segments path = String.ofList name :: segments rest
  := by
  have hne : name ++ separator :: rest.toList ≠ [] := by simp
  rw [segments_of_dropLeading hne h]
  by_cases hempty : rest.toList = []
  · -- The separator at the end of the path is the one behind the name.
    have hlast : dropTrailing (name ++ [separator]) = name := by
      simp [dropTrailing]
    rw [segments_of_dropLeading_eq_nil (by rw [hempty]; rfl), hempty, hlast,
      List.splitOn_eq_singleton hname]
    rfl
  · have hlast : dropTrailing (name ++ separator :: rest.toList)
        = name ++ separator :: dropTrailing rest.toList := by
      rw [List.append_cons, dropTrailing_append hempty, ← List.append_cons]
    rw [hlast, List.splitOn_append_cons_self_of_not_mem hname, List.map_cons,
      segments_of_dropLeading hempty (dropLeading_of_head?_ne hrest)]

end

/-- Names without a separator inside, be they empty or not, are the names of some path. -/
theorem exists_segments_eq
    {names : List String} (hne : names ≠ []) (h : ∀ name ∈ names, separator ∉ name.toList) :
  ∃ path, segments path = names
  := by
  let joined := [separator].intercalate (names.map String.toList)
  -- One more separator on each side makes up for the two that are not taken as part of the names.
  refine ⟨String.ofList (separator :: (joined ++ [separator])), ?_⟩
  have hinner : joined ++ [separator] ≠ [] := by simp
  have hlast : dropTrailing (joined ++ [separator]) = joined := by simp [dropTrailing]
  have hsplit : joined.splitOn separator = names.map String.toList := by
    apply List.splitOn_intercalate
    · rw [List.forall_mem_map]
      apply h
    · simpa using hne
  rw [segments_of_dropLeading hinner (by rw [String.toList_ofList, dropLeading, if_pos rfl]),
    hlast, hsplit, List.map_map]
  simp

/-- Behind a separator that is single stands no other. -/
theorem head?_ne_of_not_adjacent {front rest : List Char}
    (h : ¬ [separator, separator] <:+: front ++ separator :: rest) :
  rest.head? ≠ some separator
  := by
  intro hhead
  obtain ⟨tail, rfl⟩ := List.head?_eq_some_iff.mp hhead
  exact h ⟨front, tail, by simp⟩

namespace IsSingle

variable {path : String} (h : IsSingle path)
include h

theorem not_adjacent_dropLeading :
  ¬ [separator, separator] <:+: dropLeading path.toList
  := by
  intro hadjacent
  exact h (hadjacent.trans (dropLeading_suffix _).isInfix)

theorem head?_dropLeading_ne :
  (dropLeading path.toList).head? ≠ some separator
  := by
  unfold IsSingle at h
  cases hpath : path.toList with
  | nil => simp [dropLeading]
  | cons c rest =>
      rw [hpath] at h
      rw [dropLeading]
      split
      · next hc =>
          subst hc
          exact @head?_ne_of_not_adjacent [] rest h
      · next hc => simpa using hc

/-- The first name of a path of single separators is the first of its names, and the others are
those of the rest, which has single separators too. It has the same names if a separator is put
behind the first name, be there one or not. -/
theorem reads :
  (splitFirst path).1 = (segments path).headD ""
    ∧ segments (splitFirst path).2 = (segments path).tail
    ∧ IsSingle (splitFirst path).2
    ∧ segments ((splitFirst path).1 ++ "/" ++ (splitFirst path).2) = segments path
  := by
  have hsingle := h.not_adjacent_dropLeading
  have hhead := h.head?_dropLeading_ne
  generalize hinner : dropLeading path.toList = inner at hsingle hhead
  by_cases hmem : separator ∈ inner
  · obtain ⟨name, rest, rfl, hname⟩ := List.eq_append_cons_of_mem hmem
    have hrest : (String.ofList rest).toList.head? ≠ some separator := by
      rw [String.toList_ofList]
      apply head?_ne_of_not_adjacent hsingle
    have hnames := segments_of_append_cons hname hrest (by rw [hinner, String.toList_ofList])
    have hne : name ≠ [] := by
      rintro rfl
      exact hhead rfl
    rw [splitFirst_of_dropLeading hname hinner, hnames]
    refine ⟨rfl, rfl, ?_,
      segments_of_append_cons hname hrest (dropLeading_rejoined hname hne _)⟩
    unfold IsSingle
    rw [String.toList_ofList]
    intro hadjacent
    exact hsingle (hadjacent.trans ⟨name ++ [separator], [], by simp⟩)
  · rw [splitFirst_of_notMem hmem hinner]
    have hempty : IsSingle "" := by decide
    by_cases hne : inner = []
    · subst hne
      rw [segments_of_dropLeading_eq_nil hinner]
      exact ⟨rfl, rfl, hempty, rfl⟩
    · rw [segments_of_notMem hmem hne hinner]
      have hnone : "".toList.head? ≠ some separator := by decide
      exact ⟨rfl, rfl, hempty,
        segments_of_append_cons hmem hnone (dropLeading_rejoined hmem hne _)⟩

end IsSingle

end DeviceManagement.NodePath
