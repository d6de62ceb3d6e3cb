/-!
# Cutting character lists

The ways of cutting a list of characters in two that the readers of this library share: at
the last occurrence of a character, at the first occurrence of a sequence, and after a fixed
beginning. The separator itself belongs to neither part.
-/

namespace DeviceManagement.Text

/-- The parts before and after the last `sep`, if there is one. -/
def cutLast (sep : Char) : List Char → Option (List Char × List Char)
  | [] => none
  | c :: r =>
    match cutLast sep r with
    | some (before, after) => some (c :: before, after)
    | none => if c = sep then some ([], r) else none

/-- What follows `start` in the given characters, if they begin with it. -/
def afterStart? : (start : List Char) → List Char → Option (List Char)
  | [], cs => some cs
  | _ :: _, [] => none
  | s :: start, c :: cs => if s = c then afterStart? start cs else none

/-- The parts before and after the first occurrence of the sequence `mark`, if there is one. -/
def cutAt (mark : List Char) : List Char → Option (List Char × List Char)
  | [] => if mark.isEmpty then some ([], []) else none
  | c :: r =>
    match afterStart? mark (c :: r) with
    | some after => some ([], after)
    | none => (cutAt mark r).map fun (before, after) => (c :: before, after)

/-- A text goes on after a beginning with what the beginning stands in front of. -/
theorem afterStart?_eq_some_iff {start cs rest : List Char} :
  afterStart? start cs = some rest ↔ cs = start ++ rest
  := by
  fun_induction afterStart? start cs with
  | case1 cs => simp
  | case2 => simp
  | case3 start c cs ih => simp [ih]
  | case4 s start c cs h => simp [Ne.symm h]

/-- A text that has no last separator has none at all. -/
theorem cutLast_eq_none_iff {sep : Char} {cs : List Char} :
  cutLast sep cs = none ↔ sep ∉ cs
  := by
  fun_induction cutLast sep cs with
  | case1 => simp
  | case2 c r before after h ih => grind
  | case3 r h ih => simp
  | case4 c r hc h ih => grind

/-- The part of a text after the last separator has no separator. -/
theorem cutLast_eq_some_iff {sep : Char} {cs before after : List Char} :
  cutLast sep cs = some (before, after) ↔ cs = before ++ sep :: after ∧ sep ∉ after
  := by
  induction cs generalizing before with
  | nil => simp [cutLast]
  | cons c r ih =>
    cases h : cutLast sep r with
    | some parts =>
      have hr : sep ∈ r :=
        Decidable.byContradiction fun hn => by simp [cutLast_eq_none_iff.mpr hn] at h
      cases before <;> grind [cutLast]
    | none =>
      have hr : sep ∉ r := cutLast_eq_none_iff.mp h
      cases before <;> grind [cutLast]

/-- The parts of a text around a sequence make the text again. -/
theorem eq_of_cutAt {mark cs before after : List Char} (h : cutAt mark cs = some (before, after)) :
  cs = before ++ mark ++ after
  := by
  induction cs generalizing before with
  | nil => simp_all [cutAt]
  | cons c r ih =>
    rw [cutAt] at h
    split at h
    · case _ rest hs =>
      obtain ⟨rfl, rfl⟩ := by simpa using h
      simpa using afterStart?_eq_some_iff.mp hs
    · obtain ⟨⟨b, a⟩, hb, hp⟩ := Option.map_eq_some_iff.mp h
      obtain ⟨rfl, rfl⟩ := by simpa using hp
      simp [ih hb]

/-- A text is cut at the first occurrence of a sequence if nothing before it starts the
sequence. -/
theorem cutAt_append {m : Char} {before : List Char} (h : m ∉ before) (mark after : List Char) :
  cutAt (m :: mark) (before ++ m :: mark ++ after) = some (before, after)
  := by
  induction before with
  | nil =>
    have hs : afterStart? (m :: mark) (m :: mark ++ after) = some after :=
      afterStart?_eq_some_iff.mpr rfl
    simp only [List.nil_append, List.cons_append] at hs ⊢
    simp only [cutAt, hs]
  | cons c r ih =>
    rw [List.mem_cons, not_or] at h
    obtain ⟨hc, hr⟩ := h
    have hs : ∀ cs, afterStart? (m :: mark) (c :: cs) = none := fun cs => by
      simp [afterStart?, hc]
    simp only [List.cons_append, cutAt, hs] at ih ⊢
    rw [ih hr]
    rfl

section

variable {p : Char → Bool} {front back : List Char} (hfront : ∀ c ∈ front, p c)
  (hback : ∀ c, back.head? = some c → p c = false)

include hfront hback

/-- A text whose front has a property, and whose back does not start with it, is cut in between. -/
theorem takeWhile_append :
  (front ++ back).takeWhile p = front
  := by
  rw [List.takeWhile_append_of_pos hfront]
  cases back with
  | nil => rw [List.takeWhile_nil, List.append_nil]
  | cons c back => rw [List.takeWhile_cons, hback c rfl, if_neg Bool.false_ne_true, List.append_nil]

theorem dropWhile_append :
  (front ++ back).dropWhile p = back
  := by
  rw [List.dropWhile_append_of_pos hfront]
  cases back with
  | nil => rfl
  | cons c back => rw [List.dropWhile_cons, hback c rfl, if_neg Bool.false_ne_true]

end

end DeviceManagement.Text
