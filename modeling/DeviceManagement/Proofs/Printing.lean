import DeviceManagement.Proofs.Scanning

/-!
# Reading printed values

Printing goes from a value to characters, and reading from characters to tokens, to a form and to a
value. The `form` of a value is what lies in between: its tokens are what the printed value is
scanned as (`scanned_printValue`), and they are read as this form (`Form.read_tokens`), so every
value is read as its form (`Form.ofText?_text`). A form stands for its value again if the value is
plain (`Value.Plain.value?_form`). A record is read field by field, and its fields are the members
of the object that it is printed as (`Form.fields?_form`).
-/

namespace DeviceManagement.Json

/-! ### The tokens of a form -/

namespace Form

mutual

/-- The tokens of a form. -/
def tokens : Form → List Token
  | null => [.null]
  | bool b => [.bool b]
  | number form => [.number form]
  | string s => [.string s]
  | array [] => [.openBracket, .closeBracket]
  | array (form :: rest) => .openBracket :: (tokens form ++ elementTokens rest)
  | object [] => [.openBrace, .closeBrace]
  | object ((name, form) :: rest) =>
    .openBrace :: .string name :: .colon :: (tokens form ++ memberTokens rest)

/-- The tokens of the elements after the first, with the closing bracket. -/
def elementTokens : List Form → List Token
  | [] => [.closeBracket]
  | form :: rest => .comma :: (tokens form ++ elementTokens rest)

/-- The tokens of the members after the first, with the closing brace. -/
def memberTokens : List (Option String × Form) → List Token
  | [] => [.closeBrace]
  | (name, form) :: rest => .comma :: .string name :: .colon :: (tokens form ++ memberTokens rest)

end

/-- No form starts with a closing bracket: an array with elements is not taken for an empty one. -/
theorem tokens_append_ne (form : Form) (rest ts : List Token) :
  form.tokens ++ rest ≠ .closeBracket :: ts
  := by
  fun_cases tokens form <;> simp

mutual

/-- The tokens of a form are read as this form. -/
theorem read_tokens
    (form : Form) {fuel : Nat} (hfuel : form.tokens.length ≤ fuel) (ts : List Token) :
  read fuel (form.tokens ++ ts) = some (form, ts)
  := by
  cases form with
  | null => simp [tokens, read]
  | bool b => simp [tokens, read]
  | number form => simp [tokens, read]
  | string s => simp [tokens, read]
  | array elements =>
      cases elements with
      | nil => simp [tokens, read]
      | cons form rest =>
          -- The bracket takes one step, and what is left is enough for each of the two parts.
          rw [tokens, List.length_cons, List.length_append] at hfuel
          obtain ⟨fuel, rfl⟩ := Nat.exists_eq_add_one.mpr (Nat.zero_lt_of_lt hfuel)
          have hfirst : form.tokens.length ≤ fuel := by omega
          have hrest : (elementTokens rest).length ≤ fuel := by omega
          rw [tokens, List.cons_append, List.append_assoc, read]
          · simp [read_tokens form hfirst, readElements_elementTokens rest hrest]
          · apply tokens_append_ne
  | object members =>
      cases members with
      | nil => simp [tokens, read]
      | cons member rest =>
          obtain ⟨name, form⟩ := member
          simp only [tokens, List.length_cons, List.length_append] at hfuel
          obtain ⟨fuel, rfl⟩ := Nat.exists_eq_add_one.mpr (Nat.zero_lt_of_lt hfuel)
          have hfirst : form.tokens.length ≤ fuel := by omega
          have hrest : (memberTokens rest).length ≤ fuel := by omega
          simp [tokens, read, read_tokens form hfirst, readMembers_memberTokens rest hrest]

theorem readElements_elementTokens
    (forms : List Form) {fuel : Nat} (hfuel : (elementTokens forms).length ≤ fuel)
    (ts : List Token) :
  readElements fuel (elementTokens forms ++ ts) = some (forms, ts)
  := by
  cases forms with
  | nil => simp [elementTokens, readElements]
  | cons form rest =>
      rw [elementTokens, List.length_cons, List.length_append] at hfuel
      obtain ⟨fuel, rfl⟩ := Nat.exists_eq_add_one.mpr (Nat.zero_lt_of_lt hfuel)
      have hfirst : form.tokens.length ≤ fuel := by omega
      have hrest : (elementTokens rest).length ≤ fuel := by omega
      simp [elementTokens, readElements, read_tokens form hfirst,
        readElements_elementTokens rest hrest]

theorem readMembers_memberTokens
    (members : List (Option String × Form)) {fuel : Nat}
    (hfuel : (memberTokens members).length ≤ fuel) (ts : List Token) :
  readMembers fuel (memberTokens members ++ ts) = some (members, ts)
  := by
  cases members with
  | nil => simp [memberTokens, readMembers]
  | cons member rest =>
      obtain ⟨name, form⟩ := member
      simp only [memberTokens, List.length_cons, List.length_append] at hfuel
      obtain ⟨fuel, rfl⟩ := Nat.exists_eq_add_one.mpr (Nat.zero_lt_of_lt hfuel)
      have hfirst : form.tokens.length ≤ fuel := by omega
      have hrest : (memberTokens rest).length ≤ fuel := by omega
      simp [memberTokens, readMembers, read_tokens form hfirst,
        readMembers_memberTokens rest hrest]

end

/-- The tokens of a form make this form. -/
theorem ofTokens?_tokens (form : Form) :
  ofTokens? form.tokens = some form
  := by
  have hread := form.read_tokens (Nat.le_refl _) []
  rw [List.append_nil] at hread
  rw [ofTokens?, hread]

end Form

/-! ### The form of a value -/

namespace Value

mutual

/-- The form of a value as it is printed. -/
def form : Value → Form
  | null => .null
  | bool b => .bool b
  | number n => .number n.form
  | string s => .string (some s)
  | array elements => .array (forms elements)
  | object members => .object (memberForms members)

/-- The forms of values. -/
def forms : List Value → List Form
  | [] => []
  | v :: elements => form v :: forms elements

/-- The forms of members. -/
def memberForms : List (String × Value) → List (Option String × Form)
  | [] => []
  | (name, v) :: members => (some name, form v) :: memberForms members

end

theorem forms_eq_map (elements : List Value) :
  forms elements = elements.map form
  := by
  induction elements with
  | nil => rfl
  | cons v elements ih => rw [forms, ih, List.map_cons]

theorem memberForms_eq_map (members : List (String × Value)) :
  memberForms members = members.map fun member => (some member.1, member.2.form)
  := by
  induction members with
  | nil => rfl
  | cons member members ih => rw [memberForms, ih, List.map_cons]

end Value

/-! ### Scanning values -/

theorem endsNumber_printElements (elements : List Value) (rest : List Char) :
  EndsNumber (printElements elements ++ rest)
  := by
  cases elements with
  | nil => apply endsNumber_cons (by decide)
  | cons v elements => apply endsNumber_cons (by decide)

theorem endsNumber_printMembers (members : List (String × Value)) (rest : List Char) :
  EndsNumber (printMembers members ++ rest)
  := by
  cases members with
  | nil => apply endsNumber_cons (by decide)
  | cons member members => apply endsNumber_cons (by decide)

mutual

/-- What is printed for a value is scanned as the tokens of its form. -/
theorem scanned_printValue
    (v : Value) {rest : List Char} {ts : List Token} (h : Scanned rest ts)
    (hrest : EndsNumber rest) :
  Scanned (printValue v ++ rest) (v.form.tokens ++ ts)
  := by
  cases v with
  | null => apply Scanned.cons rfl rfl h
  | bool b => cases b <;> apply Scanned.cons rfl rfl h
  | number n => apply h.append_number n hrest
  | string s => apply h.append_string s
  | array elements =>
      cases elements with
      | nil => apply (h.mark rfl rfl).mark rfl rfl
      | cons v elements =>
          -- The first element may be a number, which ends at the comma or bracket behind it.
          have hmore := scanned_printElements elements h
          have hfirst := scanned_printValue v hmore (endsNumber_printElements elements rest)
          rw [printValue, Value.form, Value.forms, Form.tokens]
          simp only [List.cons_append, List.append_assoc]
          apply hfirst.mark rfl rfl
  | object members =>
      cases members with
      | nil => apply (h.mark rfl rfl).mark rfl rfl
      | cons member members =>
          obtain ⟨name, v⟩ := member
          have hmore := scanned_printMembers members h
          have hfirst := scanned_printValue v hmore (endsNumber_printMembers members rest)
          rw [printValue, Value.form, Value.memberForms, Form.tokens]
          simp only [List.cons_append, List.append_assoc]
          apply (hfirst.append_name name).mark rfl rfl

theorem scanned_printElements
    (elements : List Value) {rest : List Char} {ts : List Token} (h : Scanned rest ts) :
  Scanned (printElements elements ++ rest) (Form.elementTokens (Value.forms elements) ++ ts)
  := by
  cases elements with
  | nil => apply h.mark rfl rfl
  | cons v elements =>
      have hmore := scanned_printElements elements h
      have hfirst := scanned_printValue v hmore (endsNumber_printElements elements rest)
      rw [printElements, Value.forms, Form.elementTokens]
      simp only [List.cons_append, List.append_assoc]
      apply hfirst.mark rfl rfl

theorem scanned_printMembers
    (members : List (String × Value)) {rest : List Char} {ts : List Token} (h : Scanned rest ts) :
  Scanned (printMembers members ++ rest) (Form.memberTokens (Value.memberForms members) ++ ts)
  := by
  cases members with
  | nil => apply h.mark rfl rfl
  | cons member members =>
      obtain ⟨name, v⟩ := member
      have hmore := scanned_printMembers members h
      have hfirst := scanned_printValue v hmore (endsNumber_printMembers members rest)
      rw [printMembers, Value.memberForms, Form.memberTokens]
      simp only [List.cons_append, List.append_assoc]
      apply (hfirst.append_name name).mark rfl rfl

end

/-- Every printed value is read as its form. -/
theorem Form.ofText?_text (v : Value) :
  Form.ofText? v.text = some v.form
  := by
  have hscan := (scanned_printValue v Scanned.nil endsNumber_nil).scan_eq
  rw [List.append_nil, List.append_nil] at hscan
  rw [Form.ofText?, Value.text, String.toList_ofList, hscan]
  apply ofTokens?_tokens

/-! ### Plain values -/

namespace Value

/-- A plain value has no doubles, its integers have 64 bits, and the members of its objects have
different names. -/
inductive Plain : Value → Prop
  | null : Plain null
  | bool (b : Bool) : Plain (bool b)
  | integer
      (n : Int) (low : -Nat.pow 2 63 ≤ n) (high : n < Nat.pow 2 64) : Plain (number (.integer n))
  | string (s : String) : Plain (string s)
  | array (elements : List Value) (plain : ∀ v ∈ elements, Plain v) : Plain (array elements)
  | object
      (members : List (String × Value)) (plain : ∀ member ∈ members, Plain member.2)
      (distinct : (members.map Prod.fst).Nodup) : Plain (object members)

mutual

/-- The greatest number of arrays and objects in a value that stand inside each other. -/
def depth : Value → Nat
  | array elements => elementDepth elements + 1
  | object members => memberDepth members + 1
  | _ => 0

/-- The greatest depth of some values. -/
def elementDepth : List Value → Nat
  | [] => 0
  | v :: elements => max v.depth (elementDepth elements)

/-- The greatest depth of some members. -/
def memberDepth : List (String × Value) → Nat
  | [] => 0
  | (_, v) :: members => max v.depth (memberDepth members)

end

theorem elementDepth_le_iff {elements : List Value} {depth : Nat} :
  elementDepth elements ≤ depth ↔ ∀ v ∈ elements, v.depth ≤ depth
  := by
  induction elements with
  | nil => simp [elementDepth]
  | cons v elements ih => rw [elementDepth, Nat.max_le, ih, List.forall_mem_cons]

theorem memberDepth_le_iff {members : List (String × Value)} {depth : Nat} :
  memberDepth members ≤ depth ↔ ∀ member ∈ members, member.2.depth ≤ depth
  := by
  induction members with
  | nil => simp [memberDepth]
  | cons member members ih => rw [memberDepth, Nat.max_le, ih, List.forall_mem_cons]

/-- An element is less deep than its array. -/
theorem depth_lt_array {elements : List Value} {v : Value} (h : v ∈ elements) :
  v.depth < (array elements).depth
  := by
  rw [depth.eq_def (array elements)]
  apply Nat.lt_succ_of_le
  apply elementDepth_le_iff.mp (Nat.le_refl _) v h

/-- A member is less deep than its object. -/
theorem depth_lt_object {members : List (String × Value)} {name : String} {v : Value}
    (h : (name, v) ∈ members) :
  v.depth < (object members).depth
  := by
  rw [depth.eq_def (object members)]
  apply Nat.lt_succ_of_le
  apply memberDepth_le_iff.mp (Nat.le_refl _) (name, v) h

end Value

theorem Form.values?_forms_of_forall
    {depth : Nat} {elements : List Value}
    (h : ∀ v ∈ elements, v.form.value? depth = some v) :
  values? depth (Value.forms elements) = some elements
  := by
  induction elements with
  | nil => rfl
  | cons v elements ih =>
      rw [List.forall_mem_cons] at h
      simp [Value.forms, values?, h.1, ih h.2]

theorem Form.memberValues?_memberForms_of_forall
    {depth : Nat} {members : List (String × Value)}
    (h : ∀ member ∈ members, member.2.form.value? depth = some member.2) :
  memberValues? depth (Value.memberForms members) = some members
  := by
  induction members with
  | nil => rfl
  | cons member members ih =>
      rw [List.forall_mem_cons] at h
      simp [Value.memberForms, memberValues?, h.1, ih h.2]

/-- The form of a plain value stands for this value, if it is not too deep. -/
theorem Value.Plain.value?_form {v : Value} (h : v.Plain) {depth : Nat} (hdepth : v.depth ≤ depth) :
  v.form.value? depth = some v
  := by
  induction h generalizing depth with
  | null => simp [form, Form.value?]
  | bool b => simp [form, Form.value?]
  | integer n low high => simp [form, Form.value?, number?_form low high]
  | string s => simp [form, Form.value?]
  | array elements plain ih =>
      rw [Value.depth] at hdepth
      obtain ⟨depth, rfl⟩ := Nat.exists_eq_add_one.mpr (Nat.zero_lt_of_lt hdepth)
      have hinner := elementDepth_le_iff.mp (Nat.le_of_succ_le_succ hdepth)
      rw [form, Form.value?, Form.values?_forms_of_forall fun v hv => ih v hv (hinner v hv),
        Option.map_some]
  | object members plain distinct ih =>
      -- Members are inserted one by one, which keeps them as they are if their names differ.
      rw [Value.depth] at hdepth
      obtain ⟨depth, rfl⟩ := Nat.exists_eq_add_one.mpr (Nat.zero_lt_of_lt hdepth)
      have hinner := memberDepth_le_iff.mp (Nat.le_of_succ_le_succ hdepth)
      rw [form, Form.value?,
        Form.memberValues?_memberForms_of_forall fun member hm => ih member hm (hinner member hm),
        Option.map_some, insertAll_of_nodup distinct]

/-! ### Records -/

namespace Form

/-- Of members with different names one at most is named as asked. -/
theorem filter_memberForms
    {members : List (String × Value)} (h : (members.map Prod.fst).Nodup) (name : String) :
  (Value.memberForms members).filter (fun member => member.1 == some name)
    = ((lookup name members).map fun v => (some name, v.form)).toList
  := by
  induction members with
  | nil => rfl
  | cons member members ih =>
      obtain ⟨first, v⟩ := member
      rw [List.map_cons, List.nodup_cons] at h
      obtain ⟨hfirst, hrest⟩ := h
      by_cases hname : first = name
      · subst hname
        have hnone : lookup first members = none := by
          rw [lookup, Option.map_eq_none_iff, List.find?_eq_none]
          intro member hmember hname
          apply hfirst
          rw [← beq_iff_eq.mp hname]
          apply List.mem_map_of_mem hmember
        have hsome : lookup first ((first, v) :: members) = some v := by
          simp [lookup]
        rw [Value.memberForms, List.filter_cons_of_pos (by simp), ih hrest, hnone, hsome]
        rfl
      · simp [Value.memberForms, lookup, hname, ih hrest]

/-- The fields of a record are the members of the object it is printed as. -/
theorem fields?_form
    {members : List (String × Value)} (h : (members.map Prod.fst).Nodup) (names : List String) :
  (Value.object members).form.fields? names
    = some (names.map fun name => (lookup name members).map Value.form)
  := by
  have hnamed : (Value.memberForms members).all (fun member => member.1.isSome) := by
    simp [Value.memberForms_eq_map]
  rw [Value.form, fields?, if_pos hnamed]
  induction names with
  | nil => rfl
  | cons name names ih =>
      rw [List.mapM_cons, filter_memberForms h, ih, List.map_cons]
      cases lookup name members <;> simp

/-- A list is read from the array it is printed as if its entries are. -/
theorem list?_form_of_forall
    {α : Type} {read : Form → Option α} {write : α → Value} {entries : List α}
    (h : ∀ entry ∈ entries, read (write entry).form = some entry) :
  list? read (Value.array (entries.map write)).form = some entries
  := by
  rw [Value.form, list?, Value.forms_eq_map]
  induction entries with
  | nil => rfl
  | cons entry entries ih =>
      rw [List.forall_mem_cons] at h
      rw [List.map_cons, List.map_cons, List.mapM_cons, h.1, ih h.2]
      rfl

theorem nullable?_form_array
    {α : Type} {read : Form → Option α} {elements : List Value} {a : α}
    (h : read (Value.array elements).form = some a) :
  nullable? read (Value.array elements).form = some (some a)
  := by
  rw [Value.form] at h ⊢
  rw [nullable?, h, Option.map_some]
  nofun

theorem list?_text?_form (texts : List String) :
  list? text? (Value.ofStrings texts).form = some texts
  := by
  apply list?_form_of_forall
  intro s _
  rfl

theorem natural?_form {n max : Nat} (hn : n ≤ max) (hmax : max < Nat.pow 2 64) :
  natural? max (Value.ofNat n).form = some n
  := by
  have hbounds : 0 ≤ (n : Int) ∧ (n : Int) ≤ max := by omega
  have hinteger : (Number.integer n).form.integer? = some n := by
    apply integer?_form <;> omega
  simp [Value.ofNat, Value.form, natural?, hinteger, hbounds]

end Form

end DeviceManagement.Json
