import DeviceManagement.Decimal.Double

/-!
# JSON values

The values that JSON texts stand for. A number is an integer or a double, and the members of
an object keep their order: `insert` puts a new member at the end, and replaces the value of
a member that is there already in its place.
-/

namespace DeviceManagement.Json

/-- A number is an integer, or a double if it was written as one or is out of range. -/
inductive Number where
  | integer (n : Int)
  | double (d : Decimal.Double)
  deriving DecidableEq, Repr

/-- The values that JSON texts stand for. -/
inductive Value where
  | null
  | bool (b : Bool)
  | number (n : Number)
  | string (s : String)
  | array (elements : List Value)
  | object (members : List (String × Value))
  deriving Repr, BEq, Inhabited

variable {α : Type}

/-- The members of an object after setting the one named `name` to `value`. -/
def insert (name : String) (value : α) : List (String × α) → List (String × α)
  | [] => [(name, value)]
  | (n, v) :: rest => if n = name then (n, value) :: rest else (n, v) :: insert name value rest

/-- The members of an object to which the given ones are added in turn. -/
def insertAll (members : List (String × α)) : List (String × α) :=
  members.foldl (fun object member => insert member.1 member.2 object) []

/-- The value of the member of an object named `name`. -/
def lookup (name : String) (members : List (String × α)) : Option α :=
  (members.find? fun member => member.1 == name).map Prod.snd

/-- A member has the value it has been set to. -/
@[simp]
theorem lookup_insert_self (name : String) (value : α) (members : List (String × α)) :
  lookup name (insert name value members) = some value
  := by
  fun_induction insert name value members <;> simp_all [lookup]

/-- Setting a member leaves the others as they are. -/
theorem lookup_insert_of_ne {name other : String} (h : other ≠ name) (value : α)
    (members : List (String × α)) :
  lookup other (insert name value members) = lookup other members
  := by
  fun_induction insert name value members with
  | case1 => simp [lookup, Ne.symm h]
  | case2 => simp [lookup, Ne.symm h]
  | case3 n v rest hn ih => by_cases hm : n = other <;> simp_all [lookup]

/-- In a list of members the first one of a name counts. -/
theorem lookup_append (name : String) (first second : List (String × α)) :
  lookup name (first ++ second) = (lookup name first).or (lookup name second)
  := by
  simp [lookup, Option.map_or]

/-- Of members that are set one after the other the last one of a name counts, and an earlier
value only if there is none. -/
theorem lookup_foldl_insert (name : String) (start members : List (String × α)) :
  lookup name (members.foldl (fun object member => insert member.1 member.2 object) start)
    = (lookup name members.reverse).or (lookup name start)
  := by
  induction members generalizing start with
  | nil => rfl
  | cons member rest ih =>
    obtain ⟨n, value⟩ := member
    rw [List.foldl_cons, ih, List.reverse_cons, lookup_append, Option.or_assoc]
    congr 1
    by_cases h : name = n
    · subst h
      rw [lookup_insert_self]
      simp [lookup]
    · rw [lookup_insert_of_ne h]
      simp [lookup, Ne.symm h]

/-- The value of a member is the last one it is given. -/
theorem lookup_insertAll (name : String) (members : List (String × α)) :
  lookup name (insertAll members) = lookup name members.reverse
  := by
  rw [insertAll, lookup_foldl_insert]
  simp [lookup]

/-- A new member goes to the end. -/
theorem insert_of_notMem {name : String} {members : List (String × α)}
    (h : name ∉ members.map Prod.fst) (value : α) :
  insert name value members = members ++ [(name, value)]
  := by
  fun_induction insert name value members <;> simp_all

/-- Members with different names that are set one after the other go to the end in turn. -/
theorem foldl_insert_of_nodup {members : List (String × α)} (start : List (String × α))
    (h : ((start ++ members).map Prod.fst).Nodup) :
  members.foldl (fun object member => insert member.1 member.2 object) start = start ++ members
  := by
  induction members generalizing start with
  | nil => simp
  | cons member rest ih =>
    have hm : member.1 ∉ start.map Prod.fst := by
      simp [List.nodup_append] at h
      grind
    rw [List.foldl_cons, insert_of_notMem hm, ih]
    · simp
    · simpa using h

/-- Members with different names stay as they are. -/
theorem insertAll_of_nodup {members : List (String × α)} (h : (members.map Prod.fst).Nodup) :
  insertAll members = members
  := foldl_insert_of_nodup [] (by simpa using h)

namespace Value

/-- The value of the member `name`, for an object that has one. -/
def member? (name : String) : Value → Option Value
  | object members => lookup name members
  | _ => none

/-- The number `n`. -/
def ofNat (n : Nat) : Value :=
  number (.integer n)

/-- The array of the given strings. -/
def ofStrings (texts : List String) : Value :=
  array (texts.map string)

end Value

end DeviceManagement.Json
