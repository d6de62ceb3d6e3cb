import DeviceManagement.Proofs.Entries
import Mathlib.Data.List.Forall2

/-!
# Reception

What a session takes from a text, told by the members and entries that are written in it.
`Json.writtenMembers?` are the members of an object in the order of the text, where a name may
repeat. A text asks for the entries of the last array it calls `CMD`, or it is `Unreadable`.
`Session.Entry.Reads` tells what a written entry is to a session. A session takes all of a text
or nothing: the commands and the statuses of the entries go to the ends of the queues in order,
wherever an entry ends the session, and a text that is unreadable leaves both queues alone.
-/

namespace DeviceManagement

/-! ### Written members -/

namespace Json

/-- The members of the object that a text is, as they are written. -/
def writtenMembers? (text : String) : Option (List (String × Value)) :=
  match Form.ofText? text with
  | some (.object members) => Form.memberValues? (maxDepth - 1) members
  | _ => none

/-- A text is an object if its members can be read, and of a repeated name the object has
the last value. -/
theorem ofText?_eq_some_object_iff (text : String) (members : List (String × Value)) :
  Value.ofText? text = some (.object members)
    ↔ ∃ written, writtenMembers? text = some written ∧ insertAll written = members
  := by
  unfold Value.ofText? writtenMembers?
  cases Form.ofText? text with
  | none => simp
  | some form =>
      cases form with
      | object written => simp [maxDepth, Form.value?]
      | array elements => simp [maxDepth, Form.value?]
      | null => simp [Form.value?]
      | bool b => simp [Form.value?]
      | number form => simp [Form.value?]
      | string s => simp [Form.value?]

end Json

/-! ### Entries of a text -/

namespace Request

/-- A text asks for the entries of the last of its members that are called `CMD`. -/
def Asks (text : String) (entries : List Json.Value) : Prop :=
  ∃ written, Json.writtenMembers? text = some written
    ∧ Json.lookup "CMD" written.reverse = some (.array entries)

/-- Why a text asks for nothing. -/
inductive Unreadable (text : String) : Prop
  /-- The text is not JSON. -/
  | notJson (h : Json.Value.ofText? text = none)
  /-- The text is JSON, but no object. -/
  | notObject {value : Json.Value} (h : Json.Value.ofText? text = some value)
      (h' : ∀ members, value ≠ .object members)
  /-- The text is an object without a `CMD`, or whose last `CMD` is not an array. -/
  | notArray {written : List (String × Json.Value)} (h : Json.writtenMembers? text = some written)
      (h' : ∀ entries, Json.lookup "CMD" written.reverse ≠ some (.array entries))

theorem entries?_eq_some_iff (text : String) (entries : List Json.Value) :
  entries? text = some entries ↔ Asks text entries
  := by
  have hentries : entries? text = some entries
      ↔ ∃ members, Json.Value.ofText? text = some (.object members)
        ∧ Json.lookup "CMD" members = some (.array entries) := by
    unfold entries?
    split
    · rename_i members hmembers
      split <;> simp_all
    · simp_all
  rw [hentries]
  constructor
  · rintro ⟨members, hmembers, hlookup⟩
    obtain ⟨written, hwritten, rfl⟩ := (Json.ofText?_eq_some_object_iff text members).mp hmembers
    rw [Json.lookup_insertAll] at hlookup
    use written
  · rintro ⟨written, hwritten, hlookup⟩
    use Json.insertAll written
    constructor
    · apply (Json.ofText?_eq_some_object_iff text _).mpr
      use written
    · rw [Json.lookup_insertAll, hlookup]

/-- A text asks for nothing exactly for one of these reasons. -/
theorem unreadable_iff (text : String) :
  Unreadable text ↔ ∀ entries, ¬ Asks text entries
  := by
  constructor
  · rintro h entries ⟨written, hwritten, hlookup⟩
    have hvalue : Json.Value.ofText? text = some (.object (Json.insertAll written)) := by
      apply (Json.ofText?_eq_some_object_iff text _).mpr
      use written
    cases h with
    | notJson h => simp [h] at hvalue
    | notObject h h' =>
        rw [h] at hvalue
        apply h' (Json.insertAll written)
        exact Option.some.inj hvalue
    | notArray h h' =>
        obtain rfl := Option.some.inj (h.symm.trans hwritten)
        exact h' entries hlookup
  · intro h
    cases hvalue : Json.Value.ofText? text with
    | none => exact .notJson hvalue
    | some value =>
        by_cases hobject : ∃ members, value = .object members
        · obtain ⟨members, rfl⟩ := hobject
          obtain ⟨written, hwritten, rfl⟩ := (Json.ofText?_eq_some_object_iff text _).mp hvalue
          apply Unreadable.notArray hwritten
          intro entries hlookup
          exact h entries ⟨written, hwritten, hlookup⟩
        · apply Unreadable.notObject hvalue
          intro members hmembers
          exact hobject ⟨members, hmembers⟩

theorem entries?_eq_none_iff (text : String) :
  entries? text = none ↔ Unreadable text
  := by
  rw [unreadable_iff, Option.eq_none_iff_forall_ne_some]
  simp only [ne_eq, entries?_eq_some_iff]

end Request

/-! ### Kinds of entries -/

theorem CommandKind.ofName?_eq_none_iff (name : String) :
  ofName? name = none ↔ ∀ kind : CommandKind, kind.name ≠ name
  := by
  constructor
  · rintro h kind rfl
    rw [ofName?_name] at h
    simp at h
  · intro h
    apply Option.eq_none_iff_forall_ne_some.mpr
    intro kind hkind
    exact h kind (name_eq_of_ofName? hkind)

theorem RawCommand.ofEntry?_eq_some_iff (value : Json.Value) (raw : RawCommand) :
  ofEntry? value = some raw
    ↔ ∃ name parameters, value = .array (.string name :: parameters)
      ∧ ⟨name, parameters.map parameterText⟩ = raw
  := by
  unfold ofEntry?
  split <;> simp_all

theorem RawCommand.ofEntry?_eq_none_iff (value : Json.Value) :
  ofEntry? value = none ↔ ∀ name parameters, value ≠ .array (.string name :: parameters)
  := by
  unfold ofEntry?
  split <;> simp_all

/-- A relation that is a function relates a list to its image, and to nothing else. -/
theorem forall₂_iff_map_eq {α β : Type} {r : α → β → Prop} {f : α → β} (h : ∀ a b, r a b ↔ f a = b)
    (l : List α) (u : List β) :
  List.Forall₂ r l u ↔ l.map f = u
  := by
  have hr : r = fun a b => f a = b := by
    funext a b
    apply propext
    apply h
  rw [hr, ← List.forall₂_map_left_iff, List.forall₂_eq_eq_eq]

namespace Session

namespace Entry

/-- What a written value is as a parameter. -/
inductive ReadsParameter : Json.Value → String → Prop
  /-- A string is taken as it is. -/
  | string (s : String) : ReadsParameter (.string s) s
  /-- Any other value is taken as its compact text. -/
  | other {value : Json.Value} (h : ∀ s, value ≠ .string s) : ReadsParameter value value.text

theorem readsParameter_iff (value : Json.Value) (parameter : String) :
  ReadsParameter value parameter ↔ RawCommand.parameterText value = parameter
  := by
  constructor
  · intro h
    cases h with
    | string s => rfl
    | other h =>
        cases value with
        | string s => exact absurd rfl (h s)
        | _ => rfl
  · rintro rfl
    cases value with
    | string s => exact .string s
    | _ => exact .other nofun

/-- What a written entry is to a session. -/
inductive Reads : Json.Value → Entry → Prop
  | ending (parameters : List Json.Value) :
      Reads (.array (.string "END" :: parameters)) ending
  | command {kind : CommandKind} (h : kind ≠ .endSession) {written : List Json.Value}
      {parameters : List String} (hparameters : List.Forall₂ ReadsParameter written parameters) :
      Reads (.array (.string kind.name :: written)) (command ⟨kind, parameters⟩)
  | unknown {name : String} (h : ∀ kind : CommandKind, kind.name ≠ name)
      (parameters : List Json.Value) :
      Reads (.array (.string name :: parameters)) (unknown name)
  | malformed {value : Json.Value}
      (h : ∀ name parameters, value ≠ .array (.string name :: parameters)) :
      Reads value (malformed value)

/-- Every value is one kind of entry, and no two. -/
theorem reads_iff (value : Json.Value) (entry : Entry) :
  Reads value entry ↔ ofJson value = entry
  := by
  constructor
  · intro h
    cases h with
    | ending parameters => rfl
    | command h hparameters =>
        obtain rfl := (forall₂_iff_map_eq readsParameter_iff _ _).mp hparameters
        rw [ofJson, RawCommand.ofEntry?]
        dsimp only
        rw [CommandKind.ofName?_name]
        split
        · rename_i hkind
          exact absurd (Option.some.inj hkind) h
        · rename_i hkind
          obtain rfl := Option.some.inj hkind
          rfl
        · rename_i hkind
          simp at hkind
    | unknown h parameters =>
        rw [ofJson, RawCommand.ofEntry?]
        dsimp only
        rw [(CommandKind.ofName?_eq_none_iff _).mpr h]
    | malformed h =>
        rw [ofJson, (RawCommand.ofEntry?_eq_none_iff _).mpr h]
  · rintro rfl
    unfold ofJson
    split
    · rename_i hraw
      exact .malformed ((RawCommand.ofEntry?_eq_none_iff value).mp hraw)
    · rename_i raw hraw
      obtain ⟨name, parameters, rfl, rfl⟩ := (RawCommand.ofEntry?_eq_some_iff value raw).mp hraw
      split
      · rename_i hkind
        obtain rfl := CommandKind.name_eq_of_ofName? hkind
        exact .ending parameters
      · rename_i kind hkind h
        obtain rfl := CommandKind.name_eq_of_ofName? h
        exact .command hkind ((forall₂_iff_map_eq readsParameter_iff _ _).mpr rfl)
      · rename_i hkind
        exact .unknown ((CommandKind.ofName?_eq_none_iff name).mp hkind) parameters

/-- Whether an entry is a command with an unknown name. -/
def isUnknown : Entry → Bool
  | unknown _ => true
  | _ => false

/-- Where unknown commands are answered, each has the same status. -/
theorem filterMap_status? (report : Bool) (entries : List Entry) :
  entries.filterMap (status? report)
    = if report then List.replicate (entries.countP isUnknown) (.ofCode .notImplemented) else []
  := by
  induction entries with
  | nil => cases report <;> rfl
  | cons entry rest ih =>
      rw [List.filterMap_cons, ih, List.countP_cons]
      cases entry <;> cases report <;> simp [status?, isUnknown, List.replicate_succ]

theorem any_isEnding_iff (entries : List Entry) :
  entries.any isEnding ↔ ending ∈ entries
  := by
  rw [List.any_eq_true]
  constructor
  · rintro ⟨entry, hentry, hending⟩
    cases entry with
    | ending => exact hentry
    | _ => simp [isEnding] at hending
  · intro h
    use ending, h
    rfl

end Entry

/-! ### Receiving -/

/-- The entries of a text go into the queue, and they end the session or not. -/
theorem receive_of_asks (s : Session) (q : CommandQueue) {text : String}
    {written : List Json.Value} (h : Request.Asks text written) :
  let entries := written.map Entry.ofJson
  let r := (s.receive q text).value
  r.queue = (q.addCommands (entries.filterMap Entry.command?)).addStatuses
      (entries.filterMap (Entry.status? s.reportUnknownCommands))
    ∧ (r.outcome = .ended ↔ Entry.ending ∈ entries)
    ∧ (r.outcome = .continue ↔ Entry.ending ∉ entries)
  := by
  intro entries r
  have hentries : Request.entries? text = some written :=
    (Request.entries?_eq_some_iff text written).mpr h
  have hr : r = _ := receive_of_entries? s q hentries
  rw [← Entry.any_isEnding_iff, any_isEnding_entries hentries,
    filterMap_command?_entries hentries, filterMap_status?_entries hentries, hr]
  by_cases hends : Request.Ends text
  · rw [if_pos hends]
    simp [hends, enqueue]
  · rw [if_neg hends]
    simp [hends, enqueue]

/-- A session takes all of a text or nothing. A text that is unreadable leaves the queues as
they are. Of any other text every entry counts in order, also after one that ends the session:
commands go to the end of their queue, and so do the statuses of unknown ones if the session
reports these. The session is over if some entry ends it. -/
theorem receive_all_or_nothing (s : Session) (q : CommandQueue) (text : String) :
  let r := (s.receive q text).value
  (Request.Unreadable text ∨ ∃ written, Request.Asks text written)
    ∧ (Request.Unreadable text → r.outcome = .unreadable ∧ r.queue = q)
    ∧ (∀ written, Request.Asks text written →
        ∃ entries, List.Forall₂ Entry.Reads written entries
          ∧ r.queue.commands = q.commands ++ entries.filterMap Entry.command?
          ∧ r.queue.statuses = q.statuses
              ++ (if s.reportUnknownCommands then
                    List.replicate (entries.countP Entry.isUnknown) (.ofCode 501)
                  else [])
          ∧ r.queue.policy = q.policy
          ∧ (r.outcome = .ended ↔ Entry.ending ∈ entries)
          ∧ (r.outcome = .continue ↔ Entry.ending ∉ entries))
    ∧ ((s.receiveContinues q text).value.1 = true ↔ r.outcome = .continue)
    ∧ (s.receiveContinues q text).value.2 = (r.session, r.queue)
  := by
  intro r
  constructor
  · rw [Request.unreadable_iff]
    by_cases h : ∃ written, Request.Asks text written
    · exact .inr h
    · left
      intro written hwritten
      exact h ⟨written, hwritten⟩
  constructor
  · intro h
    have hr : r = ⟨.unreadable, { s with phase := .ended }, q⟩ :=
      receive_of_entries?_eq_none s q ((Request.entries?_eq_none_iff text).mpr h)
    rw [hr]
    simp
  constructor
  · intro written h
    obtain ⟨hqueue, hended, hcontinue⟩ := receive_of_asks s q h
    use written.map Entry.ofJson
    constructor
    · apply (forall₂_iff_map_eq Entry.reads_iff _ _).mpr rfl
    constructor
    · rw [hqueue]
      rfl
    constructor
    · have hstatuses := Entry.filterMap_status? s.reportUnknownCommands (written.map Entry.ofJson)
      rw [StatusCode.notImplemented] at hstatuses
      rw [hqueue, ← hstatuses]
      rfl
    constructor
    · rw [hqueue]
      rfl
    exact ⟨hended, hcontinue⟩
  constructor
  · rw [receiveContinues, Logged.value_bind, Logged.value_pure, beq_iff_eq]
  · rfl

/-- The last `CMD` counts, with the entries after `END`, and nothing is taken from an array. -/
theorem receive_all_or_nothing_last_member :
  let s : Session := .ofSettings { Settings.default with reportUnknownCommands := true }
  let q : CommandQueue := ⟨.ofSettings .default, [⟨.cont, ["1"]⟩], [.ofCode 200]⟩
  let text :=
    "\x7b\"CMD\":7,\"CMD\":[[\"END\"],[\"GET\",[1, true],\"x\"],[\"get\"],[],[\"SUB\"]]\x7d"
  let r := (s.receive q text).value
  (∃ written entries, Request.Asks text written ∧ List.Forall₂ Entry.Reads written entries
      ∧ r.queue.commands = [⟨.cont, ["1"]⟩] ++ entries.filterMap Entry.command?
      ∧ (r.outcome = .ended ↔ Entry.ending ∈ entries))
    ∧ r.queue.commands = [⟨.cont, ["1"]⟩, ⟨.get, ["[1,true]", "x"]⟩, ⟨.sub, []⟩]
    ∧ r.queue.statuses = [.ofCode 200, .ofCode 501]
    ∧ r.outcome = .ended
    ∧ Request.Unreadable "[]"
    ∧ (s.receive q "[]").value.queue = q
  := by
  intro s q text r
  have hr : r.queue.commands = [⟨.cont, ["1"]⟩, ⟨.get, ["[1,true]", "x"]⟩, ⟨.sub, []⟩]
      ∧ r.queue.statuses = [.ofCode 200, .ofCode 501] ∧ r.outcome = .ended := by
    decide +kernel
  have hsome : (Request.entries? text).isSome := by decide +kernel
  have hnone : Request.Unreadable "[]" := by
    apply (Request.entries?_eq_none_iff _).mp
    apply Option.isNone_iff_eq_none.mp
    decide +kernel
  obtain ⟨written, hwritten⟩ := Option.isSome_iff_exists.mp hsome
  have hasks : Request.Asks text written := (Request.entries?_eq_some_iff text written).mp hwritten
  obtain ⟨entries, hentries, hcommands, -, -, hended, -⟩ :=
    (receive_all_or_nothing s q text).2.2.1 written hasks
  refine ⟨⟨written, entries, hasks, hentries, hcommands, hended⟩, hr.1, hr.2.1, hr.2.2, hnone, ?_⟩
  exact ((receive_all_or_nothing s q "[]").2.1 hnone).2

end Session

end DeviceManagement
