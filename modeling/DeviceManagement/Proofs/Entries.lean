import DeviceManagement.Session.Basic

/-!
# Entries of requests

What a text asks for, read off its JSON document. `Request.entries?` are the entries of a text
that is a request. A text `Continues` a session if it is a request without an entry that ends
the session, and it `Ends` a session if it is a request with such an entry. A session that
receives a text queues its `commands` and has the statuses of its unknown commands at once.
-/

namespace DeviceManagement

namespace RawCommand

/-- Whether no command has the name of a raw command. -/
def isUnknown (raw : RawCommand) : Bool :=
  (CommandKind.ofName? raw.name).isNone

/-- The command to execute that a raw command is: its name is known, and is not the one that
ends a session. -/
def command? (raw : RawCommand) : Option Command :=
  match CommandKind.ofName? raw.name with
  | some .endSession => none
  | some kind => some ⟨kind, raw.parameters⟩
  | none => none

end RawCommand

namespace Request

/-- The entries of the request that a text is: a JSON object whose `CMD` is an array. -/
def entries? (text : String) : Option (List Json.Value) :=
  match Json.Value.ofText? text with
  | some (.object members) =>
    match Json.lookup "CMD" members with
    | some (.array entries) => some entries
    | _ => none
  | _ => none

/-- An entry ends a session if it is an array that starts with the string `END`. -/
def EndsSession (entry : Json.Value) : Prop :=
  ∃ parameters, entry = .array (.string "END" :: parameters)

/-- A text continues a session if it is a request in which no entry ends it. -/
def Continues (text : String) : Prop :=
  ∃ entries, entries? text = some entries ∧ ∀ entry ∈ entries, ¬ EndsSession entry

/-- A text ends a session if it is a request in which some entry does. -/
def Ends (text : String) : Prop :=
  ∃ entries, entries? text = some entries ∧ ∃ entry ∈ entries, EndsSession entry

/-- The entries of a text that are arrays with a name in front, in order. -/
def rawCommands (text : String) : List RawCommand :=
  ((entries? text).getD []).filterMap RawCommand.ofEntry?

/-- The commands to execute that a text asks for, in order. -/
def commands (text : String) : List Command :=
  (rawCommands text).filterMap RawCommand.command?

/-- The statuses of the unknown commands of a text, where unknown commands are answered or
not. -/
def unknownStatuses (report : Bool) (text : String) : List Status :=
  if report then
    ((rawCommands text).filter RawCommand.isUnknown).map fun _ => .ofCode .notImplemented
  else
    []

/-- A text either continues a session, or ends it, or is no request. -/
theorem continues_or_ends_or_none (text : String) :
  Continues text ∨ Ends text ∨ entries? text = none
  := by
  cases h : entries? text with
  | none => simp
  | some entries =>
      by_cases he : ∃ entry ∈ entries, EndsSession entry
      · exact .inr (.inl ⟨entries, h, he⟩)
      · exact .inl ⟨entries, h, fun entry hm hend => he ⟨entry, hm, hend⟩⟩

theorem not_continues_of_ends {text : String} (h : Ends text) :
  ¬ Continues text
  := by
  rintro ⟨entries, hentries, hnone⟩
  obtain ⟨_, hentries', entry, hm, hend⟩ := h
  obtain rfl := Option.some.inj (hentries.symm.trans hentries')
  exact hnone entry hm hend

theorem not_continues_of_entries?_eq_none {text : String} (h : entries? text = none) :
  ¬ Continues text
  := by
  rintro ⟨entries, hentries, -⟩
  simp [h] at hentries

theorem not_ends_of_entries?_eq_none {text : String} (h : entries? text = none) :
  ¬ Ends text
  := by
  rintro ⟨entries, hentries, -⟩
  simp [h] at hentries

/-- A text that is no request asks for nothing. -/
theorem commands_of_entries?_eq_none {text : String} (h : entries? text = none) :
  commands text = []
  := by
  simp [commands, rawCommands, h]

/-- The empty text is no request. -/
theorem entries?_empty :
  entries? "" = none
  := by
  decide +kernel

/-! ### Reading -/

theorem ofText_of_entries? {text : String} {entries : List Json.Value}
    (h : entries? text = some entries) :
  ofText text = .ok ⟨entries⟩
  := by
  unfold entries? at h
  unfold ofText read
  split at h
  · rename_i hvalue
    split at h
    · rename_i hlookup
      obtain rfl := Option.some.inj h
      rw [hvalue]
      dsimp only [ofJson]
      rw [hlookup]
      rfl
    · simp at h
  · simp at h

theorem ofText_of_entries?_eq_none {text : String} (h : entries? text = none) :
  ∃ fault, ofText text = .error fault
  := by
  unfold entries? at h
  unfold ofText read
  split at h
  · rename_i members hvalue
    rw [hvalue]
    dsimp only [ofJson]
    split at h
    · simp at h
    · rename_i hlookup
      split
      · rename_i entries hentries
        exact absurd hentries (hlookup entries)
      · exact ⟨_, rfl⟩
      · exact ⟨_, rfl⟩
  · rename_i hvalue
    split
    · rename_i value hsome
      rw [hsome] at hvalue
      unfold ofJson
      split
      · rename_i members
        exact absurd rfl (hvalue members)
      · exact ⟨_, rfl⟩
    · exact ⟨_, rfl⟩

end Request

/-! ### Entries of a session -/

namespace Session

namespace Entry

/-- The entries that end a session are those that start with `END`. -/
theorem isEnding_ofJson_iff (entry : Json.Value) :
  (ofJson entry).isEnding ↔ Request.EndsSession entry
  := by
  constructor
  · intro h
    unfold ofJson at h
    split at h
    · simp [isEnding] at h
    · rename_i raw hraw
      unfold RawCommand.ofEntry? at hraw
      split at hraw
      · rename_i name parameters
        obtain rfl := Option.some.inj hraw
        split at h
        · rename_i hkind
          obtain rfl := CommandKind.name_eq_of_ofName? hkind
          exact ⟨parameters, rfl⟩
        · simp [isEnding] at h
        · simp [isEnding] at h
      · simp at hraw
  · rintro ⟨parameters, rfl⟩
    rfl

theorem command?_ofJson (entry : Json.Value) :
  (ofJson entry).command? = (RawCommand.ofEntry? entry).bind RawCommand.command?
  := by
  unfold ofJson RawCommand.command?
  cases RawCommand.ofEntry? entry with
  | none => rfl
  | some raw =>
      dsimp only [Option.bind_some]
      cases CommandKind.ofName? raw.name with
      | none => rfl
      | some kind => cases kind <;> rfl

theorem status?_ofJson (report : Bool) (entry : Json.Value) :
  (ofJson entry).status? report
    = (RawCommand.ofEntry? entry).bind fun raw =>
        if report && raw.isUnknown then some (.ofCode .notImplemented) else none
  := by
  unfold ofJson RawCommand.isUnknown
  cases RawCommand.ofEntry? entry with
  | none => rfl
  | some raw =>
      dsimp only [Option.bind_some]
      cases CommandKind.ofName? raw.name with
      | none => cases report <;> rfl
      | some kind => cases kind <;> cases report <;> rfl

end Entry

end Session

/-! ### Deciding -/

namespace Request

instance (entry : Json.Value) : Decidable (EndsSession entry) :=
  decidable_of_iff _ (Session.Entry.isEnding_ofJson_iff entry)

instance (text : String) : Decidable (Continues text) :=
  inferInstanceAs (Decidable (∃ entries, entries ∈ entries? text ∧
    ∀ entry ∈ entries, ¬ EndsSession entry))

instance (text : String) : Decidable (Ends text) :=
  inferInstanceAs (Decidable (∃ entries, entries ∈ entries? text ∧
    ∃ entry ∈ entries, EndsSession entry))

/-- A session is ended from any position and whatever comes with the name. -/
example : Ends "\x7b\"CMD\":[[\"GET\"],[\"END\",7],[\"SUB\"]]\x7d" := by
  decide +kernel

/-- Only the head of an entry counts, and only as a string of its own. -/
example : Continues "\x7b\"CMD\":[\"END\",[\"GET\",\"END\"],[[\"END\"]],[]]\x7d" := by
  decide +kernel

end Request

/-! ### Receiving -/

namespace Session

section

variable {text : String} {entries : List Json.Value} (h : Request.entries? text = some entries)

include h

theorem filterMap_command?_entries :
  (entries.map Entry.ofJson).filterMap Entry.command? = Request.commands text
  := by
  rw [List.filterMap_map, Request.commands, Request.rawCommands, h, Option.getD_some,
    List.filterMap_filterMap]
  congr 1
  funext entry
  apply Entry.command?_ofJson

theorem filterMap_status?_entries (report : Bool) :
  (entries.map Entry.ofJson).filterMap (Entry.status? report)
    = Request.unknownStatuses report text
  := by
  have hstatus : Entry.status? report ∘ Entry.ofJson = fun entry =>
      (RawCommand.ofEntry? entry).bind fun raw =>
        if report && raw.isUnknown then some (.ofCode .notImplemented) else none :=
    funext (Entry.status?_ofJson report)
  rw [List.filterMap_map, hstatus, ← List.filterMap_filterMap, Request.unknownStatuses,
    Request.rawCommands, h, Option.getD_some]
  cases report with
  | false => simp
  | true =>
      simp only [Bool.true_and, if_true, ← List.filterMap_eq_map, List.filterMap_filter]
      rfl

theorem any_isEnding_entries :
  (entries.map Entry.ofJson).any Entry.isEnding ↔ Request.Ends text
  := by
  simp only [List.any_map, List.any_eq_true, Function.comp, Entry.isEnding_ofJson_iff]
  constructor
  · intro hend
    exact ⟨entries, h, hend⟩
  · rintro ⟨entries', h', hend⟩
    obtain rfl := Option.some.inj (h.symm.trans h')
    exact hend

end

/-- What is received goes to the end of the queue. -/
def enqueue (s : Session) (q : CommandQueue) (text : String) : CommandQueue :=
  (q.addCommands (Request.commands text)).addStatuses
    (Request.unknownStatuses s.reportUnknownCommands text)

/-- What a request asks for goes into the queue, whether it ends the session or not. -/
theorem receive_of_entries? (s : Session) (q : CommandQueue) {text : String}
    {entries : List Json.Value} (h : Request.entries? text = some entries) :
  (s.receive q text).value
    = if Request.Ends text then
        ⟨.ended, { s with phase := .ended }, s.enqueue q text⟩
      else
        ⟨.continue, { s with phase := .responding }, s.enqueue q text⟩
  := by
  simp only [receive, Request.ofText_of_entries? h, enqueue, filterMap_command?_entries h,
    filterMap_status?_entries h, any_isEnding_entries h]
  split <;> rfl

theorem receive_of_continues (s : Session) (q : CommandQueue) {text : String}
    (h : Request.Continues text) :
  (s.receive q text).value = ⟨.continue, { s with phase := .responding }, s.enqueue q text⟩
  := by
  have hends : ¬ Request.Ends text := fun hends => Request.not_continues_of_ends hends h
  obtain ⟨entries, hentries, -⟩ := h
  rw [receive_of_entries? s q hentries, if_neg hends]

theorem receive_of_ends (s : Session) (q : CommandQueue) {text : String}
    (h : Request.Ends text) :
  (s.receive q text).value = ⟨.ended, { s with phase := .ended }, s.enqueue q text⟩
  := by
  have hends := h
  obtain ⟨entries, hentries, -⟩ := h
  rw [receive_of_entries? s q hentries, if_pos hends]

theorem receive_of_entries?_eq_none (s : Session) (q : CommandQueue) {text : String}
    (h : Request.entries? text = none) :
  (s.receive q text).value = ⟨.unreadable, { s with phase := .ended }, q⟩
  := by
  obtain ⟨fault, hfault⟩ := Request.ofText_of_entries?_eq_none h
  simp only [receive, hfault]

end Session

end DeviceManagement
