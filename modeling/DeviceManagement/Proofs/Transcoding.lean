import DeviceManagement.ManagedObject.Memory
import DeviceManagement.Proofs.SessionRun
import DeviceManagement.Proofs.SideBySide
import Mathlib.Data.List.TakeWhile

/-!
# Sessions in base64

A client that sends base64 does what the same client does without it, but for the bodies of its
packages, which it encodes, if its server encodes what it answers. White space around an answer
does not matter: base64 has none itself, so trimming gives back exactly the letters.
-/

namespace DeviceManagement

/-! ### Letters without white space -/

namespace Text

/-- Trimming takes away the white space around a text that has none itself. -/
theorem trim_append
    {before cs after : List Char} (hbefore : ∀ c ∈ before, isBlank c)
    (hcs : ∀ c ∈ cs, isBlank c = false) (hafter : ∀ c ∈ after, isBlank c) :
  trim (before ++ (cs ++ after)) = cs
  := by
  have hkept : ∀ {l : List Char}, (∀ c ∈ l, isBlank c = false) → l.dropWhile isBlank = l := by
    intro l hl
    apply List.dropWhile_eq_self_iff.mpr
    intro hpos
    rw [hl _ (List.getElem_mem hpos)]
    exact Bool.false_ne_true
  have hreverse : ∀ c ∈ after.reverse, isBlank c := by
    intro c hc
    exact hafter c (List.mem_reverse.mp hc)
  unfold trim
  rw [List.dropWhile_append_of_pos hbefore]
  cases cs with
  | nil =>
      rw [List.nil_append, List.dropWhile_eq_nil_iff.mpr hafter]
      rfl
  | cons c cs =>
      have hfirst : (c :: cs ++ after).dropWhile isBlank = c :: cs ++ after := by
        rw [List.cons_append, List.dropWhile_cons_of_neg]
        rw [hcs c List.mem_cons_self]
        exact Bool.false_ne_true
      have hlast : (c :: cs).reverse.dropWhile isBlank = (c :: cs).reverse := by
        apply hkept
        intro a ha
        exact hcs a (List.mem_reverse.mp ha)
      rw [hfirst, List.reverse_append, List.dropWhile_append_of_pos hreverse, hlast,
        List.reverse_reverse]

namespace Base64

theorem isBlank_letter (n : Nat) :
  isBlank (letter n) = false
  := by
  have h : ∀ m < 64, isBlank (alphabet.getD m padding) = false := by decide +kernel
  exact h (n % 64) (Nat.mod_lt n (by decide))

/-- No white space is written. -/
theorem isBlank_of_mem_encode (bytes : List UInt8) :
  ∀ c ∈ encode bytes, isBlank c = false
  := by
  have hpadding : isBlank padding = false := by decide
  fun_induction encode bytes with
  | case1 => simp
  | case2 x n => simp [isBlank_letter, hpadding]
  | case3 x y n => simp [isBlank_letter, hpadding]
  | case4 x y z bytes n ih => simpa [isBlank_letter] using ih

end Base64

end Text

/-! ### Answers and actions in base64 -/

/-- A text is a coded form of another one if it consists of the letters for its bytes, with white
space before and after them. -/
def Encoding.InBase64 (text coded : String) : Prop :=
  ∃ before after, (∀ c ∈ before, Text.isBlank c) ∧ (∀ c ∈ after, Text.isBlank c) ∧
    coded.toList = before ++ (Text.Base64.encode (Text.utf8 text) ++ after)

/-- A coded form of a text stands for the text. -/
theorem Encoding.decode_of_inBase64 {text coded : String} (h : InBase64 text coded) :
  base64.decode coded = .ok text
  := by
  obtain ⟨before, after, hbefore, hafter, hcoded⟩ := h
  unfold decode
  rw [hcoded, Text.trim_append hbefore (Text.Base64.isBlank_of_mem_encode _) hafter,
    Text.Base64.decode?_encode]
  dsimp only
  rw [Text.ofUtf8_utf8]

/-- The answer of a server that sends base64: where it answers, a coded form of the text. -/
inductive Reply.InBase64 : Reply → Reply → Prop
  | ok {text coded : String} (h : Encoding.InBase64 text coded) : InBase64 (.ok text) (.ok coded)
  | error (fault : Fault) : InBase64 (.error fault) (.error fault)

/-- An action with the letters for the bytes of its body, if it posts one. -/
def Action.inBase64 : Action → Action
  | .post url headers body =>
    .post url headers (String.ofList (Text.Base64.encode (Text.utf8 body)))
  | action => action

theorem Action.inBase64_of_isPost_eq_false {action : Action} (h : action.isPost = false) :
  action.inBase64 = action
  := by
  cases action with
  | post url headers body => cases h
  | log event => rfl
  | get address => rfl
  | wait milliseconds => rfl

/-- Packages are posted in base64 where packages are posted. -/
theorem posts_map_inBase64 (actions : List Action) :
  posts (actions.map Action.inBase64) = (posts actions).map Action.inBase64
  := by
  have hposts : Action.isPost ∘ Action.inBase64 = Action.isPost := by
    funext action
    cases action <;> rfl
  rw [posts, List.filter_map, hposts, posts]

/-- Runs count as alike if the actions of the second are those of the first in base64. -/
def Likeness.inBase64 (N : Type) [Network N] : Likeness N :=
  .ofActions (fun action action' => action.inBase64 = action') fun _ =>
    Action.inBase64_of_isPost_eq_false

theorem Likeness.eq_map_inBase64
    {N : Type} [Network N] {actions actions' : List Action}
    (h : List.Forall₂ (Likeness.inBase64 N).action actions actions') :
  actions' = actions.map Action.inBase64
  := by
  induction h with
  | nil => rfl
  | cons haction _ ih => rw [ih, List.map_cons, ← haction]

/-! ### Sessions -/

namespace Client

/-- The client that sends its packages in the given encoding. -/
def withEncoding (c : Client) (encoding : Encoding) : Client :=
  { c with session := { c.session with encoding := encoding } }

/-- The encoding of the settings shows in nothing but the encoding of the session. -/
theorem value_ofSettings_encoding (settings : Settings) (encoding : Encoding) :
  (ofSettings { settings with encoding := encoding }).value
    = (ofSettings settings).value.withEncoding encoding
  := rfl

variable {N : Type} [Network N] {M : Type} [ManagedObject M]

theorem sessions_withEncoding (c : Client) :
  (Likeness.inBase64 N).Sessions Reply.InBase64 (c.withEncoding .json).session
    (c.withEncoding .base64).session
  := by
  refine ⟨rfl, fun mediaType package => rfl, ?_⟩
  intro reply reply' h
  cases h with
  | ok h => exact (Encoding.decode_of_inBase64 h).symm
  | error fault => rfl

/-- A client that sends base64, and is answered in base64 with any white space around it, does
what it does without base64, action by action, except that it encodes what it posts. Its session
comes to the same report, leaves the same network and the same client, but for the encoding, and
leaves the same answers unread, in base64. -/
theorem start_base64_eq_start_encoded
    (c : Client) (store : Store M) (serverInitiated : Bool) {replies replies' : List Reply}
    (h : List.Forall₂ Reply.InBase64 replies replies') (network : N) :
  let run := (c.withEncoding .json).start store serverInitiated replies network
  let run' := (c.withEncoding .base64).start store serverInitiated replies' network
  run'.actions = run.actions.map Action.inBase64 ∧
    run'.value.1 = run.value.1 ∧ run'.network = run.network ∧
    (∃ left : Client, run.value.2.1 = left.withEncoding .json ∧
      run'.value.2.1 = left.withEncoding .base64) ∧
    List.Forall₂ Reply.InBase64 run.value.2.2 run'.value.2.2
  := by
  intro run run'
  have hstores : (Likeness.inBase64 N).Stores (c.withEncoding .json).catalog
      (c.withEncoding .base64).catalog := Likeness.stores_refl c.catalog
  obtain ⟨⟨hreport, ⟨queue, hclient, hclient'⟩, hreplies⟩, hnetwork, hactions⟩ :=
    Likeness.Correspond.proceed hstores c.sessions_withEncoding rfl h serverInitiated network
      network rfl
  have hrun : run = _ := start_apply (c.withEncoding .json) store serverInitiated replies network
  have hrun' : run' = _ :=
    start_apply (c.withEncoding .base64) store serverInitiated replies' network
  rw [hrun, hrun']
  refine ⟨?_, hreport.symm, hnetwork.symm,
    ⟨c.after serverInitiated queue, hclient, hclient'⟩, hreplies⟩
  rw [Likeness.eq_map_inBase64 hactions]
  rfl

/-- Coded requests are read like plain ones, their answers are posted in base64, and a failure is a
failure in either encoding. -/
theorem start_base64_eq_start_encoded_padded :
  let settings := { Settings.default with encoding := .base64 }
  let store : Store MemoryObject := fun _ => MemoryObject.empty "t"
  let replies : List Reply :=
    [.ok "\x7b\"CMD\":[[\"GET\",\"ü\"]]\x7d", .error (.transport "timeout")]
  let replies' : List Reply :=
    [.ok "\t eyJDTUQiOltbIkdFVCIsIsO8Il1dfQ==\u2003\n", .error (.transport "timeout")]
  let run := (ofSettings .default).value.start store false replies (Script.mk [])
  let run' := (ofSettings settings).value.start store false replies' (Script.mk [])
  let response (body : String) : Action :=
    .post "http://localhost:9988/path"
      [("OMADM-DevID", "omadm-device"), ("Accept", "application/vnd.oma.dm.request+json"),
        ("Content-Type", "application/vnd.oma.dm.response+json")] body
  run'.actions = run.actions.map Action.inBase64 ∧ run'.value.1 = run.value.1 ∧
    (posts run.actions)[1]? = some (response "\x7b\"SC\":[\x7b\"sc\":501,\"URI\":[]\x7d]\x7d") ∧
    (posts run'.actions)[1]? = some (response "eyJTQyI6W3sic2MiOjUwMSwiVVJJIjpbXX1dfQ==")
  := by
  intro settings store replies replies' run run' response
  have hreply : Encoding.InBase64 "\x7b\"CMD\":[[\"GET\",\"ü\"]]\x7d"
      "\t eyJDTUQiOltbIkdFVCIsIsO8Il1dfQ==\u2003\n" := by
    refine ⟨['\t', ' '], ['\u2003', '\n'], ?_, ?_, ?_⟩
    · exact List.all_eq_true.mp (by decide)
    · exact List.all_eq_true.mp (by decide)
    · decide +kernel
  have hreplies : List.Forall₂ Reply.InBase64 replies replies' :=
    .cons (.ok hreply) (.cons (.error _) .nil)
  obtain ⟨hencoded, hreport, -⟩ :=
    start_base64_eq_start_encoded (ofSettings .default).value store false hreplies (Script.mk [])
  rw [← value_ofSettings_encoding, ← value_ofSettings_encoding] at hencoded hreport
  have hactions : run'.actions = run.actions.map Action.inBase64 := hencoded
  have hn : (exchange .default replies (Script.mk [])).StopsAt 1 := by decide +kernel
  have htext : Response.text ⟨(exchange .default replies (Script.mk [])).statuses 0⟩
      = "\x7b\"SC\":[\x7b\"sc\":501,\"URI\":[]\x7d]\x7d" := by
    decide +kernel
  have hletters : String.ofList (Text.Base64.encode (Text.utf8
      "\x7b\"SC\":[\x7b\"sc\":501,\"URI\":[]\x7d]\x7d"))
      = "eyJTQyI6W3sic2MiOjUwMSwiVVJJIjpbXX1dfQ==" := by
    decide +kernel
  have hpost : (posts run.actions)[1]? = _ :=
    Reachable.created.atRest.getElem?_posts_start store false replies (Script.mk []) hn Nat.one_pos
  rw [htext] at hpost
  refine ⟨hactions, hreport, hpost, ?_⟩
  rw [hactions, posts_map_inBase64, List.getElem?_map, hpost, ← hletters]
  rfl

end Client

end DeviceManagement
