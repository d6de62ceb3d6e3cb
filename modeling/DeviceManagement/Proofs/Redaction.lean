import DeviceManagement.ManagedObject.Memory
import DeviceManagement.Proofs.Likeness
import DeviceManagement.Proofs.Retries

/-!
# Userinfo in logs

What the log tells of the userinfo of an address. `Address.parseChars_userinfo` says that the
userinfo has no part in how the rest of an address is read, so that two texts that differ in it
are both addresses or both none. Addresses that differ in it are shown alike, and a fetch from
them writes the same lines into the log. A text that is no address, though, is logged as it is.
-/

namespace DeviceManagement

/-- The name of a scheme has no colon. -/
theorem Scheme.colon_notMem_of_ofName?
    {name : List Char} {scheme : Scheme} (h : ofName? name = some scheme) :
  ':' ∉ name
  := by
  intro hmem
  have hlower : ':' ∈ name.map Char.toLower := List.mem_map.mpr ⟨':', hmem, rfl⟩
  unfold ofName? at h
  dsimp only at h
  split at h
  · rename_i hname
    rw [hname] at hlower
    exact absurd hlower (by decide)
  · split at h
    · rename_i hname
      rw [hname] at hlower
      exact absurd hlower (by decide)
    · simp at h

namespace Address

/-! ### Reading an address with userinfo -/

/-- The address of a server with the given userinfo and path. -/
def ofServer (scheme : Scheme) (userinfo : Option (List Char)) (server path : List Char) :
    Except ParseFault Address := do
  let (host, portText) ← splitPort server
  let port ← readPort portText
  if isMissingHost host then
    throw .missingHost
  return {
    scheme := scheme
    userinfo := userinfo.map String.ofList
    host := String.ofList host
    port := port
    path := String.ofList path
  }

/-- What stands behind the name of a scheme is cut into its authority and its path, and the
authority into the userinfo and the server. -/
theorem parseChars_append
    {name : List Char} {scheme : Scheme} (h : Scheme.ofName? name = some scheme)
    (rest : List Char) :
  parseChars (name ++ [':', '/', '/'] ++ rest)
    = ofServer scheme (splitUserinfo (rest.takeWhile (!endsAuthority ·))).1
        (splitUserinfo (rest.takeWhile (!endsAuthority ·))).2
        (pathOf (rest.dropWhile (!endsAuthority ·)))
  := by
  have hcut := Text.cutAt_append (Scheme.colon_notMem_of_ofName? h) ['/', '/'] rest
  simp only [parseChars, hcut, h, ofServer]

/-- The userinfo of an address has no part in reading the rest of it. -/
theorem ofServer_userinfo (scheme : Scheme) (userinfo server path : List Char) :
  ofServer scheme (some userinfo) server path
    = (ofServer scheme none server path).map fun a =>
        { a with userinfo := some (String.ofList userinfo) }
  := by
  unfold ofServer
  cases splitPort server with
  | error fault => rfl
  | ok parts =>
      obtain ⟨host, portText⟩ := parts
      dsimp only [bind, Except.bind]
      cases readPort portText with
      | error fault => rfl
      | ok port =>
          dsimp only
          cases isMissingHost host with
          | true => rfl
          | false => rfl

/-- With userinfo in front, a text that names no user is read as before, but for the userinfo. -/
theorem parseChars_userinfo
    {name : List Char} {scheme : Scheme} (h : Scheme.ofName? name = some scheme)
    {userinfo : List Char} (huserinfo : ∀ c ∈ userinfo, endsAuthority c = false)
    {rest : List Char} (hrest : '@' ∉ rest.takeWhile (!endsAuthority ·)) :
  parseChars (name ++ [':', '/', '/'] ++ (userinfo ++ '@' :: rest))
    = (parseChars (name ++ [':', '/', '/'] ++ rest)).map fun a =>
        { a with userinfo := some (String.ofList userinfo) }
  := by
  have hkeep : ∀ c ∈ userinfo ++ ['@'], (!endsAuthority c) = true := by
    intro c hc
    obtain hc | hc := List.mem_append.mp hc
    · rw [huserinfo c hc]
      rfl
    · obtain rfl := List.mem_singleton.mp hc
      rfl
  have hassoc : userinfo ++ '@' :: rest = (userinfo ++ ['@']) ++ rest := by simp
  have hauthority : (userinfo ++ '@' :: rest).takeWhile (!endsAuthority ·)
      = userinfo ++ '@' :: rest.takeWhile (!endsAuthority ·) := by
    rw [hassoc, List.takeWhile_append_of_pos hkeep, List.append_assoc]
    rfl
  have hpath : (userinfo ++ '@' :: rest).dropWhile (!endsAuthority ·)
      = rest.dropWhile (!endsAuthority ·) := by
    rw [hassoc, List.dropWhile_append_of_pos hkeep]
  have hsplit : splitUserinfo (userinfo ++ '@' :: rest.takeWhile (!endsAuthority ·))
      = (some userinfo, rest.takeWhile (!endsAuthority ·)) := by
    rw [splitUserinfo, Text.cutLast_eq_some_iff.mpr ⟨rfl, hrest⟩]
  have hnone : splitUserinfo (rest.takeWhile (!endsAuthority ·))
      = (none, rest.takeWhile (!endsAuthority ·)) := by
    rw [splitUserinfo, Text.cutLast_eq_none_iff.mpr hrest]
  rw [parseChars_append h, parseChars_append h, hauthority, hpath, hsplit, hnone]
  apply ofServer_userinfo

/-- A text with a scheme and userinfo. -/
def withUserinfo (scheme userinfo rest : String) : String :=
  scheme ++ "://" ++ userinfo ++ "@" ++ rest

section

variable {schemeName rest : String}
  (hscheme : (Scheme.ofName? schemeName.toList).isSome)
  (hrest : '@' ∉ rest.toList.takeWhile (!endsAuthority ·))

include hscheme hrest

theorem parseChars_withUserinfo
    {userinfo : String} (huserinfo : ∀ c ∈ userinfo.toList, endsAuthority c = false) :
  parseChars (withUserinfo schemeName userinfo rest).toList
    = (parseChars (schemeName ++ "://" ++ rest).toList).map fun a =>
        { a with userinfo := some userinfo }
  := by
  obtain ⟨scheme, hscheme⟩ := Option.isSome_iff_exists.mp hscheme
  have h := parseChars_userinfo hscheme huserinfo hrest
  rw [String.ofList_toList] at h
  have hleft : (withUserinfo schemeName userinfo rest).toList
      = schemeName.toList ++ [':', '/', '/'] ++ (userinfo.toList ++ '@' :: rest.toList) := by
    simp [withUserinfo]
  have hright : (schemeName ++ "://" ++ rest).toList
      = schemeName.toList ++ [':', '/', '/'] ++ rest.toList := by
    simp
  rw [hleft, hright, h]

/-- With userinfo, a text that is an address is an address with that userinfo. -/
theorem parse_withUserinfo_of_ok
    {a : Address} (h : parse (schemeName ++ "://" ++ rest) = .ok a) {userinfo : String}
    (huserinfo : ∀ c ∈ userinfo.toList, endsAuthority c = false) :
  parse (withUserinfo schemeName userinfo rest) = .ok { a with userinfo := some userinfo }
  := by
  unfold parse at h ⊢
  rw [parseChars_withUserinfo hscheme hrest huserinfo]
  cases hchars : parseChars (schemeName ++ "://" ++ rest).toList with
  | error fault =>
      rw [hchars] at h
      cases h
  | ok b =>
      rw [hchars] at h
      obtain rfl := Except.ok.inj h
      rfl

/-- With userinfo, a text that is no address is none for the same reason, which is told after the
whole text. -/
theorem parse_withUserinfo_of_error
    {fault : ParseFault} (h : parseChars (schemeName ++ "://" ++ rest).toList = .error fault)
    {userinfo : String} (huserinfo : ∀ c ∈ userinfo.toList, endsAuthority c = false) :
  parse (withUserinfo schemeName userinfo rest)
    = .error (.address (withUserinfo schemeName userinfo rest ++ ": " ++ fault.message))
  := by
  unfold parse
  rw [parseChars_withUserinfo hscheme hrest huserinfo, h]
  rfl

end

end Address

/-! ### Networks that answer to what is shown -/

variable {N : Type} [Network N]

/-- The outcomes of getting resources one after the other. -/
def Network.outcomes (network : N) : List Address → List (Except Fault String)
  | [] => []
  | a :: rest => (Network.get network a).1 :: outcomes (Network.get network a).2 rest

/-- Two networks answer to what is shown if they have the same outcomes for addresses that are
shown alike. -/
def Network.AnswerAsShown (network network' : N) : Prop :=
  ∀ addresses addresses' : List Address,
    addresses.map Address.display = addresses'.map Address.display →
    outcomes network addresses = outcomes network' addresses'

namespace Network.AnswerAsShown

variable {network network' : N} (h : AnswerAsShown network network') {a a' : Address}
  (ha : a.display = a'.display)

include h ha

theorem outcome :
  (Network.get network a).1 = (Network.get network' a').1
  := by
  have houtcomes := h [a] [a'] (by simp [ha])
  exact (List.cons_eq_cons.mp houtcomes).1

/-- What is got leaves networks that answer to what is shown. -/
theorem left :
  AnswerAsShown (Network.get network a).2 (Network.get network' a').2
  := by
  intro addresses addresses' hshown
  have houtcomes := h (a :: addresses) (a' :: addresses') (by simp [ha, hshown])
  exact (List.cons_eq_cons.mp houtcomes).2

end Network.AnswerAsShown

/-- A script answers whatever it is asked for. -/
theorem Script.answerAsShown (script : Script) :
  Network.AnswerAsShown script script
  := by
  intro addresses addresses' hshown
  induction addresses generalizing script addresses' with
  | nil =>
      obtain rfl := List.map_eq_nil_iff.mp hshown.symm
      rfl
  | cons a addresses ih =>
      cases addresses' with
      | nil => simp at hshown
      | cons a' addresses' =>
          have htail := ih ⟨script.outcomes.tail⟩ addresses' (List.cons_eq_cons.mp hshown).2
          exact congrArg (_ :: ·) htail

/-- Addresses that are shown alike, actions that write the same line, and networks that answer
to what is shown, count as alike. -/
def Likeness.shown (N : Type) [Network N] : Likeness N where
  network := Network.AnswerAsShown
  address a a' := a.display = a'.display
  action a a' := a.line? = a'.line?
  address_refl _ := rfl
  log _ := rfl
  wait _ := rfl
  get _ := rfl
  fetching h clientUri :=
    congrArg (fun shown => some (Level.info, "HGET " ++ shown ++ " -> " ++ clientUri)) h
  retried h attempt maxAttempts fault :=
    congrArg (fun shown => some (Level.warn, "GET " ++ shown ++ " failed (attempt " ++ attempt.repr
      ++ "/" ++ maxAttempts.repr ++ "): " ++ fault.message)) h
  outcome := Network.AnswerAsShown.outcome
  left := Network.AnswerAsShown.left

/-! ### Fetching with userinfo -/

namespace CommandQueue

/-- The queue in which a single fetch waits. -/
def ofFetch (policy : ExecutionPolicy) (statuses : List Status) (url clientUri : String) :
    CommandQueue :=
  ⟨policy, [⟨.hget, [url, clientUri]⟩], statuses⟩

/-- A fetch with a text that is no address gets nothing and logs why. -/
theorem actions_drain_ofFetch_of_error
    (policy : ExecutionPolicy) (statuses : List Status) {url : String} (clientUri : String)
    {fault : Fault} (h : Address.parse url = .error fault) (catalog : Catalog) (network : N) :
  ((ofFetch policy statuses url clientUri).drain catalog network).actions
    = [.log (.fetchFailed fault)]
  := by
  have htarget : (Command.mk .hget [url, clientUri]).fetchTarget = .error fault := by
    rw [Command.fetchTarget_cons_cons, h]
    rfl
  rw [ofFetch, drain_cons_of_hget, Command.executeFetch_of_error _ _ _ htarget]
  rfl

/-- A text that is no address is logged as a whole. -/
theorem logLines_fetchFailed_address (url reason : String) :
  logLines [.log (.fetchFailed (.address (url ++ ": " ++ reason)))]
    = [(.error, "HGET failed: " ++ ("Invalid URL: " ++ (url ++ ": " ++ reason)))]
  := rfl

section

variable {schemeName rest : String}
  (hscheme : (Scheme.ofName? schemeName.toList).isSome)
  (hrest : '@' ∉ rest.toList.takeWhile (!Address.endsAuthority ·))
  (policy : ExecutionPolicy) (statuses : List Status) (clientUri : String) (catalog : Catalog)
  (network : N)

include hscheme hrest

/-- Fetches from addresses that differ in their userinfo write the same lines. -/
theorem logLines_drain_ofFetch_of_ok
    {a : Address} (ha : Address.parse (schemeName ++ "://" ++ rest) = .ok a)
    {userinfo userinfo' : String} (h : ∀ c ∈ userinfo.toList, Address.endsAuthority c = false)
    (h' : ∀ c ∈ userinfo'.toList, Address.endsAuthority c = false)
    (hnetwork : Network.AnswerAsShown network network) :
  logLines ((ofFetch policy statuses (Address.withUserinfo schemeName userinfo rest)
      clientUri).drain catalog network).actions
    = logLines ((ofFetch policy statuses (Address.withUserinfo schemeName userinfo' rest)
      clientUri).drain catalog network).actions
  := by
  have hok := Address.parse_withUserinfo_of_ok hscheme hrest ha h
  have hok' := Address.parse_withUserinfo_of_ok hscheme hrest ha h'
  have hcommands : (Likeness.shown N).Commands
      ⟨.hget, [Address.withUserinfo schemeName userinfo rest, clientUri]⟩
      ⟨.hget, [Address.withUserinfo schemeName userinfo' rest, clientUri]⟩ := by
    refine ⟨rfl, ?_⟩
    rw [Command.fetchTarget_cons_cons, Command.fetchTarget_cons_cons, hok, hok']
    exact .ok rfl clientUri
  have hdrain := Likeness.Correspond.drain (Likeness.stores_refl catalog)
    (ofFetch policy statuses (Address.withUserinfo schemeName userinfo rest) clientUri)
    (.cons hcommands .nil) network network hnetwork
  apply filterMap_eq_of_forall₂
  exact hdrain.actions

/-- A fetch with a text that is no address, with or without its userinfo, writes a line that has
the userinfo. -/
theorem logLines_drain_ofFetch_of_error
    {fault : Address.ParseFault}
    (hfault : Address.parseChars (schemeName ++ "://" ++ rest).toList = .error fault)
    {userinfo : String} (h : ∀ c ∈ userinfo.toList, Address.endsAuthority c = false) :
  logLines ((ofFetch policy statuses (Address.withUserinfo schemeName userinfo rest)
      clientUri).drain catalog network).actions
    = [(.error, "HGET failed: " ++ ("Invalid URL: "
        ++ (Address.withUserinfo schemeName userinfo rest ++ ": " ++ fault.message)))]
  := by
  have herror := Address.parse_withUserinfo_of_error hscheme hrest hfault h
  rw [actions_drain_ofFetch_of_error policy statuses clientUri herror catalog network]
  apply logLines_fetchFailed_address

end

/-- The lines of a fetch do not tell the userinfo of the address that it gets, if the network
answers to what is shown. That is all that keeps the userinfo out of the log: of a text that is
no address the log has every character. So two fetches that differ in their userinfo write
different lines exactly if the text is no address without it either. -/
theorem logLines_drain_ofFetch_eq_iff
    (schemeName rest userinfo userinfo' : String)
    (hscheme : schemeName.toList.map Char.toLower = "http".toList
      ∨ schemeName.toList.map Char.toLower = "https".toList)
    (hrest : '@' ∉ rest.toList.takeWhile (!Address.endsAuthority ·))
    (h : ∀ c ∈ userinfo.toList, Address.endsAuthority c = false)
    (h' : ∀ c ∈ userinfo'.toList, Address.endsAuthority c = false)
    (policy : ExecutionPolicy) (statuses : List Status) (clientUri : String) (catalog : Catalog)
    (network : N) (hnetwork : Network.AnswerAsShown network network) :
  let run (userinfo : String) :=
    (ofFetch policy statuses (Address.withUserinfo schemeName userinfo rest) clientUri).drain
      catalog network
  logLines (run userinfo).actions = logLines (run userinfo').actions
    ↔ userinfo = userinfo' ∨ ∃ a, Address.parse (schemeName ++ "://" ++ rest) = .ok a
  := by
  intro run
  have hsome : (Scheme.ofName? schemeName.toList).isSome := by
    unfold Scheme.ofName?
    obtain hname | hname := hscheme
    · simp [hname, Scheme.name]
    · simp [hname, Scheme.name]
  cases hchars : Address.parseChars (schemeName ++ "://" ++ rest).toList with
  | ok a =>
      have hparse : Address.parse (schemeName ++ "://" ++ rest) = .ok a := by
        rw [Address.parse, hchars]
      constructor
      · intro _
        exact .inr ⟨a, hparse⟩
      · intro _
        apply logLines_drain_ofFetch_of_ok hsome hrest
        · exact hparse
        · exact h
        · exact h'
        · exact hnetwork
  | error fault =>
      have hnone : ¬ ∃ a, Address.parse (schemeName ++ "://" ++ rest) = .ok a := by
        rintro ⟨a, ha⟩
        rw [Address.parse, hchars] at ha
        cases ha
      have hlines := logLines_drain_ofFetch_of_error hsome hrest policy statuses clientUri catalog
        network hchars h
      have hlines' := logLines_drain_ofFetch_of_error hsome hrest policy statuses clientUri catalog
        network hchars h'
      rw [or_iff_left hnone, hlines, hlines']
      constructor
      · intro heq
        simpa [Address.withUserinfo] using heq
      · rintro rfl
        rfl

/-- A fetch that is tried twice writes the same lines with a password and without. -/
theorem logLines_drain_ofFetch_eq_iff_password :
  let network : Script := ⟨[.error (.transport "reset"), .ok "body"]⟩
  let run (userinfo : String) :=
    (ofFetch ⟨false, 2, 10⟩ [] (Address.withUserinfo "HTTP" userinfo "h:99/x?a@b") "t/1/a").drain
      .empty network
  logLines (run "user:secret").actions = logLines (run "").actions
  := by
  intro network run
  have ha : Address.parse "HTTP://h:99/x?a@b" = .ok ⟨.http, none, "h", 99, "/x?a@b"⟩ := by
    decide +kernel
  have hiff := logLines_drain_ofFetch_eq_iff "HTTP" "h:99/x?a@b" "user:secret" ""
    (.inl (by decide +kernel)) (by decide +kernel) (by simp [Address.endsAuthority]) (by simp)
    ⟨false, 2, 10⟩ [] "t/1/a" .empty network network.answerAsShown
  apply hiff.mpr
  exact .inr ⟨_, ha⟩

/-- A password in front of a port that is too large is logged. -/
theorem logLines_drain_ofFetch_ne_of_bad_port :
  let network : Script := ⟨[]⟩
  let run (userinfo : String) :=
    (ofFetch ⟨false, .once⟩ [] (Address.withUserinfo "http" userinfo "h:99999/x") "t/1/a").drain
      .empty network
  Network.AnswerAsShown network network ∧
    (∀ userinfo ∈ ["user:secret", "user:other"],
      ∀ c ∈ userinfo.toList, c ≠ '/' ∧ c ≠ '?' ∧ c ≠ '@') ∧
    '@' ∉ "h:99999/x".toList ∧
    logLines (run "user:secret").actions ≠ logLines (run "user:other").actions
  := by
  intro network run
  refine ⟨network.answerAsShown, by simp, by decide +kernel, ?_⟩
  decide +kernel

end CommandQueue

end DeviceManagement
