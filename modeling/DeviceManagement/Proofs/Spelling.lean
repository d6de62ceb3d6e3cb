import DeviceManagement.Proofs.Redaction
import Mathlib.Data.List.TakeWhile

/-!
# Spellings of addresses

Different texts are read as the same address: the scheme can be in any case, the port can be left
out or written with zeros and a plus sign in front, and the path can be left out. A `Spelling` is
what a text has of its own, and `Spelling.Spells` tells which spellings an address has. A text is
read by its `Parts` (`parse_eq_ok_iff_parts`), and so the texts that are read as an address are its
spellings (`parse_eq_ok_iff`), for addresses that are `WellFormed`; others have none. The two forms
in which an address is written are spellings of it, the one that is shown without its userinfo.
-/

namespace DeviceManagement

/-! ### Cutting texts -/

namespace Text

/-- Every text is cut where the characters with a property end. -/
theorem exists_append (p : Char → Bool) (cs : List Char) :
  ∃ front back, cs = front ++ back ∧ (∀ c ∈ front, p c) ∧
    ∀ c, back.head? = some c → p c = false
  := by
  use cs.takeWhile p, cs.dropWhile p, List.takeWhile_append_dropWhile.symm
  constructor
  · intro c hc
    apply List.mem_takeWhile_imp hc
  · intro c hc
    have hhead := List.head?_dropWhile_not p cs
    rw [hc] at hhead
    apply hhead

end Text

namespace Scheme

/-- A scheme is found by its name in any case, and by nothing else. -/
theorem ofName?_eq_some_iff {name : List Char} {scheme : Scheme} :
  ofName? name = some scheme ↔ name.map Char.toLower = scheme.name.toList
  := by
  constructor
  · intro h
    simp only [ofName?] at h
    split at h
    · next hname =>
        cases h
        apply hname
    · split at h
      · next hname =>
          cases h
          apply hname
      · cases h
  · intro h
    simp only [ofName?, h]
    cases scheme with
    | http => rfl
    | https => rfl

theorem map_toLower_name (scheme : Scheme) :
  scheme.name.toList.map Char.toLower = scheme.name.toList
  := by
  cases scheme with
  | http => rfl
  | https => rfl

end Scheme

namespace Address

/-! ### The parts of a text -/

/-- The userinfo as it stands in front of a host. -/
def userinfoText : Option (List Char) → List Char
  | some userinfo => userinfo ++ ['@']
  | none => []

/-- The port as it stands behind a host. -/
def portText : Option (List Char) → List Char
  | some port => ':' :: port
  | none => []

/-- A host in brackets: a bracket, something without a closing one, and the closing one. -/
def InBrackets (host : List Char) : Prop :=
  ∃ inner, host = '[' :: (inner ++ [']']) ∧ ']' ∉ inner

theorem endsAuthority_iff {c : Char} :
  endsAuthority c ↔ c = '/' ∨ c = '?'
  := by
  simp [endsAuthority]

theorem not_endsAuthority_iff {c : Char} :
  (!endsAuthority c) = true ↔ ¬ (c = '/' ∨ c = '?')
  := by
  rw [Bool.not_eq_true', Bool.eq_false_iff, ne_eq, endsAuthority_iff]

/-- The userinfo ends with the last `@`. -/
theorem splitUserinfo_eq_iff
    {authority server : List Char} {userinfo : Option (List Char)} :
  splitUserinfo authority = (userinfo, server)
    ↔ authority = userinfoText userinfo ++ server ∧ '@' ∉ server
  := by
  rw [splitUserinfo]
  cases userinfo with
  | some userinfo =>
      rw [userinfoText, List.append_assoc, List.singleton_append, ← Text.cutLast_eq_some_iff]
      cases Text.cutLast '@' authority with
      | some parts => simp [Prod.ext_iff]
      | none => simp
  | none =>
      rw [userinfoText, List.nil_append]
      cases hcut : Text.cutLast '@' authority with
      | some parts =>
          have hmem : '@' ∈ authority := by simp [(Text.cutLast_eq_some_iff.mp hcut).1]
          constructor
          · rintro ⟨⟩
          · rintro ⟨rfl, hserver⟩
            exact absurd hmem hserver
      | none =>
          have hnone := Text.cutLast_eq_none_iff.mp hcut
          constructor
          · rintro ⟨⟩
            exact ⟨rfl, hnone⟩
          · rintro ⟨rfl, -⟩
            rfl

/-- A host in brackets ends with them. -/
theorem splitPort_of_inBrackets
    {host : List Char} (h : InBrackets host) (port : Option (List Char)) :
  splitPort (host ++ portText port) = .ok (host, port)
  := by
  obtain ⟨inner, rfl, hinner⟩ := h
  have hkeep : ∀ c ∈ '[' :: inner, (c != ']') = true := by
    intro c hc
    rw [bne_iff_ne]
    rintro rfl
    rcases List.mem_cons.mp hc with heq | hmem
    · cases heq
    · apply hinner hmem
  have hstop : ∀ c, (']' :: portText port).head? = some c → (c != ']') = false := by
    rintro c ⟨⟩
    rfl
  have hserver : '[' :: (inner ++ [']']) ++ portText port
      = ('[' :: inner) ++ (']' :: portText port) := by
    simp
  have hhead : (('[' :: inner) ++ (']' :: portText port)).head? = some '[' := rfl
  rw [hserver, splitPort, if_pos hhead, Text.dropWhile_append hkeep hstop,
    Text.takeWhile_append hkeep hstop]
  cases port with
  | none => rfl
  | some port => rfl

/-- Any other host ends before the last colon. -/
theorem splitPort_of_head?_ne
    {host : List Char} {port : Option (List Char)} (h : host.head? ≠ some '[')
    (hcolon : ':' ∉ port.getD host) :
  splitPort (host ++ portText port) = .ok (host, port)
  := by
  have hhead : (host ++ portText port).head? ≠ some '[' := by
    cases host with
    | nil => cases port <;> simp [portText]
    | cons c host => apply h
  rw [splitPort, if_neg hhead]
  cases port with
  | none =>
      rw [Option.getD_none] at hcolon
      rw [portText, List.append_nil, Text.cutLast_eq_none_iff.mpr hcolon]
  | some port =>
      rw [Option.getD_some] at hcolon
      rw [portText, Text.cutLast_eq_some_iff.mpr ⟨rfl, hcolon⟩]

/-- A server that starts with a bracket is split behind the first closing one. -/
theorem of_splitPort_of_head?_eq
    {server host : List Char} {port : Option (List Char)} (hhead : server.head? = some '[')
    (h : splitPort server = .ok (host, port)) :
  server = host ++ portText port ∧ InBrackets host
  := by
  obtain ⟨front, back, rfl, hfront, hback⟩ := Text.exists_append (· != ']') server
  rw [splitPort, if_pos hhead, Text.dropWhile_append hfront hback,
    Text.takeWhile_append hfront hback] at h
  cases back with
  | nil => cases h
  | cons bracket after =>
      obtain rfl : bracket = ']' := by simpa using hback bracket rfl
      have hbrackets : InBrackets (front ++ [']']) := by
        cases front with
        | nil => cases hhead
        | cons c inner =>
            cases hhead
            use inner, rfl
            intro hmem
            simpa using hfront ']' (List.mem_cons_of_mem _ hmem)
      rw [← List.singleton_append, ← List.append_assoc]
      cases after with
      | nil =>
          cases h
          exact ⟨rfl, hbrackets⟩
      | cons c text =>
          dsimp only at h
          split at h
          · next hcolon =>
              cases h
              rw [hcolon]
              exact ⟨rfl, hbrackets⟩
          · cases h

/-- A server is a host, and a port perhaps. If the host is not in brackets, then no colon is in
the port, or in the host if there is no port. -/
theorem splitPort_eq_ok_iff {server host : List Char} {port : Option (List Char)} :
  splitPort server = .ok (host, port)
    ↔ server = host ++ portText port ∧
      (InBrackets host ∨ host.head? ≠ some '[' ∧ ':' ∉ port.getD host)
  := by
  constructor
  · intro h
    by_cases hhead : server.head? = some '['
    · obtain ⟨hserver, hbrackets⟩ := of_splitPort_of_head?_eq hhead h
      exact ⟨hserver, .inl hbrackets⟩
    · rw [splitPort, if_neg hhead] at h
      split at h
      · next before after hcut =>
          cases h
          obtain ⟨rfl, hafter⟩ := Text.cutLast_eq_some_iff.mp hcut
          refine ⟨rfl, .inr ⟨?_, hafter⟩⟩
          intro hhost
          apply hhead
          rw [List.head?_append, hhost, Option.some_or]
      · next hcut =>
          cases h
          exact ⟨(List.append_nil server).symm, .inr ⟨hhead, Text.cutLast_eq_none_iff.mp hcut⟩⟩
  · rintro ⟨rfl, hbrackets | ⟨hhead, hcolon⟩⟩
    · apply splitPort_of_inBrackets hbrackets
    · apply splitPort_of_head?_ne hhead hcolon

/-- The port is the number that its text spells, and the default one without a text. -/
theorem readPort_eq_ok_iff {text : Option (List Char)} {port : UInt16} :
  readPort text = .ok port
    ↔ text.elim (port = defaultPort) fun text =>
        Text.readUnsigned (UInt16.size - 1) text = .ok port.toNat
  := by
  cases text with
  | none =>
      rw [readPort, Except.ok.injEq]
      apply eq_comm
  | some text =>
      rw [readPort, Option.elim_some]
      cases hread : Text.readUnsigned (UInt16.size - 1) text with
      | error fault => simp
      | ok n =>
          have hlt : n < UInt16.size :=
            Nat.lt_of_le_pred (by decide) (Text.readUnsigned_eq_ok_iff.mp hread).2
          have hn : (UInt16.ofNat n).toNat = n := UInt16.toNat_ofNat_of_lt' hlt
          simp only [Except.ok.injEq]
          constructor
          · rintro rfl
            apply hn.symm
          · rintro rfl
            apply UInt16.ofNat_toNat

theorem head?_pathOf (rest : List Char) :
  (pathOf rest).head? = some '/'
  := by
  cases rest with
  | nil => rfl
  | cons c rest =>
      rw [pathOf]
      split
      · next hc => rw [List.head?_cons, hc]
      · rfl

/-- What follows the authority settles the path. -/
theorem ofList_pathOf_eq_iff
    {rest path : String} (hrest : ∀ c, rest.toList.head? = some c → endsAuthority c) :
  String.ofList (pathOf rest.toList) = path
    ↔ rest.toList.head? = some '/' ∧ path = rest ∨
      rest.toList.head? = some '?' ∧ path = "/" ++ rest ∨ rest = "" ∧ path = "/"
  := by
  cases htail : rest.toList with
  | nil =>
      obtain rfl := String.toList_eq_nil_iff.mp htail
      simp [pathOf, eq_comm]
  | cons c tail =>
      have hc := hrest c (by rw [htail, List.head?_cons])
      have hcons : String.ofList (c :: tail) = rest := by rw [← htail, String.ofList_toList]
      have hne : rest ≠ "" := by
        rintro rfl
        cases htail
      rcases endsAuthority_iff.mp hc with rfl | rfl
      · rw [pathOf, if_pos rfl, hcons]
        simp [hne, eq_comm]
      · have hslash : String.ofList ('/' :: '?' :: tail) = "/" ++ rest := by
          rw [← String.toList_inj, String.toList_append, htail]
          simp
        rw [pathOf, if_neg (by decide), hslash]
        simp [hne, eq_comm]

/-- An address consists of the scheme and the path of a text, and of the parts of its server, of
which the host must not be missing. -/
theorem ofServer_eq_ok_iff
    {scheme : Scheme} {userinfo : Option (List Char)} {server path : List Char} {a : Address} :
  ofServer scheme userinfo server path = .ok a
    ↔ ∃ host text port, splitPort server = .ok (host, text) ∧ readPort text = .ok port ∧
      isMissingHost host = false ∧
      a = ⟨scheme, userinfo.map String.ofList, String.ofList host, port, String.ofList path⟩
  := by
  rw [ofServer]
  constructor
  · intro h
    cases hsplit : splitPort server with
    | error fault =>
        rw [hsplit] at h
        cases h
    | ok parts =>
        obtain ⟨host, text⟩ := parts
        rw [hsplit] at h
        dsimp only [bind, Except.bind] at h
        cases hport : readPort text with
        | error fault =>
            rw [hport] at h
            cases h
        | ok port =>
            rw [hport] at h
            dsimp only at h
            cases hhost : isMissingHost host with
            | true =>
                rw [hhost] at h
                cases h
            | false =>
                rw [hhost] at h
                cases h
                exact ⟨host, text, port, rfl, hport, hhost, rfl⟩
  · rintro ⟨host, text, port, hsplit, hport, hhost, rfl⟩
    rw [hsplit]
    dsimp only [bind, Except.bind]
    rw [hport]
    dsimp only
    rw [hhost]
    rfl

/-- Nothing is read as an address without the name of a scheme in front. -/
theorem exists_scheme_of_parseChars {url : List Char} {a : Address} (h : parseChars url = .ok a) :
  ∃ name scheme rest, Scheme.ofName? name = some scheme ∧ url = name ++ [':', '/', '/'] ++ rest
  := by
  simp only [parseChars] at h
  split at h
  · next name rest hcut =>
      split at h
      · next scheme hscheme => exact ⟨name, scheme, rest, hscheme, Text.eq_of_cutAt hcut⟩
      · cases h
  · cases h

theorem parse_eq_ok_iff_parseChars {url : String} {a : Address} :
  parse url = .ok a ↔ parseChars url.toList = .ok a
  := by
  rw [parse]
  cases parseChars url.toList with
  | ok b => simp
  | error fault => simp

/-- The parts that a text is cut into when it is read as an address. -/
structure Parts where
  scheme : List Char
  userinfo : Option (List Char)
  host : List Char
  port : Option (List Char)
  /-- What follows the authority. -/
  rest : List Char

namespace Parts

/-- The host with the port, if there is one. -/
def server (p : Parts) : List Char :=
  p.host ++ portText p.port

/-- The server with the userinfo in front, if there is one. -/
def authority (p : Parts) : List Char :=
  userinfoText p.userinfo ++ p.server

/-- The text that has the given parts. -/
def text (p : Parts) : List Char :=
  p.scheme ++ [':', '/', '/'] ++ (p.authority ++ p.rest)

/-- A text is cut where its parts end: the authority before a path or a query, the userinfo
before the last `@`, and the host, if it is not in brackets, before the last colon. -/
structure Cut (p : Parts) : Prop where
  authority : ∀ c ∈ p.authority, ¬ (c = '/' ∨ c = '?')
  rest : ∀ c, p.rest.head? = some c → c = '/' ∨ c = '?'
  server : '@' ∉ p.server
  host : InBrackets p.host ∨ p.host.head? ≠ some '[' ∧ ':' ∉ p.port.getD p.host

/-- Parts stand for an address if its scheme and its port can be read from them, and its host is
not missing. -/
structure StandFor (p : Parts) (a : Address) : Prop where
  scheme : Scheme.ofName? p.scheme = some a.scheme
  port : readPort p.port = .ok a.port
  host : isMissingHost p.host = false
  eq : a = ⟨a.scheme, p.userinfo.map String.ofList, String.ofList p.host, a.port,
    String.ofList (pathOf p.rest)⟩

end Parts

/-- A text is read as an address if it is cut into parts that stand for it. -/
theorem parse_eq_ok_iff_parts {url : String} {a : Address} :
  parse url = .ok a ↔ ∃ p : Parts, p.text = url.toList ∧ p.Cut ∧ p.StandFor a
  := by
  rw [parse_eq_ok_iff_parseChars]
  constructor
  · intro h
    obtain ⟨name, scheme, rest, hscheme, hurl⟩ := exists_scheme_of_parseChars h
    -- The rest is cut into the authority and what follows it, and the authority into its parts.
    obtain ⟨authority, rest, rfl, hauthority, hrest⟩ := Text.exists_append (!endsAuthority ·) rest
    rw [hurl, parseChars_append hscheme, Text.takeWhile_append hauthority hrest,
      Text.dropWhile_append hauthority hrest] at h
    rcases hsplit : splitUserinfo authority with ⟨userinfo, server⟩
    rw [hsplit] at h
    obtain ⟨rfl, hserver⟩ := splitUserinfo_eq_iff.mp hsplit
    obtain ⟨host, text, port, hsplitPort, hport, hhost, rfl⟩ := ofServer_eq_ok_iff.mp h
    obtain ⟨rfl, hform⟩ := splitPort_eq_ok_iff.mp hsplitPort
    use ⟨name, userinfo, host, text, rest⟩, hurl.symm
    constructor
    · constructor
      case authority =>
        intro c hc
        apply not_endsAuthority_iff.mp (hauthority c hc)
      case rest =>
        intro c hc
        apply endsAuthority_iff.mp
        simpa using hrest c hc
      case server => apply hserver
      case host => apply hform
    · exact ⟨hscheme, hport, hhost, rfl⟩
  · rintro ⟨p, htext, hcut, hstand⟩
    have hauthority : ∀ c ∈ p.authority, (!endsAuthority c) = true := by
      intro c hc
      apply not_endsAuthority_iff.mpr (hcut.authority c hc)
    have hrest : ∀ c, p.rest.head? = some c → (!endsAuthority c) = false := by
      intro c hc
      rw [endsAuthority_iff.mpr (hcut.rest c hc), Bool.not_true]
    rw [← htext, Parts.text, parseChars_append hstand.scheme,
      Text.takeWhile_append hauthority hrest, Text.dropWhile_append hauthority hrest,
      Parts.authority, splitUserinfo_eq_iff.mpr ⟨rfl, hcut.server⟩]
    apply ofServer_eq_ok_iff.mpr
    use p.host, p.port, a.port, splitPort_eq_ok_iff.mpr ⟨rfl, hcut.host⟩, hstand.port, hstand.host,
      hstand.eq

/-! ### Spellings -/

/-- What the parts of an address have to be so that it can be written and read again. -/
structure WellFormed (a : Address) : Prop where
  userinfo : ∀ userinfo, a.userinfo = some userinfo →
    '/' ∉ userinfo.toList ∧ '?' ∉ userinfo.toList
  host_ne_empty : a.host ≠ ""
  host : '/' ∉ a.host.toList ∧ '?' ∉ a.host.toList ∧ '@' ∉ a.host.toList
  /-- A bracket in front of the host is closed at its end, not before, and around something. -/
  brackets : a.host.toList.head? = some '[' →
    ∃ inner, a.host = "[" ++ inner ++ "]" ∧ inner ≠ "" ∧ ']' ∉ inner.toList
  path : a.path.toList.head? = some '/'

/-- What a text that is read as an address has of its own: how it writes the scheme and the port,
if it gives one, and what follows the authority. -/
structure Spelling where
  scheme : String
  port : Option String
  rest : String

namespace Spelling

/-- The text that a spelling makes of an address. -/
def text (s : Spelling) (a : Address) : String :=
  s.scheme ++ "://"
    ++ ((a.userinfo.map (· ++ "@")).getD "" ++ a.host ++ (s.port.map (":" ++ ·)).getD "") ++ s.rest

/-- An address has the spellings that stand for its scheme, its port and its path. -/
structure Spells (s : Spelling) (a : Address) : Prop where
  scheme : s.scheme.toList.map Char.toLower = a.scheme.name.toList
  /-- Without a port, the default one is meant. -/
  port : s.port.elim (a.port = defaultPort) fun text =>
    Text.readUnsigned (UInt16.size - 1) text.toList = .ok a.port.toNat
  /-- Without a port, a colon outside of brackets would start one. -/
  colon : s.port = none → a.host.toList.head? ≠ some '[' → ':' ∉ a.host.toList
  path : s.rest.toList.head? = some '/' ∧ a.path = s.rest ∨
    s.rest.toList.head? = some '?' ∧ a.path = "/" ++ s.rest ∨ s.rest = "" ∧ a.path = "/"

/-- The parts that the text of a spelling is cut into. -/
def parts (s : Spelling) (a : Address) : Parts where
  scheme := s.scheme.toList
  userinfo := a.userinfo.map String.toList
  host := a.host.toList
  port := s.port.map String.toList
  rest := s.rest.toList

theorem toList_text (s : Spelling) (a : Address) :
  (s.text a).toList = (s.parts a).text
  := by
  cases h : a.userinfo <;> cases h' : s.port <;>
    simp [text, parts, Parts.text, Parts.authority, Parts.server, h, h', userinfoText, portText]

variable {s : Spelling} {a : Address}

/-- A port is written with digits, and with a plus sign perhaps. -/
theorem Spells.mem_portText
    (hs : s.Spells a) {c : Char} (hc : c ∈ portText (s.port.map String.toList)) :
  c = ':' ∨ c.isDigit ∨ c = '+'
  := by
  have hport := hs.port
  cases htext : s.port with
  | none =>
      rw [htext] at hc
      cases hc
  | some text =>
      rw [htext, Option.elim_some] at hport
      rw [htext, Option.map_some, portText] at hc
      rcases List.mem_cons.mp hc with rfl | hc
      · exact .inl rfl
      · exact .inr ((Text.readUnsigned_eq_ok_iff.mp hport).1.isDigit_or_eq hc)

theorem Spells.head?_rest (hs : s.Spells a) {c : Char} (hc : s.rest.toList.head? = some c) :
  c = '/' ∨ c = '?'
  := by
  obtain ⟨hhead, -⟩ | ⟨hhead, -⟩ | ⟨hempty, -⟩ := hs.path
  · rw [hhead] at hc
    exact .inl (Option.some.inj hc).symm
  · rw [hhead] at hc
    exact .inr (Option.some.inj hc).symm
  · rw [hempty] at hc
    cases hc

end Spelling

/-! ### Reading spellings -/

section

variable {s : Spelling} {a : Address} (h : a.WellFormed) (hs : s.Spells a)

include h

theorem WellFormed.of_mem_userinfoText
    {c : Char} (hc : c ∈ userinfoText (a.userinfo.map String.toList)) :
  ¬ (c = '/' ∨ c = '?')
  := by
  cases huserinfo : a.userinfo with
  | none =>
      rw [huserinfo] at hc
      cases hc
  | some userinfo =>
      rw [huserinfo, Option.map_some, userinfoText, List.mem_append, List.mem_singleton] at hc
      obtain ⟨hslash, hquery⟩ := h.userinfo userinfo huserinfo
      rintro (rfl | rfl)
      · exact hc.elim hslash (by decide)
      · exact hc.elim hquery (by decide)

theorem WellFormed.isMissingHost_eq_false :
  isMissingHost a.host.toList = false
  := by
  have hempty : a.host.toList ≠ [] := by
    intro hnil
    apply h.host_ne_empty (String.toList_eq_nil_iff.mp hnil)
  have hbrackets : a.host.toList ≠ ['[', ']'] := by
    intro hhost
    obtain ⟨inner, heq, hne, -⟩ := h.brackets (by rw [hhost, List.head?_cons])
    rw [heq] at hhost
    apply hne
    simpa using hhost
  simp [isMissingHost, hempty, hbrackets]

include hs

theorem Spelling.cut_parts :
  (s.parts a).Cut
  := by
  constructor
  case authority =>
    intro c hc
    rcases List.mem_append.mp hc with huserinfo | hserver
    · apply h.of_mem_userinfoText huserinfo
    rcases List.mem_append.mp hserver with hhost | hport
    · rintro (rfl | rfl)
      · apply h.host.1 hhost
      · apply h.host.2.1 hhost
    · have hchars := hs.mem_portText hport
      rintro (rfl | rfl)
      · exact absurd hchars (by decide)
      · exact absurd hchars (by decide)
  case rest =>
    intro c hc
    apply hs.head?_rest hc
  case server =>
    intro hmem
    rcases List.mem_append.mp hmem with hhost | hport
    · apply h.host.2.2 hhost
    · exact absurd (hs.mem_portText hport) (by decide)
  case host =>
    by_cases hhead : a.host.toList.head? = some '['
    · obtain ⟨inner, hhost, -, hinner⟩ := h.brackets hhead
      left
      use inner.toList
      rw [parts, hhost]
      exact ⟨by simp, hinner⟩
    · right
      use hhead
      dsimp only [parts]
      cases hport : s.port with
      | none => apply hs.colon hport hhead
      | some text =>
          have hread := hs.port
          rw [hport, Option.elim_some] at hread
          intro hcolon
          rcases (Text.readUnsigned_eq_ok_iff.mp hread).1.isDigit_or_eq hcolon with hdigit | hplus
          · exact absurd hdigit (by decide)
          · exact absurd hplus (by decide)

theorem Spelling.standFor_parts :
  (s.parts a).StandFor a
  := by
  constructor
  case scheme =>
    apply Scheme.ofName?_eq_some_iff.mpr hs.scheme
  case port =>
    apply readPort_eq_ok_iff.mpr
    have hspells := hs.port
    cases hport : s.port <;> simpa [parts, hport] using hspells
  case host =>
    apply h.isMissingHost_eq_false
  case eq =>
    have hpath : String.ofList (pathOf s.rest.toList) = a.path := by
      apply (ofList_pathOf_eq_iff _).mpr hs.path
      intro c hc
      apply endsAuthority_iff.mpr (hs.head?_rest hc)
    simp [parts, hpath, Function.comp_def]

/-- A well-formed address is read from all of its spellings. -/
theorem parse_text :
  parse (s.text a) = .ok a
  := by
  apply parse_eq_ok_iff_parts.mpr
  exact ⟨s.parts a, (s.toList_text a).symm, Spelling.cut_parts h hs, Spelling.standFor_parts h hs⟩

end

/-- What stands in front of a path or a query has none of the characters that start one. -/
theorem slash_query_notMem {cs : List Char} (h : ∀ c ∈ cs, ¬ (c = '/' ∨ c = '?')) :
  '/' ∉ cs ∧ '?' ∉ cs
  := by
  constructor
  · intro hmem
    apply h '/' hmem (.inl rfl)
  · intro hmem
    apply h '?' hmem (.inr rfl)

/-- A host in brackets has something between them unless it is missing. -/
theorem InBrackets.exists_inner {host : List Char} (h : InBrackets host) (hne : host ≠ ['[', ']']) :
  ∃ inner, String.ofList host = "[" ++ inner ++ "]" ∧ inner ≠ "" ∧ ']' ∉ inner.toList
  := by
  obtain ⟨inner, rfl, hclose⟩ := h
  use String.ofList inner
  refine ⟨?_, ?_, ?_⟩
  · rw [← String.toList_inj]
    simp
  · intro hnil
    obtain rfl : inner = [] := by simpa using congrArg String.toList hnil
    apply hne rfl
  · rwa [String.toList_ofList]

section

variable {p : Parts} {a : Address} (hcut : p.Cut) (hstand : p.StandFor a)

include hcut

theorem Parts.Cut.notMem_userinfo {userinfo : List Char} (h : p.userinfo = some userinfo) :
  '/' ∉ userinfo ∧ '?' ∉ userinfo
  := by
  apply slash_query_notMem
  intro c hc
  apply hcut.authority c
  simp [Parts.authority, h, userinfoText, hc]

theorem Parts.Cut.notMem_host :
  '/' ∉ p.host ∧ '?' ∉ p.host ∧ '@' ∉ p.host
  := by
  have hkeep : ∀ c ∈ p.host, ¬ (c = '/' ∨ c = '?') := by
    intro c hc
    apply hcut.authority c
    simp [Parts.authority, Parts.server, hc]
  obtain ⟨hslash, hquery⟩ := slash_query_notMem hkeep
  refine ⟨hslash, hquery, ?_⟩
  intro hmem
  apply hcut.server (List.mem_append_left _ hmem)

include hstand

/-- An address for which the parts of a text stand is well-formed. -/
theorem wellFormed_of_parts :
  a.WellFormed
  := by
  obtain ⟨hempty, hbrackets⟩ : p.host ≠ [] ∧ p.host ≠ ['[', ']'] := by
    simpa [isMissingHost] using hstand.host
  rw [hstand.eq]
  constructor
  case userinfo =>
    intro info hinfo
    obtain ⟨userinfo, huserinfo, rfl⟩ := Option.map_eq_some_iff.mp hinfo
    rw [String.toList_ofList]
    apply hcut.notMem_userinfo huserinfo
  case host_ne_empty =>
    intro hnil
    apply hempty
    simpa using congrArg String.toList hnil
  case host =>
    rw [String.toList_ofList]
    apply hcut.notMem_host
  case brackets =>
    rw [String.toList_ofList]
    intro hhead
    obtain hinside | ⟨hne, -⟩ := hcut.host
    · apply hinside.exists_inner hbrackets
    · exact absurd hhead hne
  case path =>
    rw [String.toList_ofList]
    apply head?_pathOf

/-- The parts of a text spell the address for which they stand. -/
theorem spells_of_parts :
  Spelling.Spells ⟨String.ofList p.scheme, p.port.map String.ofList, String.ofList p.rest⟩ a
  := by
  constructor
  case scheme =>
    rw [String.toList_ofList]
    apply Scheme.ofName?_eq_some_iff.mp hstand.scheme
  case port =>
    have hread := readPort_eq_ok_iff.mp hstand.port
    cases hport : p.port <;> simpa [hport] using hread
  case colon =>
    intro hnone hhead
    have hport : p.port = none := Option.map_eq_none_iff.mp hnone
    rw [hstand.eq] at hhead ⊢
    rw [String.toList_ofList] at hhead ⊢
    obtain ⟨inner, hinner, -⟩ | ⟨-, hcolon⟩ := hcut.host
    · rw [hinner] at hhead
      exact absurd rfl hhead
    · simpa [hport] using hcolon
  case path =>
    rw [hstand.eq]
    apply (ofList_pathOf_eq_iff _).mp
    · rw [String.toList_ofList]
    · intro c hc
      rw [String.toList_ofList] at hc
      apply endsAuthority_iff.mpr (hcut.rest c hc)

end

/-- The texts that are read as an address are its spellings, if it is well-formed, and otherwise
there are none. -/
theorem parse_eq_ok_iff {url : String} {a : Address} :
  parse url = .ok a ↔ a.WellFormed ∧ ∃ s : Spelling, s.Spells a ∧ url = s.text a
  := by
  constructor
  · intro h
    obtain ⟨p, htext, hcut, hstand⟩ := parse_eq_ok_iff_parts.mp h
    refine ⟨wellFormed_of_parts hcut hstand, _, spells_of_parts hcut hstand, ?_⟩
    rw [← String.toList_inj, Spelling.toList_text, ← htext, hstand.eq]
    simp [Spelling.parts, Function.comp_def]
  · rintro ⟨hwell, s, hs, rfl⟩
    apply parse_text hwell hs

/-! ### Reading what is written -/

/-- The spelling in which an address is written: with its port, and the scheme in lower case. -/
def Spelling.full (a : Address) : Spelling :=
  ⟨a.scheme.name, some a.port.toNat.repr, a.path⟩

theorem Spelling.spells_full {a : Address} (h : a.WellFormed) :
  (full a).Spells a
  := by
  constructor
  case scheme => apply Scheme.map_toLower_name
  case port =>
    apply Text.readUnsigned_eq_ok_iff.mpr
    exact ⟨Text.spells_repr _, Nat.le_pred_of_lt a.port.toNat_lt⟩
  case colon => rintro ⟨⟩
  case path => exact .inl ⟨h.path, rfl⟩

theorem requestUrl_eq_text (a : Address) :
  a.requestUrl = (Spelling.full a).text a
  := by
  rw [requestUrl]
  cases h : a.userinfo with
  | none => simp [display, Spelling.text, Spelling.full, h, String.append_assoc]
  | some userinfo => simp [Spelling.text, Spelling.full, h, String.append_assoc]

theorem parse_requestUrl {a : Address} (h : a.WellFormed) :
  parse a.requestUrl = .ok a
  := by
  rw [requestUrl_eq_text]
  apply parse_text h (Spelling.spells_full h)

/-- An address is shown as it is requested without its userinfo. -/
theorem display_eq_requestUrl (a : Address) :
  a.display = requestUrl { a with userinfo := none }
  := rfl

/-- Reading an address loses and invents nothing: the address is well-formed, and the text is one
of its spellings. Writing a well-formed address and reading it again gives the address, and without
its userinfo if it has been written as it is shown. -/
theorem parse_inverts_writing (a : Address) :
  (∀ url, parse url = .ok a → a.WellFormed ∧ ∃ s : Spelling, s.Spells a ∧ url = s.text a) ∧
    (a.WellFormed →
      parse a.requestUrl = .ok a ∧ parse a.display = .ok { a with userinfo := none })
  := by
  constructor
  · intro url h
    apply parse_eq_ok_iff.mp h
  · intro h
    have hshown : WellFormed { a with userinfo := none } :=
      ⟨fun _ => nofun, h.host_ne_empty, h.host, h.brackets, h.path⟩
    rw [display_eq_requestUrl]
    exact ⟨parse_requestUrl h, parse_requestUrl hshown⟩

/-- The userinfo can contain a colon and an `@`, the host colons in brackets, the port a plus sign
and zeros, and the query anything. -/
theorem parse_inverts_writing_query :
  let url := "HtTp://u:p@w@[::1]:+081?x=[/@"
  let a : Address := ⟨.http, some "u:p@w", "[::1]", 81, "/?x=[/@"⟩
  parse url = .ok a ∧ a.WellFormed ∧ (∃ s : Spelling, s.Spells a ∧ url = s.text a) ∧
    parse a.requestUrl = .ok a ∧ parse a.display = .ok { a with userinfo := none }
  := by
  intro url a
  have h : parse url = .ok a := by
    decide +kernel
  obtain ⟨hread, hwritten⟩ := parse_inverts_writing a
  obtain ⟨hwell, hspelled⟩ := hread url h
  exact ⟨h, hwell, hspelled, hwritten hwell⟩

end Address

end DeviceManagement
