import DeviceManagement.Proofs.Spelling

/-!
# The grammar of addresses

An address is documented as `scheme://[userinfo@]host[:port][/path][?query]`, where a host is a
name, or a literal in brackets. `IsAddress` says which texts have this form. They are all read as
an address, but they are not the only ones: a text with a port is also read if there is another
colon before that of the port, outside of brackets (`HasStrayColon`), and what follows the last
colon is then taken for the port.
-/

namespace DeviceManagement

/-- A text names a scheme if it is the name of one of the two in any case. -/
theorem Scheme.exists_ofName?_iff {name : List Char} :
  (∃ scheme, ofName? name = some scheme)
    ↔ name.map Char.toLower = "http".toList ∨ name.map Char.toLower = "https".toList
  := by
  simp only [ofName?_eq_some_iff]
  constructor
  · rintro ⟨_ | _, h⟩
    · exact .inl h
    · exact .inr h
  · rintro (h | h)
    · exact ⟨.http, h⟩
    · exact ⟨.https, h⟩

namespace Address

/-! ### Forms of texts -/

/-- A host is a literal in brackets, with something and no closing bracket between them, or a
name that is not empty, does not start with a bracket and has no colon. -/
inductive IsHost : List Char → Prop
  | literal {inner : List Char} (hne : inner ≠ []) (hinner : ']' ∉ inner) :
      IsHost ('[' :: (inner ++ [']']))
  | name {name : List Char} (hne : name ≠ []) (hhead : name.head? ≠ some '[')
      (hcolon : ':' ∉ name) : IsHost name

/-- The form of a text that is to be an address, but for its host: the scheme is one of the two
in any case, no `/` or `?` is before the end of the authority, no `@` behind that of the
userinfo, and the port is a number of sixteen bits. -/
structure Parts.IsForm (p : Parts) : Prop where
  scheme : p.scheme.map Char.toLower = "http".toList ∨ p.scheme.map Char.toLower = "https".toList
  authority : ∀ c ∈ p.authority, ¬ (c = '/' ∨ c = '?')
  rest : ∀ c, p.rest.head? = some c → c = '/' ∨ c = '?'
  server : '@' ∉ p.server
  port : ∀ text, p.port = some text → ∃ n < UInt16.size, Text.Spells text n

/-- A text is an address as it is documented. -/
def IsAddress (url : String) : Prop :=
  ∃ p : Parts, p.text = url.toList ∧ p.IsForm ∧ IsHost p.host

/-- A text has a port, and in front of it a host that is not in brackets and has a colon. -/
def HasStrayColon (url : String) : Prop :=
  ∃ p : Parts, p.text = url.toList ∧ p.IsForm ∧ p.port ≠ none
    ∧ p.host.head? ≠ some '[' ∧ ':' ∈ p.host

/-- The host of an address is in brackets, or has no colon. -/
def HasPlainHost (a : Address) : Prop :=
  a.host.toList.head? = some '[' ∨ ':' ∉ a.host.toList

instance (a : Address) : Decidable a.HasPlainHost :=
  inferInstanceAs (Decidable (_ ∨ _))

/-! ### Texts that are read -/

theorem exists_readPort_iff {port : Option (List Char)} :
  (∃ n, readPort port = .ok n)
    ↔ ∀ text, port = some text → ∃ n < UInt16.size, Text.Spells text n
  := by
  cases port with
  | none => simp [readPort]
  | some text =>
      simp only [readPort_eq_ok_iff, Option.elim_some, Text.readUnsigned_eq_ok_iff,
        Option.some.injEq, forall_eq']
      constructor
      · rintro ⟨n, hspells, -⟩
        exact ⟨n.toNat, n.toNat_lt, hspells⟩
      · rintro ⟨n, hlt, hspells⟩
        have hn : (UInt16.ofNat n).toNat = n := UInt16.toNat_ofNat_of_lt' hlt
        refine ⟨UInt16.ofNat n, ?_⟩
        rw [hn]
        exact ⟨hspells, Nat.le_pred_of_lt hlt⟩

namespace Parts

variable {p : Parts}

/-- No colon is in a port. -/
theorem IsForm.colon_notMem (h : p.IsForm) {text : List Char} (htext : p.port = some text) :
  ':' ∉ text
  := by
  obtain ⟨n, -, hspells⟩ := h.port text htext
  intro hmem
  rcases hspells.isDigit_or_eq hmem with hdigit | hplus
  · exact absurd hdigit (by decide)
  · exact absurd hplus (by decide)

/-- A text of the form of an address is read as one that has its host, if the host is not missing
and ends where it would be cut. -/
theorem IsForm.exists_parse
    (h : p.IsForm) {url : String} (htext : p.text = url.toList)
    (hhost : InBrackets p.host ∨ p.host.head? ≠ some '[' ∧ ':' ∉ p.port.getD p.host)
    (hfound : isMissingHost p.host = false) :
  ∃ a, parse url = .ok a ∧ a.host = String.ofList p.host
  := by
  obtain ⟨scheme, hscheme⟩ := Scheme.exists_ofName?_iff.mpr h.scheme
  obtain ⟨port, hport⟩ := exists_readPort_iff.mpr h.port
  refine ⟨⟨scheme, p.userinfo.map String.ofList, String.ofList p.host, port,
    String.ofList (pathOf p.rest)⟩, ?_, rfl⟩
  apply parse_eq_ok_iff_parts.mpr
  exact ⟨p, htext, ⟨h.authority, h.rest, h.server, hhost⟩, ⟨hscheme, hport, hfound, rfl⟩⟩

/-- The parts of a text that is read have the form of an address. -/
theorem IsForm.of_cut {a : Address} (hcut : p.Cut) (hstand : p.StandFor a) :
  p.IsForm
  := by
  constructor
  case scheme => apply Scheme.exists_ofName?_iff.mp ⟨_, hstand.scheme⟩
  case authority => apply hcut.authority
  case rest => apply hcut.rest
  case server => apply hcut.server
  case port => apply exists_readPort_iff.mp ⟨_, hstand.port⟩

end Parts

section

variable {url : String}

/-- Whatever has the documented form is read. -/
theorem IsAddress.exists_parse (h : IsAddress url) :
  ∃ a, parse url = .ok a ∧ a.HasPlainHost
  := by
  obtain ⟨⟨scheme, userinfo, host, port, rest⟩, htext, hform, hhost⟩ := h
  dsimp only at hhost
  cases hhost with
  | @literal inner hne hinner =>
      obtain ⟨a, ha, hsame⟩ := hform.exists_parse htext (.inl ⟨inner, rfl, hinner⟩)
        (by simp [isMissingHost, hne])
      refine ⟨a, ha, .inl ?_⟩
      rw [hsame, String.toList_ofList, List.head?_cons]
  | name hne hhead hcolon =>
      have hport : ':' ∉ port.getD host := by
        cases port with
        | none => apply hcolon
        | some text => apply hform.colon_notMem rfl
      have hfound : isMissingHost host = false := by
        have hbrackets : host ≠ ['[', ']'] := by
          rintro rfl
          exact hhead rfl
        simp [isMissingHost, hne, hbrackets]
      obtain ⟨a, ha, hsame⟩ := hform.exists_parse htext (.inr ⟨hhead, hport⟩) hfound
      refine ⟨a, ha, .inr ?_⟩
      rwa [hsame, String.toList_ofList]

/-- A stray colon does not keep a text from being read. -/
theorem HasStrayColon.exists_parse (h : HasStrayColon url) :
  ∃ a, parse url = .ok a ∧ ¬ a.HasPlainHost
  := by
  obtain ⟨⟨scheme, userinfo, host, port, rest⟩, htext, hform, hport, hhead, hcolon⟩ := h
  obtain ⟨text, rfl⟩ := Option.ne_none_iff_exists'.mp hport
  have hfound : isMissingHost host = false := by
    have hempty : host ≠ [] := by
      rintro rfl
      cases hcolon
    have hbrackets : host ≠ ['[', ']'] := by
      rintro rfl
      exact hhead rfl
    simp [isMissingHost, hempty, hbrackets]
  obtain ⟨a, ha, hsame⟩ := hform.exists_parse htext (.inr ⟨hhead, hform.colon_notMem rfl⟩) hfound
  refine ⟨a, ha, ?_⟩
  unfold HasPlainHost
  rw [hsame, String.toList_ofList]
  exact not_or.mpr ⟨hhead, not_not_intro hcolon⟩

/-- Nothing else is read. -/
theorem isAddress_or_hasStrayColon {a : Address} (h : parse url = .ok a) :
  IsAddress url ∨ HasStrayColon url
  := by
  obtain ⟨p, htext, hcut, hstand⟩ := parse_eq_ok_iff_parts.mp h
  have hform := Parts.IsForm.of_cut hcut hstand
  obtain ⟨hempty, hbrackets⟩ : p.host ≠ [] ∧ p.host ≠ ['[', ']'] := by
    simpa [isMissingHost] using hstand.host
  obtain ⟨inner, hinner, hclose⟩ | ⟨hhead, hcolon⟩ := hcut.host
  · left
    use p, htext, hform
    rw [hinner] at hbrackets ⊢
    apply IsHost.literal _ hclose
    rintro rfl
    exact hbrackets rfl
  · by_cases hmem : ':' ∈ p.host
    · right
      use p, htext, hform
      refine ⟨?_, hhead, hmem⟩
      intro hnone
      rw [hnone] at hcolon
      exact hcolon hmem
    · left
      use p, htext, hform
      apply IsHost.name hempty hhead hmem

end

/-- A text is read if and only if it is an address as it is documented, or has a stray colon in
front of that of its port. Which of the two it is shows in the host that is read: outside of
brackets, it has a colon only in the second case. -/
theorem parse_succeeds_iff (url : String) :
  ((∃ a, parse url = .ok a) ↔ IsAddress url ∨ HasStrayColon url)
    ∧ ∀ a, parse url = .ok a →
      (IsAddress url ↔ a.HasPlainHost) ∧ (HasStrayColon url ↔ ¬ a.HasPlainHost)
  := by
  constructor
  · constructor
    · rintro ⟨a, h⟩
      apply isAddress_or_hasStrayColon h
    · rintro (h | h)
      · obtain ⟨a, ha, -⟩ := h.exists_parse
        use a
      · obtain ⟨a, ha, -⟩ := h.exists_parse
        use a
  · intro a h
    have hplain : IsAddress url → a.HasPlainHost := by
      intro haddress
      obtain ⟨b, hb, hhost⟩ := haddress.exists_parse
      obtain rfl : a = b := Except.ok.inj (h.symm.trans hb)
      apply hhost
    have hstray : HasStrayColon url → ¬ a.HasPlainHost := by
      intro hcolon
      obtain ⟨b, hb, hhost⟩ := hcolon.exists_parse
      obtain rfl : a = b := Except.ok.inj (h.symm.trans hb)
      apply hhost
    constructor
    · use hplain
      intro hhost
      apply (isAddress_or_hasStrayColon h).resolve_right
      intro hcolon
      apply hstray hcolon hhost
    · use hstray
      intro hhost
      apply (isAddress_or_hasStrayColon h).resolve_left
      intro haddress
      apply hhost (hplain haddress)

/-- In brackets, a colon is part of the host, and the form of the text is the documented one. -/
theorem parse_succeeds_iff_literal :
  let url := "HTTPS://u@[::1]:+081?x"
  (∃ a, parse url = .ok a) ∧ IsAddress url ∧ ¬ HasStrayColon url
  := by
  intro url
  have h : parse url = .ok ⟨.https, some "u", "[::1]", 81, "/?x"⟩ := by
    decide +kernel
  obtain ⟨-, hforms⟩ := parse_succeeds_iff url
  obtain ⟨haddress, hstray⟩ := hforms _ h
  have hplain : HasPlainHost ⟨.https, some "u", "[::1]", 81, "/?x"⟩ := .inl rfl
  exact ⟨⟨_, h⟩, haddress.mpr hplain, fun hcolon => hstray.mp hcolon hplain⟩

/-- Without its brackets, a literal is read as a host and a port, although the text has not the
documented form: the last group is taken for the port. -/
theorem parse_accepts_unbracketed :
  parse "http://::1/" = .ok ⟨.http, none, ":", 1, "/"⟩ ∧ ¬ IsAddress "http://::1/"
  := by
  have h : parse "http://::1/" = .ok ⟨.http, none, ":", 1, "/"⟩ := by
    decide +kernel
  use h
  intro haddress
  obtain ⟨a, ha, hhost⟩ := haddress.exists_parse
  obtain rfl := Except.ok.inj (h.symm.trans ha)
  exact absurd hhost (by decide)

end Address

end DeviceManagement
