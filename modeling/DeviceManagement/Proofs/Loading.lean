import DeviceManagement.Proofs.Printing
import DeviceManagement.Settings

/-!
# Loading settings

Settings are loaded by reading them and then looking for defects, be it from a text or from the text
in a file.

* Settings that are written are read as themselves, defects or not (`Settings.read?_text`), so
  loading them gives them back or tells their first defect (`Settings.ofText_text`).
* What can be loaded are the settings without a defect that can be read
  (`Settings.check_eq_ok_iff`), which does not depend on where their text comes from.
* What cannot be loaded is refused by a fault of the settings (`Settings.exists_detail_of_check`).
-/

namespace DeviceManagement

open Json (Form Value)

theorem Encoding.ofName?_name (encoding : Encoding) :
  ofName? encoding.name = some encoding
  := by
  cases encoding <;> decide

namespace Settings

/-! ### Reading what is written -/

theorem readEncoding?_form (encoding : Encoding) :
  readEncoding? (Value.string encoding.name).form = some encoding
  := encoding.ofName?_name

theorem readRetry?_form (p : RetryPolicy) :
  readRetry? (ofRetry p).form = some p
  := by
  have hattempts : p.maxAttempts.toNat ≤ 4294967295 := Nat.le_of_lt_succ p.maxAttempts.toNat_lt
  have hbackoff : p.backoff.toNat ≤ 18446744073709551615 := Nat.le_of_lt_succ p.backoff.toNat_lt
  rw [ofRetry, readRetry?, Form.fields?_form (by simp)]
  simp [Json.lookup, Form.orDefault?, Form.natural?_form hattempts, Form.natural?_form hbackoff]

theorem ofForm?_form (s : Settings) :
  ofForm? s.toJson.form = some s
  := by
  have htimeout : s.timeout.toNat ≤ 18446744073709551615 := Nat.le_of_lt_succ s.timeout.toNat_lt
  have hencoding := readEncoding?_form s.encoding
  rw [Value.form] at hencoding
  rw [ofForm?, toJson, Form.fields?_form (by simp)]
  simp [fieldNames, Json.lookup, Form.orDefault?, Form.natural?_form htimeout, hencoding,
    readRetry?_form, Value.form, Form.text?, Form.bool?]

/-- Settings are read from their text, defects or not. -/
theorem read?_text (s : Settings) :
  read? s.text = some s
  := by
  rw [read?, text, Form.ofText?_text]
  apply ofForm?_form

/-! ### Defects -/

theorem defect?_eq_none_iff {s : Settings} :
  s.defect? = none
    ↔ (∃ address, Address.parse s.serverUrl = .ok address)
      ∧ 0 < s.timeout ∧ 0 < s.retry.maxAttempts
  := by
  rw [defect?]
  cases Address.parse s.serverUrl with
  | error fault => simp
  | ok address =>
      by_cases htimeout : s.timeout = 0
      · simp [htimeout]
      · by_cases hattempts : s.retry.maxAttempts = 0
        · simp [htimeout, hattempts]
        · simp [htimeout, hattempts, UInt64.pos_iff_ne_zero, UInt32.pos_iff_ne_zero]

theorem validate_eq_ok_iff {s : Settings} :
  validate s = .ok () ↔ s.defect? = none
  := by
  rw [validate]
  cases s.defect? <;> simp

theorem exists_defect_of_validate {s : Settings} {fault : Fault} (h : validate s = .error fault) :
  ∃ defect : Defect, fault = .settings defect.message
  := by
  rw [validate] at h
  cases hdefect : s.defect? with
  | none => simp [hdefect] at h
  | some defect =>
      rw [hdefect] at h
      cases h
      use defect

/-! ### Loading -/

section

variable {detail : String} {loaded : Option Settings}

/-- What can be loaded are the settings without a defect that can be read. -/
theorem check_eq_ok_iff {s : Settings} :
  check detail loaded = .ok s ↔ loaded = some s ∧ validate s = .ok ()
  := by
  cases loaded with
  | none => simp [check]
  | some settings =>
      rw [check, Option.some.injEq]
      cases hvalid : validate settings with
      | error fault =>
          constructor
          · nofun
          · rintro ⟨rfl, h⟩
            rw [hvalid] at h
            cases h
      | ok =>
          constructor
          · rintro ⟨⟩
            exact ⟨rfl, hvalid⟩
          · rintro ⟨rfl, -⟩
            rfl

/-- What cannot be loaded is refused by a fault of the settings. -/
theorem exists_detail_of_check {fault : Fault} (h : check detail loaded = .error fault) :
  ∃ detail, fault = .settings detail
  := by
  cases loaded with
  | none =>
      cases h
      use detail
  | some settings =>
      rw [check] at h
      cases hvalid : validate settings with
      | error fault' =>
          rw [hvalid] at h
          cases h
          obtain ⟨defect, rfl⟩ := exists_defect_of_validate hvalid
          use defect.message
      | ok =>
          rw [hvalid] at h
          cases h

end

/-- Settings are loaded from their text, unless they have a defect. -/
theorem ofText_text (s : Settings) :
  ofText s.text = (validate s).map fun () => s
  := by
  rw [ofText, read?_text, check]

theorem ofFile_of_ofUtf8 (path : String) {bytes : List UInt8} {text : String}
    (h : Text.ofUtf8 bytes = .ok text) :
  ofFile path (some bytes) = check (path ++ ": " ++ unreadable) (read? text)
  := by
  rw [ofFile, Text.readFile, h]

theorem exists_detail_of_ofFile {path : String} {file : Option (List UInt8)} {fault : Fault}
    (h : ofFile path file = .error fault) :
  ∃ detail, fault = .settings detail
  := by
  rw [ofFile] at h
  cases hfile : Text.readFile file with
  | ok text =>
      rw [hfile] at h
      apply exists_detail_of_check h
  | error fileFault =>
      rw [hfile] at h
      cases h
      use path ++ ": " ++ fileFault.message

/-- Settings that are written are loaded from their text if they are valid, and are refused for the
fault that makes them invalid if they are not. They are valid if their address can be parsed and
neither the time for a request nor the number of attempts is zero. From a file the same settings are
loaded as from the text in it, and whatever cannot be loaded is refused by a fault of the
settings. -/
theorem text_loads_as_validated :
  (∀ s : Settings,
      ofText s.text =
        match validate s with
        | .ok () => .ok s
        | .error fault => .error fault)
    ∧ (∀ s : Settings,
      validate s = .ok ()
        ↔ (∃ address, Address.parse s.serverUrl = .ok address)
          ∧ 0 < s.timeout ∧ 0 < s.retry.maxAttempts)
    ∧ (∀ (path : String) (bytes : List UInt8) (text : String), Text.ofUtf8 bytes = .ok text →
      ∀ s, ofFile path (some bytes) = .ok s ↔ ofText text = .ok s)
    ∧ (∀ text fault, ofText text = .error fault → ∃ detail, fault = .settings detail)
    ∧ ∀ path file fault, ofFile path file = .error fault → ∃ detail, fault = .settings detail
  := by
  refine ⟨?_, ?_, ?_, ?_, ?_⟩
  · intro s
    rw [ofText_text]
    cases validate s <;> rfl
  · intro s
    rw [validate_eq_ok_iff, defect?_eq_none_iff]
  · intro path bytes text hbytes s
    rw [ofFile_of_ofUtf8 path hbytes, check_eq_ok_iff, ofText, check_eq_ok_iff]
  · intro text fault h
    apply exists_detail_of_check h
  · intro path file fault h
    apply exists_detail_of_ofFile h

/-- The greatest numbers are loaded as they are written, and a zero is refused. -/
theorem text_loads_as_validated_extremes :
  let greatest : Settings :=
    { default with deviceId := "\"\x01", timeout := 18446744073709551615, encoding := .base64,
                   retry := ⟨4294967295, 18446744073709551615⟩ }
  let refused : Settings := { default with timeout := 0 }
  let fault := Fault.settings "timeout_ms must be positive"
  let missing := Fault.settings "client.json: No such file or directory (os error 2)"
  Text.ofUtf8 (Text.utf8 greatest.text) = .ok greatest.text
    ∧ ofFile "client.json" (some (Text.utf8 greatest.text)) = .ok greatest
    ∧ ofText refused.text = .error fault
    ∧ (∃ detail, fault = .settings detail)
    ∧ ofFile "client.json" none = .error missing
    ∧ ∃ detail, missing = .settings detail
  := by
  intro greatest refused fault missing
  obtain ⟨hload, hvalid, hfile, htextFault, hfileFault⟩ := text_loads_as_validated
  have hurl : Address.parse default.serverUrl = .ok ⟨.http, none, "localhost", 9988, "/path"⟩ := by
    decide +kernel
  have hbytes := Text.ofUtf8_utf8 greatest.text
  have hgreatest : validate greatest = .ok () := by
    apply (hvalid greatest).mpr ⟨⟨_, hurl⟩, ?_, ?_⟩ <;> decide
  have hloaded : ofText greatest.text = .ok greatest := by
    rw [hload, hgreatest]
  have hinvalid : validate refused = .error fault := by
    rw [validate, defect?, hurl]
    rfl
  have hrefused : ofText refused.text = .error fault := by
    rw [hload, hinvalid]
  refine ⟨hbytes, ?_, hrefused, ?_, rfl, ?_⟩
  · apply (hfile "client.json" _ _ hbytes greatest).mpr hloaded
  · apply htextFault refused.text fault hrefused
  · apply hfileFault "client.json" none missing rfl

end Settings

end DeviceManagement
