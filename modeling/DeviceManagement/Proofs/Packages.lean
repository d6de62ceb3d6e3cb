import DeviceManagement.Package.Initiation
import DeviceManagement.Package.Response
import DeviceManagement.Proofs.Printing

/-!
# Reading packages back

The packages of a client are read from their texts again. A field of a package is a member of the
object that the package is printed as, so each record is read field by field, from the inside out.
What an instance contains can be any value, and is read back if it is plain and not too deep.
-/

namespace DeviceManagement

open Json (Form Value)

/-! ### The first package -/

namespace Initiation

theorem readSummary?_form (summary : TypeSummary) :
  readSummary? (ofSummary summary).form = some summary
  := by
  obtain ⟨schemaUrl, typeId, instanceIds⟩ := summary
  cases schemaUrl <;>
  · rw [readSummary?, ofSummary, Form.fields?_form (by simp)]
    simp [Json.lookup, Form.orDefault?, Form.list?_text?_form, Value.form, Form.nullable?,
      Form.text?]

theorem readAlert?_form (urn : String) :
  readAlert? (ofAlert urn).form = some urn
  := by
  rw [readAlert?, ofAlert, Form.fields?_form (by simp)]
  simp [Json.lookup, Value.form, Form.text?]

/-- What an instance contains is read back if it is plain and not too deep. -/
theorem readReport?_form
    {report : InstanceReport} (hplain : report.tree.Plain)
    (hdepth : report.tree.depth ≤ Json.maxDepth - contentDepth) :
  readReport? (ofReport report).form = some report
  := by
  rw [readReport?, ofReport, Form.fields?_form (by simp)]
  simp [Json.lookup, hplain.value?_form hdepth, Value.form, Form.text?]

/-- The package puts `contentDepth` arrays and objects around what an instance contains. -/
theorem depth_tree_add_contentDepth_le
    (p : Initiation) {reports : List InstanceReport} (htree : p.tree = some reports)
    {report : InstanceReport} (hreport : report ∈ reports) :
  report.tree.depth + contentDepth ≤ p.toJson.depth
  := by
  have hcontent : report.tree.depth < (ofReport report).depth := by
    apply Value.depth_lt_object List.mem_cons_self
  have hentry : (ofReport report).depth < (Value.array (reports.map ofReport)).depth := by
    apply Value.depth_lt_array (List.mem_map_of_mem hreport)
  have hmember : (Value.array (reports.map ofReport)).depth < p.toJson.depth := by
    apply Value.depth_lt_object
    rw [htree]
    apply List.mem_append_right _ List.mem_cons_self
  rw [contentDepth]
  omega

/-- A package is read from its text if what instances contain is plain and the text not too deep. -/
theorem ofText?_text
    {p : Initiation} (hplain : ∀ reports ∈ p.tree, ∀ report ∈ reports, report.tree.Plain)
    (hdepth : p.toJson.depth ≤ Json.maxDepth) :
  ofText? p.text = some p
  := by
  have htypes : Form.list? readSummary? (Value.array (p.types.map ofSummary)).form = some p.types :=
    Form.list?_form_of_forall fun summary _ => readSummary?_form summary
  have halerts : Form.list? readAlert? (Value.array (p.alerts.map ofAlert)).form = some p.alerts :=
    Form.list?_form_of_forall fun urn _ => readAlert?_form urn
  rw [ofText?, text, Form.ofText?_text, Option.bind_eq_bind, Option.bind_some, ofForm?]
  obtain ⟨types, alerts, tree⟩ := p
  cases tree with
  | none =>
      rw [toJson, Form.fields?_form (by simp)]
      simp [Json.lookup, htypes, halerts, Form.orDefault?]
  | some reports =>
      have hreports :
          Form.list? readReport? (Value.array (reports.map ofReport)).form = some reports := by
        apply Form.list?_form_of_forall
        intro report hreport
        have hcontent := depth_tree_add_contentDepth_le ⟨types, alerts, some reports⟩ rfl hreport
        apply readReport?_form (hplain reports rfl report hreport)
        apply Nat.le_sub_of_add_le (Nat.le_trans hcontent hdepth)
      have hnullable := Form.nullable?_form_array hreports
      rw [toJson, Form.fields?_form (by simp)]
      simp [Json.lookup, htypes, halerts, Form.orDefault?, hnullable]

end Initiation

/-! ### The response -/

namespace Response

theorem readStatus?_form (status : Status) :
  readStatus? (ofStatus status).form = some status
  := by
  have hcode : status.code.toNat ≤ 65535 := Nat.le_of_lt_succ status.code.toNat_lt
  have hnatural := Form.natural?_form hcode (by decide)
  rw [readStatus?, ofStatus, Form.fields?_form (by simp)]
  simp [Json.lookup, hnatural, Form.orDefault?, Form.list?_text?_form]

/-- A response is read from its text. -/
theorem ofText?_text (p : Response) :
  ofText? p.text = some p
  := by
  have hstatuses :
      Form.list? readStatus? (Value.array (p.statuses.map ofStatus)).form = some p.statuses :=
    Form.list?_form_of_forall fun status _ => readStatus?_form status
  rw [ofText?, text, Form.ofText?_text, Option.bind_eq_bind, Option.bind_some, ofForm?, toJson,
    Form.fields?_form (by simp)]
  simp [Json.lookup, hstatuses]

end Response

/-! ### The packages of a client -/

/-- The packages of a client are read from their texts again: a first package in which the content
of the instances is plain, with at most `Json.maxDepth` arrays and objects inside each other, and
every response. -/
theorem packages_read_back :
  (∀ p : Initiation,
      (∀ reports ∈ p.tree, ∀ report ∈ reports, report.tree.Plain) →
      p.toJson.depth ≤ Json.maxDepth →
      Initiation.ofText? p.text = some p)
    ∧ ∀ statuses : List Status, Response.ofText? (Response.text ⟨statuses⟩) = some ⟨statuses⟩
  := by
  constructor
  · intro p hplain hdepth
    apply Initiation.ofText?_text hplain hdepth
  · intro statuses
    apply Response.ofText?_text

/-- The members of an object keep their order, and strings with escapes are themselves again. -/
theorem packages_read_back_member_order :
  Initiation.ofText? (Initiation.text
      ⟨[⟨none, "t", ["\"\\"]⟩], ["\x01"],
        some [⟨"t/1", .object [("b", .array [.number (.integer (-1))]), ("a", .null)]⟩]⟩)
    = some ⟨[⟨none, "t", ["\"\\"]⟩], ["\x01"],
        some [⟨"t/1", .object [("b", .array [.number (.integer (-1))]), ("a", .null)]⟩]⟩
  := by
  apply packages_read_back.1
  · rintro _ ⟨⟩ report hreport
    rw [List.mem_singleton.mp hreport]
    apply Value.Plain.object
    · intro member hmember
      rcases List.mem_pair.mp hmember with rfl | rfl
      · apply Value.Plain.array
        intro v hv
        rw [List.mem_singleton.mp hv]
        apply Value.Plain.integer <;> decide
      · apply Value.Plain.null
    · decide
  · decide

end DeviceManagement
