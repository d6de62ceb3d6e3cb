import DeviceManagement.Alert
import Mathlib.Data.List.DropRight
import Mathlib.Data.List.Induction

/-!
# Delivery of alerts

A `Delivery` is a queue of alerts with what its flushes have given so far. It starts with the
empty queue, and alerts are added and flushed in any order of these operations. The queue is
never pruned, so that what has been delivered rests on a split of it: the alerts added before the
last flush are in transit and stand in front, and those added since then wait behind them.
-/

namespace DeviceManagement

/-! ### Operations -/

/-- What can be done to a queue of alerts. -/
inductive AlertOperation where
  | add (alert : Alert)
  | flush

namespace AlertOperation

/-- The alert that an operation adds. -/
def added? : AlertOperation → Option Alert
  | add alert => some alert
  | flush => none

/-- Whether an operation adds an alert. -/
def adds (op : AlertOperation) : Bool :=
  op.added?.isSome

/-- The alerts that some operations add. -/
def added (ops : List AlertOperation) : List Alert :=
  ops.filterMap added?

/-- The operations since the last flush, each of which adds an alert. -/
def sinceFlush (ops : List AlertOperation) : List AlertOperation :=
  ops.rtakeWhile adds

/-- The operations before those since the last flush, which is the last of them. -/
def untilFlush (ops : List AlertOperation) : List AlertOperation :=
  ops.rdropWhile adds

theorem added_append (ops more : List AlertOperation) :
  added (ops ++ more) = added ops ++ added more
  := List.filterMap_append

variable (ops : List AlertOperation)

theorem added_untilFlush_append :
  added (untilFlush ops) ++ added (sinceFlush ops) = added ops
  := by
  rw [← added_append, untilFlush, sinceFlush, List.rdropWhile_append_rtakeWhile]

/-- As many alerts have been added since the last flush as there have been operations. -/
theorem length_added_sinceFlush :
  (added (sinceFlush ops)).length = (sinceFlush ops).length
  := by
  apply List.filterMap_length_eq_length.mpr
  intro op hop
  have hadds : op.adds = true := List.mem_rtakeWhile_imp hop
  exact hadds

end AlertOperation

/-- A queue of alerts, and what its flushes have given, in order. -/
structure Delivery where
  queue : AlertQueue
  flushed : List (List String)

namespace Delivery

/-- The delivery after an operation. -/
def perform (d : Delivery) : AlertOperation → Delivery
  | .add alert => { d with queue := d.queue.add alert }
  | .flush => ⟨d.queue.flush.2, d.flushed ++ [d.queue.flush.1]⟩

/-- The delivery after some operations on the empty queue. -/
def after (ops : List AlertOperation) : Delivery :=
  ops.foldl perform ⟨.empty, []⟩

theorem after_append_singleton (ops : List AlertOperation) (op : AlertOperation) :
  after (ops ++ [op]) = (after ops).perform op
  := by
  simp [after]

end Delivery

/-! ### The split of a queue -/

namespace Alert

/-- The URN of the type of an alert, which is all that a package tells of it. -/
def urn (alert : Alert) : String :=
  alert.type.urn

/-- The alert once it has been taken into a package. -/
def taken (alert : Alert) : Alert :=
  { alert with inTransit := true }

/-- The alert as it is before it is taken into a package. -/
def untaken (alert : Alert) : Alert :=
  { alert with inTransit := false }

theorem untaken_of_not_inTransit {alert : Alert} (h : alert.inTransit = false) :
  alert.untaken = alert
  := by
  cases alert
  cases h
  rfl

end Alert

namespace AlertQueue

/-- A queue is split if its front is in transit and the rest of it waits. -/
structure Split (q : AlertQueue) (front back : List Alert) : Prop where
  alerts : q.alerts = front.map Alert.taken ++ back
  waits : ∀ alert ∈ back, alert.inTransit = false

namespace Split

variable {q : AlertQueue} {front back : List Alert} (h : q.Split front back)
include h

theorem pending_eq :
  q.pending = back
  := by
  have hfront : (front.map Alert.taken).filter (fun alert => !alert.inTransit) = [] := by
    simp [Alert.taken]
  have hback : back.filter (fun alert => !alert.inTransit) = back := by
    apply List.filter_eq_self.mpr
    intro alert halert
    rw [h.waits alert halert, Bool.not_false]
  rw [pending, h.alerts, List.filter_append, hfront, hback, List.nil_append]

theorem add {alert : Alert} (halert : alert.inTransit = false) :
  (q.add alert).Split front (back ++ [alert])
  := by
  constructor
  · rw [AlertQueue.add, h.alerts, List.append_assoc]
  · intro a ha
    obtain ha | ha := List.mem_append.mp ha
    · exact h.waits a ha
    · rw [List.mem_singleton.mp ha]
      exact halert

theorem flush :
  q.flush.2.Split (front ++ back) []
  := by
  constructor
  · rw [List.append_nil, AlertQueue.flush]
    change q.alerts.map Alert.taken = _
    rw [h.alerts, List.map_append, List.map_append, List.map_map]
    rfl
  · intro a ha
    cases ha

end Split

end AlertQueue

/-! ### Runs -/

open AlertOperation

namespace Delivery

/-- After a run, the alerts added before the last flush are in transit, and have been given by
the flushes in the order in which they were added, and those added since then wait. -/
theorem split_after
    {ops : List AlertOperation} (h : ∀ alert ∈ added ops, alert.inTransit = false) :
  (after ops).queue.Split (added (untilFlush ops)) (added (sinceFlush ops)) ∧
    (after ops).flushed.flatten = (added (untilFlush ops)).map Alert.urn
  := by
  induction ops using List.reverseRecOn with
  | nil => exact ⟨⟨rfl, fun _ => nofun⟩, rfl⟩
  | append_singleton ops op ih =>
      rw [added_append] at h
      obtain ⟨hsplit, hflushed⟩ := ih fun alert halert => h alert (List.mem_append_left _ halert)
      rw [after_append_singleton]
      cases op with
      | add alert =>
          have huntil : untilFlush (ops ++ [.add alert]) = untilFlush ops :=
            List.rdropWhile_concat_pos _ _ _ rfl
          have hsince : sinceFlush (ops ++ [.add alert]) = sinceFlush ops ++ [.add alert] :=
            List.rtakeWhile_concat_pos _ _ _ rfl
          rw [huntil, hsince, added_append]
          refine ⟨hsplit.add ?_, hflushed⟩
          apply h
          exact List.mem_append_right _ (List.mem_singleton_self alert)
      | flush =>
          have huntil : untilFlush (ops ++ [.flush]) = ops ++ [.flush] :=
            List.rdropWhile_concat_neg _ _ _ Bool.false_ne_true
          have hsince : sinceFlush (ops ++ [.flush]) = [] :=
            List.rtakeWhile_concat_neg _ _ _ Bool.false_ne_true
          have hnone : added (ops ++ [.flush]) = added ops := by
            rw [added_append]
            apply List.append_nil
          rw [huntil, hsince, hnone, ← added_untilFlush_append]
          refine ⟨hsplit.flush, ?_⟩
          rw [perform, List.flatten_append, hflushed, List.map_append, AlertQueue.flush,
            hsplit.pending_eq, List.flatten_singleton]
          rfl

end Delivery

/-! ### What becomes of an alert -/

/-- An alert goes on as it is, or it is taken into a package. -/
inductive Alert.GoesOn : Alert → Alert → Prop
  | same (alert : Alert) : GoesOn alert alert
  | taken {alert : Alert} (waits : alert.inTransit = false) : GoesOn alert alert.taken

theorem Alert.goesOn_taken (alert : Alert) :
  alert.GoesOn alert.taken
  := by
  obtain ⟨type, source, target, mark, dataType, data, inTransit⟩ := alert
  cases inTransit with
  | false => exact .taken rfl
  | true => exact .same _

theorem Alert.GoesOn.trans {a b c : Alert} (h : a.GoesOn b) (h' : b.GoesOn c) :
  a.GoesOn c
  := by
  cases h with
  | same => exact h'
  | taken waits =>
      cases h' with
      | same => exact .taken waits
      | taken waits' => exact .taken waits

namespace AlertQueue

/-- A queue goes on as one in which every alert goes on at its position. -/
def GoesOn (q q' : AlertQueue) : Prop :=
  ∀ (k : Nat) (alert : Alert), q.alerts[k]? = some alert →
    ∃ alert', q'.alerts[k]? = some alert' ∧ alert.GoesOn alert'

theorem GoesOn.refl (q : AlertQueue) :
  q.GoesOn q
  := by
  intro k alert hk
  exact ⟨alert, hk, .same alert⟩

theorem GoesOn.trans {q q' q'' : AlertQueue} (h : q.GoesOn q') (h' : q'.GoesOn q'') :
  q.GoesOn q''
  := by
  intro k alert hk
  obtain ⟨alert', hk', hgoes⟩ := h k alert hk
  obtain ⟨alert'', hk'', hgoes'⟩ := h' k alert' hk'
  exact ⟨alert'', hk'', hgoes.trans hgoes'⟩

end AlertQueue

namespace Delivery

theorem goesOn_perform (d : Delivery) (op : AlertOperation) :
  d.queue.GoesOn (d.perform op).queue
  := by
  intro k alert hk
  cases op with
  | add new =>
      refine ⟨alert, ?_, .same alert⟩
      obtain ⟨hlt, -⟩ := List.getElem?_eq_some_iff.mp hk
      rw [perform, AlertQueue.add, List.getElem?_append_left hlt, hk]
  | flush =>
      refine ⟨alert.taken, ?_, alert.goesOn_taken⟩
      rw [perform, AlertQueue.flush, List.getElem?_map, hk]
      rfl

/-- Whatever alerts there have been go on during the rest of a run. -/
theorem goesOn_after (ops more : List AlertOperation) :
  (after ops).queue.GoesOn (after (ops ++ more)).queue
  := by
  induction more using List.reverseRecOn with
  | nil =>
      rw [List.append_nil]
      exact .refl _
  | append_singleton more op ih =>
      rw [← List.append_assoc, after_append_singleton]
      exact ih.trans (goesOn_perform _ op)

/-- Alerts that are added while they wait are given by the flushes once each and in the order in
which they were added: what the flushes have given, followed by the URNs of the alerts that
still wait, are the URNs of all alerts that have been added. The queue holds all of these alerts
in order, unchanged but for being in transit, of which those added since the last flush wait. In
the rest of a run every alert in the queue keeps its position, and changes at most by being taken
into a package. -/
theorem after_delivers_once_in_order
    (ops : List AlertOperation) (h : ∀ alert ∈ added ops, alert.inTransit = false) :
  let d := after ops
  d.flushed.flatten ++ d.queue.pending.map Alert.urn = (added ops).map Alert.urn ∧
    d.queue.length = (added ops).length ∧
    d.queue.pendingCount = (sinceFlush ops).length ∧
    d.queue.pending = added (sinceFlush ops) ∧
    d.queue.alerts.map Alert.untaken = added ops ∧
    ∀ more, d.queue.GoesOn (after (ops ++ more)).queue
  := by
  intro d
  obtain ⟨hsplit, hflushed⟩ := split_after h
  have hadded := added_untilFlush_append ops
  have huntaken : d.queue.alerts.map Alert.untaken = added ops := by
    calc
      d.queue.alerts.map Alert.untaken
        = (added (untilFlush ops) ++ added (sinceFlush ops)).map Alert.untaken := by
          rw [hsplit.alerts, List.map_append, List.map_append, List.map_map]
          rfl
      _ = (added ops).map id := by
          rw [hadded]
          apply List.map_congr_left
          intro alert halert
          exact Alert.untaken_of_not_inTransit (h alert halert)
      _ = added ops := List.map_id _
  refine ⟨?_, ?_, ?_, hsplit.pending_eq, huntaken, goesOn_after ops⟩
  · rw [hflushed, hsplit.pending_eq, ← List.map_append, hadded]
  · rw [← huntaken, List.length_map, AlertQueue.length]
  · rw [AlertQueue.pendingCount, hsplit.pending_eq, length_added_sinceFlush]

/-- An alert that follows a flush waits, and the one before it is not given again. -/
theorem after_delivers_once_in_order_add_flush_add :
  let first := Alert.ofType .clientInitiated
  let second := Alert.ofType (.other "urn:x")
  let d := after [.add first, .flush, .add second]
  d.flushed = [[AlertType.clientInitiatedUrn]] ∧
    d.flushed.flatten ++ d.queue.pending.map Alert.urn
      = [AlertType.clientInitiatedUrn, "urn:x"] ∧
    d.queue.length = 2 ∧ d.queue.pendingCount = 1
  := by
  intro first second d
  have hadded : ∀ alert ∈ added [.add first, .flush, .add second], alert.inTransit = false := by
    decide
  obtain ⟨hurns, hlength, hpending, -⟩ := after_delivers_once_in_order _ hadded
  exact ⟨rfl, hurns, hlength, hpending⟩

end Delivery

end DeviceManagement
