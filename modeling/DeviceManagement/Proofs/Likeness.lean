import DeviceManagement.Command.Queue
import DeviceManagement.Proofs.Requests
import Mathlib.Data.List.Forall2

/-!
# Likeness of runs

A `Likeness` tells which networks, addresses and actions count as alike. Two activities
`Correspond` when, on networks that are alike, they yield related values, leave networks that
are alike, and do actions that are alike, one by one. Sequences correspond part by part, so
that what is proved here of executing commands holds for every notion of likeness, whatever it
hides or shows.
-/

namespace DeviceManagement

/-- Lists whose elements contribute the same, one by one, contribute the same. -/
theorem filterMap_eq_of_forall₂
    {α β : Type} {f : α → Option β} {as as' : List α}
    (h : List.Forall₂ (fun a a' => f a = f a') as as') :
  as.filterMap f = as'.filterMap f
  := by
  induction h with
  | nil => rfl
  | cons ha _ ih => rw [List.filterMap_cons, List.filterMap_cons, ha, ih]

/-- What counts as alike in two runs. An address may be exchanged for one like it wherever it is
got or mentioned, and networks that are alike answer alike. -/
structure Likeness (N : Type) [Network N] where
  network : N → N → Prop
  address : Address → Address → Prop
  action : Action → Action → Prop
  address_refl (a : Address) : address a a
  log (event : Event) : action (.log event) (.log event)
  wait (milliseconds : Nat) : action (.wait milliseconds) (.wait milliseconds)
  get {a a' : Address} (h : address a a') : action (.get a) (.get a')
  fetching {a a' : Address} (h : address a a') (clientUri : String) :
    action (.log (.fetching a clientUri)) (.log (.fetching a' clientUri))
  retried {a a' : Address} (h : address a a') (attempt maxAttempts : Nat) (fault : Fault) :
    action (.log (.fetchRetried a attempt maxAttempts fault))
      (.log (.fetchRetried a' attempt maxAttempts fault))
  outcome {n n' : N} (hn : network n n') {a a' : Address} (ha : address a a') :
    (Network.get n a).1 = (Network.get n' a').1
  left {n n' : N} (hn : network n n') {a a' : Address} (ha : address a a') :
    network (Network.get n a).2 (Network.get n' a').2

/-- Results are alike if what they consist of is. -/
structure Likeness.Alike {N : Type} [Network N] (l : Likeness N) {α β : Type}
    (rel : α → β → Prop) (r : Result N α) (r' : Result N β) : Prop where
  value : rel r.value r'.value
  network : l.network r.network r'.network
  actions : List.Forall₂ l.action r.actions r'.actions

/-- Activities correspond if their results are alike on networks that are. -/
def Likeness.Correspond {N : Type} [Network N] (l : Likeness N) {α β : Type}
    (rel : α → β → Prop) (x : Activity N α) (y : Activity N β) : Prop :=
  ∀ n n', l.network n n' → l.Alike rel (x n) (y n')

/-- The targets of two fetches are alike if both name a resource, or lack one for the same
reason. -/
inductive Likeness.Targets {N : Type} [Network N] (l : Likeness N) :
    Except Fault (Address × String) → Except Fault (Address × String) → Prop
  | ok {a a' : Address} (h : l.address a a') (clientUri : String) :
      Targets l (.ok (a, clientUri)) (.ok (a', clientUri))
  | error (fault : Fault) : Targets l (.error fault) (.error fault)

/-- Two commands are alike if they are of one kind and have targets that are alike. -/
structure Likeness.Commands {N : Type} [Network N] (l : Likeness N) (c c' : Command) : Prop where
  kind : c.kind = c'.kind
  target : l.Targets c.fetchTarget c'.fetchTarget

/-- Two catalogs take the body of a resource alike. -/
def Likeness.Stores {N : Type} [Network N] (l : Likeness N) (catalog catalog' : Catalog) : Prop :=
  ∀ clientUri body, List.Forall₂ l.action
    ((Command.storeBody catalog clientUri body).events.map .log)
    ((Command.storeBody catalog' clientUri body).events.map .log)

namespace Likeness

variable {N : Type} [Network N] (l : Likeness N) {α β γ δ : Type}

/-- The likeness under which a network and an address are only like themselves, and an action is
at least like itself unless it posts. -/
def ofActions (action : Action → Action → Prop)
    (h : ∀ a : Action, a.isPost = false → action a a) : Likeness N where
  network := Eq
  address := Eq
  action := action
  address_refl _ := rfl
  log _ := h _ rfl
  wait _ := h _ rfl
  get := by
    rintro a _ rfl
    exact h _ rfl
  fetching := by
    rintro a _ rfl clientUri
    exact h _ rfl
  retried := by
    rintro a _ rfl attempt maxAttempts fault
    exact h _ rfl
  outcome := by
    rintro n _ rfl a _ rfl
    rfl
  left := by
    rintro n _ rfl a _ rfl
    rfl

variable {l}

/-! ### Sequences -/

theorem actions_log (events : List Event) :
  List.Forall₂ l.action (events.map .log) (events.map .log)
  := by
  induction events with
  | nil => exact .nil
  | cons event events ih => exact .cons (l.log event) ih

/-- A catalog takes a body like itself. -/
theorem stores_refl (catalog : Catalog) :
  l.Stores catalog catalog
  := by
  intro clientUri body
  apply actions_log

theorem commands_refl (c : Command) :
  l.Commands c c
  := by
  refine ⟨rfl, ?_⟩
  cases c.fetchTarget with
  | ok target => exact .ok (l.address_refl target.1) target.2
  | error fault => exact .error fault

theorem Correspond.pure {rel : α → β → Prop} {a : α} {b : β} (h : rel a b) :
  l.Correspond rel (Pure.pure a) (Pure.pure b)
  := by
  intro n n' hn
  exact ⟨h, hn, .nil⟩

/-- Sequences correspond if their parts do. -/
theorem Correspond.bind
    {rel : α → β → Prop} {rel' : γ → δ → Prop} {x : Activity N α} {y : Activity N β}
    {f : α → Activity N γ} {g : β → Activity N δ} (hx : l.Correspond rel x y)
    (hf : ∀ a b, rel a b → l.Correspond rel' (f a) (g b)) :
  l.Correspond rel' (x >>= f) (y >>= g)
  := by
  intro n n' hn
  obtain ⟨hvalue, hnetwork, hactions⟩ := hx n n' hn
  obtain ⟨hvalue', hnetwork', hactions'⟩ := hf _ _ hvalue _ _ hnetwork
  exact ⟨hvalue', hnetwork', List.rel_append hactions hactions'⟩

theorem Correspond.act {action action' : Action} (h : l.action action action') :
  l.Correspond Eq (Activity.act action) (Activity.act action')
  := by
  intro n n' hn
  exact ⟨rfl, hn, .cons h .nil⟩

theorem Correspond.log (event : Event) :
  l.Correspond Eq (Activity.log event) (Activity.log event)
  := Correspond.act (l.log event)

theorem Correspond.ofLogged
    {rel : α → β → Prop} {x : Logged α} {y : Logged β} (h : rel x.value y.value)
    (hevents : List.Forall₂ l.action (x.events.map .log) (y.events.map .log)) :
  l.Correspond rel (Activity.ofLogged x) (Activity.ofLogged y)
  := by
  intro n n' hn
  exact ⟨h, hn, hevents⟩

theorem Correspond.get {a a' : Address} (h : l.address a a') :
  l.Correspond Eq (Activity.get a) (Activity.get a')
  := by
  intro n n' hn
  exact ⟨l.outcome hn h, l.left hn h, .cons (l.get h) .nil⟩

/-! ### Commands -/

/-- Fetches from addresses that are alike go the same way, attempt by attempt. -/
theorem Correspond.fetch
    (retry : RetryPolicy) {a a' : Address} (h : l.address a a') (more attempt : Nat) :
  l.Correspond Eq (Command.fetch retry a more attempt) (Command.fetch retry a' more attempt)
  := by
  induction more generalizing attempt with
  | zero => exact Correspond.get h
  | succ more ih =>
      apply Correspond.bind (Correspond.get h)
      rintro outcome _ rfl
      cases outcome with
      | ok body => exact Correspond.pure rfl
      | error fault =>
          dsimp only
          cases fault.transient with
          | false => exact Correspond.pure rfl
          | true =>
              apply Correspond.bind (Correspond.act (l.retried h _ _ _))
              rintro _ _ -
              apply Correspond.bind (Correspond.act (l.wait _))
              rintro _ _ -
              apply ih

theorem Correspond.executeFetch
    (retry : RetryPolicy) {catalog catalog' : Catalog} (hstores : l.Stores catalog catalog')
    {c c' : Command} (h : l.Commands c c') :
  l.Correspond Eq (c.executeFetch retry catalog) (c'.executeFetch retry catalog')
  := by
  obtain ⟨-, htarget⟩ := h
  unfold Command.executeFetch
  generalize c.fetchTarget = target, c'.fetchTarget = target' at htarget
  cases htarget with
  | error fault => exact Correspond.pure rfl
  | ok ha clientUri =>
      apply Correspond.bind (Correspond.act (l.fetching ha clientUri))
      rintro _ _ -
      apply Correspond.bind (Correspond.fetch retry ha _ _)
      rintro outcome _ rfl
      cases outcome with
      | error fault => exact Correspond.pure rfl
      | ok body =>
          have hbody : l.Correspond Eq
              (Activity.ofLogged (Command.storeBody catalog clientUri body))
              (Activity.ofLogged (Command.storeBody catalog' clientUri body)) :=
            Correspond.ofLogged rfl (hstores clientUri body)
          apply Correspond.bind hbody
          rintro _ _ -
          exact Correspond.pure rfl

/-- Commands that are alike are answered the same. -/
theorem Correspond.execute
    (policy : ExecutionPolicy) {catalog catalog' : Catalog} (hstores : l.Stores catalog catalog')
    {c c' : Command} (h : l.Commands c c') :
  l.Correspond Eq (c.execute policy catalog) (c'.execute policy catalog')
  := by
  unfold Command.execute
  rw [h.kind]
  cases c'.kind with
  | hget =>
      apply Correspond.bind (Correspond.executeFetch policy.retry hstores h)
      rintro outcome _ rfl
      cases outcome with
      | ok done => exact Correspond.pure rfl
      | error fault =>
          apply Correspond.bind (Correspond.log _)
          rintro _ _ -
          exact Correspond.pure rfl
  | _ => exact Correspond.pure rfl

theorem Correspond.executeAll
    (policy : ExecutionPolicy) {catalog catalog' : Catalog} (hstores : l.Stores catalog catalog')
    {commands commands' : List Command} (h : List.Forall₂ l.Commands commands commands') :
  l.Correspond Eq (Command.executeAll policy catalog commands)
    (Command.executeAll policy catalog' commands')
  := by
  induction h with
  | nil => exact Correspond.pure rfl
  | cons hc _ ih =>
      apply Correspond.bind (Correspond.execute policy hstores hc)
      rintro first _ rfl
      apply Correspond.bind ih
      rintro rest _ rfl
      exact Correspond.pure rfl

/-- Queues that differ in their commands only, and hold commands that are alike, have the same
statuses when they have been drained. -/
theorem Correspond.drain
    {catalog catalog' : Catalog} (hstores : l.Stores catalog catalog') (q : CommandQueue)
    {commands : List Command} (h : List.Forall₂ l.Commands q.commands commands) :
  l.Correspond Eq (q.drain catalog) ({ q with commands := commands }.drain catalog')
  := by
  apply Correspond.bind (Correspond.executeAll q.policy hstores h)
  rintro statuses _ rfl
  exact Correspond.pure rfl

end Likeness

end DeviceManagement
