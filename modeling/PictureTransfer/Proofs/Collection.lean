import PictureTransfer.Proofs.Callback

/-!
# Transfers that wait on bulk IN

On endpoint queues, plain actions put what they send behind what waits, and actions that take
nothing back make an empty queue exactly what they send (`queue_of_forward`). A host that collects
everything takes one transfer after another, each with its completion, until none waits: that is
`Attached.Collected`, and `Attached.Answered` is a host that does so after each of its transfers.
Both are determined by the state they start from (`Collected.unique`, `Answered.unique`).
`Attached.CollectedEach` is a host that does so after each callback.
-/

namespace PictureTransfer

variable {σ : Type}

namespace Bus.Endpoints

/-- The queues without the bulk-IN transfer that waits longest. -/
def popped (bus : Endpoints) : Endpoints :=
  { bus with waiting := bus.waiting.eraseP (·.1 = Endpoint.bulkIn) }

theorem pop?_of_queue {bus : Endpoints} {data : Bytes} {waiting : List Bytes}
    (waits : bus.queue Endpoint.bulkIn = data :: waiting) :
    bus.pop? Endpoint.bulkIn = some (data, bus.popped) := by
  rw [pop?, waits]
  rfl

theorem queue_popped (bus : Endpoints) :
    bus.popped.queue Endpoint.bulkIn = (bus.queue Endpoint.bulkIn).tail := by
  rw [queue, queue, popped, ← List.map_tail]
  apply congrArg
  dsimp only
  -- what waits on other endpoints is passed over by both sides
  induction bus.waiting with
  | nil => rfl
  | cons w rest ih =>
    by_cases own : w.1 = Endpoint.bulkIn
    · simp [own]
    · simpa [own] using ih

end Bus.Endpoints

namespace Attached

/-! ## What actions do to the queue -/

/-- The bulk-IN transfers that wait. -/
def queue (a : Attached Bus.Endpoints σ) : List Bytes := a.bus.queue Endpoint.bulkIn

theorem queue_act {a : Attached Bus.Endpoints σ} {x : Action} (plain : x.Plain) :
    (a.act x).queue = a.queue ++ x.transfer?.toList := by
  cases plain with
  | report event => exact (List.append_nil _).symm
  | armOut => exact (List.append_nil _).symm
  | submit data fits =>
    show (Bus.perform (.submitIn Endpoint.bulkIn data) a.bus).queue Endpoint.bulkIn = _
    rw [Bus.perform, Bus.Endpoints.request_submitIn a.bus _ fits]
    simp [Bus.Endpoints.queue, queue]

/-- Regular actions that abort nothing put what they send behind what waits. -/
theorem queue_of_regular {a : Attached Bus.Endpoints σ} {actions : List Action}
    (regular : ∀ x ∈ actions, x.Regular) (keeps : .request (.abortIn Endpoint.bulkIn) ∉ actions) :
    (actions.foldl act a).queue = a.queue ++ actions.filterMap Action.transfer? := by
  induction actions generalizing a with
  | nil => exact (List.append_nil _).symm
  | cons x rest ih =>
    obtain ⟨first, later⟩ := List.forall_mem_cons.1 regular
    obtain ⟨stays, others⟩ := List.ne_and_not_mem_of_not_mem_cons keeps
    have head : (a.act x).queue = a.queue ++ x.transfer?.toList := by
      cases first with
      | plain plain => exact queue_act plain
      | abortIn => exact absurd rfl stays
      | clearStall ep => exact (List.append_nil _).symm
    rw [List.foldl_cons, ih later others, head, List.append_assoc, filterMap_cons_eq_append]

/-- Plain actions put what they send behind what waits. -/
theorem queue_of_plain {a : Attached Bus.Endpoints σ} {actions : List Action}
    (plain : ∀ x ∈ actions, x.Plain) :
    (actions.foldl act a).queue = a.queue ++ actions.filterMap Action.transfer? :=
  queue_of_regular (fun x listed => .plain (plain x listed)) (Action.abortIn_not_mem_of_plain plain)

/-- An action that sends nothing empties the queue or leaves it as it is. -/
theorem queue_act_silent {a : Attached Bus.Endpoints σ} {x : Action} (regular : x.Regular)
    (sends : x.transfer? = none) :
    (a.act x).queue = if x = .request (.abortIn Endpoint.bulkIn) then [] else a.queue := by
  cases regular with
  | plain plain =>
    rw [queue_act plain, sends]
    cases plain with
    | submit data fits => cases sends
    | report event => exact List.append_nil _
    | armOut => exact List.append_nil _
  | abortIn =>
    rw [if_pos rfl]
    exact a.bus.queue_abortIn Endpoint.bulkIn
  | clearStall ep => rfl

/-- Actions that send nothing leave some of what waits, from the front. -/
theorem queue_prefix_of_silent {a : Attached Bus.Endpoints σ} {actions : List Action}
    (silent : Action.Silent actions) : (actions.foldl act a).queue <+: a.queue := by
  induction actions generalizing a with
  | nil => exact List.prefix_rfl
  | cons x rest ih =>
    obtain ⟨⟨regular, sends⟩, later⟩ := List.forall_mem_cons.1 silent
    refine (ih later).trans ?_
    rw [queue_act_silent regular sends]
    split
    · exact List.nil_prefix
    · exact List.prefix_rfl

/-- Where nothing waits, actions that send nothing leave it so. -/
theorem queue_of_silent {a : Attached Bus.Endpoints σ} {actions : List Action}
    (silent : Action.Silent actions) (empty : a.queue = []) :
    (actions.foldl act a).queue = [] := by
  have front := queue_prefix_of_silent (a := a) silent
  rw [empty] at front
  exact List.prefix_nil.1 front

/-- Actions that neither send nor abort anything leave all that waits. -/
theorem queue_of_kept {a : Attached Bus.Endpoints σ} {actions : List Action}
    (silent : Action.Silent actions) (keeps : .request (.abortIn Endpoint.bulkIn) ∉ actions) :
    (actions.foldl act a).queue = a.queue := by
  rw [queue_of_regular (fun x listed => (silent x listed).1) keeps, silent.transfers,
    List.append_nil]

/-- Where nothing waits, what is sent waits. -/
theorem queue_of_forward {a : Attached Bus.Endpoints σ} {actions : List Action}
    (forward : Action.Forward actions) (empty : a.queue = []) :
    (actions.foldl act a).queue = actions.filterMap Action.transfer? := by
  obtain ⟨front, back, rfl, silent, plain⟩ := forward
  rw [List.foldl_append, queue_of_plain plain, queue_of_silent silent empty,
    List.filterMap_append, List.filterMap_eq_nil_iff.2 fun x hx => (silent x hx).2]

/-! ## A host that collects everything -/

variable [Responder σ]

/-- The transfer that waits longest is collected, and the responder learns of it. -/
def collect (a : Attached Bus.Endpoints σ) : Attached Bus.Endpoints σ :=
  ({ a with bus := a.bus.popped } : Attached Bus.Endpoints σ).inCompleted Endpoint.bulkIn

theorem responder_collect (a : Attached Bus.Endpoints σ) : a.collect.responder
    = (Responder.inCompleted (Bus.view a.bus.popped) Endpoint.bulkIn a.responder).1 :=
  responder_step _ (.inCompleted Endpoint.bulkIn)

/-- What a completion brings forth goes behind what still waits. -/
theorem queue_collect {a : Attached Bus.Endpoints σ} {data : Bytes} {waiting : List Bytes}
    (waits : a.queue = data :: waiting)
    (plain : ∀ x ∈ (Responder.inCompleted (Bus.view a.bus.popped) Endpoint.bulkIn a.responder).2,
      x.Plain) :
    a.collect.queue = waiting ++
      (Responder.inCompleted (Bus.view a.bus.popped) Endpoint.bulkIn a.responder).2.filterMap
        Action.transfer? := by
  have left : a.bus.popped.queue Endpoint.bulkIn = waiting := by
    rw [Bus.Endpoints.queue_popped]
    exact congrArg List.tail waits
  rw [← left]
  exact queue_of_plain plain

/-- The transfers that wait on bulk IN are collected one after another, and so are those that the
completions bring forth. -/
inductive Collected : Attached Bus.Endpoints σ → List Bytes → Attached Bus.Endpoints σ → Prop where
  | done {a : Attached Bus.Endpoints σ} (empty : a.queue = []) : Collected a [] a
  | next {a b : Attached Bus.Endpoints σ} {data : Bytes} {waiting sent : List Bytes}
      (waits : a.queue = data :: waiting) (later : Collected a.collect sent b) :
      Collected a (data :: sent) b

/-- The transfers of a host come in one after another, and what waits is collected after each. -/
inductive Answered : Attached Bus.Endpoints σ → List Bytes → List (List Bytes) →
    Attached Bus.Endpoints σ → Prop where
  | nil (a : Attached Bus.Endpoints σ) : Answered a [] [] a
  | cons {a b c : Attached Bus.Endpoints σ} {out : Bytes} {sent : List Bytes} {outs : List Bytes}
      {answers : List (List Bytes)} (collected : Collected (a.outCompleted out) sent b)
      (later : Answered b outs answers c) : Answered a (out :: outs) (sent :: answers) c

/-- Callbacks happen one after another, and what waits is collected after each. The history has each
callback with what was collected after it. -/
inductive CollectedEach : Attached Bus.Endpoints σ → List (Callback × List Bytes) →
    Attached Bus.Endpoints σ → Prop where
  | nil (a : Attached Bus.Endpoints σ) : CollectedEach a [] a
  | concat {a b c : Attached Bus.Endpoints σ} {history : List (Callback × List Bytes)}
      {x : Callback} {sent : List Bytes} (earlier : CollectedEach a history b)
      (collected : Collected (b.step x) sent c) : CollectedEach a (history ++ [(x, sent)]) c

theorem Collected.unique {a b c : Attached Bus.Endpoints σ} {sent again : List Bytes}
    (h : Collected a sent b) (k : Collected a again c) : sent = again ∧ b = c := by
  -- the queue says whether anything is collected, and what
  induction h generalizing again c with
  | done empty =>
    cases k with
    | done => exact ⟨rfl, rfl⟩
    | next waits =>
      rw [empty] at waits
      cases waits
  | next waits later ih =>
    cases k with
    | done empty =>
      rw [waits] at empty
      cases empty
    | next waits' later' =>
      rw [waits] at waits'
      cases waits'
      obtain ⟨rfl, rfl⟩ := ih later'
      exact ⟨rfl, rfl⟩

theorem Answered.unique {a b c : Attached Bus.Endpoints σ} {outs : List Bytes}
    {answers again : List (List Bytes)} (h : Answered a outs answers b)
    (k : Answered a outs again c) : answers = again ∧ b = c := by
  induction h generalizing again c with
  | nil a =>
    cases k
    exact ⟨rfl, rfl⟩
  | cons collected later ih =>
    cases k with
    | cons collected' later' =>
      obtain ⟨rfl, rfl⟩ := collected.unique collected'
      obtain ⟨rfl, rfl⟩ := ih later'
      exact ⟨rfl, rfl⟩

end Attached

end PictureTransfer
