import PictureTransfer.Proofs.DataStream
import PictureTransfer.Proofs.Relay.CameraStream
import PictureTransfer.Proofs.Relay.Translation
import Mathlib.Data.List.Forall2

/-!
# What one exchange with a camera gives out

An exchange reads containers one after another. `readings` lists what so many reads would give, and
`received` the containers among them that come before the first failure. `Admissible` says which
containers in front of these an exchange may take: no more than its budget, all with a header, and
none behind a RESPONSE. One read after another (`collected_succ`), an exchange takes as many as
that, and reads nothing behind the last one that it can go on from (`longest_collected`).
`exchange_relays` states this for every port, every translator and every transfer of the host.
-/

namespace PictureTransfer.Relay.CameraRelay

open Camera (Incoming Port)
open Container (classify)

variable {P : Type} [Port P]

/-! ## Reads -/

/-- What a read gives, and the port after it. -/
def reading (timeout : Nat) (p : P) : Except Camera.Error Bytes × P :=
  match Port.receive timeout p with
  | .ok container q => (.ok container, q)
  | .error e q => (.error e, q)

/-- What so many reads give, one after another, and the port after them. -/
def readings (timeout : Nat) : Nat → P → List (Except Camera.Error Bytes) × P
  | 0, p => ([], p)
  | n + 1, p =>
    let (outcome, q) := reading timeout p
    let (later, last) := readings timeout n q
    (outcome :: later, last)

theorem readings_succ (timeout n : Nat) (p : P) : readings timeout (n + 1) p
    = ((reading timeout p).1 :: (readings timeout n (reading timeout p).2).1,
      (readings timeout n (reading timeout p).2).2) := rfl

/-- The containers that are read before the first read that fails. -/
def received : List (Except Camera.Error Bytes) → List Bytes
  | .ok container :: later => container :: received later
  | .error _ :: _ => []
  | [] => []

/-! ## Containers that may be taken -/

/-- A container with a header in standard layout. -/
def HasHeader (container : Bytes) : Prop :=
  ∃ total h, Header.decodeStandard container = .ok (total, h)

/-- Containers in front of others: at most so many, all with a header, and all but the last no
RESPONSE. -/
structure Admissible (budget : Nat) (containers taken : List Bytes) : Prop where
  front : taken <+: containers
  few : taken.length ≤ budget
  headed : ∀ c ∈ taken, HasHeader c
  unanswered : ∀ c ∈ taken.dropLast, isResponse c = false

/-- The most containers that may be taken. -/
structure Longest (budget : Nat) (containers taken : List Bytes) : Prop where
  admissible : Admissible budget containers taken
  longest : ∀ other, Admissible budget containers other → other <+: taken

section Longest

variable {budget : Nat} {c : Bytes} {containers taken : List Bytes}

theorem admissible_nil (budget : Nat) (containers : List Bytes) :
    Admissible budget containers [] where
  front := List.nil_prefix
  few := Nat.zero_le budget
  headed := List.forall_mem_nil _
  unanswered := List.forall_mem_nil _

/-- Behind a first container that is taken more are taken only if it is no RESPONSE. -/
theorem admissible_cons : Admissible (budget + 1) (c :: containers) (c :: taken) ↔
    HasHeader c ∧ (taken = [] ∨ isResponse c = false ∧ Admissible budget containers taken) := by
  constructor
  · rintro ⟨front, few, headed, unanswered⟩
    obtain ⟨first, later⟩ := List.forall_mem_cons.1 headed
    refine ⟨first, ?_⟩
    cases taken with
    | nil => exact .inl rfl
    | cons d rest =>
      rw [List.dropLast_cons_cons] at unanswered
      obtain ⟨none_yet, others⟩ := List.forall_mem_cons.1 unanswered
      exact .inr ⟨none_yet, (List.cons_prefix_cons.1 front).2, Nat.le_of_succ_le_succ few, later,
        others⟩
  · rintro ⟨first, rfl | ⟨none_yet, front, few, headed, unanswered⟩⟩
    · exact ⟨⟨containers, rfl⟩, Nat.succ_le_succ (Nat.zero_le budget),
        List.forall_mem_singleton.2 first, List.forall_mem_nil _⟩
    · refine ⟨List.cons_prefix_cons.2 ⟨rfl, front⟩, Nat.succ_le_succ few,
        List.forall_mem_cons.2 ⟨first, headed⟩, ?_⟩
      cases taken with
      | nil => exact List.forall_mem_nil _
      | cons d rest =>
        rw [List.dropLast_cons_cons]
        exact List.forall_mem_cons.2 ⟨none_yet, unanswered⟩

/-- Nothing can be taken without a budget. -/
theorem longest_zero (containers : List Bytes) : Longest 0 containers [] where
  admissible := admissible_nil 0 containers
  longest _ h := by
    obtain rfl := List.eq_nil_of_length_eq_zero (Nat.le_zero.1 h.few)
    exact List.nil_prefix

theorem longest_nil (budget : Nat) : Longest budget [] [] where
  admissible := admissible_nil budget []
  longest _ h := h.front

/-- A container without a header is not taken, and nothing behind it. -/
theorem longest_of_headless (headless : ¬HasHeader c) : Longest budget (c :: containers) [] where
  admissible := admissible_nil budget _
  longest other h := by
    cases other with
    | nil => exact List.nil_prefix
    | cons d rest =>
      obtain ⟨rfl, -⟩ := List.cons_prefix_cons.1 h.front
      exact absurd (h.headed d List.mem_cons_self) headless

/-- A RESPONSE is taken, and nothing behind it. -/
theorem longest_of_response (headed : HasHeader c) (response : isResponse c = true) :
    Longest (budget + 1) (c :: containers) [c] where
  admissible := admissible_cons.2 ⟨headed, .inl rfl⟩
  longest other h := by
    cases other with
    | nil => exact List.nil_prefix
    | cons d rest =>
      obtain ⟨rfl, -⟩ := List.cons_prefix_cons.1 h.front
      rcases (admissible_cons.1 h).2 with rfl | ⟨none_yet, -⟩
      · exact List.prefix_refl _
      · rw [response] at none_yet
        cases none_yet

/-- Behind any other container one goes on with what is left of the budget. -/
theorem longest_of_other (headed : HasHeader c) (other : isResponse c = false)
    (later : Longest budget containers taken) :
    Longest (budget + 1) (c :: containers) (c :: taken) where
  admissible := admissible_cons.2 ⟨headed, .inr ⟨other, later.admissible⟩⟩
  longest more h := by
    cases more with
    | nil => exact List.nil_prefix
    | cons d rest =>
      obtain ⟨rfl, -⟩ := List.cons_prefix_cons.1 h.front
      rw [List.cons_prefix_cons]
      refine ⟨rfl, ?_⟩
      rcases (admissible_cons.1 h).2 with rfl | ⟨-, behind⟩
      · exact List.nil_prefix
      · exact later.longest rest behind

/-- A RESPONSE is the last container that is taken. -/
theorem Admissible.response_last (h : Admissible budget containers taken)
    {before after : List Bytes} (here : taken = before ++ c :: after)
    (response : isResponse c = true) : after = [] := by
  by_contra more
  -- with something behind it, it is not the last one
  have inside : c ∈ taken.dropLast := by
    rw [here, List.dropLast_append_of_ne_nil (List.cons_ne_nil _ _),
      List.dropLast_cons_of_ne_nil more]
    exact List.mem_append_right _ List.mem_cons_self
  rw [h.unanswered c inside] at response
  cases response

end Longest

/-! ## One read after another -/

/-- How many reads it takes to take some containers: a failure or a container without header is one
more, unless the budget is used up or a RESPONSE was the last. -/
def readsFor (budget : Nat) (taken : List Bytes) : Nat :=
  if taken.length = budget ∨ taken.getLast?.any isResponse = true then taken.length
  else taken.length + 1

theorem readsFor_cons {budget : Nat} {c : Bytes} (other : isResponse c = false)
    (taken : List Bytes) : readsFor (budget + 1) (c :: taken) = readsFor budget taken + 1 := by
  have last : (c :: taken).getLast?.any isResponse = taken.getLast?.any isResponse := by
    cases taken with
    | nil => exact other
    | cons d rest => rw [List.getLast?_cons_cons]
  simp only [readsFor, last, List.length_cons, Nat.succ_inj]
  split <;> rfl

/-- What becomes of the next read: it ends the exchange without a container, or it brings the last
one, or the exchange goes on. -/
theorem collected_succ (request : Request) (budget : Nat) (r : CameraRelay P) :
    let read := reading (patience request.stage) r.port
    (((∃ e, read.1 = .error e) ∨ ∃ c, read.1 = .ok c ∧ ¬HasHeader c) ∧
      r.collected request (budget + 1) = [] ∧
      (r.collect request (budget + 1)).2.port = read.2) ∨
    ∃ c reply, read.1 = .ok c ∧ HasHeader c ∧
      (isResponse c = true ∧ r.collected request (budget + 1) = [(c, reply)] ∧
        (r.collect request (budget + 1)).2.port = read.2 ∨
      isResponse c = false ∧ ∃ next : CameraRelay P, next.port = read.2 ∧
        r.collected request (budget + 1) = (c, reply) :: next.collected request budget ∧
        (r.collect request (budget + 1)).2.port = (next.collect request budget).2.port) := by
  intro read
  have same : read = reading (patience request.stage) r.port := rfl
  rw [reading] at same
  rw [collected, collect]
  cases brought : Port.receive (patience request.stage) r.port with
  | error e port =>
    rw [brought] at same
    rw [same]
    exact .inl ⟨.inl ⟨e, rfl⟩, rfl, rfl⟩
  | ok container port =>
    rw [brought] at same
    rw [same]
    dsimp only
    cases decoded : Header.decodeStandard container with
    | error e =>
      rw [Translator.toHost_of_rejected decoded]
      refine .inl ⟨.inr ⟨container, rfl, ?_⟩, rfl, rfl⟩
      rintro ⟨total, h, found⟩
      cases decoded.symm.trans found
    | ok found =>
      obtain ⟨total, h⟩ := found
      have kind : isResponse container = decide (h.kind = .response) := by
        rw [isResponse, decoded]
      obtain ⟨reply, translator, made⟩ := Translator.exists_toHost decoded request r.translator
      rw [made]
      refine .inr ⟨container, reply, rfl, ⟨total, h, decoded⟩, ?_⟩
      dsimp only
      by_cases response : h.kind = .response
      · rw [kind, if_pos response, if_pos response]
        exact .inl ⟨decide_eq_true response, rfl, rfl⟩
      · rw [kind, if_neg response, if_neg response]
        exact .inr ⟨decide_eq_false response, ⟨port, translator⟩, rfl, rfl, rfl⟩

/-- An exchange takes the most containers that it may, and reads no further than to find that out.
-/
theorem longest_collected (request : Request) (budget : Nat) (r : CameraRelay P) :
    let taken := (r.collected request budget).map Prod.fst
    Longest budget (received (readings (patience request.stage) budget r.port).1) taken ∧
      (r.collect request budget).2.port
        = (readings (patience request.stage) (readsFor budget taken) r.port).2 := by
  induction budget generalizing r with
  | zero => exact ⟨longest_zero _, rfl⟩
  | succ budget ih =>
    rw [readings_succ]
    rcases r.collected_succ request budget with
      ⟨failed, nothing, port⟩ | ⟨c, reply, brought, headed,
        ⟨response, last, port⟩ | ⟨other, next, here, more, port⟩⟩
    · rw [nothing, port]
      refine ⟨?_, rfl⟩
      rcases failed with ⟨e, failed⟩ | ⟨c, brought, headless⟩
      · rw [failed]
        exact longest_nil _
      · rw [brought]
        exact longest_of_headless headless
    · rw [last, port, brought]
      refine ⟨longest_of_response headed response, ?_⟩
      have one : readsFor (budget + 1) [c] = 1 := if_pos (.inr response)
      rw [List.map_singleton, one]
      rfl
    · -- the rest of the budget is for the relay that this read leaves
      obtain ⟨later, behind⟩ := ih next
      dsimp only
      rw [more, port, brought, List.map_cons, readsFor_cons other, readings_succ, behind]
      rw [here] at later ⊢
      exact ⟨longest_of_other headed other later, rfl⟩

/-! ## An exchange -/

/-- Every reply is what the translator at first makes of its container. -/
theorem replies_of_collected (request : Request) (budget : Nat) (r : CameraRelay P) :
    List.Forall₂ (fun c reply => ∃ kind, (r.translator.toHost c request).1 = .ok (kind, reply) ∧
        (isResponse c = true ↔ kind = .response))
      ((r.collected request budget).map Prod.fst) ((r.collected request budget).map Prod.snd) := by
  rw [List.forall₂_map_left_iff, List.forall₂_map_right_iff, List.forall₂_same]
  intro x listed
  obtain ⟨t, kind, same, made⟩ := made_of_collected listed
  rw [Translator.toHost_congr same] at made
  exact ⟨kind, made, isResponse_of_toHost made⟩

theorem toCamera_of_forwarded {out : Bytes} {c : Container} (classified : classify out = .ok c)
    (forwarded : c.header.kind = .command ∨ c.header.kind = .data) (t : Translator) :
    ∃ request next, t.toCamera out = (.ok (some request), next) ∧
      next.replyLayout = t.replyLayout := by
  rcases forwarded with command | data
  · exact ⟨_, _, Translator.toCamera_of_command classified command, rfl⟩
  · exact ⟨_, _, Translator.toCamera_of_data classified data, rfl⟩

/-- A transfer of the host that is neither a COMMAND nor DATA changes nothing and gives nothing, and
one that cannot be sent gives nothing. Otherwise the host is given the transfers of the replies to
the most containers that may be taken: at most eight, all with a header, read before the first read
that fails, and none behind a RESPONSE. No transfer is longer than a chunk, and no more is read than
was taken, up to one read that fails or brings no header; behind a RESPONSE nothing is read. -/
theorem exchange_relays (r : CameraRelay P) (out : Bytes) :
    ((∀ c, classify out = .ok c → c.header.kind ≠ .command ∧ c.header.kind ≠ .data) →
      r.exchange out = ([], r)) ∧
    ∀ c, classify out = .ok c → c.header.kind = .command ∨ c.header.kind = .data →
      ∃ request translator, r.translator.toCamera out = (.ok (some request), translator) ∧
        (∀ e port, Port.send request.container r.port = .error e port →
          r.exchange out = ([], ⟨port, translator⟩)) ∧
        ∀ port, Port.send request.container r.port = .ok () port →
          ∃ taken replies,
            Longest 8 (received (readings (patience request.stage) 8 port).1) taken ∧
            List.Forall₂ (fun c reply => ∃ kind,
              (r.translator.toHost c request).1 = .ok (kind, reply) ∧
                (isResponse c = true ↔ kind = .response)) taken replies ∧
            (r.exchange out).1 = replies.flatMap containerTransfers ∧
            (∀ transfer ∈ (r.exchange out).1, transfer.length ≤ 512) ∧
            (∀ before c after, taken = before ++ c :: after → isResponse c = true → after = []) ∧
            (r.exchange out).2.port
              = (readings (patience request.stage) (readsFor 8 taken) port).2 := by
  constructor
  · intro unforwarded
    cases classified : classify out with
    | error e => rw [exchange, Translator.toCamera_of_error classified]
    | ok c =>
      obtain ⟨command, data⟩ := unforwarded c classified
      rw [exchange, Translator.toCamera_of_other classified command data]
  · intro c classified forwarded
    obtain ⟨request, translator, translated, kept⟩ :=
      toCamera_of_forwarded classified forwarded r.translator
    refine ⟨request, translator, translated, ?_, ?_⟩
    · intro e port failed
      rw [exchange, translated]
      dsimp only
      rw [failed]
    · intro port sent
      have same : r.exchange out = collect request readBudget ⟨port, translator⟩ := by
        rw [exchange, translated]
        dsimp only
        rw [sent]
      obtain ⟨longest, last⟩ := longest_collected request readBudget ⟨port, translator⟩
      have made := replies_of_collected request readBudget ⟨port, translator⟩
      -- the translator with this request under way replies like the one before it
      simp only [Translator.toHost_congr kept] at made
      rw [same]
      refine ⟨_, _, longest, made, ?_, ?_, ?_, last⟩
      · rw [transfers_collect, List.flatMap_map]
      · intro transfer listed
        rw [transfers_collect] at listed
        obtain ⟨x, -, own⟩ := List.mem_flatMap.1 listed
        exact length_le_of_mem_containerTransfers own
      · intro before d after here response
        exact longest.admissible.response_last here response

/-- A camera that brings DATA, a RESPONSE and an EVENT: the EVENT stays unread. -/
theorem exchange_relays_answer :
    let data := dataContainer Operation.getDeviceInfo 1 [7]
    let response := responseContainer ResponseCode.ok 1
    let event := standardContainer ⟨.event, 0x4002, 1⟩ []
    let r := relayTo [data, response, event] []
    let out := commandContainer Operation.getDeviceInfo 1 []
    let port := { r.port with
      incoming := [data, response, event].map .transfer, flushes := 1, sent := [out] }
    Port.send out r.port = .ok () port ∧
      received (readings (patience .command) 8 port).1 = [data, response, event] ∧
      Longest 8 [data, response, event] [data, response] ∧
      (r.exchange out).1 = [data, response] ∧
      Incoming.waiting (r.exchange out).2.port.incoming = event := by
  intro data response event r out port
  have classified : classify out
      = .ok ⟨.standard, ⟨.command, Operation.getDeviceInfo, 1⟩, []⟩ := by
    decide +kernel
  have sent : Port.send out r.port = .ok () port := rfl
  have waiting : received (readings (patience .command) 8 port).1 = [data, response, event] := by
    decide +kernel
  obtain ⟨request, translator, forwarded, -, relayed⟩ :=
    (exchange_relays r out).2 _ classified (.inl rfl)
  rw [Translator.toCamera_of_command classified rfl] at forwarded
  obtain ⟨rfl⟩ : request = ⟨out, .command, Operation.getDeviceInfo, 1, .standard⟩ :=
    (Option.some.inj (Except.ok.inj (congrArg Prod.fst forwarded))).symm
  obtain ⟨taken, -, longest, -, -, -, last, -⟩ := relayed port sent
  replace longest : Longest 8 (received (readings (patience .command) 8 port).1) taken := longest
  rw [waiting] at longest
  have both : Admissible 8 [data, response, event] [data, response] := by
    have last_one : Admissible 7 [response, event] [response] :=
      admissible_cons.2 ⟨⟨_, _, rfl⟩, .inl rfl⟩
    exact admissible_cons.2 ⟨⟨_, _, rfl⟩, .inr ⟨rfl, last_one⟩⟩
  obtain ⟨after, more⟩ := longest.longest _ both
  rw [last [data] response after more.symm rfl, List.append_nil] at more
  rw [← more] at longest
  exact ⟨sent, waiting, longest, by decide +kernel, by decide +kernel⟩

end PictureTransfer.Relay.CameraRelay
