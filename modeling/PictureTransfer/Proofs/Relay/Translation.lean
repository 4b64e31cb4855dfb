import PictureTransfer.Proofs.Container.Standard
import PictureTransfer.Proofs.Since
import PictureTransfer.Relay.Translator
import Mathlib.Data.List.Induction

/-!
# Which COMMAND the host's DATA belongs to

A translator keeps a record of the COMMAND under way. `UnderWay` says from the calls alone which one
that is: the latest COMMAND that was translated, if no RESPONSE of the camera came since. Each call
leaves the record as this history says (`pending_step`), and so does a whole run (`pending_run`).
`translates_by_history` says what is forwarded for each transfer of the host after any calls.
-/

namespace PictureTransfer.Relay.Translator

/-! ## Calls -/

/-- A call of a translator: a transfer of the host, or a container of the camera that answers a
request. -/
inductive Call where
  | host (raw : Bytes)
  | camera (container : Bytes) (request : Request)
  deriving DecidableEq, Repr

/-- A translator after a call. -/
def step (t : Translator) : Call → Translator
  | .host raw => (t.toCamera raw).2
  | .camera container request => (t.toHost container request).2

/-- A translator after some calls. -/
def run (calls : List Call) (t : Translator) : Translator := calls.foldl step t

theorem run_concat (calls : List Call) (x : Call) (t : Translator) :
    run (calls ++ [x]) t = (run calls t).step x := by
  simp [run, List.foldl_append]

/-- The COMMAND that a call translates. -/
def Call.command? : Call → Option Container
  | .host raw => (Container.classify raw).toOption.filter (·.header.kind = .command)
  | .camera .. => none

/-- Whether a call brings a RESPONSE of the camera. -/
def Call.responds : Call → Bool
  | .host _ => false
  | .camera container _ =>
    match Header.decodeStandard container with
    | .ok (_, h) => h.kind = .response
    | .error _ => false

theorem Call.command?_eq_some {x : Call} {c : Container} : x.command? = some c ↔
    ∃ raw, x = .host raw ∧ Container.classify raw = .ok c ∧ c.header.kind = .command := by
  cases x with
  | camera container request => simp [command?]
  | host raw =>
    cases classified : Container.classify raw with
    | error e => simp [command?, classified, Except.toOption]
    | ok other =>
      simp only [command?, classified, Except.toOption, Option.filter_eq_some_iff,
        Option.some.injEq, decide_eq_true_eq, Call.host.injEq]
      constructor
      · rintro ⟨rfl, kind⟩
        exact ⟨raw, rfl, classified, kind⟩
      · rintro ⟨_, rfl, same, kind⟩
        cases classified.symm.trans same
        exact ⟨rfl, kind⟩

/-! ## The record of the COMMAND under way -/

/-- What a translator keeps of a COMMAND. -/
def recordOf (c : Container) : PendingCommand := ⟨c.header.code, c.header.tid, c.layout⟩

/-- After some calls a COMMAND is under way: it was translated, and since then no other COMMAND and
no RESPONSE of the camera. -/
def UnderWay (c : Container) : List Call → Prop :=
  Since (fun _ y => y.command? = none ∧ y.responds = false) fun _ x => x.command? = some c

/-- One more call puts a COMMAND under way, or leaves the one that is. -/
theorem underWay_concat {c : Container} {calls : List Call} {x : Call} :
    UnderWay c (calls ++ [x]) ↔
      x.command? = some c ∨ UnderWay c calls ∧ x.command? = none ∧ x.responds = false :=
  since_concat

section Record

variable {t : Translator}

theorem toCamera_of_error {raw : Bytes} {e : HeaderError}
    (rejected : Container.classify raw = .error e) : t.toCamera raw = (.error e, t) := by
  rw [toCamera, rejected]

theorem toCamera_of_command {raw : Bytes} {c : Container}
    (classified : Container.classify raw = .ok c) (kind : c.header.kind = .command) :
    t.toCamera raw = (.ok (some ⟨commandContainer c.header.code c.header.tid c.params, .command,
      c.header.code, c.header.tid, c.layout⟩), { t with pending := some (recordOf c) }) := by
  simp only [toCamera, classified, kind]
  rfl

theorem toCamera_of_data {raw : Bytes} {c : Container}
    (classified : Container.classify raw = .ok c) (kind : c.header.kind = .data) :
    t.toCamera raw = (.ok (some ⟨dataContainer (t.pending.getD (recordOf c)).code
      (t.pending.getD (recordOf c)).tid c.tail, .data, (t.pending.getD (recordOf c)).code,
      (t.pending.getD (recordOf c)).tid, (t.pending.getD (recordOf c)).layout⟩), t) := by
  simp only [toCamera, classified, kind]
  rfl

/-- What is neither a COMMAND nor DATA is not forwarded. -/
theorem toCamera_of_other {raw : Bytes} {c : Container}
    (classified : Container.classify raw = .ok c) (command : c.header.kind ≠ .command)
    (data : c.header.kind ≠ .data) : t.toCamera raw = (.ok none, t) := by
  simp only [toCamera, classified]
  cases kind : c.header.kind with
  | command => exact absurd kind command
  | data => exact absurd kind data
  | response => rfl
  | event => rfl

/-- Only a RESPONSE changes anything. -/
theorem toHost_state (container : Bytes) (request : Request) :
    (t.toHost container request).2
      = if (Call.camera container request).responds then { t with pending := none } else t := by
  rw [toHost, Call.responds]
  cases Header.decodeStandard container with
  | error e => rfl
  | ok decoded =>
    obtain ⟨total, h⟩ := decoded
    by_cases response : h.kind = .response <;> simp [response]

/-- A COMMAND is recorded, a RESPONSE ends the one that was recorded, and no other call changes what
is recorded. -/
theorem pending_step (x : Call) : (t.step x).pending = match x.command? with
    | some c => some (recordOf c)
    | none => if x.responds then none else t.pending := by
  cases x with
  | camera container request =>
    show (t.toHost container request).2.pending = _
    rw [toHost_state]
    cases (Call.camera container request).responds <;> rfl
  | host raw =>
    show (t.toCamera raw).2.pending = _
    cases classified : Container.classify raw with
    | error e => simp [toCamera_of_error classified, Call.command?, classified, Except.toOption,
        Call.responds]
    | ok c =>
      by_cases kind : c.header.kind = .command
      · simp [toCamera_of_command classified kind, Call.command?, classified, Except.toOption,
          Option.filter_some, kind]
      · have kept : (t.toCamera raw).2 = t := by
          by_cases data : c.header.kind = .data
          · rw [toCamera_of_data classified data]
          · rw [toCamera_of_other classified kind data]
        simp [kept, Call.command?, classified, Except.toOption, Option.filter_some, kind,
          Call.responds]

end Record

/-- A new translator keeps a record of the COMMAND that is under way, and of none else. -/
theorem pending_run (layout : ReplyLayout) (calls : List Call) (p : PendingCommand) :
    (run calls { replyLayout := layout }).pending = some p ↔
      ∃ c, UnderWay c calls ∧ recordOf c = p := by
  induction calls using List.reverseRecOn with
  | nil =>
    show none = some p ↔ _
    constructor
    · intro nothing
      cases nothing
    · rintro ⟨c, underWay, -⟩
      exact absurd underWay not_since_nil
  | append_singleton calls x ih =>
    rw [run_concat, pending_step]
    simp only [underWay_concat]
    cases command : x.command? with
    | some c => simp
    | none =>
      cases responds : x.responds with
      | true => simp
      | false => simpa using ih

/-! ## What is forwarded -/

theorem length_params_le (c : Container) : c.params.length ≤ maxParams := List.length_take_le _ _

theorem declares_commandContainer (code : UInt16) (tid : UInt32) {params : List UInt32}
    (few : params.length ≤ maxParams) :
    Declares (commandContainer code tid params) ⟨.command, code, tid⟩ := by
  apply declares_standardContainer
  rw [List.take_of_length_le few, Bytes.length_flatMap_ofWord32]
  simp only [maxParams] at few
  simp only [Header.standardLength]
  omega

/-- A COMMAND is forwarded as the same COMMAND in standard layout, whatever is under way. -/
theorem forwards_command (t : Translator) {raw : Bytes} {c : Container}
    (classified : Container.classify raw = .ok c) (kind : c.header.kind = .command) :
    ∃ request d, (t.toCamera raw).1 = .ok (some request) ∧ Declares request.container c.header ∧
      Container.classify request.container = .ok d ∧
      d.layout = .standard ∧ d.header = c.header ∧ d.params = c.params ∧
      ∀ u : Translator, ∃ again, (u.toCamera request.container).1 = .ok (some again) ∧
        again.container = request.container := by
  obtain ⟨d, again, standard, header, params⟩ :=
    Container.classify_commandContainer c.header.code c.header.tid (length_params_le c)
  have same : c.header = ⟨.command, c.header.code, c.header.tid⟩ := by
    rw [← kind]
  have command : d.header.kind = .command := by
    rw [header]
  refine ⟨_, d, congrArg Prod.fst (toCamera_of_command classified kind), ?_, again, standard,
    header.trans same.symm, params, ?_⟩
  · rw [same]
    exact declares_commandContainer _ _ (length_params_le c)
  · intro u
    refine ⟨_, congrArg Prod.fst (toCamera_of_command again command), ?_⟩
    simp only [header, params]

/-- DATA is forwarded behind the header of the COMMAND that is recorded, or behind its own. -/
theorem forwards_data (layout : ReplyLayout) (calls : List Call) {raw : Bytes} {c : Container}
    (classified : Container.classify raw = .ok c) (kind : c.header.kind = .data) :
    ∃ request owner, ((run calls { replyLayout := layout }).toCamera raw).1 = .ok (some request) ∧
      (UnderWay owner calls ∨ owner = c ∧ ∀ other, ¬UnderWay other calls) ∧
      request.container = dataContainer owner.header.code owner.header.tid c.tail := by
  have forwarded := congrArg Prod.fst
    (toCamera_of_data (t := run calls { replyLayout := layout }) classified kind)
  cases pending : (run calls { replyLayout := layout }).pending with
  | none =>
    rw [pending] at forwarded
    refine ⟨_, c, forwarded, .inr ⟨rfl, ?_⟩, rfl⟩
    intro other underWay
    have recorded := (pending_run layout calls _).2 ⟨other, underWay, rfl⟩
    cases pending.symm.trans recorded
  | some p =>
    rw [pending] at forwarded
    obtain ⟨owner, underWay, rfl⟩ := (pending_run layout calls p).1 pending
    exact ⟨_, owner, forwarded, .inl underWay, rfl⟩

theorem kind_of_forwarded {t : Translator} {raw : Bytes} {request : Request}
    (forwarded : (t.toCamera raw).1 = .ok (some request)) :
    ∃ c, Container.classify raw = .ok c ∧ (c.header.kind = .command ∨ c.header.kind = .data) := by
  cases classified : Container.classify raw with
  | error e =>
    rw [toCamera_of_error classified] at forwarded
    cases forwarded
  | ok c =>
    refine ⟨c, rfl, ?_⟩
    by_contra other
    rw [not_or] at other
    rw [toCamera_of_other classified other.1 other.2] at forwarded
    cases forwarded

/-- A transfer of the host that is not forwarded changes nothing. -/
theorem toCamera_of_unforwarded {t : Translator} {raw : Bytes}
    (unforwarded : ∀ request, (t.toCamera raw).1 ≠ .ok (some request)) :
    (t.toCamera raw).2 = t := by
  cases classified : Container.classify raw with
  | error e => rw [toCamera_of_error classified]
  | ok c =>
    by_cases command : c.header.kind = .command
    · exact absurd (congrArg Prod.fst (toCamera_of_command classified command)) (unforwarded _)
    · by_cases data : c.header.kind = .data
      · rw [toCamera_of_data classified data]
      · rw [toCamera_of_other classified command data]

/-- A container of the camera that is rejected or no RESPONSE changes nothing. -/
theorem toHost_of_unanswered {t : Translator} {container : Bytes} {request : Request}
    (unanswered : ∀ reply, (t.toHost container request).1 ≠ .ok (.response, reply)) :
    (t.toHost container request).2 = t := by
  rw [toHost_state]
  apply if_neg
  intro responds
  rw [Call.responds] at responds
  split at responds
  · next total h decoded =>
    have response : h.kind = .response := of_decide_eq_true responds
    simp only [toHost, decoded, response] at unanswered
    exact unanswered _ rfl
  · cases responds

/-- After any calls of a new translator: a COMMAND of the host, in whatever layout, is forwarded in
standard layout, where it is the same COMMAND and is translated to itself. DATA of the host is
forwarded unchanged behind the header of the COMMAND under way, or behind its own where there is
none. Each of these declares its own length, as far as four bytes hold it. Nothing else is
forwarded, and nothing but COMMANDs of the host and RESPONSEs of the camera changes the translator.
-/
theorem translates_by_history (layout : ReplyLayout) (calls : List Call) :
    let t := run calls { replyLayout := layout }
    (∀ raw c, Container.classify raw = .ok c → c.header.kind = .command →
      ∃ request d, (t.toCamera raw).1 = .ok (some request) ∧
        Declares request.container c.header ∧
        Container.classify request.container = .ok d ∧
        d.layout = .standard ∧ d.header = c.header ∧ d.params = c.params ∧
        ∀ u : Translator, ∃ again, (u.toCamera request.container).1 = .ok (some again) ∧
          again.container = request.container) ∧
    (∀ raw c, Container.classify raw = .ok c → c.header.kind = .data →
      ∃ request owner, (t.toCamera raw).1 = .ok (some request) ∧
        (UnderWay owner calls ∨ owner = c ∧ ∀ other, ¬UnderWay other calls) ∧
        request.container = dataContainer owner.header.code owner.header.tid c.tail ∧
        (c.tail.length < 0x100000000 - 12 →
          Declares request.container ⟨.data, owner.header.code, owner.header.tid⟩)) ∧
    (∀ raw request, (t.toCamera raw).1 = .ok (some request) →
      ∃ c, Container.classify raw = .ok c ∧
        (c.header.kind = .command ∨ c.header.kind = .data)) ∧
    (∀ raw, (∀ request, (t.toCamera raw).1 ≠ .ok (some request)) → (t.toCamera raw).2 = t) ∧
    (∀ container request, (∀ reply, (t.toHost container request).1 ≠ .ok (.response, reply)) →
      (t.toHost container request).2 = t) := by
  intro t
  refine ⟨?_, ?_, ?_, ?_, ?_⟩
  · intro raw c classified kind
    exact forwards_command t classified kind
  · intro raw c classified kind
    obtain ⟨request, owner, forwarded, owns, same⟩ := forwards_data layout calls classified kind
    refine ⟨request, owner, forwarded, owns, same, ?_⟩
    intro short
    rw [same]
    apply declares_standardContainer
    simp only [Header.standardLength]
    omega
  · intro raw request forwarded
    exact kind_of_forwarded forwarded
  · intro raw unforwarded
    exact toCamera_of_unforwarded unforwarded
  · intro container request unanswered
    exact toHost_of_unanswered unanswered

/-- A press of the record button in the host's layout. -/
def pressed : Container := ⟨.pad2, ⟨.command, Operation.recButton, 4⟩, [0xC8, 0xD2, 0, 0]⟩

/-- The press, bytes that hold no container, and an EVENT of the camera. -/
def pressing : List Call :=
  [.host (pressed.header.encode .pad2 0 ++ pressed.tail), .host [0xFF],
    .camera (standardContainer ⟨.event, 0x4002, 4⟩ []) ⟨[], .command, 0, 0, .standard⟩]

/-- DATA that names another transaction goes to the camera as DATA of the press. -/
theorem translates_by_history_press :
    let data : Container := ⟨.pad2, ⟨.data, Operation.recButton, 9⟩, [2, 0]⟩
    let raw := data.header.encode .pad2 0 ++ data.tail
    UnderWay pressed pressing ∧ Container.classify raw = .ok data ∧ data.header.kind = .data ∧
      ∃ request, ((run pressing { replyLayout := .standard }).toCamera raw).1 = .ok (some request) ∧
        request.container = dataContainer Operation.recButton 4 [2, 0] ∧
        Declares request.container ⟨.data, Operation.recButton, 4⟩ := by
  intro data raw
  have underWay : UnderWay pressed pressing := by
    have quiet : ∀ y ∈ pressing.tail, y.command? = none ∧ y.responds = false := by decide
    refine ⟨[], _, pressing.tail, rfl, Call.command?_eq_some.2 ⟨_, rfl, by decide, rfl⟩, ?_⟩
    intro front y back same
    exact quiet y (by rw [same]; exact List.mem_append_right _ List.mem_cons_self)
  have classified : Container.classify raw = .ok data := by
    decide
  refine ⟨underWay, classified, rfl, ?_⟩
  obtain ⟨request, owner, forwarded, owns, same, declares⟩ :=
    (translates_by_history .standard pressing).2.1 raw data classified rfl
  -- the press is the one COMMAND that is under way
  have press : recordOf owner = recordOf pressed := by
    have recorded := fun c under => (pending_run .standard pressing _).2 ⟨c, under, rfl⟩
    rcases owns with under | ⟨-, none_under⟩
    · exact Option.some.inj ((recorded owner under).symm.trans (recorded pressed underWay))
    · exact absurd underWay (none_under pressed)
  obtain ⟨code, tid, -⟩ := PendingCommand.mk.inj press
  rw [code, tid] at same declares
  exact ⟨request, forwarded, same, declares (by decide)⟩

end PictureTransfer.Relay.Translator
