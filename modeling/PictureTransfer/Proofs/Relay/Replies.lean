import PictureTransfer.Proofs.Container.Layouts
import PictureTransfer.Relay.Translator

/-!
# What the host is given for a container of the camera

In standard layout the host is given the container itself, and in another layout the same header and
payload in that layout (`build_eq`). A session that is open already counts as opened
(`AlreadyOpen`): its RESPONSE is OK and has no payload. A RESPONSE without payload is filled up with
zeros, too few for a parameter (`words32_filling`), and no layout without a length is taken for
another, so that the host reads what the camera sent (`classify_build`). `rebuilds_for_host` states
this for every container with a header.
-/

namespace PictureTransfer.Relay.Translator

open Container (classify)

/-- The camera tells a host that opens a session that one is open already. -/
def AlreadyOpen (request : Request) (h : Header) : Prop :=
  h.kind = .response ∧ request.op = Operation.openSession ∧
    h.code = ResponseCode.sessionAlreadyOpen

instance (request : Request) (h : Header) : Decidable (AlreadyOpen request h) :=
  inferInstanceAs (Decidable (_ ∧ _))

theorem isReopened_iff (request : Request) (h : Header) :
    isReopened request h = true ↔ AlreadyOpen request h := by
  simp [isReopened, AlreadyOpen, and_assoc]

/-! ## Containers in another layout -/

/-- The zeros behind the header of a RESPONSE without payload. -/
def filling (layout : Layout) (h : Header) (payload : Bytes) : Bytes :=
  if h.kind = .response ∧ payload = [] then
    List.replicate (Header.standardLength - layout.headerLength) 0
  else []

theorem build_eq (layout : Layout) (h : Header) (payload : Bytes) :
    build layout h payload
      = h.encode layout (UInt32.ofNat (Header.standardLength + payload.length))
        ++ (payload ++ filling layout h payload) := by
  simp only [build, filling]
  by_cases bare : h.kind = .response ∧ payload = []
  · obtain ⟨response, rfl⟩ := bare
    rw [if_pos ⟨response, rfl⟩, if_pos ⟨response, rfl⟩, List.append_nil, Header.length_encode]
    rfl
  · have kept : ¬(h.kind = .response ∧ payload.isEmpty = true) := by
      rw [List.isEmpty_iff]
      exact bare
    rw [if_neg kept, if_neg bare, List.append_nil]

/-- The zeros hold no whole word. -/
theorem words32_filling (layout : Layout) (h : Header) (payload : Bytes) :
    Bytes.words32 (payload ++ filling layout h payload) = Bytes.words32 payload := by
  rw [filling]
  split
  · next bare =>
    rw [bare.2]
    cases layout <;> rfl
  · rw [List.append_nil]

/-- In a layout without a length the host reads the header, the payload and the zeros. -/
theorem classify_build {layout : Layout} (withoutLength : layout.hasLength = false) (h : Header)
    (payload : Bytes) :
    classify (build layout h payload) = .ok ⟨layout, h, payload ++ filling layout h payload⟩ := by
  rw [build_eq]
  exact Container.classify_of_plain (Container.not_mistakable withoutLength _ _) _

/-- A RESPONSE without payload has the length of a standard header. -/
theorem length_build_of_bare {layout : Layout} {h : Header} (response : h.kind = .response) :
    (build layout h []).length = 12 := by
  rw [build_eq, filling, if_pos ⟨response, rfl⟩, List.length_append, Header.length_encode]
  cases layout <;> rfl

/-! ## Replies -/

/-- The header for the host. -/
def shown (request : Request) (h : Header) : Header :=
  if AlreadyOpen request h then { h with code := ResponseCode.ok } else h

/-- The payload for the host. -/
def conveyed (request : Request) (h : Header) (container : Bytes) : Bytes :=
  if AlreadyOpen request h then [] else container.drop Header.standardLength

theorem toHost_of_rejected {container : Bytes} {e : HeaderError}
    (rejected : Header.decodeStandard container = .error e) (request : Request) (t : Translator) :
    t.toHost container request = (.error e, t) := by
  rw [toHost, rejected]

/-- A container with a header is given to the host, as it is or with the header and payload for
it. -/
theorem toHost_of_accepted {container : Bytes} {total : UInt32} {h : Header}
    (accepted : Header.decodeStandard container = .ok (total, h)) (request : Request)
    (t : Translator) : (t.toHost container request).1 = .ok (h.kind, match t.replyLayout with
      | .standard =>
        if AlreadyOpen request h then responseContainer ResponseCode.ok h.tid else container
      | .mirror => build request.layout (shown request h) (conveyed request h container)) := by
  simp only [toHost, accepted, shown, conveyed]
  by_cases already : AlreadyOpen request h
  · -- the OK in standard layout has no room for zeros
    have bare : build .standard { h with code := ResponseCode.ok } []
        = responseContainer ResponseCode.ok h.tid := by
      rw [build_eq, filling, responseContainer, standardContainer, ← already.1]
      simp [Layout.headerLength, Header.standardLength]
    cases t.replyLayout <;>
      simp only [(isReopened_iff request h).2 already, if_pos already, if_true, bare]
  · have kept : isReopened request h = false := by
      rw [Bool.eq_false_iff, ne_eq, isReopened_iff]
      exact already
    cases t.replyLayout <;> simp only [kept, if_neg already, Bool.false_eq_true, if_false]

theorem exists_toHost {container : Bytes} {total : UInt32} {h : Header}
    (accepted : Header.decodeStandard container = .ok (total, h)) (request : Request)
    (t : Translator) : ∃ reply next, t.toHost container request = (.ok (h.kind, reply), next) :=
  ⟨_, _, Prod.ext (toHost_of_accepted accepted request t) rfl⟩

/-- What the host is given depends on the layout that it takes, not on the COMMAND under way. -/
theorem toHost_congr {t u : Translator} (same : t.replyLayout = u.replyLayout) (container : Bytes)
    (request : Request) : (t.toHost container request).1 = (u.toHost container request).1 := by
  cases decoded : Header.decodeStandard container with
  | error e => rw [toHost_of_rejected decoded, toHost_of_rejected decoded]
  | ok found => rw [toHost_of_accepted decoded, toHost_of_accepted decoded, same]

/-- A host that takes standard layout is given the container itself, but OK when a session that it
opens is open already. A host that takes its own layout, if this has no length, reads in it the kind
and transaction of the container, its code or that OK, and its payload or none with that OK. Only
behind a RESPONSE without payload there are zeros, up to twelve bytes in all, and they are no
parameter. -/
theorem rebuilds_for_host {container : Bytes} {total : UInt32} {h : Header}
    (accepted : Header.decodeStandard container = .ok (total, h)) (request : Request)
    (t : Translator) :
    (t.replyLayout = .standard →
      (t.toHost container request).1 = .ok (h.kind,
        if AlreadyOpen request h then responseContainer ResponseCode.ok h.tid else container) ∧
      (responseContainer ResponseCode.ok h.tid).length = 12) ∧
    (t.replyLayout = .mirror → request.layout ∈ [Layout.pad1, .pad2, .pad3] →
      let payload := if AlreadyOpen request h then [] else container.drop 12
      ∃ reply c, (t.toHost container request).1 = .ok (h.kind, reply) ∧
        classify reply = .ok c ∧ c.layout = request.layout ∧ c.header.kind = h.kind ∧
        c.header.tid = h.tid ∧
        c.header.code = (if AlreadyOpen request h then ResponseCode.ok else h.code) ∧
        c.params = (Bytes.words32 payload).take 5 ∧
        c.tail = payload ++ (if h.kind = .response ∧ payload = [] then
          List.replicate (12 - request.layout.headerLength) 0 else []) ∧
        (h.kind = .response → payload = [] → reply.length = 12)) := by
  have given := toHost_of_accepted accepted request t
  constructor
  · intro standard
    rw [standard] at given
    exact ⟨given, length_standardContainer _ _⟩
  · intro mirror short payload
    rw [mirror] at given
    have withoutLength : request.layout.hasLength = false := by
      simp only [List.mem_cons, List.not_mem_nil, or_false] at short
      rcases short with same | same | same <;> rw [same] <;> rfl
    have header : shown request h
        = ⟨h.kind, if AlreadyOpen request h then ResponseCode.ok else h.code, h.tid⟩ := by
      rw [shown]
      split <;> rfl
    have read := classify_build withoutLength (shown request h) payload
    rw [header] at given read
    refine ⟨_, _, given, read, rfl, rfl, rfl, rfl, ?_, rfl, ?_⟩
    · exact congrArg (List.take 5) (words32_filling _ _ payload)
    · intro response nothing
      show (build request.layout _ payload).length = 12
      rw [nothing]
      exact length_build_of_bare response

/-- The camera tells a host in its own layout that a session is open already, with a parameter. The
host is told OK in eleven bytes and a zero. The camera's EVENT is given to it with the parameter. -/
theorem rebuilds_for_host_reopened :
    let request : Request := ⟨[], .command, Operation.openSession, 7, .pad3⟩
    let refusal := standardContainer ⟨.response, ResponseCode.sessionAlreadyOpen, 7⟩ [1, 0, 0, 0]
    let event := standardContainer ⟨.event, 0x4002, 7⟩ [5, 0, 0, 0]
    ((⟨.standard, none⟩ : Translator).toHost refusal request).1
        = .ok (.response, responseContainer ResponseCode.ok 7) ∧
      (∃ reply c,
        ((⟨.mirror, none⟩ : Translator).toHost refusal request).1 = .ok (.response, reply) ∧
        classify reply = .ok c ∧ c.layout = .pad3 ∧ c.header.code = ResponseCode.ok ∧
        c.tail = [0] ∧ c.params = [] ∧ reply.length = 12) ∧
      ∃ reply c, ((⟨.mirror, none⟩ : Translator).toHost event request).1 = .ok (.event, reply) ∧
        classify reply = .ok c ∧ c.layout = .pad3 ∧ c.header.code = 0x4002 ∧
        c.tail = [5, 0, 0, 0] ∧ c.params = [5] := by
  intro request refusal event
  have first : Header.decodeStandard refusal
      = .ok (16, ⟨.response, ResponseCode.sessionAlreadyOpen, 7⟩) := rfl
  have second : Header.decodeStandard event = .ok (16, ⟨.event, 0x4002, 7⟩) := rfl
  obtain ⟨told, -⟩ := rebuilds_for_host first request ⟨.standard, none⟩
  obtain ⟨-, refused⟩ := rebuilds_for_host first request ⟨.mirror, none⟩
  obtain ⟨-, passed⟩ := rebuilds_for_host second request ⟨.mirror, none⟩
  obtain ⟨reply, c, given, read, layout, -, -, code, params, tail, length⟩ :=
    refused rfl (by decide)
  obtain ⟨reply', c', given', read', layout', -, -, code', params', tail', -⟩ :=
    passed rfl (by decide)
  exact ⟨(told rfl).1, ⟨reply, c, given, read, layout, code, tail, params, length rfl rfl⟩,
    reply', c', given', read', layout', code', tail', params'⟩

end PictureTransfer.Relay.Translator
