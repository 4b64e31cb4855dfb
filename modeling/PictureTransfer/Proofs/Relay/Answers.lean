import PictureTransfer.Proofs.Relay.CameraStream
import PictureTransfer.Proofs.Relay.Resynchronisation
import PictureTransfer.Relay.Client

/-!
# What a relay writes for what it reads

Whatever bytes a device writes, they are frames that the relay takes and then bytes on which it
stops: they end, hold a length of zero or a payload over the limit (`Delivers`, `exists_delivers`).
Frame by frame the relay hands the transfers of the host to its backend and writes the answers
(`run_of_frame`), so that what it writes depends on the frames alone (`run_delivers`).
`serves_stream` states this for every backend and all bytes, and that the device reads back what was
written.
-/

namespace PictureTransfer.Relay

/-! ## Answers -/

/-- The answers of a backend to some transfers of the host, each handed to it once and in order, and
the backend after them. -/
def Backend.exchanges {B : Type} [Backend B] : List Bytes → B → List (List Bytes) × B
  | [], b => ([], b)
  | out :: rest, b =>
    let (transfers, next) := Backend.exchange out b
    let (later, last) := exchanges rest next
    (transfers :: later, last)

theorem Backend.length_exchanges {B : Type} [Backend B] (outs : List Bytes) (b : B) :
    (exchanges outs b).1.length = outs.length := by
  induction outs generalizing b with
  | nil => rfl
  | cons out rest ih => exact congrArg (· + 1) (ih _)

/-- The transfer of the host in a frame. -/
def Frame.request? (f : Frame) : Option Bytes := if f.type = 0x10 then some f.payload else none

namespace Client

variable {B : Type} [Backend B]

/-- The frames of an answer, a type byte and a payload each: one for every transfer, and then one
that ends the answer. -/
def answerFrames (transfers : List Bytes) : List Frame :=
  transfers.map (fun transfer => ⟨0x11, transfer⟩) ++ [⟨0x12, []⟩]

/-- Every answer ends once. -/
theorem countP_answerFrames (transfers : List Bytes) :
    (answerFrames transfers).countP (fun f => f.type = 0x12) = 1 := by
  simp [answerFrames, Function.comp_def]

/-! ## Input -/

/-- What a relay returns where its source ends. -/
def hungUp : Fault → Except Error Unit
  | .closed => .ok ()
  | fault => .error (.ofFault fault)

/-- Bytes that a relay takes as some frames, and what it returns on the bytes behind them: they end,
or hold a length of zero or a payload over the limit, with anything behind that. -/
inductive Delivers (ending : Fault) : Bytes → List Frame → Except Error Unit → Prop where
  | cut {f : Frame} {bytes : Bytes} (counted : f.payload.length + 1 < Bytes.capacity 4)
      (inside : bytes <+: f.encode) (short : bytes.length < f.encode.length) :
      Delivers ending bytes [] (hungUp ending)
  | zero (later : Bytes) : Delivers ending ([0, 0, 0, 0] ++ later) [] (.error .invalidLength)
  | large {f : Frame} (later : Bytes) (counted : f.payload.length + 1 < Bytes.capacity 4)
      (long : maxRawOut < f.payload.length) :
      Delivers ending (f.encode ++ later) [] (.error (.frameTooLarge f.payload.length maxRawOut))
  | frame {f : Frame} {bytes : Bytes} {frames : List Frame} {outcome : Except Error Unit}
      (fits : f.payload.length ≤ maxRawOut) (others : Delivers ending bytes frames outcome) :
      Delivers ending (f.encode ++ bytes) (f :: frames) outcome

theorem exists_delivers (ending : Fault) (bytes : Bytes) :
    ∃ frames outcome, Delivers ending bytes frames outcome := by
  rcases Frame.front_cases bytes with
    ⟨f, counted, inside, short⟩ | ⟨later, rfl⟩ | ⟨f, later, counted, here⟩
  · exact ⟨_, _, .cut counted inside short⟩
  · exact ⟨_, _, .zero later⟩
  · by_cases long : maxRawOut < f.payload.length
    · rw [here]
      exact ⟨_, _, .large later counted long⟩
    · have fewer : later.length < bytes.length := by
        rw [here, Frame.encode]
        simp
        omega
      obtain ⟨frames, outcome, others⟩ := exists_delivers ending later
      rw [here]
      exact ⟨_, _, .frame (Nat.le_of_not_lt long) others⟩
termination_by bytes.length

/-- The bytes are the frames that are taken, and bytes behind them on which the relay stops. -/
theorem delivers_iff {ending : Fault} {bytes : Bytes} {frames : List Frame}
    {outcome : Except Error Unit} : Delivers ending bytes frames outcome ↔
      ∃ rest, bytes = frames.flatMap Frame.encode ++ rest ∧
        (∀ f ∈ frames, f.payload.length ≤ maxRawOut) ∧ Delivers ending rest [] outcome := by
  constructor
  · intro delivers
    induction delivers with
    | cut counted inside short =>
      exact ⟨_, rfl, List.forall_mem_nil _, .cut counted inside short⟩
    | zero later => exact ⟨_, rfl, List.forall_mem_nil _, .zero later⟩
    | large later counted long => exact ⟨_, rfl, List.forall_mem_nil _, .large later counted long⟩
    | frame fits others ih =>
      obtain ⟨rest, rfl, each, stops⟩ := ih
      refine ⟨rest, ?_, List.forall_mem_cons.2 ⟨fits, each⟩, stops⟩
      rw [List.flatMap_cons, List.append_assoc]
  · rintro ⟨rest, rfl, each, stops⟩
    induction frames with
    | nil => exact stops
    | cons f others ih =>
      obtain ⟨fits, later⟩ := List.forall_mem_cons.1 each
      rw [List.flatMap_cons, List.append_assoc]
      exact .frame fits (ih later)

/-- Bytes without a frame that is taken are no error only where they end. -/
theorem delivers_nil_ok {ending : Fault} {bytes : Bytes} :
    Delivers ending bytes [] (.ok ()) ↔ ending = .closed ∧ ∃ f : Frame,
      f.payload.length + 1 < Bytes.capacity 4 ∧ bytes <+: f.encode ∧
        bytes.length < f.encode.length := by
  constructor
  · intro delivers
    -- the cases are told apart by what is named here
    generalize nothing : ([] : List Frame) = frames at delivers
    generalize fine : (Except.ok () : Except Error Unit) = outcome at delivers
    cases delivers with
    | cut counted inside short =>
      cases ending with
      | closed => exact ⟨rfl, _, counted, inside, short⟩
      | reset => cases fine
      | timedOut => cases fine
    | zero later => cases fine
    | large later counted long => cases fine
    | frame fits others => cases nothing
  · rintro ⟨rfl, f, counted, inside, short⟩
    exact .cut counted inside short

/-! ## The loop -/

section Loop

variable {source left : Source}

/-- A read that fails ends the loop, and without an error only where the link is closed. -/
theorem run_of_error {e : Error} (failed : Frame.read maxRawOut source = .error e left)
    (c : Client B) (sink : Sink) :
    c.run source sink = (if e = .closed then .ok () else .error e, c, sink) := by
  rw [run]
  split
  · next read =>
    rw [failed] at read
    cases read
    rfl
  · next other read =>
    rw [failed] at read
    cases read
    rw [if_neg other]
  · next read =>
    rw [failed] at read
    cases read

/-- A transfer of the host is handed to the backend, and the answer is written. Any other frame is
passed over. -/
theorem run_of_frame {f : Frame} (taken : Frame.read maxRawOut source = .ok f left) (c : Client B)
    (written : Bytes) : c.run source ⟨written, none⟩ = if f.type = 0x10 then
        run ⟨(Backend.exchange f.payload c.backend).2, c.exchanges + 1⟩ left
          ⟨written ++ answer (Backend.exchange f.payload c.backend).1, none⟩
      else c.run left ⟨written, none⟩ := by
  rw [run]
  split
  · next read =>
    rw [taken] at read
    cases read
  · next read =>
    rw [taken] at read
    cases read
  · next read =>
    rw [taken] at read
    cases read
    exact ite_congr (propext Frame.kind?_eq_some) (fun _ => rfl) fun _ => rfl

end Loop

/-- The backend is handed the transfers of the host in order and the answers are written one behind
the other, and then the relay stops. -/
theorem run_delivers {ending : Fault} {bytes : Bytes} {frames : List Frame}
    {outcome : Except Error Unit} (delivers : Delivers ending bytes frames outcome) (c : Client B)
    (written : Bytes) :
    let outs := frames.filterMap Frame.request?
    let answered := Backend.exchanges outs c.backend
    c.run (.ofBytes bytes ending) ⟨written, none⟩ = (outcome,
      ⟨answered.2, c.exchanges + outs.length⟩, ⟨written ++ answered.1.flatMap answer, none⟩) := by
  induction delivers generalizing c written with
  | cut counted inside short =>
    rw [run_of_error (Frame.read_truncated counted maxRawOut inside short ending)]
    cases ending <;> simp [hungUp, Error.ofFault, Backend.exchanges]
  | zero later =>
    rw [run_of_error (Frame.read_zero maxRawOut later ending)]
    simp [Backend.exchanges]
  | large later counted long =>
    have refused := Frame.read_append counted maxRawOut later ending
    rw [if_pos long] at refused
    rw [run_of_error refused]
    simp [Backend.exchanges]
  | @frame f bytes frames outcome fits others ih =>
    -- the frame is taken whole, and the others are what is left
    have counted : f.payload.length + 1 < Bytes.capacity 4 :=
      Nat.lt_of_le_of_lt (Nat.succ_le_succ fits) (by decide)
    have taken : Frame.read maxRawOut (.ofBytes (f.encode ++ bytes) ending)
        = .ok f (.ofBytes bytes ending) := by
      rw [Frame.read_append counted, if_neg (Nat.not_lt.2 fits)]
    rw [run_of_frame taken]
    by_cases kind : f.type = 0x10
    · have request : f.request? = some f.payload := if_pos kind
      rw [if_pos kind, ih]
      simp only [List.filterMap_cons, request, Backend.exchanges, List.flatMap_cons,
        List.length_cons, List.append_assoc, Nat.add_right_comm, Nat.add_assoc]
    · have none_asked : f.request? = none := if_neg kind
      rw [if_neg kind, ih, List.filterMap_cons_none none_asked]

/-! ## Answers on the wire -/

/-- There are as many ends as answers. -/
theorem countP_done (answers : List (List Bytes)) :
    (answers.flatMap answerFrames).countP (fun f => f.type = 0x12) = answers.length := by
  induction answers with
  | nil => rfl
  | cons answer rest ih =>
    rw [List.flatMap_cons, List.countP_append, countP_answerFrames, ih, List.length_cons,
      Nat.add_comm]

/-- A device reads back answers of which no transfer is too long for it. -/
theorem readEach_answers {answers : List (List Bytes)}
    (short : ∀ answer ∈ answers, ∀ transfer ∈ answer, transfer.length ≤ Frame.maxPayload)
    (ending : Fault) :
    let given := answers.flatMap answerFrames
    Frame.readEach Frame.maxPayload given.length (.ofBytes (given.flatMap Frame.encode) ending)
      = (given.map .ok, .ofBytes [] ending) := by
  intro given
  have each : ∀ f ∈ given, f.payload.length ≤ Frame.maxPayload := by
    intro f listed
    obtain ⟨answer, answered, own⟩ := List.mem_flatMap.1 listed
    rcases List.mem_append.1 own with inside | last
    · obtain ⟨transfer, sent, rfl⟩ := List.mem_map.1 inside
      exact short answer answered transfer sent
    · rw [List.mem_singleton.1 last]
      exact Nat.zero_le _
  have counted : ∀ f ∈ given, f.payload.length + 1 < Bytes.capacity 4 := by
    intro f listed
    exact Nat.lt_of_le_of_lt (Nat.succ_le_succ (each f listed)) (by decide)
  have reads := Frame.readEach_encode counted Frame.maxPayload [] ending
  rw [List.append_nil] at reads
  rw [reads]
  refine congrArg (·, _) (List.map_congr_left ?_)
  intro f listed
  exact if_neg (Nat.not_lt.2 (each f listed))

/-- All bytes are some frames that the relay takes, and bytes on which it stops. The backend is
handed the transfers of the host among these frames, each once and in order. For each transfer of an
answer a frame is written, and behind these one that ends the answer, whatever the relay stops on.
As many such ends are written as answers are counted, and where no transfer is longer than a chunk a
device reads back the frames that were written. The relay returns no error exactly if the bytes end,
in front of a frame or inside one. -/
theorem serves_stream (c : Client B) (bytes written : Bytes) (ending : Fault) :
    (∃ frames outcome, Delivers ending bytes frames outcome) ∧
    (∀ frames outcome, Delivers ending bytes frames outcome →
      let outs := frames.filterMap Frame.request?
      let answered := Backend.exchanges outs c.backend
      let given := answered.1.flatMap answerFrames
      c.run (.ofBytes bytes ending) ⟨written, none⟩ = (outcome,
        ⟨answered.2, c.exchanges + outs.length⟩, ⟨written ++ given.flatMap Frame.encode, none⟩) ∧
      given.countP (fun f => f.type = 0x12) = outs.length ∧
      ((∀ answer ∈ answered.1, ∀ transfer ∈ answer, transfer.length ≤ 512) → ∀ linkEnding,
        Frame.readEach Frame.maxPayload given.length
          (.ofBytes (given.flatMap Frame.encode) linkEnding)
          = (given.map .ok, .ofBytes [] linkEnding))) ∧
    ((c.run (.ofBytes bytes ending) ⟨written, none⟩).1 = .ok () ↔ ending = .closed ∧
      ∃ (frames : List Frame) (rest : Bytes), bytes = frames.flatMap Frame.encode ++ rest ∧
        (∀ f ∈ frames, f.payload.length ≤ 65536) ∧
        ∃ f : Frame, f.payload.length + 1 < 0x100000000 ∧ rest <+: f.encode ∧
          rest.length < f.encode.length) := by
  refine ⟨exists_delivers ending bytes, ?_, ?_⟩
  · intro frames outcome delivers outs
    have all := run_delivers delivers c written
    refine ⟨?_, ?_, ?_⟩
    · rw [all, List.flatMap_assoc]
      rfl
    · rw [countP_done, Backend.length_exchanges]
    · intro short linkEnding
      exact readEach_answers short linkEnding
  · obtain ⟨frames, outcome, delivers⟩ := exists_delivers ending bytes
    rw [run_delivers delivers c written]
    constructor
    · intro fine
      replace fine : outcome = .ok () := fine
      rw [fine] at delivers
      obtain ⟨rest, here, each, stops⟩ := delivers_iff.1 delivers
      obtain ⟨closed, inside⟩ := delivers_nil_ok.1 stops
      exact ⟨closed, frames, rest, here, each, inside⟩
    · -- however the bytes are divided into frames, the run is the same
      rintro ⟨closed, frames', rest, here, each, inside⟩
      have other := delivers_iff.2 ⟨rest, here, each, delivers_nil_ok.2 ⟨closed, inside⟩⟩
      have same := (run_delivers delivers c written).symm.trans (run_delivers other c written)
      exact congrArg Prod.fst same

/-- A relay to a camera that brings DATA and a RESPONSE reads a COMMAND of the host, a frame that it
passes over, and bytes that end inside a length. -/
theorem serves_stream_cut :
    let out := commandContainer Operation.getDeviceInfo 1 []
    let data := dataContainer Operation.getDeviceInfo 1 [7]
    let response := responseContainer ResponseCode.ok 1
    let c : Client (CameraRelay Camera.Pipes) := ⟨CameraRelay.relayTo [data, response] [], 0⟩
    let read : List Frame := [⟨0x10, out⟩, ⟨0x12, []⟩]
    let bytes := read.flatMap Frame.encode ++ [0, 0, 0]
    let given : List Frame := [⟨0x11, data⟩, ⟨0x11, response⟩, ⟨0x12, []⟩]
    let (outcome, last, sink) := c.run (.ofBytes bytes .closed) ⟨[], none⟩
    Delivers .closed bytes read (.ok ()) ∧
      outcome = .ok () ∧ last.exchanges = 1 ∧ sink.written = given.flatMap Frame.encode ∧
      Frame.readEach Frame.maxPayload 3 (.ofBytes sink.written .timedOut)
        = (given.map .ok, .ofBytes [] .timedOut) := by
  intro out data response c read bytes given
  have delivers : Delivers .closed bytes read (.ok ()) := by
    refine delivers_iff.2 ⟨[0, 0, 0], rfl, by decide, ?_⟩
    exact delivers_nil_ok.2 ⟨rfl, ⟨0x12, []⟩, by decide, by decide, by decide⟩
  obtain ⟨ran, -, readable⟩ := (serves_stream c bytes [] .closed).2.1 _ _ delivers
  have answers : (Backend.exchanges (read.filterMap Frame.request?) c.backend).1
      = [[data, response]] := by
    decide +kernel
  rw [answers] at ran readable
  have reads := readable (by decide) .timedOut
  rw [ran]
  exact ⟨delivers, rfl, rfl, rfl, reads⟩

end Client

end PictureTransfer.Relay
