import PictureTransfer.Proofs.Legacy.Segment
import Mathlib.Data.List.Induction

/-!
# The record button over a whole run

The responder keeps a phase and a flag. `Waits` says from the callbacks alone that an operation
waits for its DATA, and it is what the phase keeps (`pending_run`); the flag is what the last record
event said (`Ledger.recording_run`). `recordings_by_history` puts these together for every run: when
a record event is reported, what it carries, and when the camera records.
-/

namespace PictureTransfer

/-- The record event that observers are shown. -/
def Event.recording? : Event → Option RecEvent
  | .recording e => some e
  | _ => none

theorem Action.event?_bind_recording? (x : Action) :
    x.event?.bind Event.recording? = x.recording? := by
  cases x with
  | request op => rfl
  | report event => cases event <;> rfl

/-- The record events so far. -/
def Attached.recordings {β σ : Type} (a : Attached β σ) : List RecEvent :=
  a.events.filterMap Event.recording?

namespace Callback

theorem cuts_of_command {x : Callback} {c : Container} (command : x.command? = some c)
    (interface : UInt8) : x.cuts interface = true := by
  rw [cuts, command, Option.isSome_some, Bool.or_true]

/-- A COMMAND leaves the interface in use. -/
theorem lastInterface_of_command {before since : List Callback} {x : Callback} {c : Container}
    (command : x.command? = some c) :
    lastInterface (before ++ x :: since) = since.foldl selects (lastInterface before) := by
  obtain ⟨data, rfl, -⟩ := container?_eq_some.1 (command?_eq_some.1 command).1
  rw [lastInterface, List.foldl_append]
  rfl

/-- A longer run goes on without a cut if it did so far and the last callback is none. -/
theorem uncut_concat {interface : UInt8} {callbacks : List Callback} {x : Callback} :
    uncut interface (callbacks ++ [x]) =
      (uncut interface callbacks && !x.cuts (callbacks.foldl selects interface)) := by
  induction callbacks generalizing interface with
  | nil => rw [List.nil_append, uncut, uncut, uncut, Bool.and_true, Bool.true_and]; rfl
  | cons y rest ih => rw [List.cons_append, uncut, uncut, ih, Bool.and_assoc]; rfl

end Callback

namespace Legacy

open Callback

/-- The first DATA byte of a press that starts or stops the recording. -/
def pressByte : RecKind → UInt8
  | .start => RecButton.startByte
  | .stop => RecButton.stopByte

theorem recKind?_eq_some {param0 : UInt32} {data : Bytes} {kind : RecKind} :
    recKind? param0 data = some kind ↔
      param0 = RecButton.fullPress ∧ data.head? = some (pressByte kind) := by
  simp only [recKind?]
  by_cases full : param0 = RecButton.fullPress
  · rw [if_pos full]
    -- the first byte tells a start from a stop, and any other byte counts for nothing
    cases data with
    | nil => simp
    | cons b rest =>
      by_cases starts : b = RecButton.startByte
      · subst starts
        cases kind <;> simp [full, pressByte, RecButton.startByte, RecButton.stopByte]
      · by_cases stops : b = RecButton.stopByte
        · subst stops
          cases kind <;> simp [full, pressByte, RecButton.startByte, RecButton.stopByte]
        · cases kind <;> simp [full, pressByte, starts, stops]
  · rw [if_neg full]
    simp [full]

/-! ## The operation that waits -/

/-- After some callbacks an operation waits for its DATA: its COMMAND came in, and since then no
other COMMAND, no reset and no DATA for it. -/
def Waits (op : PendingOp) (callbacks : List Callback) : Prop :=
  ∃ before x c since, callbacks = before ++ x :: since ∧
    x.command? = some c ∧ awaited? c = some op ∧
    uncut (lastInterface before) since ∧ ∀ y ∈ since, y.isDataFor op.code op.tid = false

theorem not_waits_nil (op : PendingOp) : ¬Waits op [] := by
  rintro ⟨before, x, c, since, run, -⟩
  cases before <;> cases run

/-- One more callback lets an operation wait, or lets it wait on. -/
theorem waits_concat {op : PendingOp} {callbacks : List Callback} {x : Callback} :
    Waits op (callbacks ++ [x]) ↔
      (∃ c, x.command? = some c ∧ awaited? c = some op) ∨
      (Waits op callbacks ∧ x.cuts (lastInterface callbacks) = false ∧
        x.isDataFor op.code op.tid = false) := by
  constructor
  · rintro ⟨before, y, c, since, run, command, awaited, whole, none_own⟩
    -- either the new callback is the COMMAND itself, or it is the last one behind it
    rcases List.eq_nil_or_concat since with rfl | ⟨earlier, z, rfl⟩
    · obtain ⟨-, last⟩ := List.append_inj' run rfl
      cases last
      exact .inl ⟨c, command, awaited⟩
    · rw [List.concat_eq_append] at run whole none_own
      rw [← List.cons_append, ← List.append_assoc] at run
      obtain ⟨rfl, last⟩ := List.append_inj' run rfl
      cases last
      rw [uncut_concat, Bool.and_eq_true, Bool.not_eq_true'] at whole
      refine .inr ⟨⟨before, y, c, earlier, rfl, command, awaited, whole.1, ?_⟩, ?_, ?_⟩
      · intro z hz
        exact none_own z (List.mem_append_left _ hz)
      · rw [lastInterface_of_command command]
        exact whole.2
      · exact none_own x (List.mem_append_right _ List.mem_cons_self)
  · rintro (⟨c, command, awaited⟩ | ⟨waits, kept, foreign⟩)
    · exact ⟨callbacks, x, c, [], rfl, command, awaited, rfl, List.forall_mem_nil _⟩
    · obtain ⟨before, y, c, since, rfl, command, awaited, whole, none_own⟩ := waits
      refine ⟨before, y, c, since ++ [x], by simp, command, awaited, ?_, ?_⟩
      · rw [uncut_concat, Bool.and_eq_true, Bool.not_eq_true', ← lastInterface_of_command command]
        exact ⟨whole, kept⟩
      · intro z hz
        rcases List.mem_append.1 hz with earlier | last
        · exact none_own z earlier
        · obtain rfl := List.mem_singleton.1 last
          exact foreign

/-- What waits after a callback is what it lets wait, or what waited and was not ended. -/
theorem Ledger.pending_entry {l : Ledger} {x : Callback} {op : PendingOp} :
    (l.entry x).after.pending = some op ↔
      (∃ c, x.command? = some c ∧ awaited? c = some op) ∨
      (l.pending = some op ∧ x.cuts l.interface = false ∧
        x.isDataFor op.code op.tid = false) := by
  cases command : x.command? with
  | some c =>
    rw [entry_of_command command, cuts_of_command command]
    simp [onCommand]
  | none =>
    cases resets : x.resets l.interface with
    | true =>
      rw [entry_of_resets resets, cuts, resets]
      simp [cleared]
    | false =>
      -- without a cut only the DATA that is waited for changes what waits
      have kept : x.cuts l.interface = false := by
        rw [cuts, resets, command]
        rfl
      simp only [kept, reduceCtorEq, false_and, exists_false, false_or, true_and]
      cases pending : l.pending with
      | none =>
        rw [entry_of_uncut kept fun c _ => onData_of_none pending c]
        simp [pending]
      | some waiting =>
        cases own : x.isDataFor waiting.code waiting.tid with
        | true =>
          rw [(entry_of_own pending own).2.2]
          constructor
          · intro h
            cases h
          · rintro ⟨same, foreign⟩
            cases same
            rw [own] at foreign
            cases foreign
        | false =>
          rw [entry_of_uncut kept (ignored_of_foreign pending own)]
          constructor
          · intro same
            cases pending.symm.trans same
            exact ⟨rfl, own⟩
          · rintro ⟨same, -⟩
            rw [← same]
            exact pending

/-- The ledger keeps the operation that waits. -/
theorem Ledger.pending_run {callbacks : List Callback} {op : PendingOp} :
    (({} : Ledger).run callbacks).pending = some op ↔ Waits op callbacks := by
  induction callbacks using List.reverseRecOn with
  | nil =>
    show none = some op ↔ _
    constructor
    · intro nothing
      cases nothing
    · intro waits
      exact absurd waits (not_waits_nil op)
  | append_singleton callbacks x ih =>
    have interface : (({} : Ledger).run callbacks).interface = lastInterface callbacks :=
      interface_run {} callbacks
    rw [run_append]
    show ((({} : Ledger).run callbacks).entry x).after.pending = some op ↔ _
    rw [pending_entry, interface, ih, waits_concat]

/-! ## Record events -/

namespace Ledger

/-- The record event of a callback: that of DATA for the operation that waits. -/
def pressAt? (l : Ledger) (x : Callback) : Option RecEvent :=
  x.data?.bind fun c =>
    (l.pending.filter fun op => op.code = c.header.code ∧ op.tid = c.header.tid).bind (press? · c)

theorem pressAt?_eq_some {l : Ledger} {x : Callback} {e : RecEvent} :
    l.pressAt? x = some e ↔ ∃ c op, x.data? = some c ∧ l.pending = some op ∧
      op.code = c.header.code ∧ op.tid = c.header.tid ∧ press? op c = some e := by
  simp only [pressAt?, Option.bind_eq_some_iff, Option.filter_eq_some_iff, decide_eq_true_eq]
  constructor
  · rintro ⟨c, data, op, ⟨pending, code, tid⟩, press⟩
    exact ⟨c, op, data, pending, code, tid, press⟩
  · rintro ⟨c, op, data, pending, code, tid, press⟩
    exact ⟨c, data, op, ⟨pending, code, tid⟩, press⟩

/-- Without DATA nothing is recorded. -/
theorem quiet_of_no_data {l : Ledger} {x : Callback} (h : x.data? = none) :
    (l.entry x).records = [] ∧ (l.entry x).after.recording = l.recording := by
  cases x with
  | outCompleted data =>
    cases classified : Container.classify data with
    | error e =>
      rw [entry_of_error classified]
      exact ⟨rfl, rfl⟩
    | ok c =>
      rw [entry_of_ok classified]
      cases kind : c.header.kind with
      | data =>
        rw [data?_eq_some.2 ⟨container?_eq_some.2 ⟨data, rfl, classified⟩, kind⟩] at h
        cases h
      | command => exact ⟨rfl, rfl⟩
      | response => exact ⟨rfl, rfl⟩
      | event => exact ⟨rfl, rfl⟩
  | inCompleted ep =>
    simp only [entry]
    split <;> exact ⟨rfl, rfl⟩
  | control setup data =>
    refine ⟨rfl, ?_⟩
    simp only [entry]
    split <;> rfl
  | busReset => exact ⟨rfl, rfl⟩
  | interfaceOpened interface => exact ⟨rfl, rfl⟩

/-- What is recorded at a callback, and what it makes of the flag. -/
theorem recording_entry (l : Ledger) (x : Callback) :
    (l.entry x).records = (l.pressAt? x).toList ∧
      (l.entry x).after.recording
        = ((l.pressAt? x).map RecEvent.recording).getD l.recording := by
  cases data : x.data? with
  | none =>
    rw [pressAt?, data]
    exact quiet_of_no_data data
  | some c =>
    rw [entry_of_data data, pressAt?, data, Option.bind_some]
    cases pending : l.pending with
    | none =>
      rw [onData_of_none pending]
      exact ⟨rfl, rfl⟩
    | some op =>
      rw [Option.filter_some]
      by_cases own : op.code = c.header.code ∧ op.tid = c.header.tid
      · rw [if_pos (decide_eq_true own)]
        simp only [onData, pending, if_pos own]
        exact ⟨rfl, rfl⟩
      · rw [onData_of_foreign pending own, decide_eq_false own]
        exact ⟨rfl, rfl⟩

/-- The flag is what the last record event said. -/
theorem recording_run (l : Ledger) (callbacks : List Callback) :
    (l.run callbacks).recording
      = ((l.recorded callbacks).getLast?.map RecEvent.recording).getD l.recording := by
  induction callbacks generalizing l with
  | nil => rfl
  | cons x rest ih =>
    obtain ⟨records, recording⟩ := recording_entry l x
    show ((l.entry x).after.run rest).recording = _
    rw [ih, recorded, records, recording, List.getLast?_append]
    -- a later record event hides this one
    cases (recorded rest (l.entry x).after).getLast? with
    | some e => rfl
    | none => cases l.pressAt? x <;> rfl

end Ledger

/-! ## Runs of the responder -/

variable {β : Type} [Bus β]

theorem recordings_step (a : Attached β Legacy) (x : Callback) :
    (a.step x).recordings = a.recordings ++ (a.responder.ledger.pressAt? x).toList := by
  have shown : ∀ actions : List Action, (actions.filterMap Action.event?).filterMap
      Event.recording? = actions.filterMap Action.recording? := by
    intro actions
    rw [List.filterMap_filterMap]
    exact congrArg (List.filterMap · actions) (funext Action.event?_bind_recording?)
  rw [Attached.recordings, Attached.events_step, List.filterMap_append, shown, recordings_actions,
    (Ledger.recording_entry _ x).1]
  rfl

theorem recordings_run (a : Attached β Legacy) (callbacks : List Callback) :
    (a.run callbacks).recordings = a.recordings ++ a.responder.ledger.recorded callbacks := by
  induction callbacks generalizing a with
  | nil => exact (List.append_nil _).symm
  | cons x rest ih =>
    rw [Attached.run_cons, ih, recordings_step, ledger_step, Ledger.recorded,
      (Ledger.recording_entry _ x).1, List.append_assoc]

/-- A full press of the record button waits for its DATA: its COMMAND came in, and since then no
other COMMAND, no reset and no DATA for it. -/
def PressOpen (tid : UInt32) (callbacks : List Callback) : Prop :=
  ∃ before x c since, callbacks = before ++ x :: since ∧ x.command? = some c ∧
    c.header.code = Operation.recButton ∧ c.header.tid = tid ∧
    c.param0 = RecButton.fullPress ∧ uncut (lastInterface before) since ∧
    ∀ y ∈ since, y.isDataFor Operation.recButton tid = false

theorem waits_iff_pressOpen {tid : UInt32} {callbacks : List Callback} :
    Waits ⟨Operation.recButton, tid, RecButton.fullPress⟩ callbacks ↔ PressOpen tid callbacks := by
  constructor
  · rintro ⟨before, x, c, since, run, command, awaited, whole, none_own⟩
    rw [awaited?, Option.ite_none_right_eq_some, Option.some.injEq, PendingOp.mk.injEq] at awaited
    obtain ⟨code, -, tid, param0⟩ := awaited
    exact ⟨before, x, c, since, run, command, code, tid, param0, whole, none_own⟩
  · rintro ⟨before, x, c, since, run, command, code, rfl, param0, whole, none_own⟩
    refine ⟨before, x, c, since, run, command, ?_, whole, none_own⟩
    rw [awaited?, if_pos code, code, param0]

/-- Only the record button waits for DATA. -/
theorem code_of_waits {op : PendingOp} {callbacks : List Callback} (h : Waits op callbacks) :
    op.code = Operation.recButton := by
  obtain ⟨-, -, c, -, -, -, awaited, -, -⟩ := h
  rw [awaited?, Option.ite_none_right_eq_some] at awaited
  obtain ⟨code, same⟩ := awaited
  cases same
  exact code

/-- The press that the responder takes a callback for is told by the callbacks before it. -/
theorem pressAt?_run {bus : β} {before : List Callback} {x : Callback} {e : RecEvent} :
    ((attachedTo bus).run before).responder.ledger.pressAt? x = some e ↔
      ∃ data c kind, x = .outCompleted data ∧
        Container.classify data = .ok c ∧ c.header.kind = .data ∧
        c.header.code = Operation.recButton ∧ PressOpen c.header.tid before ∧
        c.tail.head? = some (pressByte kind) ∧ e = ⟨kind, c.header.tid, c.tail.take 5⟩ := by
  have waiting : ∀ op, ((attachedTo bus).run before).responder.ledger.pending = some op ↔
      Waits op before := by
    intro op
    rw [ledger_run]
    exact Ledger.pending_run
  rw [Ledger.pressAt?_eq_some]
  constructor
  · -- what waits is the record button, since nothing else ever does
    rintro ⟨c, ⟨code, tid, param0⟩, data, pending, rfl, rfl, press⟩
    obtain ⟨container, kind⟩ := data?_eq_some.1 data
    obtain ⟨bytes, rfl, classified⟩ := container?_eq_some.1 container
    obtain ⟨pressed, counts, rfl⟩ := Option.map_eq_some_iff.1 press
    obtain ⟨rfl, first⟩ := recKind?_eq_some.1 counts
    rw [waiting] at pending
    have button : c.header.code = Operation.recButton := code_of_waits pending
    rw [button, waits_iff_pressOpen] at pending
    exact ⟨bytes, c, pressed, rfl, classified, kind, button, pending, first, rfl⟩
  · rintro ⟨bytes, c, pressed, rfl, classified, kind, button, opened, first, rfl⟩
    have container := container?_eq_some.2 ⟨bytes, rfl, classified⟩
    have pending := (waiting _).2 (waits_iff_pressOpen.2 opened)
    refine ⟨c, _, data?_eq_some.2 ⟨container, kind⟩, pending, button.symm, rfl, ?_⟩
    rw [press?, recKind?_eq_some.2 ⟨rfl, first⟩]
    rfl

/-- From a fresh responder on, the flag is what the last record event said. -/
theorem recording_eq (bus : β) (callbacks : List Callback) :
    ((attachedTo bus).run callbacks).responder.recording
      = (((attachedTo bus).run callbacks).recordings.getLast?.map
        RecEvent.recording).getD false := by
  rw [recordings_run]
  show ((attachedTo bus).run callbacks).responder.ledger.recording = _
  rw [ledger_run, Ledger.recording_run]
  rfl

/-- For every run: the next callback reports at most one record event, exactly when it is DATA of
the record button for a full press that waits for it and says start or stop; and the camera records
exactly if the last record event was a start. -/
theorem recordings_by_history (bus : β) :
    (∀ before x, ∃ press : Option RecEvent,
      ((attachedTo bus).run (before ++ [x])).recordings
        = ((attachedTo bus).run before).recordings ++ press.toList ∧
      ∀ e, press = some e ↔ ∃ data c kind, x = .outCompleted data ∧
        Container.classify data = .ok c ∧ c.header.kind = .data ∧
        c.header.code = Operation.recButton ∧ PressOpen c.header.tid before ∧
        c.tail.head? = some (pressByte kind) ∧ e = ⟨kind, c.header.tid, c.tail.take 5⟩) ∧
    (∀ callbacks, ((attachedTo bus).run callbacks).responder.recording = true ↔
      ((attachedTo bus).run callbacks).recordings.getLast?.map RecEvent.kind = some .start) := by
  constructor
  · intro before x
    refine ⟨((attachedTo bus).run before).responder.ledger.pressAt? x, ?_, ?_⟩
    · rw [Attached.run_append, Attached.run_cons, Attached.run_nil, recordings_step]
    · intro e
      exact pressAt?_run
  · intro callbacks
    rw [recording_eq]
    cases ((attachedTo bus).run callbacks).recordings.getLast? with
    | none => simp
    | some e => cases kind : e.kind <;> simp [RecEvent.recording, RecKind.recording, kind]

end Legacy

end PictureTransfer
