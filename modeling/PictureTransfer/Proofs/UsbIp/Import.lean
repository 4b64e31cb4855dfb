import PictureTransfer.Proofs.Text.Bytes
import PictureTransfer.Proofs.UsbIp.Commands
import PictureTransfer.Proofs.UsbIp.Isolation

/-!
# What is listed can be imported

Before an import a host sends a head of eight bytes, and with an import a bus id in a field of fixed
size (`OpRequest.read_deviceList`, `OpRequest.read_import`). The field in which a device lists its
own id is read as that id, unless it does not fit (`OpRequest.fieldText_field`). So a host that
sends it back imports the device, and any other id is refused (`imports_as_listed`).
-/

namespace PictureTransfer.UsbIp

/-! ## Fields of fixed size -/

theorem length_put16 (v : UInt16) : (put16 v).length = 2 := Bytes.length_big 2 _

theorem word16At_put16 (v : UInt16) (rest : Bytes) : word16At (put16 v ++ rest) 0 = v := by
  have field : ((put16 v ++ rest).drop 0).take 2 = put16 v := List.take_left' (length_put16 v)
  have bound : v.toNat < Bytes.capacity 2 := v.toNat_lt
  rw [word16At, field, put16, Bytes.bigValue_big, Nat.mod_eq_of_lt bound, UInt16.ofNat_toNat]

theorem word16At_skip {before : Bytes} {n : Nat} (size : before.length = n) (rest : Bytes)
    (i : Nat) : word16At (before ++ rest) (n + i) = word16At rest i := by
  rw [word16At, word16At, ← List.drop_drop, List.drop_left' size]

namespace Exported

/-- A field has its size, however long the text is. -/
theorem length_field {size : Nat} (some_room : 0 < size) (text : String) :
    (field size text).length = size := by
  rw [field, List.length_append, List.length_replicate]
  have := List.length_take_le (size - 1) (Text.Utf8.encode text.toList)
  omega

/-- A text that fits its field is all there, with zeros behind it. -/
theorem field_of_fits {size : Nat} {text : String}
    (fits : (Text.Utf8.encode text.toList).length < size) :
    field size text = Text.Utf8.encode text.toList
      ++ List.replicate (size - (Text.Utf8.encode text.toList).length) 0 := by
  rw [field, List.take_of_length_le (Nat.le_sub_one_of_lt fits)]

/-- The record of a device has the same size for all. -/
theorem length_record (e : Exported) : e.record.length = 312 := by
  have path : (field 256 e.path).length = 256 := length_field (by decide) _
  have busId : (field OpRequest.busIdSize e.busId).length = 32 := length_field (by decide) _
  simp only [record, List.length_append, path, busId, length_put32, length_put16,
    List.length_cons, List.length_nil]

/-- The bus id stands behind the path. -/
theorem busId_record (e : Exported) :
    (e.record.drop 256).take 32 = field OpRequest.busIdSize e.busId := by
  have path : (field 256 e.path).length = 256 := length_field (by decide) _
  have busId : (field OpRequest.busIdSize e.busId).length = 32 := length_field (by decide) _
  simp only [record, List.append_assoc]
  rw [List.drop_left' path, List.take_left' busId]

end Exported

namespace OpRequest

/-- What every request begins with: the version, the operation, and a status that means nothing. -/
def head (code : UInt16) (status : UInt32) : Bytes := put16 version ++ put16 code ++ put32 status

/-- A text that fits its field and has no character zero is read back. -/
theorem fieldText_field {size : Nat} {text : String}
    (fits : (Text.Utf8.encode text.toList).length < size) (whole : Char.ofNat 0 ∉ text.toList) :
    fieldText (Exported.field size text) = text := by
  have ends : (List.replicate (size - (Text.Utf8.encode text.toList).length) (0 : UInt8)).takeWhile
      (· ≠ 0) = [] := by
    rw [List.takeWhile_replicate]
    rfl
  have kept : (Exported.field size text).takeWhile (· ≠ 0) = Text.Utf8.encode text.toList := by
    rw [Exported.field_of_fits fits, List.takeWhile_append_of_pos, ends, List.append_nil]
    intro b listed
    exact decide_eq_true (Text.Utf8.ne_zero_of_mem_encode whole listed)
  rw [fieldText, kept, Text.Utf8.decodeLossy_encode, String.ofList_toList]

/-- The operation in the head is the one that is asked for. -/
theorem read_behind_head (code : UInt16) (status : UInt32) (s : Source) :
    read (s.behind (head code status)) =
      if code = 0x8005 then .ok .deviceList s
      else if code = 0x8003 then
        match readBytes busIdSize s with
        | .ok raw t => .ok (.import_ (fieldText raw)) t
        | .error e t => .error e t
      else .error (.unknownOp code) s := by
  have size : (head code status).length = 8 := by
    simp only [head, List.length_append, length_put16, length_put32]
  have current : word16At (head code status) 0 = version := by
    rw [head, List.append_assoc]
    exact word16At_put16 version _
  have asked : word16At (head code status) 2 = code := by
    rw [head, List.append_assoc]
    exact (word16At_skip (length_put16 version) _ 0).trans (word16At_put16 code _)
  rw [read]
  show EStateM.bind (readBytes 8) _ _ = _
  rw [EStateM.bind, readBytes_behind size]
  dsimp only
  rw [current, asked, if_neg (fun other => other rfl)]
  by_cases list : code = 0x8005
  · rw [if_pos list, if_pos list]
    rfl
  · rw [if_neg list, if_neg list]
    by_cases import_ : code = 0x8003
    · rw [if_pos import_, if_pos import_]
      show EStateM.bind (readBytes busIdSize) _ s = _
      rw [EStateM.bind]
      cases readBytes busIdSize s <;> rfl
    · rw [if_neg import_, if_neg import_]
      rfl

theorem read_deviceList (status : UInt32) (s : Source) :
    read (s.behind (head 0x8005 status)) = .ok .deviceList s := by
  rw [read_behind_head, if_pos rfl]

/-- An import asks for the text of the field behind the head. -/
theorem read_import {raw : Bytes} (size : raw.length = busIdSize) (status : UInt32) (s : Source) :
    read (s.behind (head 0x8003 status ++ raw)) = .ok (.import_ (fieldText raw)) s := by
  rw [Source.behind_append, read_behind_head, if_neg (by decide), if_pos rfl,
    readBytes_behind size]

end OpRequest

namespace Device

variable {σ : Type} [Responder σ]

/-! ## Requests -/

variable {d : Device σ} {raw : Bytes}

/-- A host that asks for the list is given it, and nothing else happens. -/
theorem serve_deviceList (d : Device σ) (status : UInt32) (rest : Source) (walk : Walk) :
    d.serve { source := rest.behind (OpRequest.head 0x8005 status), walk }
      = .ok () { device := d, replies := [.deviceList d.exported], walk } := by
  rw [serve, Serving.connection, OpRequest.read_deviceList]
  rfl

/-- A host that asks for the device under its bus id is given its record, and then its commands are
handled until it goes away. -/
theorem serve_import (size : raw.length = OpRequest.busIdSize)
    (own : OpRequest.fieldText raw = d.exported.busId) (status : UInt32) (rest : Source)
    (walk : Walk) :
    let s : Serving σ := { device := d, replies := [.imported d.exported], walk }
    d.serve { source := rest.behind (OpRequest.head 0x8003 status ++ raw), walk }
      = .error (s.handleAll rest).1
          { (s.handleAll rest).2 with device := Serving.detach (s.handleAll rest).2.device } := by
  rw [serve, Serving.connection, OpRequest.read_import size]
  dsimp only
  rw [if_pos own]
  rfl

/-- A host that asks for another bus id is refused, and nothing else happens. -/
theorem serve_import_of_ne (size : raw.length = OpRequest.busIdSize)
    (other : OpRequest.fieldText raw ≠ d.exported.busId) (status : UInt32) (rest : Source)
    (walk : Walk) :
    d.serve { source := rest.behind (OpRequest.head 0x8003 status ++ raw), walk }
      = .error (.unknownBusId (OpRequest.fieldText raw) d.exported.busId)
          { device := d, replies := [.refused], walk } := by
  rw [serve, Serving.connection, OpRequest.read_import size]
  dsimp only
  rw [if_neg other]
  rfl

end Device

namespace Reply

theorem length_opHead (code : UInt16) (status : UInt32) : (opHead code status).length = 8 := by
  simp only [opHead, List.length_append, length_put16, length_put32]

/-- The list of one device: how many there are, its record, and its interface. -/
theorem encode_deviceList (e : Exported) :
    (deviceList e).encode = (opHead 0x0005 0 ++ put32 1) ++ (e.record ++ [6, 1, 1, 0]) :=
  List.append_assoc ..

theorem length_deviceList (e : Exported) : (deviceList e).encode.length = 328 := by
  simp only [encode_deviceList, List.length_append, length_opHead, length_put32,
    Exported.length_record, List.length_cons, List.length_nil]

/-- The record stands behind twelve bytes of the list. -/
theorem record_deviceList (e : Exported) :
    ((deviceList e).encode.drop 12).take 312 = e.record := by
  have before : (opHead 0x0005 0 ++ put32 1).length = 12 := by
    rw [List.length_append, length_opHead, length_put32]
  rw [encode_deviceList, List.drop_left' before, List.take_left' e.length_record]

/-- The bus id has its field of the record in the list too. -/
theorem busId_deviceList (e : Exported) :
    ((deviceList e).encode.drop 268).take 32 = Exported.field OpRequest.busIdSize e.busId := by
  rw [← e.busId_record, ← record_deviceList e, List.drop_take, List.take_take, List.drop_drop]
  rfl

theorem length_imported (e : Exported) : (imported e).encode.length = 320 := by
  rw [encode, List.length_append, length_opHead, e.length_record]

end Reply

namespace Serving

variable {σ : Type}

theorem written_one (d : Device σ) (reply : Reply) (walk : Walk) :
    Serving.written { device := d, replies := [reply], walk } = reply.encode := List.append_nil _

/-- What was written to a host stays written. -/
theorem Steps.written_prefix [Responder σ] {s t : Serving σ} (steps : Steps s t)
    (unlimited : s.limit = none) : s.written <+: t.written := by
  have kept : t.limit = none ∧ s.output <+: t.output := by
    refine steps.invariant (P := fun u => u.limit = none ∧ s.output <+: u.output) ?_
      ⟨unlimited, List.prefix_refl _⟩
    rintro u v step ⟨open_ended, before⟩
    cases step with
    | wrote reply =>
      refine ⟨open_ended, before.trans ?_⟩
      rw [output, output, List.flatMap_append]
      exact List.prefix_append _ _
    | _ => exact ⟨open_ended, before⟩
  rw [written, written, unlimited, kept.1]
  exact kept.2

/-- A device that is listed can be imported, whatever its identity and whatever hosts came before.
The reply to a host that asks for the list has 328 bytes. If the bus id has at most 31 bytes and no
character zero in them, a host that sends back the field in which the reply has it is accepted: it
is given the same record in a reply of 320 bytes, and behind it come the replies to its commands.
With a field that holds any other text, a host is refused in eight bytes and its connection ends
with an error that names both ids. Neither the list nor the refusal changes the device. -/
theorem imports_as_listed [Responder σ] (responder : σ) (p : Personality) (identity : Identity)
    (busId : String) (earlier : List Visit) :
    let d := (Device.fresh responder (.ofPersonality p identity) busId).afterVisits earlier
    (∀ (status : UInt32) (rest : Source) (walk : Walk), ∃ t : Serving σ,
        d.serve { source := rest.behind (OpRequest.head 0x8005 status), walk } = .ok () t ∧
        t.device = d ∧ t.written.length = 328 ∧
        ((Text.Utf8.encode busId.toList).length ≤ 31 → Char.ofNat 0 ∉ busId.toList →
          ∀ (status' : UInt32) (rest' : Source) (walk' : Walk), ∃ s : Serving σ,
            s.device = d ∧ s.limit = none ∧ s.walk = walk' ∧
            s.written = [1, 0x11, 0, 3, 0, 0, 0, 0] ++ (t.written.drop 12).take 312 ∧
            s.written.length = 320 ∧ s.written <+: (s.handleAll rest').2.written ∧
            d.serve
                { source :=
                    rest'.behind (OpRequest.head 0x8003 status' ++ (t.written.drop 268).take 32)
                  walk := walk' }
              = .error (s.handleAll rest').1
                  { (s.handleAll rest').2 with device := detach (s.handleAll rest').2.device })) ∧
    ∀ (raw : Bytes) (status : UInt32) (rest : Source) (walk : Walk), raw.length = 32 →
      OpRequest.fieldText raw ≠ busId → ∃ t : Serving σ,
        d.serve { source := rest.behind (OpRequest.head 0x8003 status ++ raw), walk }
          = .error (.unknownBusId (OpRequest.fieldText raw) busId) t ∧
        t.device = d ∧ t.written = [1, 0x11, 0, 3, 0, 0, 0, 1] := by
  intro d
  have exported : d.exported.busId = busId :=
    congrArg Exported.busId (Device.identity_afterVisits _ earlier).2
  refine ⟨?_, ?_⟩
  · intro status rest walk
    refine ⟨_, d.serve_deviceList status rest walk, rfl, ?_, ?_⟩
    · rw [written_one]
      exact Reply.length_deviceList _
    · intro fits whole status' rest' walk'
      have size : (Exported.field OpRequest.busIdSize d.exported.busId).length
          = OpRequest.busIdSize := Exported.length_field (by decide) _
      have own : OpRequest.fieldText (Exported.field OpRequest.busIdSize d.exported.busId)
          = d.exported.busId := by
        rw [exported]
        exact OpRequest.fieldText_field (Nat.lt_succ_of_le fits) whole
      refine ⟨{ device := d, replies := [.imported d.exported], walk := walk' },
        rfl, rfl, rfl, ?_, ?_, ?_, ?_⟩
      · rw [written_one, written_one, Reply.record_deviceList]
        rfl
      · rw [written_one]
        exact Reply.length_imported _
      · exact Steps.written_prefix (steps_handleAll _ rest') rfl
      · rw [written_one, Reply.busId_deviceList]
        exact Device.serve_import size own status' rest' walk'
  · intro raw status rest walk width other
    rw [← exported] at other ⊢
    refine ⟨_, Device.serve_import_of_ne width other status rest walk, rfl, ?_⟩
    rw [written_one]
    rfl

/-- A bus id of several scripts that leaves no more than the zero at the end of its field. -/
theorem imports_as_listed_unicode :
    let busId := "日本語-câmera-größe-ñ-01"
    let d := Device.fresh ({} : Legacy) (.ofPersonality .legacy {}) busId
    let sends (bytes : Bytes) : Visit := { source := .behind bytes ⟨[], .closed⟩ }
    let raw : Bytes := List.replicate 32 65
    (Text.Utf8.encode busId.toList).length ≤ 31 ∧ Char.ofNat 0 ∉ busId.toList ∧
      (∃ t : Serving Legacy, d.serve (sends (OpRequest.head 0x8005 0)) = .ok () t ∧
        ∃ (s : Serving Legacy) (e : Error) (u : Serving Legacy), s.written.length = 320 ∧
          d.serve (sends (OpRequest.head 0x8003 0 ++ (t.written.drop 268).take 32)) = .error e u ∧
          s.written <+: u.written) ∧
      raw.length = 32 ∧ OpRequest.fieldText raw ≠ busId ∧
      ∃ t : Serving Legacy, d.serve (sends (OpRequest.head 0x8003 0 ++ raw))
        = .error (.unknownBusId (OpRequest.fieldText raw) busId) t := by
  intro busId d sends raw
  have fits : (Text.Utf8.encode busId.toList).length ≤ 31 := by decide
  have whole : Char.ofNat 0 ∉ busId.toList := by decide
  have other : OpRequest.fieldText raw ≠ busId := by decide +kernel
  obtain ⟨listing, refusal⟩ := imports_as_listed ({} : Legacy) .legacy {} busId []
  obtain ⟨t, listed, -, -, importing⟩ := listing 0 ⟨[], .closed⟩ _
  obtain ⟨s, -, -, -, -, size, before, imported⟩ := importing fits whole 0 ⟨[], .closed⟩ _
  obtain ⟨u, refused, -⟩ := refusal raw 0 ⟨[], .closed⟩ _ rfl other
  exact ⟨fits, whole, ⟨t, listed, s, _, _, size, imported, before⟩, rfl, other, u, refused⟩

end Serving

end PictureTransfer.UsbIp
