import PictureTransfer.Proofs.Channel
import PictureTransfer.Proofs.UsbIp.Handling

/-!
# The commands in a stream

Every command has a header of 48 bytes: five words that all commands have (`Urb.head`) and a body of
its own. `Urb.Written` says what a host may write for a command, with anything in the fields that
the device passes over. What is read as a command was written for it (`Urb.written_of_read`), and
what was written for a command is read as that one (`Urb.read_written`) and not from fewer bytes
(`Urb.read_truncated`). So a stream of commands is read as these (`reads_each_command`).
-/

namespace PictureTransfer.UsbIp

/-! ## Words -/

@[simp] theorem length_put32 (v : UInt32) : (put32 v).length = 4 := Bytes.length_big 4 _

/-- A word is read where it was put. -/
theorem word32At_put32 (v : UInt32) (rest : Bytes) : word32At (put32 v ++ rest) 0 = v := by
  have field : ((put32 v ++ rest).drop 0).take 4 = put32 v :=
    List.take_left' (Bytes.length_big 4 _)
  have bound : v.toNat < Bytes.capacity 4 := v.toNat_lt
  rw [word32At, field, put32, Bytes.bigValue_big, Nat.mod_eq_of_lt bound, UInt32.ofNat_toNat]

/-- What stands in front of a word can be skipped. -/
theorem word32At_skip {before : Bytes} {n : Nat} (size : before.length = n) (rest : Bytes)
    (i : Nat) : word32At (before ++ rest) (n + i) = word32At rest i := by
  rw [word32At, word32At, ← List.drop_drop, List.drop_left' size]

/-- Of words one behind the other each is read where it stands. -/
theorem word32At_words (words : List UInt32) (rest : Bytes) {i : Nat} (inside : i < words.length) :
    word32At (words.flatMap put32 ++ rest) (4 * i) = words[i] := by
  induction words generalizing i with
  | nil => cases inside
  | cons v others ih =>
    rw [List.flatMap_cons, List.append_assoc]
    cases i with
    | zero => exact word32At_put32 v _
    | succ i =>
      rw [Nat.mul_succ, Nat.add_comm, word32At_skip (length_put32 v)]
      exact ih (Nat.lt_of_succ_lt_succ inside)

/-- Four bytes are a word. -/
theorem exists_put32_append {bytes : Bytes} {n : Nat} (size : bytes.length = 4 + n) :
    ∃ v rest, bytes = put32 v ++ rest ∧ rest.length = n := by
  have four : (bytes.take 4).length = 4 := List.length_take_of_le (size ▸ Nat.le_add_right 4 n)
  have bound : Bytes.bigValue (bytes.take 4) < UInt32.size := by
    have below := Bytes.littleValue_lt (bytes.take 4).reverse
    rw [List.length_reverse, four] at below
    exact below
  refine ⟨UInt32.ofNat (Bytes.bigValue (bytes.take 4)), bytes.drop 4, ?_, ?_⟩
  · rw [put32, UInt32.toNat_ofNat_of_lt' bound, Bytes.big_bigValue four, List.take_append_drop]
  · rw [List.length_drop, size, Nat.add_sub_cancel_left]

/-! ## Reads of so many bytes -/

theorem readBytes_behind {bytes : Bytes} {n : Nat} (size : bytes.length = n) (s : Source) :
    readBytes n (s.behind bytes) = .ok bytes s := by
  rw [← size, readBytes, Source.take_behind]

theorem readBytes_short {bytes : Bytes} {n : Nat} (short : bytes.length < n) (ending : Fault) :
    readBytes n (.ofBytes bytes ending) = .error (.ofFault ending) (.ofBytes [] ending) := by
  rw [readBytes, Source.take_short short]

theorem behind_of_readBytes {n : Nat} {s t : Source} {bytes : Bytes}
    (h : readBytes n s = .ok bytes t) : bytes.length = n ∧ s = t.behind bytes := by
  rw [readBytes] at h
  split at h
  · next read =>
    cases h
    exact Source.behind_of_take read
  · cases h

namespace Urb

/-! ## Headers -/

/-- The words that all commands begin with. -/
def head (command seqnum devid direction ep : UInt32) : Bytes :=
  [command, seqnum, devid, direction, ep].flatMap put32

/-- The rest of the header of a transfer. The first frame and the number of packets are passed over,
as no endpoint is isochronous. -/
def submitBody (urb : Submit) (startFrame packets : UInt32) : Bytes :=
  [urb.flags, urb.length, startFrame, packets, urb.interval].flatMap put32 ++ urb.setup

/-- The rest of the header of an unlink, which is filled up to the length of the other one. -/
def unlinkBody (target : UInt32) (filling : Bytes) : Bytes := put32 target ++ filling

/-- What a host may write for a command. Data follows a transfer to the device, as much as it says
and not too much, and nothing else. -/
inductive Written : Urb → Bytes → Prop where
  | submit {urb : Submit} (startFrame packets : UInt32) (setup : urb.setup.length = 8)
      (fits : urb.length ≤ maxData)
      (sized : urb.data.length = if urb.direction = 0 then urb.length.toNat else 0) :
      Written (.submit urb) (head 1 urb.seqnum urb.devid urb.direction urb.ep
        ++ submitBody urb startFrame packets ++ urb.data)
  | unlink (seqnum target devid direction ep : UInt32) {filling : Bytes}
      (filled : filling.length = 24) :
      Written (.unlink seqnum target)
        (head 2 seqnum devid direction ep ++ unlinkBody target filling)

/-- The data that comes with a command. -/
def data : Urb → Bytes
  | .submit urb => urb.data
  | .unlink .. => []

theorem length_head (command seqnum devid direction ep : UInt32) :
    (head command seqnum devid direction ep).length = headSize := by
  simp [head, headSize]

theorem length_submitBody {urb : Submit} (setup : urb.setup.length = 8)
    (startFrame packets : UInt32) : (submitBody urb startFrame packets).length = bodySize := by
  simp [submitBody, bodySize, setup]

theorem length_unlinkBody (target : UInt32) {filling : Bytes} (filled : filling.length = 24) :
    (unlinkBody target filling).length = bodySize := by
  simp [unlinkBody, bodySize, filled]

/-- The words of a head are read where they stand. -/
theorem words_head (command seqnum devid direction ep : UInt32) :
    word32At (head command seqnum devid direction ep) 0 = command ∧
    word32At (head command seqnum devid direction ep) 4 = seqnum ∧
    word32At (head command seqnum devid direction ep) 8 = devid ∧
    word32At (head command seqnum devid direction ep) 12 = direction ∧
    word32At (head command seqnum devid direction ep) 16 = ep := by
  have words : ∀ (i : Nat) (inside : i < 5),
      word32At (head command seqnum devid direction ep) (4 * i)
        = [command, seqnum, devid, direction, ep][i] := by
    intro i inside
    have here := word32At_words [command, seqnum, devid, direction, ep] [] inside
    rwa [List.append_nil] at here
  exact ⟨words 0 (by decide), words 1 (by decide), words 2 (by decide), words 3 (by decide),
    words 4 (by decide)⟩

/-- The fields of the rest of a transfer's header are read where they stand. -/
theorem words_submitBody (urb : Submit) (startFrame packets : UInt32) :
    word32At (submitBody urb startFrame packets) 0 = urb.flags ∧
    word32At (submitBody urb startFrame packets) 4 = urb.length ∧
    word32At (submitBody urb startFrame packets) 16 = urb.interval ∧
    (submitBody urb startFrame packets).drop 20 = urb.setup := by
  have words : ∀ (i : Nat) (inside : i < 5),
      word32At (submitBody urb startFrame packets) (4 * i)
        = [urb.flags, urb.length, startFrame, packets, urb.interval][i] :=
    fun i inside => word32At_words _ urb.setup inside
  have size : ([urb.flags, urb.length, startFrame, packets, urb.interval].flatMap put32).length
      = 20 := by simp
  exact ⟨words 0 (by decide), words 1 (by decide), words 4 (by decide), List.drop_left' size⟩

/-- Twenty bytes are a head. -/
theorem exists_head {bytes : Bytes} (size : bytes.length = headSize) :
    ∃ command seqnum devid direction ep, bytes = head command seqnum devid direction ep := by
  obtain ⟨command, behind₁, rfl, size₁⟩ := exists_put32_append (n := 16) size
  obtain ⟨seqnum, behind₂, rfl, size₂⟩ := exists_put32_append (n := 12) size₁
  obtain ⟨devid, behind₃, rfl, size₃⟩ := exists_put32_append (n := 8) size₂
  obtain ⟨direction, behind₄, rfl, size₄⟩ := exists_put32_append (n := 4) size₃
  obtain ⟨ep, behind₅, rfl, size₅⟩ := exists_put32_append (n := 0) size₄
  obtain rfl := List.length_eq_zero_iff.1 size₅
  exact ⟨command, seqnum, devid, direction, ep, rfl⟩

/-- The 28 bytes behind the head are the rest of the header of some transfer. -/
theorem exists_submitBody {bytes : Bytes} (size : bytes.length = bodySize) :
    ∃ (urb : Submit) (startFrame packets : UInt32), urb.setup.length = 8 ∧
      bytes = submitBody urb startFrame packets := by
  obtain ⟨flags, behind₁, rfl, size₁⟩ := exists_put32_append (n := 24) size
  obtain ⟨length, behind₂, rfl, size₂⟩ := exists_put32_append (n := 20) size₁
  obtain ⟨startFrame, behind₃, rfl, size₃⟩ := exists_put32_append (n := 16) size₂
  obtain ⟨packets, behind₄, rfl, size₄⟩ := exists_put32_append (n := 12) size₃
  obtain ⟨interval, setup, rfl, size₅⟩ := exists_put32_append (n := 8) size₄
  refine ⟨⟨0, 0, 0, 0, flags, length, interval, setup, []⟩, startFrame, packets, size₅, ?_⟩
  simp only [submitBody, List.flatMap_cons, List.flatMap_nil, List.append_assoc, List.nil_append]

/-- A command takes its header and its data. -/
theorem length_written {urb : Urb} {bytes : Bytes} (written : Written urb bytes) :
    bytes.length = 48 + urb.data.length := by
  cases written with
  | submit startFrame packets setup fits sized =>
    rw [List.length_append, List.length_append, length_head, length_submitBody setup]
    rfl
  | unlink seqnum target devid direction ep filled =>
    rw [List.length_append, length_head, length_unlinkBody target filled]
    rfl

/-! ## One command -/

/-- Behind the header of a transfer to the device as much is read as the transfer says, unless that
is too much. -/
theorem read_submit {urb : Submit} (setup : urb.setup.length = 8) (startFrame packets : UInt32)
    (s : Source) :
    read (s.behind (head 1 urb.seqnum urb.devid urb.direction urb.ep
        ++ submitBody urb startFrame packets)) =
      if maxData < urb.length then .error (.badLength urb.length) s
      else
        match readBytes (if urb.direction = 0 then urb.length.toNat else 0) s with
        | .error e t => .error e t
        | .ok data t => .ok (.submit { urb with data }) t := by
  obtain ⟨command, seqnum, devid, direction, ep⟩ :=
    words_head 1 urb.seqnum urb.devid urb.direction urb.ep
  obtain ⟨flags, length, interval, packet⟩ := words_submitBody urb startFrame packets
  rw [Source.behind_append, read, readBytes_behind (length_head ..)]
  dsimp only
  rw [command, if_pos rfl, readBytes_behind (length_submitBody setup ..)]
  dsimp only
  rw [seqnum, devid, direction, ep, flags, length, interval]
  by_cases long : maxData < urb.length
  · rw [if_pos long, if_pos long]
  · rw [if_neg long, if_neg long]
    cases readBytes (if urb.direction = 0 then urb.length.toNat else 0) s with
    | error e t => rfl
    | ok data t =>
      dsimp only
      rw [packet]

theorem read_unlink (seqnum target devid direction ep : UInt32) {filling : Bytes}
    (filled : filling.length = 24) (s : Source) :
    read (s.behind (head 2 seqnum devid direction ep ++ unlinkBody target filling))
      = .ok (.unlink seqnum target) s := by
  obtain ⟨command, number, -⟩ := words_head 2 seqnum devid direction ep
  have named : word32At (unlinkBody target filling) 0 = target := word32At_put32 target filling
  rw [Source.behind_append, read, readBytes_behind (length_head ..)]
  dsimp only
  rw [command, if_neg (by decide), if_pos rfl,
    readBytes_behind (length_unlinkBody target filled)]
  dsimp only
  rw [number, named]

/-- What was written for a command is read as that command, and the rest is left. -/
theorem read_written {urb : Urb} {bytes : Bytes} (written : Written urb bytes) (s : Source) :
    read (s.behind bytes) = .ok urb s := by
  cases written with
  | submit startFrame packets setup fits sized =>
    rw [Source.behind_append, read_submit setup, if_neg (UInt32.not_lt.2 fits),
      readBytes_behind sized]
  | unlink seqnum target devid direction ep filled =>
    exact read_unlink seqnum target devid direction ep filled s

/-- A header that is cut short is no command. -/
theorem read_short_header {command seqnum devid direction ep : UInt32}
    (known : command = 1 ∨ command = 2) {body front : Bytes}
    (cut : front <+: head command seqnum devid direction ep ++ body)
    (few : front.length < headSize + bodySize) (ending : Fault) :
    read (.ofBytes front ending) = .error (.ofFault ending) (.ofBytes [] ending) := by
  rcases cut_of_append cut with ⟨-, short⟩ | ⟨behind, rfl, -⟩
  · rw [length_head] at short
    rw [read, readBytes_short short]
  · have short : behind.length < bodySize := by
      rw [List.length_append, length_head] at few
      exact Nat.lt_of_add_lt_add_left few
    obtain ⟨first, -⟩ := words_head command seqnum devid direction ep
    rw [Source.ofBytes_append, read, readBytes_behind (length_head ..)]
    dsimp only
    rw [first, readBytes_short short]
    rcases known with rfl | rfl <;> rfl

/-- What was written for a command and is cut short is no command. -/
theorem read_truncated {urb : Urb} {bytes front : Bytes} (written : Written urb bytes)
    (cut : front <+: bytes) (short : front.length < bytes.length) (ending : Fault) :
    read (.ofBytes front ending) = .error (.ofFault ending) (.ofBytes [] ending) := by
  cases written with
  | @submit urb startFrame packets setup fits sized =>
    -- the end is in the header or in the data
    rcases cut_of_append cut with ⟨inside, few⟩ | ⟨behind, rfl, inside⟩
    · rw [List.length_append, length_head, length_submitBody setup] at few
      exact read_short_header (.inl rfl) inside few ending
    · rw [List.length_append, @List.length_append _ _ urb.data, Nat.add_lt_add_iff_left, sized]
        at short
      rw [Source.ofBytes_append, read_submit setup, if_neg (UInt32.not_lt.2 fits),
        readBytes_short short]
  | unlink seqnum target devid direction ep filled =>
    have size := length_unlinkBody target filled
    rw [List.length_append, length_head, size] at short
    exact read_short_header (.inr rfl) cut short ending

/-- What is read as a command was written for it, and the rest is left. -/
theorem written_of_read {urb : Urb} {s t : Source} (h : read s = .ok urb t) :
    ∃ bytes, Written urb bytes ∧ s = t.behind bytes := by
  rw [read] at h
  split at h
  · cases h
  · next taken s₁ first =>
    obtain ⟨size, rfl⟩ := behind_of_readBytes first
    obtain ⟨command, seqnum, devid, direction, ep, rfl⟩ := exists_head size
    obtain ⟨code, number, device, way, endpoint⟩ := words_head command seqnum devid direction ep
    dsimp only at h
    rw [code, number, device, way, endpoint] at h
    split at h
    · next submits =>
      subst submits
      split at h
      · cases h
      · next body s₂ second =>
        obtain ⟨size, rfl⟩ := behind_of_readBytes second
        obtain ⟨urb, startFrame, packets, setup, rfl⟩ := exists_submitBody size
        obtain ⟨flags, length, interval, packet⟩ := words_submitBody urb startFrame packets
        rw [flags, length, interval, packet] at h
        split at h
        · cases h
        · next fits =>
          split at h
          · cases h
          · next data s₃ third =>
            obtain ⟨sized, rfl⟩ := behind_of_readBytes third
            cases h
            refine ⟨_, .submit startFrame packets setup (UInt32.not_lt.1 fits) sized, ?_⟩
            rw [Source.behind_append, Source.behind_append]
            rfl
    · split at h
      · next unlinks =>
        subst unlinks
        split at h
        · cases h
        · next body s₂ second =>
          obtain ⟨size, rfl⟩ := behind_of_readBytes second
          obtain ⟨target, filling, rfl, filled⟩ := exists_put32_append (n := 24) size
          rw [word32At_put32] at h
          cases h
          refine ⟨_, .unlink seqnum target devid direction ep filled, ?_⟩
          rw [Source.behind_append]
          rfl
      · cases h

/-! ## A stream of commands -/

/-- The commands at the front of a source, and why no other is read behind them. -/
def readAll (source : Source) : List Urb × Error :=
  match next : read source with
  | .error e _ => ([], e)
  | .ok urb rest =>
    have _shorter := length_of_read next
    let (urbs, e) := readAll rest
    (urb :: urbs, e)
termination_by source.length
decreasing_by omega

theorem readAll_of_error {source rest : Source} {e : Error} (next : read source = .error e rest) :
    readAll source = ([], e) := by
  rw [readAll]
  split
  · next e' rest' failed =>
    rw [next] at failed
    cases failed
    rfl
  · next urb rest' done =>
    rw [next] at done
    cases done

theorem readAll_of_ok {source rest : Source} {urb : Urb} (next : read source = .ok urb rest) :
    readAll source = (urb :: (readAll rest).1, (readAll rest).2) := by
  rw [readAll]
  split
  · next e rest' failed =>
    rw [next] at failed
    cases failed
  · next urb' rest' done =>
    rw [next] at done
    cases done
    rfl

/-- What was written for some commands, one behind the other, is read as these. -/
theorem readAll_written {urbs : List Urb} {packets : List Bytes}
    (written : List.Forall₂ Written urbs packets) (s : Source) :
    readAll (s.behind packets.flatten) = (urbs ++ (readAll s).1, (readAll s).2) := by
  induction written with
  | nil => rfl
  | @cons urb packet others later first _ ih =>
    rw [List.flatten_cons, Source.behind_append, readAll_of_ok (read_written first _), ih,
      List.cons_append]

end Urb

/-- A device handles the commands that are read, one after another, until one fails or there are no
more. -/
theorem Serving.handleAll_eq {σ : Type} [Responder σ] (source : Source) (s : Serving σ) :
    s.handleAll source = match s.handleEach (Urb.readAll source).1 with
      | .error e t => (e, t)
      | .ok () t => ((Urb.readAll source).2, t) := by
  cases next : Urb.read source with
  | error e rest =>
    rw [handleAll_of_error next, Urb.readAll_of_error next]
    rfl
  | ok urb rest =>
    have _shorter := Urb.length_of_read next
    rw [handleAll_of_ok next, Urb.readAll_of_ok next, handleEach]
    cases s.handle urb with
    | error e t => rfl
    | ok _ t => exact handleAll_eq rest t
termination_by source.length
decreasing_by omega

namespace Urb

/-- Commands that are written one behind the other are read as these, and then the connection is
closed; so a device handles just these. A command that is cut short is none, and the connection is
closed, wherever the cut is. What is read as a command is a header of 48 bytes and the data behind
it, as a host may write them, and the rest is left. And a transfer that says that it has too much
data is refused as soon as its header is read. -/
theorem reads_each_command {urbs : List Urb} {packets : List Bytes}
    (written : List.Forall₂ Written urbs packets) :
    readAll (.ofBytes packets.flatten .closed) = (urbs, .closed) ∧
    (∀ {σ : Type} [Responder σ] (s : Serving σ),
      s.handleAll (.ofBytes packets.flatten .closed) = match s.handleEach urbs with
        | .error e t => (e, t)
        | .ok () t => (.closed, t)) ∧
    (∀ urb packet, Written urb packet → ∀ front, front <+: packet → front ≠ packet →
      read (.ofBytes front .closed) = .error .closed (.ofBytes [] .closed)) ∧
    (∀ bytes ending urb left, read (.ofBytes bytes ending) = .ok urb left →
      ∃ packet rest, bytes = packet ++ rest ∧ Written urb packet ∧
        packet.length = 48 + urb.data.length ∧ left = .ofBytes rest ending) ∧
    ∀ (urb : Submit) startFrame packetCount rest ending, urb.setup.length = 8 →
      0x100000 < urb.length →
      read (.ofBytes (head 1 urb.seqnum urb.devid urb.direction urb.ep
          ++ submitBody urb startFrame packetCount ++ rest) ending)
        = .error (.badLength urb.length) (.ofBytes rest ending) := by
  have all : readAll (.ofBytes packets.flatten .closed) = (urbs, .closed) := by
    have none_left : readAll (.ofBytes [] .closed) = ([], .closed) :=
      readAll_of_error (by rw [read, readBytes_short (by decide)]; rfl)
    rw [Source.ofBytes_eq_behind, readAll_written written, none_left, List.append_nil]
  refine ⟨all, ?_, ?_, ?_, ?_⟩
  · intro σ _ s
    rw [Serving.handleAll_eq, all]
  · intro urb packet whole front cut proper
    have short : front.length < packet.length :=
      Nat.lt_of_le_of_ne cut.length_le fun same => proper (cut.eq_of_length same)
    exact read_truncated whole cut short .closed
  · intro bytes ending urb left read
    obtain ⟨packet, whole, same⟩ := written_of_read read
    obtain ⟨rest, rfl, rfl⟩ := Source.bytes_of_behind same
    exact ⟨packet, rest, rfl, whole, length_written whole, rfl⟩
  · intro urb startFrame packetCount rest ending setup long
    rw [Source.ofBytes_append, read_submit setup]
    exact if_pos long

/-- Three bytes for the device, a request for data, and an unlink. -/
def assorted : List Urb :=
  [.submit ⟨1, 0x10002, 0, 2, 0, 3, 0, List.replicate 8 0, [0xAA, 0xBB, 0xCC]⟩,
   .submit ⟨2, 0x10002, 1, 1, 0x200, 512, 4, List.replicate 8 0, []⟩, .unlink 3 2]

/-- They are read from one stream, whatever stands in the fields that are passed over. -/
theorem reads_assorted_commands : ∃ packets,
    List.Forall₂ Written assorted packets ∧
      readAll (.ofBytes packets.flatten .closed) = (assorted, .closed) := by
  have filled : (List.replicate 24 (9 : UInt8)).length = 24 := rfl
  have written : List.Forall₂ Written assorted [_, _, _] :=
    .cons (.submit 7 0xFFFFFFFF rfl (by decide) rfl)
      (.cons (.submit 0 1 rfl (by decide) rfl)
        (.cons (.unlink 3 2 0x10002 1 5 filled) .nil))
  exact ⟨_, written, (reads_each_command written).1⟩

end Urb

end PictureTransfer.UsbIp
