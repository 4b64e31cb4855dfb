import PictureTransfer.Proofs.Relay.Resynchronisation
import Mathlib.Algebra.GroupWithZero.Nat

/-!
# Pauses between the bytes of frames

A read of a frame that meets a pause gives up, and what it had read by then is gone. A reader that
asks again after each such read (`receiveAll`) therefore reads each burst of bytes between two
pauses as if nothing came behind it (`receiveAll_inBursts`). Outcomes account for the bytes they
were read from, and a read that gave up in front of a frame accounts for none
(`accounted_receiveAll`). So all frames come through exactly if every pause stands between two of
them, which is `receives_between_pauses`.
-/

namespace PictureTransfer

namespace Source

/-- A pause, then what is still to be read. -/
def paused (s : Source) : Source := { s with arrivals := .pause :: s.arrivals }

/-- Bursts of bytes, each with a pause behind it, then what is still to be read. -/
def inBursts (bursts : List Bytes) (s : Source) : Source :=
  bursts.foldr (fun burst s => s.paused.behind burst) s

/-- Whatever is to be read comes in bursts. -/
theorem exists_inBursts (s : Source) :
    ∃ bursts last, s = inBursts bursts (ofBytes last s.ending) := by
  obtain ⟨arrivals, ending⟩ := s
  show ∃ bursts last, (⟨arrivals, ending⟩ : Source) = inBursts bursts (ofBytes last ending)
  induction arrivals with
  | nil => exact ⟨[], [], rfl⟩
  | cons arrival rest ih =>
    obtain ⟨bursts, last, same⟩ := ih
    cases arrival with
    | pause => exact ⟨[] :: bursts, last, congrArg paused same⟩
    | byte b =>
      -- one more byte belongs to the first burst, or to the last bytes where there is no pause
      cases bursts with
      | nil => exact ⟨[], b :: last, congrArg (behind [b]) same⟩
      | cons burst others => exact ⟨(b :: burst) :: others, last, congrArg (behind [b]) same⟩

/-- A read that asks for more bytes than a burst has meets the pause and leaves what is behind it.
-/
theorem take_paused {burst : Bytes} {n : Nat} (short : burst.length < n) (s : Source) :
    take n (s.paused.behind burst) = .error .timedOut s := by
  induction burst generalizing n with
  | nil =>
    obtain ⟨m, rfl⟩ := Nat.exists_eq_succ_of_ne_zero (Nat.ne_zero_of_lt short)
    rfl
  | cons b rest ih =>
    obtain ⟨m, rfl⟩ := Nat.exists_eq_succ_of_ne_zero (Nat.ne_zero_of_lt short)
    have later := ih (Nat.lt_of_succ_lt_succ short)
    rw [behind] at later
    simp only [behind, List.map_cons, List.cons_append, take, later]

/-- A read that fails leaves less, if anything was there. -/
theorem length_of_take_error {n : Nat} {s t : Source} {fault : Fault}
    (h : take n s = .error fault t) :
    t.length ≤ s.length ∧ (s.arrivals ≠ [] → t.length < s.length) := by
  induction n generalizing s with
  | zero => cases h
  | succ n ih =>
    obtain ⟨arrivals, ending⟩ := s
    match arrivals with
    | [] =>
      cases h
      exact ⟨Nat.le_refl _, fun more => absurd rfl more⟩
    | .pause :: rest =>
      cases h
      exact ⟨Nat.le_succ _, fun _ => Nat.lt_succ_self _⟩
    | .byte b :: rest =>
      simp only [take] at h
      split at h
      · cases h
      · next failed =>
        cases h
        have less : t.length ≤ rest.length := (ih failed).1
        simp only [length, List.length_cons] at less ⊢
        omega

end Source

namespace Relay.Frame

/-! ## What a read uses up -/

/-- How many bytes an outcome accounts for: those of the frame that was read or passed over. -/
def accounted : Except Error Frame → Nat
  | .ok f => f.encode.length
  | .error (.frameTooLarge length _) => 5 + length
  | .error _ => 0

theorem length_encode (f : Frame) : f.encode.length = 5 + f.payload.length := by
  rw [encode, List.length_append, Bytes.length_big, List.length_cons]
  omega

theorem accounted_verdict (max : Nat) (f : Frame) :
    accounted (f.verdict max) = f.encode.length := by
  rw [verdict]
  split
  · exact (length_encode f).symm
  · rfl

/-- Bytes that are not there account for nothing. -/
theorem used_readBytes {n : Nat} {s t : Source} {e : Error} (h : readBytes n s = .error e t) :
    t.length + accounted (.error e) ≤ s.length ∧ (s.arrivals ≠ [] → t.length < s.length) := by
  rw [readBytes] at h
  split at h
  · cases h
  · next fault _ failed =>
    cases h
    have nothing : accounted (.error (.ofFault fault)) = 0 := by cases fault <;> rfl
    rw [nothing]
    exact Source.length_of_take_error failed

theorem size_of_readBytes {n : Nat} {s t : Source} {bytes : Bytes}
    (h : readBytes n s = .ok bytes t) : bytes.length = n := by
  rw [readBytes] at h
  split at h
  · next read =>
    cases h
    exact (Source.take_ok read).1
  · cases h

/-- A read leaves less, if anything was there, and uses up what its outcome accounts for. -/
theorem used_readNext (max : Nat) (s : Source) :
    (readNext max s).2.length + accounted (readNext max s).1 ≤ s.length ∧
      (s.arrivals ≠ [] → (readNext max s).2.length < s.length) := by
  rw [readNext, read]
  cases first : readBytes 4 s with
  | error e t => exact used_readBytes first
  | ok size s₁ =>
    have four := length_of_readBytes first
    dsimp only
    by_cases zero : Bytes.bigValue size = 0
    · rw [if_pos zero]
      show s₁.length + 0 ≤ s.length ∧ (s.arrivals ≠ [] → s₁.length < s.length)
      omega
    · rw [if_neg zero]
      cases second : readBytes 1 s₁ with
      | error e t =>
        have rest := (used_readBytes second).1
        dsimp only
        omega
      | ok type s₂ =>
        have one := length_of_readBytes second
        dsimp only
        cases third : readBytes (Bytes.bigValue size - 1) s₂ with
        | error e t =>
          have rest := (used_readBytes third).1
          dsimp only
          omega
        | ok payload s₃ =>
          have all := length_of_readBytes third
          have count := size_of_readBytes third
          dsimp only
          by_cases long : max < Bytes.bigValue size - 1
          · rw [if_pos long]
            show s₃.length + (5 + (Bytes.bigValue size - 1)) ≤ s.length ∧
              (s.arrivals ≠ [] → s₃.length < s.length)
            omega
          · rw [if_neg long]
            have whole : (encode ⟨type.headD 0, payload⟩).length = 5 + payload.length :=
              length_encode _
            show s₃.length + (encode ⟨type.headD 0, payload⟩).length ≤ s.length ∧
              (s.arrivals ≠ [] → s₃.length < s.length)
            omega

/-! ## Asking again -/

/-- What a reader makes of an outcome: it asks again after a read that gave up. -/
def kept : Except Error Frame → List (Except Error Frame)
  | .error .timeout => []
  | outcome => [outcome]

/-- All outcomes of reading until nothing more arrives, but for the reads that gave up. -/
def receiveAll (max : Nat) (s : Source) : List (Except Error Frame) :=
  if _ : s.arrivals = [] then []
  else kept (readNext max s).1 ++ receiveAll max (readNext max s).2
termination_by s.length
decreasing_by exact (used_readNext max s).2 ‹_›

theorem receiveAll_of_nothing {max : Nat} {s : Source} (nothing : s.arrivals = []) :
    receiveAll max s = [] := by
  rw [receiveAll, dif_pos nothing]

theorem receiveAll_of_more {max : Nat} {s t : Source} {outcome : Except Error Frame}
    (more : s.arrivals ≠ []) (next : readNext max s = (outcome, t)) :
    receiveAll max s = kept outcome ++ receiveAll max t := by
  rw [receiveAll, dif_neg more, next]

theorem kept_of_ne {outcome : Except Error Frame} (h : outcome ≠ .error .timeout) :
    kept outcome = [outcome] := by
  match outcome with
  | .error .timeout => exact absurd rfl h
  | .ok _ | .error .notConnected | .error (.frameTooLarge _ _) | .error .invalidLength
  | .error .closed | .error (.io _) => rfl

theorem accounted_kept (outcome : Except Error Frame) :
    ((kept outcome).map accounted).sum = accounted outcome := by
  by_cases gaveUp : outcome = .error .timeout
  · rw [gaveUp]
    rfl
  · rw [kept_of_ne gaveUp]
    exact Nat.add_zero _

theorem verdict_ne_timeout (max : Nat) (f : Frame) : f.verdict max ≠ .error .timeout := by
  intro same
  rw [verdict] at same
  split at same <;> cases same

/-- The outcomes account for no more bytes than there were. -/
theorem accounted_receiveAll (max : Nat) (s : Source) :
    ((receiveAll max s).map accounted).sum ≤ s.length := by
  fun_induction receiveAll max s with
  | case1 s nothing => exact Nat.zero_le _
  | case2 s more later =>
    have used := (used_readNext max s).1
    rw [List.map_append, List.sum_append, accounted_kept]
    omega

/-- Frames that are written one behind the other are all received. -/
theorem receiveAll_encode {frames : List Frame}
    (counted : ∀ f ∈ frames, f.payload.length + 1 < Bytes.capacity 4) (max : Nat)
    (ending : Fault) :
    receiveAll max (.ofBytes (frames.flatMap encode) ending) = frames.map (verdict max) := by
  induction frames with
  | nil => exact receiveAll_of_nothing rfl
  | cons f others ih =>
    obtain ⟨first, later⟩ := List.forall_mem_cons.1 counted
    have next := readNext_encode first max (others.flatMap encode) ending
    have more : (Source.ofBytes (f.encode ++ others.flatMap encode) ending).arrivals ≠ [] := by
      simp [Source.ofBytes, encode]
    rw [List.flatMap_cons, receiveAll_of_more more next, kept_of_ne (verdict_ne_timeout max f),
      ih later]
    rfl

/-! ## Pauses -/

/-- Two reads with one outcome: of a burst with nothing behind it, and of the same burst with a
pause and more behind it. Both stop inside the burst, or both give up at its end. -/
inductive Alike {α : Type} (s : Source) :
    EStateM.Result Error Source α → EStateM.Result Error Source α → Prop where
  | ok (a : α) (rest : Bytes) :
    Alike s (.ok a (.ofBytes rest .timedOut)) (.ok a (s.paused.behind rest))
  | error {e : Error} (apart : e ≠ .timeout) (rest : Bytes) :
    Alike s (.error e (.ofBytes rest .timedOut)) (.error e (s.paused.behind rest))
  | timeout : Alike s (.error .timeout (.ofBytes [] .timedOut)) (.error .timeout s)

/-- Reading that does with a burst what it does with the burst alone, as far as the burst goes. -/
def Burstwise {α : Type} (x : EStateM Error Source α) : Prop :=
  ∀ (burst : Bytes) (s : Source), Alike s (x (.ofBytes burst .timedOut)) (x (s.paused.behind burst))

namespace Burstwise

variable {α β : Type}

theorem pure (a : α) : Burstwise (Pure.pure a) := fun burst _ => .ok a burst

theorem throw {e : Error} (apart : e ≠ .timeout) :
    Burstwise (MonadExcept.throw e : EStateM Error Source α) := fun burst _ => .error apart burst

theorem bind {x : EStateM Error Source α} {f : α → EStateM Error Source β} (first : Burstwise x)
    (next : ∀ a, Burstwise (f a)) : Burstwise (x >>= f) := by
  intro burst s
  have alike := first burst s
  show Alike s (EStateM.bind x f _) (EStateM.bind x f _)
  rw [EStateM.bind, EStateM.bind]
  generalize x (.ofBytes burst .timedOut) = alone at alike ⊢
  generalize x (s.paused.behind burst) = behind at alike ⊢
  cases alike with
  | ok a rest => exact next a rest s
  | error apart rest => exact .error apart rest
  | timeout => exact .timeout

theorem readBytes (n : Nat) : Burstwise (readBytes n) := by
  intro burst s
  rcases Nat.lt_or_ge burst.length n with short | enough
  · rw [readBytes_short short, Frame.readBytes, Source.take_paused short]
    exact .timeout
  · have size : (burst.take n).length = n := List.length_take_of_le enough
    have alone := readBytes_append size (burst.drop n) .timedOut
    have behind := readBytes_behind (burst.take n) (s.paused.behind (burst.drop n)) size
    rw [List.take_append_drop] at alone
    rw [← Source.behind_append, List.take_append_drop] at behind
    rw [alone, behind]
    exact .ok _ _

end Burstwise

/-- The parts of a frame are read one after another. -/
theorem read_eq (max : Nat) : read max = (do
    let size ← readBytes 4
    if Bytes.bigValue size = 0 then throw .invalidLength
    else do
      let type ← readBytes 1
      let payload ← readBytes (Bytes.bigValue size - 1)
      if max < Bytes.bigValue size - 1 then throw (.frameTooLarge (Bytes.bigValue size - 1) max)
      else pure ⟨type.headD 0, payload⟩) := by
  funext s
  simp only [read, bind, EStateM.bind]
  cases readBytes 4 s with
  | error e t => rfl
  | ok size t =>
    dsimp only
    by_cases zero : Bytes.bigValue size = 0
    · simp only [if_pos zero]
      rfl
    · simp only [if_neg zero, EStateM.bind]
      cases readBytes 1 t with
      | error e t => rfl
      | ok type t =>
        dsimp only
        cases readBytes (Bytes.bigValue size - 1) t with
        | error e t => rfl
        | ok payload t =>
          by_cases long : max < Bytes.bigValue size - 1
          · simp only [if_pos long]
            rfl
          · simp only [if_neg long]
            rfl

theorem burstwise_read (max : Nat) : Burstwise (read max) := by
  have zero : Error.invalidLength ≠ .timeout := nofun
  have large : ∀ n, Error.frameTooLarge n max ≠ .timeout := fun _ => nofun
  rw [read_eq]
  refine .bind (.readBytes 4) fun size => ?_
  split
  · exact .throw zero
  · refine .bind (.readBytes 1) fun type => .bind (.readBytes _) fun payload => ?_
    split
    · exact .throw (large _)
    · exact .pure _

theorem readNext_paused (max : Nat) (burst : Bytes) (s : Source) :
    (readNext max (.ofBytes burst .timedOut) = (.error .timeout, .ofBytes [] .timedOut) ∧
      readNext max (s.paused.behind burst) = (.error .timeout, s)) ∨
    ∃ outcome rest, outcome ≠ .error .timeout ∧
      readNext max (.ofBytes burst .timedOut) = (outcome, .ofBytes rest .timedOut) ∧
      readNext max (s.paused.behind burst) = (outcome, s.paused.behind rest) := by
  have alike := burstwise_read max burst s
  rw [readNext, readNext]
  generalize read max (.ofBytes burst .timedOut) = alone at alike ⊢
  generalize read max (s.paused.behind burst) = behind at alike ⊢
  cases alike with
  | timeout => exact .inl ⟨rfl, rfl⟩
  | ok f rest => exact .inr ⟨.ok f, rest, (fun same => by cases same), rfl, rfl⟩
  | error apart rest => exact .inr ⟨_, rest, fun same => apart (Except.error.inj same), rfl, rfl⟩

/-- With a pause behind it a burst is read as by itself, and then what is behind the pause. -/
theorem receiveAll_paused (max : Nat) (burst : Bytes) (s : Source) :
    receiveAll max (s.paused.behind burst)
      = receiveAll max (.ofBytes burst .timedOut) ++ receiveAll max s := by
  induction size : burst.length using Nat.strongRecOn generalizing burst with
  | ind n ih =>
    have more : (s.paused.behind burst).arrivals ≠ [] := by
      simp [Source.behind, Source.paused]
    have end_of : receiveAll max (.ofBytes [] .timedOut) = [] := receiveAll_of_nothing rfl
    rcases burst with _ | ⟨b, others⟩
    · have gaveUp : readNext max (s.paused.behind []) = (.error .timeout, s) := rfl
      rw [receiveAll_of_more more gaveUp, end_of]
      rfl
    · have some_left : (Source.ofBytes (b :: others) .timedOut).arrivals ≠ [] :=
        List.cons_ne_nil _ _
      rcases readNext_paused max (b :: others) s with
        ⟨alone, behind⟩ | ⟨outcome, rest, apart, alone, behind⟩
      · rw [receiveAll_of_more more behind, receiveAll_of_more some_left alone, end_of]
        rfl
      · have less := (used_readNext max (.ofBytes (b :: others) .timedOut)).2 some_left
        rw [alone] at less
        have shorter : rest.length < n := by
          simpa [Source.length, Source.ofBytes, ← size] using less
        rw [receiveAll_of_more more behind, receiveAll_of_more some_left alone,
          ih _ shorter rest rfl, List.append_assoc]

/-- Each burst is read as if nothing came behind it. -/
theorem receiveAll_inBursts (max : Nat) (bursts : List Bytes) (s : Source) :
    receiveAll max (s.inBursts bursts)
      = bursts.flatMap (fun burst => receiveAll max (.ofBytes burst .timedOut))
        ++ receiveAll max s := by
  induction bursts with
  | nil => rfl
  | cons burst others ih =>
    show receiveAll max ((s.inBursts others).paused.behind burst) = _
    rw [receiveAll_paused, ih, List.flatMap_cons, List.append_assoc]

theorem accounted_bursts (max : Nat) (bursts : List Bytes) :
    ((bursts.flatMap fun burst => receiveAll max (.ofBytes burst .timedOut)).map accounted).sum
      ≤ bursts.flatten.length := by
  induction bursts with
  | nil => exact Nat.le_refl _
  | cons burst others ih =>
    have first := accounted_receiveAll max (.ofBytes burst .timedOut)
    have size : (Source.ofBytes burst .timedOut).length = burst.length := List.length_map _
    rw [List.flatMap_cons, List.map_append, List.sum_append, List.flatten_cons,
      List.length_append]
    omega

/-! ## Frames in bursts -/

/-- All but the last bytes are in bursts that hold whole frames, one group of them each. -/
def Grouped (frames : List Frame) (bursts : List Bytes) : Prop :=
  ∃ (groups : List (List Frame)) (rest : List Frame), groups.flatten ++ rest = frames ∧
    bursts = groups.map fun group => group.flatMap encode

section Bursts

variable {frames : List Frame} {bursts : List Bytes} {last : Bytes}

theorem sum_accounted_verdict (max : Nat) (frames : List Frame) :
    ((frames.map (verdict max)).map accounted).sum = (frames.flatMap encode).length := by
  induction frames with
  | nil => rfl
  | cons f others ih =>
    rw [List.map_cons, List.map_cons, List.sum_cons, ih, accounted_verdict, List.flatMap_cons,
      List.length_append]

/-- A burst that is cut off inside a frame gives the frames in front of that one. -/
theorem receiveAll_front (counted : ∀ f ∈ frames, f.payload.length + 1 < Bytes.capacity 4)
    (max : Nat) {front : Bytes} (cut : front <+: frames.flatMap encode) :
    ∃ n ≤ frames.length, (frames.take n).flatMap encode <+: front ∧
      (n < frames.length → front.length < ((frames.take (n + 1)).flatMap encode).length) ∧
      receiveAll max (.ofBytes front .timedOut) = (frames.take n).map (verdict max) := by
  induction frames generalizing front with
  | nil =>
    obtain rfl := List.prefix_nil.1 cut
    exact ⟨0, Nat.le_refl _, List.nil_prefix, nofun, receiveAll_of_nothing rfl⟩
  | cons f others ih =>
    obtain ⟨first, later⟩ := List.forall_mem_cons.1 counted
    rw [List.flatMap_cons] at cut
    rcases cut_of_append cut with ⟨inside, few⟩ | ⟨behind, rfl, inside⟩
    · -- the cut goes through the first frame
      refine ⟨0, Nat.zero_le _, List.nil_prefix, ?_, ?_⟩
      · intro _
        simpa using few
      · rcases front with _ | ⟨b, more⟩
        · exact receiveAll_of_nothing rfl
        · have gaveUp : readNext max (.ofBytes (b :: more) .timedOut)
              = (.error .timeout, .ofBytes [] .timedOut) := by
            rw [readNext, read_truncated first max inside few]
            rfl
          rw [receiveAll_of_more (List.cons_ne_nil _ _) gaveUp, receiveAll_of_nothing rfl]
          rfl
    · obtain ⟨n, bound, whole, few, receives⟩ := ih later inside
      have next := readNext_encode first max behind .timedOut
      have more : (Source.ofBytes (f.encode ++ behind) .timedOut).arrivals ≠ [] := by
        simp [Source.ofBytes, encode]
      refine ⟨n + 1, Nat.succ_le_succ bound, ?_, ?_, ?_⟩
      · rw [List.take_succ_cons, List.flatMap_cons]
        exact (List.prefix_append_right_inj _).2 whole
      · intro inner
        rw [List.take_succ_cons, List.flatMap_cons, List.length_append, List.length_append]
        exact Nat.add_lt_add_left (few (Nat.lt_of_succ_lt_succ inner)) _
      · rw [receiveAll_of_more more next, kept_of_ne (verdict_ne_timeout max f), receives]
        rfl

/-- Bursts of whole frames are received whole. -/
theorem receiveAll_of_grouped (counted : ∀ f ∈ frames, f.payload.length + 1 < Bytes.capacity 4)
    (max : Nat) (ending : Fault) (bytes : bursts.flatten ++ last = frames.flatMap encode)
    (grouped : Grouped frames bursts) :
    receiveAll max (.inBursts bursts (.ofBytes last ending)) = frames.map (verdict max) := by
  obtain ⟨groups, rest, rfl, rfl⟩ := grouped
  rw [receiveAll_inBursts]
  induction groups with
  | nil =>
    obtain rfl : last = rest.flatMap encode := bytes
    exact receiveAll_encode counted max ending
  | cons group others ih =>
    rw [List.flatten_cons, List.append_assoc, List.forall_mem_append] at counted
    rw [List.map_cons, List.flatten_cons, List.flatten_cons, List.append_assoc, List.append_assoc,
      List.flatMap_append, List.append_cancel_left_eq] at bytes
    have later := ih counted.2 bytes
    rw [List.map_cons, List.flatMap_cons, List.append_assoc, later,
      receiveAll_encode counted.1 max .timedOut, ← List.map_append, ← List.append_assoc]
    rfl

/-- Where all frames are received, each burst was used up by whole frames. -/
theorem grouped_of_receiveAll (max : Nat) (ending : Fault)
    (bytes : bursts.flatten ++ last = frames.flatMap encode)
    (all : bursts.flatMap (fun burst => receiveAll max (.ofBytes burst .timedOut))
      ++ receiveAll max (.ofBytes last ending) = frames.map (verdict max)) :
    Grouped frames bursts := by
  induction bursts generalizing frames with
  | nil => exact ⟨[], frames, rfl, rfl⟩
  | cons burst others ih =>
    rw [List.flatMap_cons, List.append_assoc] at all
    obtain ⟨group, rest, rfl, first, later⟩ := List.append_eq_map_iff.1 all
    rw [List.flatten_cons, List.append_assoc, List.flatMap_append] at bytes
    -- neither the burst nor what is behind it can account for more bytes than it has
    have here := accounted_receiveAll max (.ofBytes burst .timedOut)
    have there := accounted_bursts max others
    have final := accounted_receiveAll max (.ofBytes last ending)
    have sizes := congrArg List.length bytes
    have behind := congrArg (fun outcomes => (outcomes.map accounted).sum) later
    rw [← first, sum_accounted_verdict] at here
    rw [sum_accounted_verdict, List.map_append, List.sum_append] at behind
    simp only [Source.length, Source.ofBytes, List.length_map, List.length_append] at *
    have used : burst.length = (group.flatMap encode).length := by omega
    obtain ⟨rfl, left⟩ := List.append_inj bytes used
    obtain ⟨groups, rest, rfl, rfl⟩ := ih left later.symm
    exact ⟨group :: groups, rest, by simp, rfl⟩

end Bursts

/-- A reader that asks again after each read that gave up receives all frames exactly if every pause
stands between two of them: without pauses it receives them all, and whatever it reads comes in
bursts with pauses between. A burst is read as if nothing came behind it, so that of the first burst
in which a pause cuts a frame it receives the frames in front of that one, and no more. -/
theorem receives_between_pauses {frames : List Frame}
    (counted : ∀ f ∈ frames, f.payload.length < 0xFFFFFFFF) (max : Nat) (ending : Fault) :
    receiveAll max (.ofBytes (frames.flatMap encode) ending) = frames.map (verdict max) ∧
    (∀ s : Source, ∃ bursts last, s = .inBursts bursts (.ofBytes last s.ending)) ∧
    (∀ bursts last, bursts.flatten ++ last = frames.flatMap encode →
      (receiveAll max (.inBursts bursts (.ofBytes last ending)) = frames.map (verdict max) ↔
        Grouped frames bursts) ∧
      receiveAll max (.inBursts bursts (.ofBytes last ending))
        = bursts.flatMap (fun burst => receiveAll max (.ofBytes burst .timedOut))
          ++ receiveAll max (.ofBytes last ending)) ∧
    ∀ front, front <+: frames.flatMap encode → ∃ n ≤ frames.length,
      (frames.take n).flatMap encode <+: front ∧
        (n < frames.length → front.length < ((frames.take (n + 1)).flatMap encode).length) ∧
        receiveAll max (.ofBytes front .timedOut) = (frames.take n).map (verdict max) := by
  have counted : ∀ f ∈ frames, f.payload.length + 1 < Bytes.capacity 4 := by
    intro f listed
    have bound := counted f listed
    show f.payload.length + 1 < 4294967296
    omega
  refine ⟨receiveAll_encode counted max ending, Source.exists_inBursts, ?_, ?_⟩
  · intro bursts last bytes
    refine ⟨⟨?_, receiveAll_of_grouped counted max ending bytes⟩, receiveAll_inBursts max bursts _⟩
    intro all
    rw [receiveAll_inBursts] at all
    exact grouped_of_receiveAll max ending bytes all
  · intro front cut
    exact receiveAll_front counted max cut

/-- A transfer for the host and the end of the answer, with a pause between them. -/
theorem receives_between_pauses_answer :
    let frames := [rawIn [0xAA], done]
    (∀ f ∈ frames, f.payload.length < 0xFFFFFFFF) ∧
      [encode (rawIn [0xAA])].flatten ++ encode done = frames.flatMap encode ∧
      receiveAll 512 (.inBursts [encode (rawIn [0xAA])] (.ofBytes (encode done) .timedOut))
        = [.ok (rawIn [0xAA]), .ok done] := by
  intro frames
  have counted : ∀ f ∈ frames, f.payload.length < 0xFFFFFFFF := by decide
  obtain ⟨-, -, bursts, -⟩ := receives_between_pauses counted 512 .timedOut
  have grouped : Grouped frames [encode (rawIn [0xAA])] := ⟨[[rawIn [0xAA]]], [done], rfl, rfl⟩
  exact ⟨counted, rfl, (bursts _ _ rfl).1.2 grouped⟩

/-- With the pause between the type byte and the payload of the transfer, neither frame is received:
the payload is read as the front of a length. -/
theorem receives_nothing_split :
    let frames := [rawIn [0xAA], done]
    let burst : Bytes := [0, 0, 0, 2, 0x11]
    let last : Bytes := [0xAA, 0, 0, 0, 1, 0x12]
    (∀ f ∈ frames, f.payload.length < 0xFFFFFFFF) ∧
      [burst].flatten ++ last = frames.flatMap encode ∧
      receiveAll 512 (.ofBytes (frames.flatMap encode) .timedOut)
        = [.ok (rawIn [0xAA]), .ok done] ∧
      receiveAll 512 (.inBursts [burst] (.ofBytes last .timedOut)) = [] := by
  intro frames burst last
  have counted : ∀ f ∈ frames, f.payload.length + 1 < Bytes.capacity 4 := by decide
  have cut : readNext 512 (.ofBytes burst .timedOut)
      = (.error .timeout, .ofBytes [] .timedOut) := by
    rfl
  have misread : readNext 512 (.ofBytes last .timedOut)
      = (.error .timeout, .ofBytes [] .timedOut) := by
    rfl
  refine ⟨by decide, rfl, receiveAll_encode counted 512 .timedOut, ?_⟩
  rw [receiveAll_inBursts, List.flatMap_singleton, receiveAll_of_more (List.cons_ne_nil _ _) cut,
    receiveAll_of_more (List.cons_ne_nil _ _) misread, receiveAll_of_nothing rfl]
  rfl

end Relay.Frame

end PictureTransfer
