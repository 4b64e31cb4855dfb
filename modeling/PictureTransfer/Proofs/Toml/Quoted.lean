import PictureTransfer.Toml.Quoted
import Mathlib.Algebra.GroupWithZero.Nat
import Mathlib.Data.List.Basic

/-!
# Quoted texts are read back

A text is read back from its quotes, whichever style shows it, if what follows is not another mark
(`read_write`). The styles differ in what can stand between the marks. Between single quotes
everything stands for itself (`body_literal`). Between double quotes each character is shown in one
of five ways (`Shown`), and what was shown is read as this character (`body_escaped`).

Where a text spans lines, marks can be part of it: one or two at its end stand right before the
three that close it, and a reader tells them apart because it has seen at most five (`body_marks`).
-/

namespace PictureTransfer

open Text

/-! ## Hexadecimal digits -/

namespace Text.Numeral

theorem digit?_hexDigit {v : Nat} (h : v < 16) : digit? 16 (Bytes.hexDigit v) = some v := by
  have all : ∀ v < 16, digit? 16 (Bytes.hexDigit v) = some v := by decide
  exact all v h

theorem length_hexDigits (w n : Nat) : (Bytes.hexDigits w n).length = w := by
  induction w generalizing n with
  | zero => rfl
  | succ w ih => rw [Bytes.hexDigits, List.length_append, ih, List.length_singleton]

theorem isDigit_of_mem_hexDigits {w n : Nat} {c : Char} (h : c ∈ Bytes.hexDigits w n) :
    isDigit 16 c = true := by
  induction w generalizing n with
  | zero => cases h
  | succ w ih =>
    rcases List.mem_append.1 h with h | h
    · exact ih h
    · rw [List.mem_singleton.1 h, isDigit, digit?_hexDigit (Nat.mod_lt n (by decide)),
        Option.isSome_some]

/-- A number is read back from so many digits, if it has no more. -/
theorem value_hexDigits (w n : Nat) : value 16 (Bytes.hexDigits w n) = n % 16 ^ w := by
  induction w generalizing n with
  | zero => rw [Nat.pow_zero, Nat.mod_one]; rfl
  | succ w ih =>
    rw [Bytes.hexDigits, value_concat, ih, digit?_hexDigit (Nat.mod_lt n (by decide)),
      Option.getD_some, Nat.pow_succ', Nat.mod_mul]
    omega

end Text.Numeral

namespace Toml.Quoted

/-! ## Marks -/

section Marks

variable {m : Char} {rest : List Char}

/-- Two marks behind a mark close the text, and up to two more in front of them are part of it. -/
theorem closing?_marks {k : Nat} (few : k ≤ 2) (apart : rest.head? ≠ some m) :
    closing? m (List.replicate (k + 2) m ++ rest) = some (List.replicate k m, rest) := by
  have ends : rest.takeWhile (· = m) = [] := by
    cases rest with
    | nil => rfl
    | cons c more =>
      have other : c ≠ m := fun same => apart (congrArg some same)
      rw [List.takeWhile_cons_of_neg (by simpa using other)]
  have extra : ((List.replicate k m ++ rest).takeWhile (· = m)).take 2 = List.replicate k m := by
    rw [List.takeWhile_append_of_pos (by simp +contextual), ends, List.append_nil,
      List.take_of_length_le (by rw [List.length_replicate]; exact few)]
  show closing? m (m :: m :: (List.replicate k m ++ rest)) = _
  rw [closing?, if_pos ⟨rfl, rfl⟩, extra]
  dsimp only
  rw [List.drop_left]

/-- A mark with at most one more behind it closes nothing. -/
theorem closing?_of_second {x y : Char} (other : y ≠ m) : closing? m (x :: y :: rest) = none := by
  rw [closing?, if_neg fun marks => other marks.2]

/-- A mark with no other one behind it closes nothing. -/
theorem closing?_of_first {x : Char} (other : x ≠ m) : closing? m (x :: rest) = none := by
  cases rest with
  | nil => rfl
  | cons y more => rw [closing?, if_neg fun marks => other marks.1]

end Marks

/-! ## One character of a text -/

section Character

variable {s : QuoteStyle} {c : Char} {after left text : List Char}

theorem body_plain (unmarked : c ≠ s.quote.mark) (literal : ¬(c = '\\' ∧ s.quote = .double))
    (plain : isPlain c = true) (later : body s after = some (text, left)) :
    body s (c :: after) = some (c :: text, left) := by
  rw [body, if_neg unmarked, if_neg literal, if_pos plain, later]
  rfl

theorem body_break (spans : s.spansLines = true) (later : body s after = some (text, left)) :
    body s ('\n' :: after) = some ('\n' :: text, left) := by
  have unmarked : '\n' ≠ s.quote.mark := by cases s.quote <;> decide
  have literal : ¬('\n' = '\\' ∧ s.quote = .double) := fun h => absurd h.1 (by decide)
  rw [body, if_neg unmarked, if_neg literal, if_neg (by decide), if_pos spans]
  split
  · next left' broken =>
    cases broken
    rw [later]
    rfl
  · next whole => cases whole

theorem body_escape {spansLines : Bool} {chars next : List Char}
    (escapes : escape? spansLines after = some (chars, next))
    (later : body ⟨.double, spansLines⟩ next = some (text, left)) :
    body ⟨.double, spansLines⟩ ('\\' :: after) = some (chars ++ text, left) := by
  have unmarked : '\\' ≠ Quote.double.mark := by decide
  rw [body, if_neg unmarked, if_pos ⟨rfl, rfl⟩]
  split
  · next chars' next' taken =>
    rw [escapes] at taken
    cases taken
    rw [later]
    rfl
  · next none_taken =>
    rw [escapes] at none_taken
    cases none_taken

/-- A mark that closes nothing is part of a text that spans lines. -/
theorem body_mark (spans : s.spansLines = true) (goes_on : closing? s.quote.mark after = none)
    (later : body s after = some (text, left)) :
    body s (s.quote.mark :: after) = some (s.quote.mark :: text, left) := by
  rw [body, if_pos rfl, if_pos spans, goes_on, later]
  rfl

end Character

/-! ## The end of a text -/

/-- Up to two marks at the end of a text that spans lines stand right before those that close it. -/
theorem body_marks {s : QuoteStyle} {k : Nat} {rest : List Char} (spans : s.spansLines = true)
    (few : k ≤ 2) (apart : rest.head? ≠ some s.quote.mark) :
    body s (List.replicate k s.quote.mark ++ (delimiter s ++ rest))
      = some (List.replicate k s.quote.mark, rest) := by
  have marks : List.replicate k s.quote.mark ++ (delimiter s ++ rest)
      = s.quote.mark :: (List.replicate (k + 2) s.quote.mark ++ rest) := by
    rw [delimiter, if_pos spans, ← List.append_assoc, List.replicate_append_replicate]
    rfl
  rw [marks, body, if_pos rfl, if_pos spans, closing?_marks few apart]

theorem body_delimiter {s : QuoteStyle} {rest : List Char}
    (apart : rest.head? ≠ some s.quote.mark) : body s (delimiter s ++ rest) = some ([], rest) := by
  cases spans : s.spansLines with
  | true => exact body_marks spans (Nat.zero_le 2) apart
  | false =>
    rw [delimiter, spans]
    show body s (s.quote.mark :: rest) = _
    rw [body, if_pos rfl, spans]
    rfl

/-! ## Single quotes -/

/-- Where a character is no control character, it is plain or a line feed. -/
theorem isPlain_of_not_control {c : Char} (control : isControl c = false) (whole : c ≠ '\n') :
    isPlain c = true := by
  simp only [isControl, Bool.or_eq_false_iff, Bool.and_eq_false_iff, decide_eq_false_iff_not,
    bne_eq_false_iff_eq] at control
  obtain ⟨visible, undeleted⟩ := control
  simp only [isPlain, Bool.or_eq_true, Bool.and_eq_true, decide_eq_true_eq, bne_iff_ne]
  rcases visible with (visible | tab) | broken
  · exact .inr ⟨Char.not_lt.1 visible, undeleted⟩
  · exact .inl tab
  · exact absurd broken whole

/-- Where no three marks stand side by side, none do behind the first character. -/
theorem hasTriple_tail {m c : Char} {rest : List Char} (apart : hasTriple m (c :: rest) = false) :
    hasTriple m rest = false := by
  match rest, apart with
  | [], _ => rfl
  | [d], _ => rfl
  | d :: e :: more, apart =>
    rw [hasTriple, Bool.or_eq_false_iff] at apart
    exact apart.2

/-- A mark in a text without three of them side by side is not taken for one that closes it. -/
theorem body_mark_of_apart {s : QuoteStyle} {text rest : List Char} (spans : s.spansLines = true)
    (apart : hasTriple s.quote.mark (s.quote.mark :: text) = false)
    (last : rest.head? ≠ some s.quote.mark)
    (later : body s (text ++ (delimiter s ++ rest)) = some (text, rest)) :
    body s (s.quote.mark :: (text ++ (delimiter s ++ rest)))
      = some (s.quote.mark :: text, rest) := by
  match text, apart, later with
  | [], _, _ => exact body_marks (k := 1) spans (by decide) last
  | [d], _, later =>
    by_cases same : d = s.quote.mark
    · rw [same]
      exact body_marks (k := 2) spans (by decide) last
    · exact body_mark spans (closing?_of_first same) later
  | d :: e :: more, apart, later =>
    refine body_mark spans ?_ later
    by_cases first : d = s.quote.mark
    · refine closing?_of_second fun second => ?_
      rw [hasTriple, first, second, Bool.or_eq_false_iff] at apart
      exact absurd apart.1 (by simp)
    · exact closing?_of_first first

/-- A text between single quotes stands there as it is. On one line it has neither marks nor line
feeds, and else no three marks side by side. -/
theorem body_literal {s : QuoteStyle} (single : s.quote = .single) {text rest : List Char}
    (plain : ∀ c ∈ text, isControl c = false)
    (line : s.spansLines = false → '\n' ∉ text ∧ s.quote.mark ∉ text)
    (lines : s.spansLines = true → hasTriple s.quote.mark text = false)
    (apart : rest.head? ≠ some s.quote.mark) :
    body s (text ++ (delimiter s ++ rest)) = some (text, rest) := by
  induction text with
  | nil => exact body_delimiter apart
  | cons c more ih =>
    obtain ⟨visible, others⟩ := List.forall_mem_cons.1 plain
    have later : body s (more ++ (delimiter s ++ rest)) = some (more, rest) :=
      ih others
        (fun one => (line one).imp List.not_mem_of_not_mem_cons List.not_mem_of_not_mem_cons)
        (fun spans => hasTriple_tail (lines spans))
    by_cases mark : c = s.quote.mark
    · subst mark
      have spans : s.spansLines = true := by
        by_contra one
        exact (line (Bool.eq_false_iff.2 one)).2 List.mem_cons_self
      exact body_mark_of_apart spans (lines spans) apart later
    · by_cases lineFeed : c = '\n'
      · subst lineFeed
        have spans : s.spansLines = true := by
          by_contra one
          exact (line (Bool.eq_false_iff.2 one)).1 List.mem_cons_self
        exact body_break spans later
      · refine body_plain mark ?_ (isPlain_of_not_control visible lineFeed) later
        rw [single]
        exact fun double => Quote.noConfusion double.2

/-! ## Double quotes -/

/-- How a character is shown between double quotes where `run` plain marks stand right before it,
and how many stand before the next one. -/
inductive Shown (spansLines : Bool) (run : Nat) : Char → List Char → Nat → Prop where
  | mark (spans : spansLines = true) (few : run < 2) : Shown spansLines run '"' ['"'] (run + 1)
  | lineFeed (spans : spansLines = true) : Shown spansLines run '\n' ['\n'] 0
  | letter {c letter : Char} (short : shortEscape? c = some letter) :
      Shown spansLines run c ['\\', letter] 0
  | number {c : Char} (long : shortEscape? c = none) (control : isControl c = true) :
      Shown spansLines run c ('\\' :: 'u' :: Bytes.hexDigits 4 c.toNat) 0
  | plain {c : Char} (long : shortEscape? c = none) (control : isControl c = false) :
      Shown spansLines run c [c] 0

/-- A text is shown character by character. -/
theorem escaped_cons (spansLines : Bool) (run : Nat) (c : Char) (rest : List Char) :
    ∃ shown next, Shown spansLines run c shown next ∧
      escaped spansLines run (c :: rest) = shown ++ escaped spansLines next rest := by
  rw [escaped]
  by_cases mark : c = '"' ∧ spansLines = true ∧ run < 2
  · obtain ⟨rfl, spans, few⟩ := mark
    rw [if_pos ⟨rfl, spans, few⟩]
    exact ⟨_, _, .mark spans few, rfl⟩
  · rw [if_neg mark]
    by_cases lineFeed : c = '\n' ∧ spansLines = true
    · obtain ⟨rfl, spans⟩ := lineFeed
      rw [if_pos ⟨rfl, spans⟩]
      exact ⟨_, _, .lineFeed spans, rfl⟩
    · rw [if_neg lineFeed]
      cases short : shortEscape? c with
      | some letter => exact ⟨_, _, .letter short, rfl⟩
      | none =>
        cases control : isControl c with
        | true => exact ⟨_, _, .number short control, rfl⟩
        | false => exact ⟨_, _, .plain short control, rfl⟩

/-- A letter behind a backslash is read as the character that it was written for. -/
theorem escape?_letter {spansLines : Bool} {c letter : Char} (short : shortEscape? c = some letter)
    (rest : List Char) : escape? spansLines (letter :: rest) = some ([c], rest) := by
  have stands : ofShortEscape? letter = some c := by
    unfold shortEscape? at short
    split at short <;> cases short <;> rfl
  rw [escape?, stands]

/-- A control character is read back from its number. -/
theorem escape?_number {spansLines : Bool} {c : Char} (control : isControl c = true)
    (rest : List Char) :
    escape? spansLines ('u' :: (Bytes.hexDigits 4 c.toNat ++ rest)) = some ([c], rest) := by
  have size := Numeral.length_hexDigits 4 c.toNat
  have small : c.toNat < 16 ^ 4 := by
    simp only [isControl, Bool.or_eq_true, Bool.and_eq_true, decide_eq_true_eq] at control
    rcases control with ⟨⟨below, -⟩, -⟩ | rfl
    · have below : c.toNat < 32 := below
      exact Nat.lt_trans below (by decide)
    · decide
  have digits : (Bytes.hexDigits 4 c.toNat).all (Numeral.isDigit 16) = true :=
    List.all_eq_true.2 fun d listed => Numeral.isDigit_of_mem_hexDigits listed
  have number : Numeral.value 16 (Bytes.hexDigits 4 c.toNat) = c.toNat := by
    rw [Numeral.value_hexDigits, Nat.mod_eq_of_lt small]
  have front : (Bytes.hexDigits 4 c.toNat ++ rest).take 4 = Bytes.hexDigits 4 c.toNat :=
    List.take_left' size
  have behind : (Bytes.hexDigits 4 c.toNat ++ rest).drop 4 = rest := List.drop_left' size
  have valid : c.toNat.isValidChar := c.valid
  show hexScalar? 4 (Bytes.hexDigits 4 c.toNat ++ rest) = _
  rw [hexScalar?, front, behind, if_pos ⟨size, digits⟩, number, scalar?, if_pos valid,
    Char.ofNat_toNat]
  rfl

/-- A character that is shown by itself is not one of those that an escape is for. -/
theorem unescaped_of_long {c : Char} (long : shortEscape? c = none) :
    c ≠ '"' ∧ c ≠ '\\' ∧ c ≠ '\n' := by
  refine ⟨?_, ?_, ?_⟩ <;> rintro rfl <;> cases long

/-- A text that is not empty is shown beginning with a mark only where up to two of them may stand,
and with a line feed only where it begins with one. -/
theorem escaped_head {spansLines : Bool} {run : Nat} {c : Char} {rest : List Char} :
    ∃ x more, escaped spansLines run (c :: rest) = x :: more ∧
      (x = '"' → c = '"' ∧ spansLines = true ∧ run < 2) ∧ (x = '\n' → c = '\n') ∧ x ≠ '\r' := by
  obtain ⟨shown, next, way, all⟩ := escaped_cons spansLines run c rest
  rw [all]
  cases way with
  | mark spans few =>
    exact ⟨_, _, rfl, fun _ => ⟨rfl, spans, few⟩, fun same => absurd same (by decide), by decide⟩
  | lineFeed spans =>
    exact ⟨_, _, rfl, fun same => absurd same (by decide), fun _ => rfl, by decide⟩
  | letter short =>
    exact ⟨_, _, rfl, fun same => absurd same (by decide), fun same => absurd same (by decide),
      by decide⟩
  | number long control =>
    exact ⟨_, _, rfl, fun same => absurd same (by decide), fun same => absurd same (by decide),
      by decide⟩
  | plain long control =>
    refine ⟨_, _, rfl, fun mark => absurd mark (unescaped_of_long long).1, fun same => same, ?_⟩
    rintro rfl
    cases long

/-- A plain mark is read as a mark: no two follow it, unless the text ends. -/
theorem body_shown_mark {run : Nat} {text rest : List Char} (few : run < 2)
    (apart : rest.head? ≠ some '"')
    (later : body ⟨.double, true⟩
      (escaped true (run + 1) text ++ (delimiter ⟨.double, true⟩ ++ rest)) = some (text, rest)) :
    body ⟨.double, true⟩
        ('"' :: (escaped true (run + 1) text ++ (delimiter ⟨.double, true⟩ ++ rest)))
      = some ('"' :: text, rest) := by
  match text, later with
  | [], _ => exact body_marks (s := ⟨.double, true⟩) (k := 1) rfl (by decide) apart
  | d :: more, later =>
    obtain ⟨x, behind, head, mark, -⟩ := @escaped_head true (run + 1) d more
    by_cases second : x = '"'
    · -- it is the second plain mark in a row, so that the third is none
      obtain ⟨rfl, -, lower⟩ := mark second
      obtain rfl : run = 0 := by omega
      match more, later with
      | [], _ => exact body_marks (s := ⟨.double, true⟩) (k := 2) rfl (by decide) apart
      | e :: others, later =>
        obtain ⟨y, beyond, next, third, -⟩ := @escaped_head true 2 e others
        have shown : escaped true 1 ('"' :: e :: others) = '"' :: y :: beyond :=
          (if_pos ⟨rfl, rfl, by decide⟩).trans (congrArg ('"' :: ·) next)
        have other : y ≠ '"' := fun same => absurd (third same).2.2 (by decide)
        rw [shown] at later ⊢
        exact body_mark (s := ⟨.double, true⟩) rfl (closing?_of_second other) later
    · rw [head] at later ⊢
      exact body_mark (s := ⟨.double, true⟩) rfl (closing?_of_first second) later

/-- What was shown between double quotes is read back. -/
theorem body_escaped {spansLines : Bool} {run : Nat} {text rest : List Char}
    (apart : rest.head? ≠ some '"') :
    body ⟨.double, spansLines⟩
        (escaped spansLines run text ++ (delimiter ⟨.double, spansLines⟩ ++ rest))
      = some (text, rest) := by
  induction text generalizing run with
  | nil => exact body_delimiter apart
  | cons c more ih =>
    obtain ⟨shown, next, way, all⟩ := escaped_cons spansLines run c more
    rw [all, List.append_assoc]
    cases way with
    | mark spans few =>
      subst spans
      exact body_shown_mark few apart ih
    | lineFeed spans => exact body_break (s := ⟨.double, spansLines⟩) spans ih
    | letter short => exact body_escape (escape?_letter short _) ih
    | number long control => exact body_escape (escape?_number control _) ih
    | plain long control =>
      obtain ⟨unmarked, unescaped, whole⟩ := unescaped_of_long long
      exact body_plain (s := ⟨.double, spansLines⟩) unmarked (fun escape => unescaped escape.1)
        (isPlain_of_not_control control whole) ih

/-! ## Whole texts -/

/-- A text as it stands between the marks of a style. -/
def shown (s : QuoteStyle) (text : List Char) : List Char :=
  match s.quote with
  | .double => escaped s.spansLines 0 text
  | .single => text

/-- Whether a style can show a text: without escapes there is nothing in it that needs one. -/
structure Shows (s : QuoteStyle) (text : List Char) : Prop where
  plain : s.quote = .single → ∀ c ∈ text, isControl c = false
  line : s.quote = .single → s.spansLines = false → '\n' ∉ text ∧ s.quote.mark ∉ text
  lines : s.quote = .single → s.spansLines = true → hasTriple s.quote.mark text = false

/-- The style of a text can show it. -/
theorem shows_styleFor (text : List Char) : Shows (styleFor text) text := by
  have escapes : ∀ spansLines, Shows ⟨.double, spansLines⟩ text := fun _ =>
    ⟨fun single => Quote.noConfusion single, fun single => Quote.noConfusion single,
      fun single => Quote.noConfusion single⟩
  have visible : (!text.any isControl) = true → ∀ c ∈ text, isControl c = false := by
    intro plain c listed
    rw [Bool.not_eq_true'] at plain
    exact Bool.eq_false_iff.2 (List.any_eq_false.1 plain c listed)
  rw [styleFor]
  split
  · exact escapes false
  · split
    · next line =>
      simp only [Bool.and_eq_true] at line
      refine ⟨fun _ => visible line.1.1, fun _ _ => ⟨?_, ?_⟩, fun _ spans => Bool.noConfusion spans⟩
      · simpa using line.1.2
      · simpa using line.2
    · split
      · exact escapes true
      · split
        · next lines =>
          simp only [Bool.and_eq_true, Bool.not_eq_true'] at lines
          exact ⟨fun _ => visible (by rw [lines.1]; rfl), fun _ one => Bool.noConfusion one,
            fun _ _ => lines.2⟩
        · exact escapes _

/-- A text that does not begin with a line break has none dropped. -/
theorem dropBreak?_of_ne {x : Char} {rest : List Char} (lineFeed : x ≠ '\n') (whole : x ≠ '\r') :
    dropBreak? (x :: rest) = none := by
  unfold dropBreak?
  split
  · next same => exact absurd (List.cons.inj same).1 lineFeed
  · next same => exact absurd (List.cons.inj same).1 whole
  · rfl

section Shows

variable {s : QuoteStyle} {text rest : List Char} (shows : Shows s text)
include shows

/-- What stands between the marks is read as the text. -/
theorem body_shown (apart : rest.head? ≠ some s.quote.mark) :
    body s (shown s text ++ (delimiter s ++ rest)) = some (text, rest) := by
  cases quote : s.quote with
  | double =>
    obtain ⟨_, spansLines⟩ := s
    cases quote
    exact body_escaped apart
  | single =>
    rw [shown, quote]
    exact body_literal quote (shows.plain quote) (shows.line quote) (shows.lines quote) apart

/-- What a text on one line begins with is no mark, and no text begins with a line break that it
does not have. -/
theorem shown_head {c : Char} {more : List Char} (begins : text = c :: more) :
    ∃ x others, shown s text = x :: others ∧ (s.spansLines = false → x ≠ s.quote.mark) ∧
      (x = '\n' → '\n' ∈ text) ∧ x ≠ '\r' := by
  subst begins
  cases quote : s.quote with
  | double =>
    obtain ⟨x, others, head, mark, lineFeed, whole⟩ := @escaped_head s.spansLines 0 c more
    refine ⟨x, others, by rw [shown, quote]; exact head, ?_, ?_, whole⟩
    · intro one same
      exact absurd ((mark same).2.1.symm.trans one) (by decide)
    · intro same
      exact lineFeed same ▸ List.mem_cons_self
  | single =>
    refine ⟨c, more, by rw [shown, quote], ?_, fun same => same ▸ List.mem_cons_self, ?_⟩
    · intro one same
      exact (shows.line quote one).2 (by rw [quote, ← same]; exact List.mem_cons_self)
    · rintro rfl
      exact absurd (shows.plain quote '\r' List.mem_cons_self) (by decide)

/-- Behind three marks, no line break is dropped that the text would have. -/
theorem dropBreak?_shown (whole : '\n' ∉ text) :
    dropBreak? (shown s text ++ (delimiter s ++ rest)) = none := by
  cases begins : text with
  | nil =>
    obtain ⟨_ | _, _ | _⟩ := s
    all_goals exact dropBreak?_of_ne (by decide) (by decide)
  | cons c more =>
    obtain ⟨x, others, head, -, lineFeed, returns⟩ := shown_head shows begins
    rw [← begins, head]
    exact dropBreak?_of_ne (fun same => whole (lineFeed same)) returns

/-- Behind one mark, a text on one line does not begin with two more. -/
theorem closing?_shown (one : s.spansLines = false) (apart : rest.head? ≠ some s.quote.mark) :
    closing? s.quote.mark (shown s text ++ (delimiter s ++ rest)) = none := by
  cases begins : text with
  | nil =>
    have nothing : shown s [] ++ (delimiter s ++ rest) = s.quote.mark :: rest := by
      rw [shown, delimiter, one]
      cases s.quote <;> rfl
    rw [nothing]
    cases rest with
    | nil => rfl
    | cons c more => exact closing?_of_second fun same => apart (congrArg some same)
  | cons c more =>
    obtain ⟨x, others, head, mark, -⟩ := shown_head shows begins
    rw [← begins, head]
    exact closing?_of_first (mark one)

end Shows

theorem ofMark?_mark (q : Quote) : Quote.ofMark? q.mark = some q := by cases q <;> rfl

/-- Three marks open a text that spans lines. -/
theorem read_marks (q : Quote) (rest : List Char) :
    read (delimiter ⟨q, true⟩ ++ rest) = body ⟨q, true⟩ ((dropBreak? rest).getD rest) := by
  show read (q.mark :: q.mark :: q.mark :: rest) = _
  rw [read, if_pos ⟨rfl, rfl⟩, ofMark?_mark]
  rfl

/-- A mark opens a text on one line, if no two more follow it. -/
theorem read_mark (q : Quote) {rest : List Char} (one : closing? q.mark rest = none) :
    read (delimiter ⟨q, false⟩ ++ rest) = body ⟨q, false⟩ rest := by
  have opens : readLine (q.mark :: rest) = body ⟨q, false⟩ rest := by
    rw [readLine, ofMark?_mark]
    rfl
  show read (q.mark :: rest) = _
  rcases rest with _ | ⟨a, _ | ⟨b, more⟩⟩
  · exact opens
  · exact opens
  · rw [read, if_neg, opens]
    rintro ⟨first, second⟩
    rw [closing?, if_pos ⟨first.symm, (first.trans second).symm⟩] at one
    cases one

/-- Every text is read back from its quotes, whatever follows, if it is no mark. -/
theorem read_write (text : List Char) {rest : List Char}
    (apart : ∀ q : Quote, rest.head? ≠ some q.mark) :
    read (write text ++ rest) = some (text, rest) := by
  have shows := shows_styleFor text
  have written : write text = delimiter (styleFor text)
      ++ (if (styleFor text).spansLines && text.contains '\n' then ['\n'] else [])
      ++ shown (styleFor text) text ++ delimiter (styleFor text) := rfl
  rw [written]
  generalize styleFor text = s at shows
  have all := body_shown shows (apart s.quote)
  obtain ⟨q, spansLines⟩ := s
  simp only [List.append_assoc]
  cases spansLines with
  | true =>
    rw [read_marks]
    by_cases broken : '\n' ∈ text
    · -- the text starts on a line of its own
      rw [if_pos (by simpa using broken)]
      exact all
    · rw [if_neg (by simpa using broken), List.nil_append, dropBreak?_shown shows broken]
      exact all
  | false =>
    rw [Bool.false_and, if_neg Bool.false_ne_true, List.nil_append,
      read_mark q (closing?_shown shows rfl (apart q))]
    exact all

end Toml.Quoted

end PictureTransfer
