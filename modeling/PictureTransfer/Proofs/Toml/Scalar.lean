import PictureTransfer.Toml.Scalar
import Mathlib.Algebra.GroupWithZero.Nat
import Mathlib.Data.List.Basic

/-!
# Numbers are read back

A line on which only digits are left holds no moment, no float and no number in another radix: these
need a character that is no digit, and a scanner that is `Stuck` there stays so behind any that
`Keeps` the line as it is. So a number that fits 64 bits is read from its decimal digits as itself
(`value_line`).
-/

namespace PictureTransfer.Toml

open Text

/-! ## Scanning -/

namespace Scan

variable {α β : Type} {x : Scan α} {f : α → Scan β} {rest left : List Char} {a : α}

theorem bind_eq_some {b : β} :
    (x >>= f) rest = some (b, left) ↔
      ∃ a more, x rest = some (a, more) ∧ f a more = some (b, left) := by
  show (x rest).bind _ = _ ↔ _
  rw [Option.bind_eq_some_iff, Prod.exists]

theorem bind_of_some (found : x rest = some (a, left)) : (x >>= f) rest = f a left := by
  show (x rest).bind _ = _
  rw [found]
  rfl

theorem bind_of_none (absent : x rest = none) : (x >>= f) rest = none := by
  show (x rest).bind _ = _
  rw [absent]
  rfl

theorem orElse_of_none {y : Scan α} (absent : x rest = none) : (x <|> y) rest = y rest := by
  show (x rest <|> y rest) = _
  rw [absent]
  rfl

theorem orElse_of_some {y : Scan α} (found : x rest = some (a, left)) :
    (x <|> y) rest = some (a, left) := by
  show (x rest <|> y rest) = _
  rw [found]
  rfl

theorem map_of_some {g : α → β} (found : x rest = some (a, left)) :
    (g <$> x) rest = some (g a, left) := by
  show (x rest).bind _ = _
  rw [found]
  rfl

/-- A value that is not there is absent. -/
theorem maybe_of_none (absent : x rest = none) : maybe x rest = some (none, rest) :=
  orElse_of_none (bind_of_none (f := fun a => pure (some a)) absent)

theorem maybe_of_some (found : x rest = some (a, left)) : maybe x rest = some (some a, left) :=
  orElse_of_some (map_of_some found)

theorem char_of_ne {c d : Char} (other : d ≠ c) (rest : List Char) : char c (d :: rest) = none := by
  refine bind_of_none ?_
  rw [oneOf, if_neg (by simpa using other)]

theorem char_self (c : Char) (rest : List Char) : char c (c :: rest) = some ((), rest) := by
  have found : oneOf (· = c) (c :: rest) = some (c, rest) := by
    rw [oneOf, if_pos (by simp)]
  exact bind_of_some found

end Scan

/-! ## Numbers -/

namespace Scalar

open Scan

/-- A line of which only digits are left. -/
inductive Digits : List Char → Prop where
  | done (after : List Char) : Digits ('\n' :: after)
  | digit {c : Char} {rest : List Char} (digit : Numeral.isDigit 10 c = true) (more : Digits rest) :
      Digits (c :: rest)

theorem ne_of_isDigit {c d : Char} (digit : Numeral.isDigit 10 c = true)
    (other : Numeral.isDigit 10 d = false) : c ≠ d := by
  rintro rfl
  rw [digit] at other
  cases other

/-- A scanner that finds nothing where only digits are left. -/
def Stuck {α : Type} (x : Scan α) : Prop := ∀ rest, Digits rest → x rest = none

/-- A scanner behind which only digits are left, if they were all there was. -/
def Keeps {α : Type} (x : Scan α) : Prop :=
  ∀ rest left a, Digits rest → x rest = some (a, left) → Digits left

section Scanners

variable {α β : Type} {x y : Scan α} {f : α → Scan β}

theorem Keeps.pure (a : α) : Keeps (Pure.pure a : Scan α) := by
  rintro rest left b h ⟨⟩
  exact h

theorem Keeps.bind (first : Keeps x) (later : ∀ a, Keeps (f a)) : Keeps (x >>= f) := by
  intro rest left b h found
  obtain ⟨a, more, one, other⟩ := bind_eq_some.1 found
  exact later a _ _ _ (first _ _ _ h one) other

theorem Keeps.stuck (first : Keeps x) (later : ∀ a, Stuck (f a)) : Stuck (x >>= f) := by
  intro rest h
  cases found : x rest with
  | none => exact bind_of_none found
  | some pair =>
    obtain ⟨a, left⟩ := pair
    rw [bind_of_some found]
    exact later a _ (first _ _ _ h found)

theorem Keeps.oneOf {p : Char → Bool} (line : p '\n' = false) : Keeps (Scan.oneOf p) := by
  intro rest left c h found
  cases h with
  | done after =>
    rw [Scan.oneOf, line] at found
    cases found
  | digit digit more =>
    rw [Scan.oneOf] at found
    split at found
    · cases found
      exact more
    · cases found

theorem Keeps.char {c : Char} (line : c ≠ '\n') : Keeps (Scan.char c) :=
  .bind (.oneOf (by simpa using line.symm)) fun _ => .pure ()

theorem Keeps.maybe (h : Keeps x) : Keeps (Scan.maybe x) := by
  intro rest left a digits found
  cases one : x rest with
  | none =>
    rw [maybe_of_none one] at found
    cases found
    exact digits
  | some pair =>
    rw [maybe_of_some one] at found
    cases found
    exact h _ _ _ digits one

theorem Keeps.require (b : Bool) : Keeps (Scan.require b) := by
  cases b with
  | true => exact .pure ()
  | false =>
    intro rest left a h found
    cases found

theorem Keeps.fixedDigits (k : Nat) : Keeps (Scalar.fixedDigits k) := by
  induction k with
  | zero => exact .pure []
  | succ k ih => exact .bind (.oneOf (by decide)) fun _ => ih.bind fun _ => .pure _

theorem Keeps.twoDigits (low high : Nat) : Keeps (Scalar.twoDigits low high) :=
  (fixedDigits 2).bind fun _ => (require _).bind fun _ => .pure _

theorem Stuck.bind (h : Stuck x) : Stuck (x >>= f) := fun rest digits =>
  bind_of_none (h rest digits)

theorem Stuck.orElse (first : Stuck x) (second : Stuck y) : Stuck (x <|> y) :=
  fun rest digits => (orElse_of_none (first rest digits)).trans (second rest digits)

/-- What is absent from digits is skipped. -/
theorem Stuck.maybe_bind {g : Option α → Scan β} (h : Stuck x) (later : Stuck (g none)) :
    Stuck (maybe x >>= g) := fun rest digits =>
  (bind_of_some (maybe_of_none (h rest digits))).trans (later rest digits)

theorem Stuck.oneOf {p : Char → Bool} (line : p '\n' = false)
    (other : ∀ c, Numeral.isDigit 10 c = true → p c = false) : Stuck (Scan.oneOf p) := by
  intro rest h
  cases h with
  | done after => rw [Scan.oneOf, line, if_neg Bool.false_ne_true]
  | digit digit more => rw [Scan.oneOf, other _ digit, if_neg Bool.false_ne_true]

theorem Stuck.char {c : Char} (line : c ≠ '\n') (other : Numeral.isDigit 10 c = false) :
    Stuck (Scan.char c) :=
  .bind (.oneOf (by simpa using line.symm) fun d digit => by simpa using ne_of_isDigit digit other)

end Scanners

/-- A line of which only digits are left is no moment. -/
theorem stuck_moment : Stuck moment :=
  have date : Stuck date :=
    (Keeps.fixedDigits 4).stuck fun _ => (Stuck.char (by decide) (by decide)).bind
  have time : Stuck time :=
    (Keeps.twoDigits 0 23).stuck fun _ => (Stuck.char (by decide) (by decide)).bind
  .orElse date.bind time

/-- Digits without underscores are scanned one by one. -/
theorem digitsFrom_digit {c : Char} (digit : Numeral.isDigit 10 c = true) (rest : List Char) :
    digitsFrom (Numeral.isDigit 10) (c :: rest)
      = (c :: (digitsFrom (Numeral.isDigit 10) rest).1,
        (digitsFrom (Numeral.isDigit 10) rest).2) := by
  rw [digitsFrom.eq_def]
  split
  · next none_left => cases none_left
  · next d more same =>
    have mark : c = '_' := (List.cons.inj same).1
    exact absurd mark (ne_of_isDigit digit (by decide))
  · next d more _ same =>
    cases same
    rw [if_pos digit]

theorem digitsFrom_done (after : List Char) :
    digitsFrom (Numeral.isDigit 10) ('\n' :: after) = ([], '\n' :: after) := by
  rw [digitsFrom.eq_def]
  rfl

theorem Keeps.digitsFrom :
    Keeps (fun rest => some (Scalar.digitsFrom (Numeral.isDigit 10) rest) : Scan (List Char)) := by
  rintro rest left ds h found
  obtain rfl : (Scalar.digitsFrom (Numeral.isDigit 10) rest).2 = left :=
    congrArg Prod.snd (Option.some.inj found)
  clear found
  induction h with
  | done after =>
    rw [digitsFrom_done]
    exact .done after
  | digit digit more ih =>
    rw [digitsFrom_digit digit]
    exact ih

theorem Keeps.digits : Keeps (Scalar.digits 10) :=
  (oneOf (by decide)).bind fun _ => digitsFrom.bind fun _ => .pure _

theorem Keeps.negative : Keeps Scalar.negative := (oneOf (by decide)).maybe.bind fun _ => .pure _

theorem Keeps.decimal : Keeps Scalar.decimal := by
  refine negative.bind fun minus => Keeps.bind (Keeps.char (by decide)).maybe fun zero => ?_
  dsimp only
  split
  · exact (Keeps.pure _).bind fun _ => .pure _
  · exact digits.bind fun _ => .pure _

/-- A line of which only digits are left is no float. -/
theorem stuck_float : Stuck float := by
  have fraction : Stuck (do Scan.char '.'; Scalar.digits 10) :=
    (Stuck.char (by decide) (by decide)).bind
  have power : Stuck exponent := Stuck.bind <| .oneOf (by decide) fun c digit => by
    simpa using ⟨ne_of_isDigit digit (by decide), ne_of_isDigit digit (by decide)⟩
  have decimal : Stuck decimalFloat :=
    Keeps.decimal.stuck fun _ => fraction.maybe_bind (power.maybe_bind (Stuck.bind fun _ _ => rfl))
  have name : ∀ c more, c ≠ '\n' → Numeral.isDigit 10 c = false → Stuck (word (c :: more)) :=
    fun c more line other => (Stuck.char line other).bind
  refine decimal.orElse (Keeps.negative.stuck fun _ => .orElse ?_ ?_)
  · exact name 'i' _ (by decide) (by decide)
  · exact name 'n' _ (by decide) (by decide)

/-- A line of which only digits are left is no number in another radix. -/
theorem stuck_radixInteger {letter : Char} {radix : Nat} (line : letter ≠ '\n')
    (other : Numeral.isDigit 10 letter = false) : Stuck (radixInteger letter radix) :=
  (Keeps.char (by decide)).stuck fun _ => (Stuck.char line other).bind

theorem digits_append {ds : List Char} (all : ∀ c ∈ ds, Numeral.isDigit 10 c = true)
    (after : List Char) : Digits (ds ++ '\n' :: after) := by
  induction ds with
  | nil => exact .done after
  | cons c more ih =>
    obtain ⟨digit, others⟩ := List.forall_mem_cons.1 all
    exact .digit digit (ih others)

theorem digitsFrom_append {ds : List Char} (all : ∀ c ∈ ds, Numeral.isDigit 10 c = true)
    (after : List Char) :
    digitsFrom (Numeral.isDigit 10) (ds ++ '\n' :: after) = (ds, '\n' :: after) := by
  induction ds with
  | nil => exact digitsFrom_done after
  | cons c more ih =>
    obtain ⟨digit, others⟩ := List.forall_mem_cons.1 all
    rw [List.cons_append, digitsFrom_digit digit, ih others]

/-- A number begins with a digit. -/
theorem decimal_digit (n : Nat) :
    ∃ d more, Numeral.decimal n = d :: more ∧ Numeral.isDigit 10 d = true := by
  have some_digit : Numeral.decimal n ≠ [] := by
    rw [Numeral.decimal]
    split
    · exact List.cons_ne_nil _ _
    · exact List.append_ne_nil_of_right_ne_nil _ (List.cons_ne_nil _ _)
  obtain ⟨d, more, head⟩ := List.exists_cons_of_ne_nil some_digit
  exact ⟨d, more, head, Numeral.isDigit_of_mem_decimal (head ▸ List.mem_cons_self)⟩

/-- Only zero is written with a zero in front. -/
theorem decimal_head {n : Nat} (some_value : n ≠ 0) :
    ∃ d more, Numeral.decimal n = d :: more ∧ d ≠ '0' := by
  fun_induction Numeral.decimal n with
  | case1 n small =>
    have nonzero : ∀ v < 10, v ≠ 0 → Numeral.decimalDigit v ≠ '0' := by decide
    exact ⟨_, [], rfl, nonzero n small some_value⟩
  | case2 n large ih =>
    obtain ⟨d, more, head, other⟩ := ih (by omega)
    exact ⟨d, _, by rw [head]; rfl, other⟩

/-- A number is scanned as its digits. -/
theorem decimal_line (n : Nat) (after : List Char) :
    Scalar.decimal (Numeral.decimal n ++ '\n' :: after)
      = some ((false, Numeral.decimal n), '\n' :: after) := by
  have all : ∀ c ∈ Numeral.decimal n, Numeral.isDigit 10 c = true :=
    fun c listed => Numeral.isDigit_of_mem_decimal listed
  have sign : Stuck (oneOf fun c => c = '+' || c = '-') := .oneOf (by decide) fun c digit => by
    simpa using ⟨ne_of_isDigit digit (by decide), ne_of_isDigit digit (by decide)⟩
  have positive : negative (Numeral.decimal n ++ '\n' :: after)
      = some (false, Numeral.decimal n ++ '\n' :: after) :=
    bind_of_some (maybe_of_none (sign _ (digits_append all after)))
  rw [Scalar.decimal, bind_of_some positive]
  by_cases zero : n = 0
  · subst zero
    rw [Numeral.decimal, if_pos (by decide)]
    exact bind_of_some (maybe_of_some (char_self '0' _))
  · obtain ⟨d, more, head, other⟩ := decimal_head zero
    rw [head] at all ⊢
    obtain ⟨digit, others⟩ := List.forall_mem_cons.1 all
    refine (bind_of_some (maybe_of_none (char_of_ne other _))).trans ?_
    have scanned : digits 10 (d :: more ++ '\n' :: after) = some (d :: more, '\n' :: after) := by
      have first : oneOf (Numeral.isDigit 10) (d :: more ++ '\n' :: after)
          = some (d, more ++ '\n' :: after) := by
        rw [List.cons_append, oneOf, if_pos digit]
      rw [digits, bind_of_some first]
      exact bind_of_some (congrArg some (digitsFrom_append others after))
    exact bind_of_some scanned

theorem fitsInt64_natCast (n : Nat) : fitsInt64 n = decide (n ≤ 2 ^ 63 - 1) := by
  have low : Int64.minValue.toInt = -(2 ^ 63) := by decide
  have high : Int64.maxValue.toInt = 2 ^ 63 - 1 := by decide
  rw [fitsInt64, low, high, Bool.eq_iff_iff, Bool.and_eq_true, decide_eq_true_eq, decide_eq_true_eq,
    decide_eq_true_eq]
  omega

/-- A number that fits is scanned as itself. -/
theorem value_line {n : Nat} (fits : n ≤ 2 ^ 63 - 1) (after : List Char) :
    Scalar.value (Numeral.decimal n ++ '\n' :: after) = some (.integer n, '\n' :: after) := by
  have digits : Digits (Numeral.decimal n ++ '\n' :: after) :=
    digits_append (fun c listed => Numeral.isDigit_of_mem_decimal listed) after
  have number : decimalInteger (Numeral.decimal n ++ '\n' :: after) = some (↑n, '\n' :: after) := by
    rw [decimalInteger, bind_of_some (decimal_line n after)]
    dsimp only
    rw [Numeral.value_decimal]
    rfl
  have whole : integer (Numeral.decimal n ++ '\n' :: after) = some (↑n, '\n' :: after) := by
    have some_radix : (radixInteger 'x' 16 <|> radixInteger 'o' 8 <|> radixInteger 'b' 2
        <|> decimalInteger) (Numeral.decimal n ++ '\n' :: after) = some (↑n, '\n' :: after) := by
      rw [orElse_of_none (stuck_radixInteger (by decide) (by decide) _ digits),
        orElse_of_none (stuck_radixInteger (by decide) (by decide) _ digits),
        orElse_of_none (stuck_radixInteger (by decide) (by decide) _ digits), number]
    rw [integer, bind_of_some some_radix, fitsInt64_natCast, decide_eq_true fits]
    rfl
  rw [Scalar.value, orElse_of_none (stuck_moment.bind _ digits),
    orElse_of_none (stuck_float.bind _ digits)]
  exact orElse_of_some (map_of_some whole)

end Scalar

end PictureTransfer.Toml
