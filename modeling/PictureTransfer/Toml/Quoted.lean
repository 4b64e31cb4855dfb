import PictureTransfer.Bytes
import PictureTransfer.Text.Numeral

/-!
# Quoted texts

A text stands between double or single quotes, on one line between single marks or over several
between triple ones. Only double quotes know escapes. `write` takes the first of the styles that
shows the text plainly, and `read` takes any of the four.
-/

namespace PictureTransfer.Toml

/-- The two kinds of quotes. -/
inductive Quote where
  | double
  | single
  deriving DecidableEq, Repr

namespace Quote

def mark : Quote → Char
  | double => '"'
  | single => '\x27'

/-- The quote that a character opens. -/
def ofMark? (c : Char) : Option Quote :=
  if c = mark double then some double
  else if c = mark single then some single
  else none

end Quote

/-- How a text is quoted: the kind of quotes, and whether triple marks let it span lines. -/
structure QuoteStyle where
  quote : Quote
  spansLines : Bool
  deriving DecidableEq, Repr

namespace Quoted

/-! ## Characters -/

/-- A character that is written by an escape only: below the blank or the delete character, the
tab and the line feed apart. -/
def isControl (c : Char) : Bool := (c < ' ' && c != '\t' && c != '\n') || c = '\x7f'

/-- A character that may stand for itself between quotes, if it is neither a mark nor a
backslash that opens an escape. -/
def isPlain (c : Char) : Bool := c = '\t' || (' ' ≤ c && c != '\x7f')

/-- Drops the line break at the front, a line feed with or without a carriage return. -/
def dropBreak? : List Char → Option (List Char)
  | '\n' :: rest => some rest
  | '\r' :: '\n' :: rest => some rest
  | _ => none

/-- Drops all blanks, tabs and line breaks at the front. -/
def skipSpace : List Char → List Char
  | ' ' :: rest | '\t' :: rest | '\n' :: rest | '\r' :: '\n' :: rest => skipSpace rest
  | rest => rest

/-- The character with a number, if there is one. -/
def scalar? (v : Nat) : Option Char := if v.isValidChar then some (Char.ofNat v) else none

/-- A character given by so many hexadecimal digits. -/
def hexScalar? (digits : Nat) (rest : List Char) : Option (List Char × List Char) :=
  let front := rest.take digits
  if front.length = digits ∧ front.all (Text.Numeral.isDigit 16) then
    (scalar? (Text.Numeral.value 16 front)).map fun c => ([c], rest.drop digits)
  else none

/-- A backslash at the end of a line takes the break and all space after it away. -/
def continuation? (rest : List Char) : Option (List Char) :=
  (dropBreak? (rest.dropWhile fun c => c = ' ' || c = '\t')).map skipSpace

/-- The letter that stands for a character after a backslash. -/
def shortEscape? (c : Char) : Option Char :=
  match c with
  | '\x08' => some 'b'
  | '\t' => some 't'
  | '\n' => some 'n'
  | '\x0c' => some 'f'
  | '\r' => some 'r'
  | '"' => some '"'
  | '\\' => some '\\'
  | _ => none

/-- The character that a letter after a backslash stands for. -/
def ofShortEscape? (c : Char) : Option Char :=
  match c with
  | 'b' => some '\x08'
  | 't' => some '\t'
  | 'n' => some '\n'
  | 'f' => some '\x0c'
  | 'r' => some '\r'
  | '"' => some '"'
  | '\\' => some '\\'
  | _ => none

/-- What an escape stands for, and what follows it; the backslash is gone already. -/
def escape? (spansLines : Bool) (rest : List Char) : Option (List Char × List Char) :=
  match rest with
  | [] => none
  | c :: after =>
    match ofShortEscape? c with
    | some plain => some ([plain], after)
    | none =>
      if c = 'u' then hexScalar? 4 after
      else if c = 'U' then hexScalar? 8 after
      else if spansLines then (continuation? rest).map fun after => ([], after)
      else none

theorem length_skipSpace_le (rest : List Char) : (skipSpace rest).length ≤ rest.length := by
  fun_induction skipSpace rest <;> simp_all only [List.length_cons, Nat.le_refl] <;> omega

theorem length_of_dropBreak {rest after : List Char} (h : dropBreak? rest = some after) :
    after.length < rest.length := by
  unfold dropBreak? at h
  split at h
  · cases h
    exact Nat.lt_add_one _
  · cases h
    exact Nat.lt_add_of_pos_right Nat.two_pos
  · cases h

theorem length_of_continuation {rest after : List Char} (h : continuation? rest = some after) :
    after.length ≤ rest.length := by
  obtain ⟨broken, dropped, rfl⟩ := Option.map_eq_some_iff.1 h
  have front := (List.dropWhile_suffix (l := rest) fun c => c = ' ' || c = '\t').length_le
  have back := length_skipSpace_le broken
  have := length_of_dropBreak dropped
  omega

theorem length_of_hexScalar {n : Nat} {rest after chars : List Char}
    (h : hexScalar? n rest = some (chars, after)) : after.length ≤ rest.length := by
  simp only [hexScalar?] at h
  split at h
  · obtain ⟨c, -, pair⟩ := Option.map_eq_some_iff.1 h
    rw [Prod.mk.injEq] at pair
    rw [← pair.2, List.length_drop]
    omega
  · cases h

/-- An escape leaves no more than it was given. -/
theorem length_of_escape {spansLines : Bool} {rest after chars : List Char}
    (h : escape? spansLines rest = some (chars, after)) : after.length ≤ rest.length := by
  unfold escape? at h
  split at h
  · cases h
  · next c tail =>
    split at h
    · simp_all
    · split at h
      · exact Nat.le_succ_of_le (length_of_hexScalar h)
      · split at h
        · exact Nat.le_succ_of_le (length_of_hexScalar h)
        · split at h
          · obtain ⟨left, continued, pair⟩ := Option.map_eq_some_iff.1 h
            rw [Prod.mk.injEq] at pair
            rw [← pair.2]
            exact length_of_continuation continued
          · cases h

/-! ## Reading -/

/-- Behind a mark, two more marks close a text that spans lines; up to two further marks still
belong to it. -/
def closing? (mark : Char) : List Char → Option (List Char × List Char)
  | a :: b :: rest =>
    if a = mark ∧ b = mark then
      let extra := (rest.takeWhile (· = mark)).take 2
      some (extra, rest.drop extra.length)
    else none
  | _ => none

/-- Reads a text up to and with its closing mark. -/
def body (s : QuoteStyle) (rest : List Char) : Option (List Char × List Char) :=
  match rest with
  | [] => none
  | c :: after =>
    if c = s.quote.mark then
      if s.spansLines then
        match closing? c after with
        | some closed => some closed
        | none => (body s after).map fun (text, left) => (c :: text, left)
      else some ([], after)
    else if c = '\\' ∧ s.quote = .double then
      match _taken : escape? s.spansLines after with
      | some (chars, after) => (body s after).map fun (text, left) => (chars ++ text, left)
      | none => none
    else if isPlain c then (body s after).map fun (text, left) => (c :: text, left)
    else if s.spansLines then
      match _broken : dropBreak? (c :: after) with
      | some after => (body s after).map fun (text, left) => ('\n' :: text, left)
      | none => none
    else none
termination_by rest.length
decreasing_by
  · exact Nat.lt_succ_self _
  · exact Nat.lt_succ_of_le (length_of_escape _taken)
  · exact Nat.lt_succ_self _
  · exact length_of_dropBreak _broken

/-- Reads a text on one line, from its opening mark on. -/
def readLine : List Char → Option (List Char × List Char)
  | [] => none
  | c :: rest => do
    let quote ← Quote.ofMark? c
    body ⟨quote, false⟩ rest

/-- Reads a text in any style, from its opening mark on. A line break right after a triple mark is
no part of the text. -/
def read : List Char → Option (List Char × List Char)
  | a :: b :: c :: rest =>
    if a = b ∧ b = c then do
      let quote ← Quote.ofMark? a
      body ⟨quote, true⟩ ((dropBreak? rest).getD rest)
    else readLine (a :: b :: c :: rest)
  | rest => readLine rest

/-! ## Writing -/

/-- Whether three marks stand side by side. -/
def hasTriple (mark : Char) : List Char → Bool
  | a :: b :: c :: rest => (a = mark && b = mark && c = mark) || hasTriple mark (b :: c :: rest)
  | _ => false

/-- The first style that shows a text plainly; if there is none, double quotes and escapes. -/
def styleFor (text : List Char) : QuoteStyle :=
  let control := text.any isControl
  let broken := text.contains '\n'
  if !control && !broken && !text.contains '"' && !text.contains '\\' then ⟨.double, false⟩
  else if !control && !broken && !text.contains Quote.single.mark then ⟨.single, false⟩
  else if !control && !text.contains '\\' && !hasTriple '"' text then ⟨.double, true⟩
  else if !control && !hasTriple Quote.single.mark text then ⟨.single, true⟩
  else ⟨.double, broken⟩

/-- A text between double quotes, `run` being the plain marks right before it. Where the text spans
lines, line feeds and up to two marks in a row stay plain. -/
def escaped (spansLines : Bool) : Nat → List Char → List Char
  | _, [] => []
  | run, c :: rest =>
    if c = '"' ∧ spansLines ∧ run < 2 then c :: escaped spansLines (run + 1) rest
    else if c = '\n' ∧ spansLines then c :: escaped spansLines 0 rest
    else match shortEscape? c with
      | some letter => '\\' :: letter :: escaped spansLines 0 rest
      | none =>
        if isControl c then '\\' :: 'u' :: Bytes.hexDigits 4 c.toNat ++ escaped spansLines 0 rest
        else c :: escaped spansLines 0 rest

/-- The marks on either side of a text. -/
def delimiter (s : QuoteStyle) : List Char :=
  List.replicate (if s.spansLines then 3 else 1) s.quote.mark

/-- A text in its style. If it spans lines and has a line feed, it starts on a line of its own. -/
def write (text : List Char) : List Char :=
  let s := styleFor text
  let start := if s.spansLines && text.contains '\n' then ['\n'] else []
  let content := match s.quote with
    | .double => escaped s.spansLines 0 text
    | .single => text
  delimiter s ++ start ++ content ++ delimiter s

end Quoted

end PictureTransfer.Toml
