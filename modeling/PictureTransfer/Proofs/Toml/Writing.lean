import PictureTransfer.Proofs.Toml.Quoted
import PictureTransfer.Proofs.Toml.Scalar
import PictureTransfer.Toml.Reader
import PictureTransfer.Toml.Writer

/-!
# Written documents are read back

A document of statements that are `Simple`, texts and numbers under single keys without quotes and
headers of such keys, is read back as these statements, if all of them can be written
(`statements_written`). Each of them takes a line of its own, a header two
(`Simple.statements_append`).
-/

namespace PictureTransfer.Toml

open Text

/-! ## Keys -/

/-- A key that can stand without quotes. -/
def IsBare (key : String) : Prop := key.toList ≠ [] ∧ ∀ c ∈ key.toList, isBareKey c = true

instance (key : String) : Decidable (IsBare key) :=
  decidable_of_iff ((!key.toList.isEmpty && key.toList.all isBareKey) = true) <| by
    simp [IsBare]

theorem ne_of_isBareKey {c d : Char} (bare : isBareKey c = true) (other : isBareKey d = false) :
    c ≠ d := by
  rintro rfl
  rw [bare] at other
  cases other

theorem isBlank_of_ne {c : Char} (space : c ≠ ' ') (tab : c ≠ '\t') : isBlank c = false := by
  rw [isBlank, decide_eq_false space, decide_eq_false tab]
  rfl

/-- Blanks in front are dropped, and nothing else. -/
theorem skipBlanks_of_ne {x : Char} (other : isBlank x = false) (rest : List Char) :
    skipBlanks (x :: rest) = x :: rest := by
  rw [skipBlanks, List.dropWhile_cons_of_neg (by rw [other]; exact Bool.false_ne_true)]

theorem Quote.ofMark?_of_ne {c : Char} (double : c ≠ mark .double) (single : c ≠ mark .single) :
    ofMark? c = none := by
  rw [ofMark?, if_neg double, if_neg single]

/-- What begins with no mark is no text. -/
theorem Quoted.read_of_no_mark {x : Char} (other : Quote.ofMark? x = none) (rest : List Char) :
    Quoted.readLine (x :: rest) = none ∧ Quoted.read (x :: rest) = none := by
  have line : Quoted.readLine (x :: rest) = none := by
    rw [Quoted.readLine, other]
    rfl
  refine ⟨line, ?_⟩
  rcases rest with _ | ⟨a, _ | ⟨b, more⟩⟩
  · exact line
  · exact line
  · rw [Quoted.read, other, line]
    split <;> rfl

section Key

variable {key : String} (bare : IsBare key)
include bare

/-- A key without quotes begins with one of its characters, which is no other that opens a line. -/
theorem IsBare.head : ∃ x more, key.toList = x :: more ∧ isBareKey x = true := by
  obtain ⟨some_char, all⟩ := bare
  obtain ⟨x, more, head⟩ := List.exists_cons_of_ne_nil some_char
  exact ⟨x, more, head, all x (by rw [head]; exact List.mem_cons_self)⟩

theorem IsBare.skipBlanks (rest : List Char) :
    skipBlanks (key.toList ++ rest) = key.toList ++ rest := by
  obtain ⟨x, more, head, isBare⟩ := bare.head
  have solid : isBlank x = false :=
    isBlank_of_ne (ne_of_isBareKey isBare (by decide)) (ne_of_isBareKey isBare (by decide))
  rw [head]
  exact skipBlanks_of_ne solid _

/-- A key ends where none of its characters stands. -/
theorem IsBare.simpleKey {x : Char} (ends : isBareKey x = false) (rest : List Char) :
    simpleKey (key.toList ++ x :: rest) = some (key, x :: rest) := by
  obtain ⟨y, more, head, isBare⟩ := bare.head
  have all : ∀ c ∈ key.toList, isBareKey c = true := bare.2
  have unquoted : Quote.ofMark? y = none :=
    Quote.ofMark?_of_ne (ne_of_isBareKey isBare (by decide)) (ne_of_isBareKey isBare (by decide))
  have front : (key.toList ++ x :: rest).takeWhile isBareKey = key.toList := by
    rw [List.takeWhile_append_of_pos all,
      List.takeWhile_cons_of_neg (by rw [ends]; exact Bool.false_ne_true), List.append_nil]
  have behind : (key.toList ++ x :: rest).dropWhile isBareKey = x :: rest := by
    rw [List.dropWhile_append_of_pos all,
      List.dropWhile_cons_of_neg (by rw [ends]; exact Bool.false_ne_true)]
  have none_quoted : Quoted.readLine (key.toList ++ x :: rest) = none := by
    rw [head]
    exact (Quoted.read_of_no_mark unquoted _).1
  rw [Toml.simpleKey, none_quoted]
  dsimp only
  rw [front, behind, String.ofList_toList]
  rw [head]
  rfl

/-- A key with blanks behind it, up to a character that is no dot, is a whole path. -/
theorem IsBare.keyPath {x y : Char} {rest left : List Char} (ends : isBareKey x = false)
    (blanks : Toml.skipBlanks (x :: rest) = y :: left) (last : y ≠ '.') :
    keyPath (key.toList ++ x :: rest) = some (⟨[], key⟩, y :: left) := by
  have one : keys (key.toList ++ x :: rest) = some ([key], y :: left) := by
    rw [keys, bare.skipBlanks, bare.simpleKey ends]
    dsimp only
    rw [blanks]
    split
    · next after same => exact absurd (List.cons.inj same).1 last
    · rfl
  rw [Toml.keyPath, one]
  rfl

end Key

/-! ## Values -/

/-- A value that begins with neither bracket nor brace is a leaf. -/
theorem value_of_ne {x : Char} (bracket : x ≠ '[') (brace : x ≠ '\x7b') (rest : List Char) :
    value maxDepth (x :: rest) = leaf (x :: rest) := by
  show value (78 + 1) (x :: rest) = _
  rw [value]
  · rintro left ⟨⟩
    exact bracket rfl
  · rintro left ⟨⟩
    exact brace rfl

/-- Quotes open a text. -/
theorem Quoted.write_head (text : List Char) :
    ∃ (q : Quote) (more : List Char), Quoted.write text = q.mark :: more := by
  refine ⟨(styleFor text).quote, ?_⟩
  rw [write]
  simp only [delimiter]
  split <;> exact ⟨_, rfl⟩

/-- A text is read back up to the end of its line. -/
theorem value_text (s : String) (after : List Char) :
    value maxDepth (Quoted.write s.toList ++ '\n' :: after) = some (.text s, '\n' :: after) := by
  have apart : ∀ q : Quote, ('\n' :: after).head? ≠ some q.mark := by
    rintro (_ | _) <;> exact fun same => absurd (Option.some.inj same) (by decide)
  obtain ⟨q, more, head⟩ := Quoted.write_head s.toList
  have quoted := Quoted.read_write s.toList apart
  rw [head] at quoted ⊢
  rw [List.cons_append, value_of_ne (by cases q <;> decide) (by cases q <;> decide), leaf,
    ← List.cons_append, quoted]
  dsimp only
  rw [String.ofList_toList]

/-- A number that fits is read back as a value. -/
theorem value_number {n : Nat} (fits : n ≤ 2 ^ 63 - 1) (after : List Char) :
    value maxDepth (Numeral.decimal n ++ '\n' :: after) = some (.integer n, '\n' :: after) := by
  have number := Scalar.value_line fits after
  obtain ⟨d, more, head, digit⟩ := Scalar.decimal_digit n
  have unquoted : Quote.ofMark? d = none :=
    Quote.ofMark?_of_ne (Scalar.ne_of_isDigit digit (by decide))
      (Scalar.ne_of_isDigit digit (by decide))
  rw [head] at number ⊢
  rw [List.cons_append, value_of_ne (Scalar.ne_of_isDigit digit (by decide))
    (Scalar.ne_of_isDigit digit (by decide)), leaf, (Quoted.read_of_no_mark unquoted _).2]
  exact number

/-! ## Lines -/

/-- The statement of a line, and then those of the lines behind it. -/
theorem statements_of_line {rest left : List Char} {found : Option Statement}
    {later : List Statement} (one : line rest = some (found, left))
    (shorter : left.length < rest.length) (others : statements left = some later) :
    statements rest = some (found.toList ++ later) := by
  have some_left : rest.isEmpty = false := by
    cases rest with
    | nil => exact absurd shorter (Nat.not_lt_zero _)
    | cons c more => rfl
  rw [statements, some_left, if_neg Bool.false_ne_true, one]
  dsimp only
  rw [if_pos shorter, others]
  rfl

/-- A statement with a line feed right behind it is a line. -/
theorem line_of_statement {rest left : List Char} {found : Option Statement}
    (solid : skipBlanks rest = rest) (one : statement rest = some (found, '\n' :: left)) :
    line rest = some (found, left) := by
  have ends : endLine? ('\n' :: left) = some left := by
    rw [endLine?, skipBlanks_of_ne (by decide)]
    rfl
  rw [line, solid, one]
  simp only [Option.bind_eq_bind, Option.bind_some, ends]
  rfl

/-- A line without a statement. -/
theorem line_blank (rest : List Char) : line ('\n' :: rest) = some (none, rest) := by
  refine line_of_statement (skipBlanks_of_ne (by decide) _) ?_
  rw [statement]

section Line

variable {key : String} (bare : IsBare key)
include bare

/-- A key without quotes opens an entry. -/
theorem statement_of_bare (rest : List Char) :
    statement (key.toList ++ rest) = (pair (value maxDepth) (key.toList ++ rest)).map
      fun found => (some (.entry found.1.1 found.1.2), found.2) := by
  obtain ⟨x, more, head, isBare⟩ := bare.head
  rw [head, List.cons_append, statement]
  · cases pair (value maxDepth) (x :: (more ++ rest)) <;> rfl
  · exact List.cons_ne_nil _ _
  all_goals
    refine fun tail same => ne_of_isBareKey isBare ?_ (List.cons.inj same).1
    decide

/-- An entry on a line of its own, whose value does not begin with a blank. -/
theorem line_entry {v : Value} {front rest : List Char} (solid : skipBlanks (' ' :: front) = front)
    (read : value maxDepth front = some (v, '\n' :: rest)) :
    line (key.toList ++ ' ' :: '=' :: ' ' :: front) = some (some (.entry ⟨[], key⟩ v), rest) := by
  have equals : skipBlanks (' ' :: '=' :: ' ' :: front) = '=' :: ' ' :: front := rfl
  have entry : pair (value maxDepth) (key.toList ++ ' ' :: '=' :: ' ' :: front)
      = some ((⟨[], key⟩, v), '\n' :: rest) := by
    have path := bare.keyPath (x := ' ') (y := '=') (by decide) equals (by decide)
    rw [pair, path]
    simp only [Option.bind_eq_bind, Option.bind_some, solid, read]
    rfl
  refine line_of_statement (bare.skipBlanks _) ?_
  rw [statement_of_bare bare, entry]
  rfl

/-- A header, on a line of its own too. -/
theorem line_table (rest : List Char) :
    line ('[' :: (key.toList ++ ']' :: '\n' :: rest)) = some (some (.table ⟨[], key⟩), rest) := by
  have closed : skipBlanks (']' :: '\n' :: rest) = ']' :: '\n' :: rest := rfl
  have path := bare.keyPath (x := ']') (y := ']') (by decide) closed (by decide)
  refine line_of_statement rfl ?_
  obtain ⟨x, more, head, isBare⟩ := bare.head
  rw [head, List.cons_append] at path ⊢
  rw [statement]
  · rw [path]
    rfl
  · refine fun tail same => ne_of_isBareKey isBare ?_ (List.cons.inj same).1
    decide

end Line

/-! ## Documents -/

/-- The statements that take one key without quotes and a value that can be written. -/
inductive Simple : Statement → Prop where
  | text {key : String} (bare : IsBare key) (s : String) : Simple (.entry ⟨[], key⟩ (.text s))
  | number {key : String} (bare : IsBare key) (n : Nat) : Simple (.entry ⟨[], key⟩ (.integer n))
  | table {key : String} (bare : IsBare key) : Simple (.table ⟨[], key⟩)

/-- A number that is not negative has no sign. -/
theorem integerChars_natCast (n : Nat) : integerChars n = Numeral.decimal n := by
  rw [integerChars, if_neg (by omega), Int.natAbs_natCast]

/-- A value that is shown on the rest of a line is read back with its key. -/
theorem statements_entry {key : String} (bare : IsBare key) {v : Value} {shown rest : List Char}
    {x : Char} {more : List Char} (head : shown = x :: more) (solid : isBlank x = false)
    (read : value maxDepth (shown ++ '\n' :: rest) = some (v, '\n' :: rest))
    {later : List Statement} (others : statements rest = some later) :
    statements (KeyPath.write ⟨[], key⟩ ++ [' ', '=', ' '] ++ shown ++ ['\n'] ++ rest)
      = some (.entry ⟨[], key⟩ v :: later) := by
  have front : skipBlanks (' ' :: (shown ++ '\n' :: rest)) = shown ++ '\n' :: rest := by
    rw [head]
    exact skipBlanks_of_ne solid _
  have written : KeyPath.write ⟨[], key⟩ ++ [' ', '=', ' '] ++ shown ++ ['\n'] ++ rest
      = key.toList ++ ' ' :: '=' :: ' ' :: (shown ++ '\n' :: rest) := by
    simp [KeyPath.write]
  rw [written]
  refine statements_of_line (line_entry bare front read) ?_ others
  simp only [List.length_append, List.length_cons]
  omega

/-- What a statement is written as is read back as this statement, and then what follows. -/
theorem Simple.statements_append {st : Statement} (simple : Simple st) {shown rest : List Char}
    {later : List Statement} (written : st.write? = some shown)
    (others : statements rest = some later) : statements (shown ++ rest) = some (st :: later) := by
  cases simple with
  | @text key bare s =>
    cases written
    obtain ⟨q, more, head⟩ := Quoted.write_head s.toList
    exact statements_entry bare head (by cases q <;> decide) (value_text s rest) others
  | @number key bare n =>
    obtain ⟨digits, shows, rfl⟩ := Option.map_eq_some_iff.1 written
    rw [Value.write?, Scalar.fitsInt64_natCast] at shows
    split at shows
    · next fits =>
      cases shows
      obtain ⟨d, more, head, digit⟩ := Scalar.decimal_digit n
      have solid : isBlank d = false :=
        isBlank_of_ne (Scalar.ne_of_isDigit digit (by decide))
          (Scalar.ne_of_isDigit digit (by decide))
      have read := value_number (of_decide_eq_true fits) rest
      rw [integerChars_natCast]
      exact statements_entry bare head solid read others
    · cases shows
  | @table key bare =>
    cases written
    have one := line_table bare rest
    have header : statements ('[' :: (key.toList ++ ']' :: '\n' :: rest))
        = some (.table ⟨[], key⟩ :: later) := by
      refine statements_of_line one ?_ others
      simp only [List.length_append, List.length_cons]
      omega
    have written : '\n' :: '[' :: KeyPath.write ⟨[], key⟩ ++ [']', '\n'] ++ rest
        = '\n' :: '[' :: (key.toList ++ ']' :: '\n' :: rest) := by
      simp [KeyPath.write]
    rw [written]
    exact statements_of_line (line_blank _) (Nat.lt_succ_self _) header

/-- The lines of a document are the line of its first statement and those of the others. -/
theorem mapM_cons_eq_some {st : Statement} {more : List Statement} {lines : List (List Char)} :
    (st :: more).mapM Statement.write? = some lines ↔ ∃ shown later, st.write? = some shown ∧
      more.mapM Statement.write? = some later ∧ lines = shown :: later := by
  simp only [List.mapM_cons, Option.bind_eq_bind, Option.bind_eq_some_iff, Option.pure_def,
    Option.some.injEq]
  constructor
  · rintro ⟨shown, one, later, all, rfl⟩
    exact ⟨shown, later, one, all, rfl⟩
  · rintro ⟨shown, later, one, all, rfl⟩
    exact ⟨shown, one, later, all, rfl⟩

/-- What statements are written as is read back as these statements. -/
theorem statements_written {sts : List Statement} (simple : ∀ st ∈ sts, Simple st)
    {lines : List (List Char)} (written : sts.mapM Statement.write? = some lines) :
    statements lines.flatten = some sts := by
  induction sts generalizing lines with
  | nil =>
    rw [List.mapM_nil] at written
    cases written
    rw [List.flatten_nil, statements]
    rfl
  | cons st more ih =>
    obtain ⟨first, others⟩ := List.forall_mem_cons.1 simple
    obtain ⟨shown, later, one, all, rfl⟩ := mapM_cons_eq_some.1 written
    exact first.statements_append one (ih others all)

/-- A statement begins with no mark of the byte order. -/
theorem Simple.written_head {st : Statement} (simple : Simple st) {shown : List Char}
    (written : st.write? = some shown) :
    ∃ x more, shown = x :: more ∧ x ≠ Document.byteOrderMark := by
  have entry : ∀ {key : String}, IsBare key → ∀ value : List Char,
      ∃ x more, KeyPath.write ⟨[], key⟩ ++ [' ', '=', ' '] ++ value ++ ['\n'] = x :: more ∧
        x ≠ Document.byteOrderMark := by
    intro key bare value
    obtain ⟨x, more, head, isBare⟩ := bare.head
    have path : KeyPath.write ⟨[], key⟩ = x :: more := head
    exact ⟨x, _, by rw [path]; rfl, ne_of_isBareKey isBare (by decide)⟩
  cases simple with
  | text bare s =>
    cases written
    exact entry bare _
  | number bare n =>
    obtain ⟨digits, -, rfl⟩ := Option.map_eq_some_iff.1 written
    exact entry bare _
  | table bare =>
    cases written
    exact ⟨_, _, rfl, by decide⟩

/-- The table of a written document is that of its statements. -/
theorem Document.read?_of_written {sts : List Statement} (simple : ∀ st ∈ sts, Simple st)
    {text : String} (written : Document.write? sts = some text) :
    Document.read? text = Document.ofStatements? sts := by
  obtain ⟨lines, all, rfl⟩ := Option.map_eq_some_iff.1 written
  have found := statements_written simple all
  have unmarked : ∀ c rest, lines.flatten = c :: rest → c ≠ byteOrderMark := by
    intro c rest head
    cases sts with
    | nil =>
      rw [List.mapM_nil] at all
      cases all
      cases head
    | cons st more =>
      obtain ⟨shown, later, one, -, rfl⟩ := mapM_cons_eq_some.1 all
      obtain ⟨x, others, first, other⟩ := (simple st List.mem_cons_self).written_head one
      rw [List.flatten_cons, first] at head
      exact (List.cons.inj head).1 ▸ other
  rw [Document.read?, String.toList_ofList]
  cases chars : lines.flatten with
  | nil =>
    rw [chars] at found
    simp only [found]
    rfl
  | cons c rest =>
    rw [chars] at found
    simp only [if_neg (unmarked c rest chars), found]
    rfl

/-! ## What can be written -/

/-- A text can be written under any key. -/
theorem Statement.exists_written_text (key : KeyPath) (s : String) :
    ∃ shown, (Statement.entry key (.text s)).write? = some shown :=
  ⟨_, rfl⟩

/-- A number can be written if it fits into 64 bits with a sign. -/
theorem Statement.exists_written_number (key : KeyPath) (n : Nat) :
    (∃ shown, (Statement.entry key (.integer n)).write? = some shown) ↔ n ≤ 2 ^ 63 - 1 := by
  rw [write?, Value.write?, Scalar.fitsInt64_natCast]
  by_cases fits : n ≤ 2 ^ 63 - 1
  · rw [decide_eq_true fits, if_pos rfl]
    exact ⟨fun _ => fits, fun _ => ⟨_, rfl⟩⟩
  · rw [decide_eq_false fits, if_neg Bool.false_ne_true]
    refine ⟨?_, fun within => absurd within fits⟩
    rintro ⟨shown, ⟨⟩⟩

/-- A header can be written. -/
theorem Statement.exists_written_table (key : KeyPath) :
    ∃ shown, (Statement.table key).write? = some shown :=
  ⟨_, rfl⟩

/-- A document can be written if each of its statements can. -/
theorem Document.exists_written {sts : List Statement} :
    (∃ text, Document.write? sts = some text) ↔ ∀ st ∈ sts, ∃ shown, st.write? = some shown := by
  suffices (∃ lines, sts.mapM Statement.write? = some lines) ↔
      ∀ st ∈ sts, ∃ shown, st.write? = some shown by
    rw [← this]
    simp only [Document.write?, Option.map_eq_some_iff]
    exact ⟨fun ⟨_, lines, all, _⟩ => ⟨lines, all⟩, fun ⟨lines, all⟩ => ⟨_, lines, all, rfl⟩⟩
  induction sts with
  | nil => exact ⟨fun _ => List.forall_mem_nil _, fun _ => ⟨[], List.mapM_nil⟩⟩
  | cons st more ih =>
    rw [List.forall_mem_cons, ← ih]
    constructor
    · rintro ⟨lines, all⟩
      obtain ⟨shown, later, one, others, -⟩ := mapM_cons_eq_some.1 all
      exact ⟨⟨shown, one⟩, later, others⟩
    · rintro ⟨⟨shown, one⟩, later, others⟩
      exact ⟨shown :: later, mapM_cons_eq_some.2 ⟨shown, later, one, others, rfl⟩⟩

end PictureTransfer.Toml
