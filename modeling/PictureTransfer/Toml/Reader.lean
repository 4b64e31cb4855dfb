import PictureTransfer.Toml.Document
import PictureTransfer.Toml.Quoted
import PictureTransfer.Toml.Scalar

/-!
# Reading a TOML document

A document is a list of lines with at most one statement each; a value may go on over further
lines. `Document.read?` gives the table of the whole document.
-/

namespace PictureTransfer.Toml

/-! ## Blanks, comments and line ends -/

def isBlank (c : Char) : Bool := c = ' ' || c = '\t'

/-- Drops the blanks at the front. -/
def skipBlanks (rest : List Char) : List Char := rest.dropWhile isBlank

/-- What may stand in a comment. -/
def isCommentChar (c : Char) : Bool := Quoted.isPlain c

/-- Drops blanks, line breaks and comments at the front. -/
def skipLines : List Char → List Char
  | [] => []
  | '\r' :: '\n' :: rest => skipLines rest
  | c :: rest =>
    if c = ' ' ∨ c = '\t' ∨ c = '\n' then skipLines rest
    else if c = '#' then skipLines (rest.dropWhile isCommentChar)
    else c :: rest
termination_by rest => rest.length
decreasing_by
  · simp only [List.length_cons]; omega
  · simp
  · exact Nat.lt_succ_of_le (List.dropWhile_suffix (l := rest) isCommentChar).length_le

/-- What follows the line: blanks, perhaps a comment, and a line break or the end of the text. -/
def endLine? (rest : List Char) : Option (List Char) :=
  let left := match skipBlanks rest with
    | '#' :: comment => comment.dropWhile isCommentChar
    | left => left
  match left with
  | [] => some []
  | left => Quoted.dropBreak? left

/-! ## Keys -/

/-- A character of a key without quotes. -/
def isBareKey (c : Char) : Bool := c.isAlphanum || c = '_' || c = '-'

/-- One key between dots. -/
def simpleKey (rest : List Char) : Option (String × List Char) :=
  match Quoted.readLine rest with
  | some (text, left) => some (String.ofList text, left)
  | none =>
    let bare := rest.takeWhile isBareKey
    if bare.isEmpty then none else some (String.ofList bare, rest.dropWhile isBareKey)

/-- Keys with dots between them and blanks around them. -/
def keys (rest : List Char) : Option (List String × List Char) :=
  match simpleKey (skipBlanks rest) with
  | none => none
  | some (key, left) =>
    match skipBlanks left with
    | '.' :: after =>
      if after.length < rest.length then (keys after).map fun (more, left) => (key :: more, left)
      else none
    | left => some ([key], left)
termination_by rest.length

/-- The most keys of a path. -/
def maxKeys : Nat := 79

/-- The path of a value or a table. -/
def keyPath (rest : List Char) : Option (KeyPath × List Char) := do
  let (path, left) ← keys rest
  if path.length ≤ maxKeys then pure (⟨path.dropLast, path.getLastD ""⟩, left) else none

/-! ## Values -/

/-- A text, a number, a moment or a truth value. -/
def leaf (rest : List Char) : Option (Value × List Char) :=
  match Quoted.read rest with
  | some (text, left) => some (.text (String.ofList text), left)
  | none => Scalar.value rest

/-- The items of an array up to its closing bracket; a comma may follow the last one. -/
def items (value : Scan Value) (rest : List Char) : Option (List Value × List Char) :=
  match skipLines rest with
  | ']' :: left => some ([], left)
  | front =>
    match value front with
    | none => none
    | some (v, left) =>
      match skipLines left with
      | ']' :: after => some ([v], after)
      | ',' :: after =>
        if after.length < rest.length then
          (items value after).map fun (more, left) => (v :: more, left)
        else none
      | _ => none
termination_by rest.length

/-- A key, an equals sign and a value. -/
def pair (value : Scan Value) (rest : List Char) : Option ((KeyPath × Value) × List Char) := do
  let (key, left) ← keyPath rest
  match left with
  | '=' :: left =>
    let (v, left) ← value (skipBlanks left)
    pure ((key, v), left)
  | _ => none

/-- The pairs of a table in braces up to its closing brace, on one line and without a comma at the
end. -/
def pairs (value : Scan Value) (rest : List Char) :
    Option (List (KeyPath × Value) × List Char) :=
  match pair value rest with
  | none => none
  | some (first, left) =>
    match skipBlanks left with
    | '}' :: after => some ([first], after)
    | ',' :: after =>
      if after.length < rest.length then
        (pairs value after).map fun (more, left) => (first :: more, left)
      else none
    | _ => none
termination_by rest.length

/-- The entries of a table in braces, from behind the opening brace on. -/
def braces (value : Scan Value) (rest : List Char) : Option (Entries × List Char) :=
  match skipBlanks rest with
  | '}' :: left => some ([], left)
  | front => do
    let (found, left) ← pairs value front
    let entries ← Entries.ofPairs? found
    pure (entries, left)

/-- A value in which arrays and tables in braces are nested at most so deep. -/
def value : Nat → Scan Value
  | 0, rest => leaf rest
  | depth + 1, rest =>
    match rest with
    | '[' :: left => (items (value depth) left).map fun (vs, left) => (.array vs, left)
    | '\x7b' :: left =>
      (braces (value depth) left).map fun (entries, left) => (.table .braces entries, left)
    | rest => leaf rest

/-- How deep arrays and tables in braces may be nested. -/
def maxDepth : Nat := 79

/-! ## Lines -/

/-- Drops a closing bracket. -/
def closeBracket? : List Char → Option (List Char)
  | ']' :: rest => some rest
  | _ => none

/-- The statement of a line, if it has one, from its first character that is no blank on. -/
def statement (rest : List Char) : Option (Option Statement × List Char) :=
  match rest with
  | [] | '#' :: _ | '\n' :: _ | '\r' :: _ => some (none, rest)
  | '[' :: '[' :: rest => do
    let (key, left) ← keyPath rest
    let left ← closeBracket? left
    let left ← closeBracket? left
    pure (some (.item key), left)
  | '[' :: rest => do
    let (key, left) ← keyPath rest
    let left ← closeBracket? left
    pure (some (.table key), left)
  | rest => do
    let ((key, v), left) ← pair (value maxDepth) rest
    pure (some (.entry key v), left)

/-- One line and what follows it. -/
def line (rest : List Char) : Option (Option Statement × List Char) := do
  let (found, left) ← statement (skipBlanks rest)
  let left ← endLine? left
  pure (found, left)

/-- The statements of all lines. -/
def statements (rest : List Char) : Option (List Statement) :=
  if rest.isEmpty then some []
  else match line rest with
    | none => none
    | some (found, left) =>
      if left.length < rest.length then (statements left).map (found.toList ++ ·) else none
termination_by rest.length

namespace Document

/-- A mark of the byte order that may open a text. -/
def byteOrderMark : Char := Char.ofNat 0xFEFF

/-- The table of a document, if its text is one. -/
def read? (text : String) : Option Entries := do
  let chars := match text.toList with
    | c :: rest => if c = byteOrderMark then rest else c :: rest
    | [] => []
  let found ← statements chars
  ofStatements? found

end Document

end PictureTransfer.Toml
