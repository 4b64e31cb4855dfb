import PictureTransfer.Toml.Quoted
import PictureTransfer.Toml.Scalar
import PictureTransfer.Toml.Value

/-!
# Writing a TOML document

Statements are written one to a line, and a blank line stands before each header. Texts and
integers of 64 bits are the values that can be written.
-/

namespace PictureTransfer.Toml

/-- The decimal digits of an integer, behind a minus sign if it is negative. -/
def integerChars (n : Int) : List Char :=
  if n < 0 then '-' :: Text.Numeral.decimal n.natAbs else Text.Numeral.decimal n.natAbs

/-- A value as a line shows it. -/
def Value.write? : Value → Option (List Char)
  | .text s => some (Quoted.write s.toList)
  | .integer n => if Scalar.fitsInt64 n then some (integerChars n) else none
  | _ => none

/-- The keys of a path with dots between them. -/
def KeyPath.write (key : KeyPath) : List Char :=
  key.parents.flatMap (fun k => k.toList ++ ['.']) ++ key.last.toList

/-- A statement on a line of its own; its keys need no quotes. -/
def Statement.write? : Statement → Option (List Char)
  | .entry key v => v.write?.map fun shown => key.write ++ [' ', '=', ' '] ++ shown ++ ['\n']
  | .table key => some ('\n' :: '[' :: key.write ++ [']', '\n'])
  | .item key => some ('\n' :: '[' :: '[' :: key.write ++ [']', ']', '\n'])

/-- The text of a document, if all its values can be written. -/
def Document.write? (statements : List Statement) : Option String :=
  (statements.mapM Statement.write?).map fun lines => String.ofList lines.flatten

end PictureTransfer.Toml
