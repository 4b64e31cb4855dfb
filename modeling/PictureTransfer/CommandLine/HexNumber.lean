import PictureTransfer.Text.Numeral

/-!
# Hexadecimal numbers in arguments

Vendor and product numbers are given in hexadecimal digits, with or without marks in front.
-/

namespace PictureTransfer.CommandLine

/-- Why a text is no hexadecimal number of 16 bits. -/
inductive HexFault where
  | empty
  | badDigit
  | tooLarge
  deriving DecidableEq, Repr

def HexFault.message : HexFault → String
  | empty => "cannot parse integer from empty string"
  | badDigit => "invalid digit found in string"
  | tooLarge => "number too large to fit in target type"

namespace HexNumber

/-- Drops a mark of two characters at the front as often as it stands there. -/
def dropMarks (a b : Char) : List Char → List Char
  | c :: d :: rest => if c = a ∧ d = b then dropMarks a b rest else c :: d :: rest
  | rest => rest

/-- Takes digits on to a number; the first digit that is none, or that makes the number too large,
decides the fault. -/
def digits (n : Nat) : List Char → Except HexFault Nat
  | [] => .ok n
  | c :: rest =>
    match Text.Numeral.digit? 16 c with
    | none => .error .badDigit
    | some v => if n * 16 + v < UInt16.size then digits (n * 16 + v) rest else .error .tooLarge

/-- A number of at least one digit, behind a plus sign or not. -/
def unmarked : List Char → Except HexFault Nat
  | [] => .error .empty
  | '+' :: c :: rest => digits 0 (c :: rest)
  | rest => digits 0 rest

/-- Reads a number; small marks may stand in front of it, and capital ones behind those. -/
def read (text : String) : Except HexFault UInt16 :=
  (unmarked (dropMarks '0' 'X' (dropMarks '0' 'x' text.toList))).map UInt16.ofNat

/-- The text of a fault in a given number. -/
def faultText (text : String) (fault : HexFault) : String :=
  "invalid hex id '" ++ text ++ "': " ++ fault.message

end HexNumber

end PictureTransfer.CommandLine
