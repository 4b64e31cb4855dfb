/-!
# Options of a command line

Words of a command line against a list of options. An option stands as a word behind two dashes or
as a letter behind one dash, letters may be joined, and a value follows in the next word or in the
same one. A value is looked at only when the next option takes effect or the words end, so a fault
of a word further on may come first. `Form.scan` goes on to the first word that names a
subcommand.
-/

namespace PictureTransfer.CommandLine

/-- Why words are refused, or what they ask for in place of a run. -/
inductive Refusal where
  | badValue
  | missingValue
  | excessValue
  | repeated
  | unknownArgument
  | unknownSubcommand
  | missingArgument
  | missingSubcommand
  | nothingGiven
  | help
  | version
  deriving DecidableEq, Repr

/-- What an option does: it sets something, it reads a value, or it asks for something in place of a
run. -/
inductive Effect (α : Type) where
  | set (a : α)
  | read (parse : String → Except Refusal α)
  | stop (r : Refusal)

/-- An option: its word, its letter if it has one, and what it does. -/
structure OptionRule (α : Type) where
  word : String
  letter : Option Char := none
  effect : Effect α

/-- A command: its options, and the names of its subcommands. -/
structure Form (α : Type) where
  options : List (OptionRule α)
  subcommands : List String := []

/-- What the words have said so far: the options that took effect, and the one that waits, with its
value if that came already. -/
structure Given (α : Type) where
  settings : List (String × α) := []
  waiting : Option (OptionRule α × Option String) := none

namespace Given

variable {α : Type}

/-- Whether the next word is a value. -/
def wantsValue (g : Given α) : Bool :=
  match g.waiting with
  | some (_, none) => true
  | _ => false

/-- Records what an option set. No option takes effect twice, and this is found before the value is
looked at. -/
def record (o : OptionRule α) (setting : Except Refusal α) (g : Given α) :
    Except Refusal (Given α) :=
  if g.settings.any (·.1 = o.word) then .error .repeated
  else setting.map fun a => { g with settings := g.settings ++ [(o.word, a)] }

/-- Records the value of an option. -/
def recordValue (o : OptionRule α) (value : String) (g : Given α) : Except Refusal (Given α) :=
  match o.effect with
  | .read parse => g.record o (parse value)
  | .set _ | .stop _ => .error .excessValue

/-- The option that waits takes effect. -/
def settle (g : Given α) : Except Refusal (Given α) :=
  match g.waiting with
  | none => .ok g
  | some (_, none) => .error .missingValue
  | some (o, some value) => recordValue o value { g with waiting := none }

/-- Meets an option, with the value in the same word if there is one. -/
def meet (o : OptionRule α) (attached : Option String) (g : Given α) : Except Refusal (Given α) :=
  match o.effect, attached with
  | .set a, none => do (← g.settle).record o (.ok a)
  | .stop r, none => do
    let _ ← g.settle
    throw r
  | .set _, some _ | .stop _, some _ => .error .excessValue
  | .read _, none => do pure { ← g.settle with waiting := some (o, none) }
  | .read _, some value => do recordValue o value (← g.settle)

/-- Takes a word as the value that is wanted. -/
def takeValue (word : String) (g : Given α) : Given α :=
  { g with waiting := g.waiting.map fun (o, _) => (o, some word) }

end Given

namespace Form

variable {α : Type}

/-- Options given by letters behind one dash. A letter whose option reads a value takes the rest of
the word as the value, with or without an equals sign. -/
def letters (f : Form α) : List Char → Given α → Except Refusal (Given α)
  | [], g => .ok g
  | c :: rest, g =>
    match f.options.find? (·.letter = some c) with
    | none => .error .unknownArgument
    | some o =>
      match o.effect with
      | .read _ =>
        match rest with
        | [] => g.meet o none
        | '=' :: value => g.meet o (some (String.ofList value))
        | value => g.meet o (some (String.ofList value))
      | .set _ | .stop _ => do f.letters rest (← g.meet o none)

/-- An option given by its word behind two dashes, perhaps with an equals sign and a value. -/
def word (f : Form α) (text : List Char) (g : Given α) : Except Refusal (Given α) :=
  let name := text.takeWhile (· ≠ '=')
  let attached := match text.dropWhile (· ≠ '=') with
    | [] => none
    | _ :: value => some (String.ofList value)
  match f.options.find? (·.word = String.ofList name) with
  | none => .error .unknownArgument
  | some o => g.meet o attached

/-- The fault of a word that is neither an option nor a value. -/
def strayFault (f : Form α) : Refusal :=
  if f.subcommands.isEmpty then .unknownArgument else .unknownSubcommand

/-- The fault of a word behind two dashes that stand alone, where nothing may follow. -/
def trailingFault (f : Form α) (word : String) : Refusal :=
  if f.subcommands.contains word then .unknownArgument else f.strayFault

/-- What the words gave: the options, and the subcommand with the words behind it. -/
structure Scanned (α : Type) where
  given : Given α
  subcommand : Option (String × List String) := none

/-- Goes through the words up to a subcommand. -/
def scan (f : Form α) : List String → Given α → Except Refusal (Scanned α)
  | [], g => .ok { given := g }
  | w :: rest, g =>
    if !g.wantsValue && f.subcommands.contains w then
      .ok { given := g, subcommand := some (w, rest) }
    else match w.toList with
      | ['-', '-'] =>
        -- No command takes bare words, so nothing may follow.
        match rest with
        | [] => .ok { given := g }
        | next :: _ => .error (f.trailingFault next)
      | '-' :: '-' :: text => do f.scan rest (← f.word text g)
      | '-' :: c :: text => do f.scan rest (← f.letters (c :: text) g)
      | _ => if g.wantsValue then f.scan rest (g.takeValue w) else .error f.strayFault

end Form

end PictureTransfer.CommandLine
