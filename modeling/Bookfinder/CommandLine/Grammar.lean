import Bookfinder.Association
import Bookfinder.Number.Numeral

/-!
# Arguments of a command

A `Grammar` says what a command takes: `slots` that are filled in order by the plain words and
`switches` that may stand anywhere. A switch is named by its name or the start of it, and its
value follows as the next word or after an equals sign. What starts with a dash is a switch,
unless it is a negative number, holds a space or stands after two dashes. `Grammar.read` gives
the values by name, and tells whether something was left over that nothing takes.
-/

namespace Bookfinder.CommandLine

/-- What a value must be. -/
inductive Kind where
  | text
  | integer
  | oneOf (choices : List String)
deriving DecidableEq, Repr

/-- Whether a value is of a kind. -/
def Kind.accepts : Kind → String → Bool
  | .text, _ => true
  | .integer, s => (Number.readInteger? s).isSome
  | .oneOf choices, s => choices.contains s

/-- A place for a plain word. -/
structure Slot where
  name : String
  kind : Kind
deriving DecidableEq, Repr

/-- A switch with a value of some kind, or without a value. -/
structure Switch where
  /-- The name with the two dashes before it. -/
  name : String
  kind : Option Kind
deriving DecidableEq, Repr

/-- What a command takes. -/
structure Grammar where
  slots : List Slot
  switches : List Switch
deriving DecidableEq, Repr

/-- Why arguments are not carried out. -/
inductive Refusal where
  /-- They ask for help. -/
  | help
  | misuse
  /-- There is no command. -/
  | nothing
deriving DecidableEq, Repr

/-- The exit code of the program for arguments that are not carried out. -/
def Refusal.exitCode : Refusal → Nat
  | .help => 0
  | .nothing => 1
  | .misuse => 2

/-! ## Tokens -/

/-- What a switch in the arguments stands for. -/
inductive Target where
  | help
  | switch (s : Switch)
  /-- No switch of the grammar. -/
  | unknown
deriving DecidableEq, Repr

/-- What comes with the name of a switch in the same argument. -/
inductive Attached where
  | nothing
  /-- A value after an equals sign. -/
  | equals (value : String)
  /-- Letters right after a switch of one letter. -/
  | glued (letters : List Char)
deriving DecidableEq, Repr

/-- An argument as it is understood. -/
inductive Token where
  | word (s : String)
  /-- The two dashes after which there are only words. -/
  | dashes
  | option (target : Target) (attached : Attached)
deriving DecidableEq, Repr

/-- Characters without the end of the line, if they end with one. -/
def withoutLineEnd (cs : List Char) : List Char :=
  if cs.getLast? = some '\n' then cs.dropLast else cs

/-- Whether characters write a negative number: digits of any script after a dash, perhaps with
a point before the last of them, and perhaps the end of a line. -/
def isNegativeNumber (cs : List Char) : Bool :=
  let isDigit (c : Char) : Bool := (Text.digitValue? c).isSome
  match withoutLineEnd cs with
  | '-' :: number =>
    match number.dropWhile isDigit with
    | [] => !number.isEmpty
    | '.' :: rest => !rest.isEmpty && rest.all isDigit
    | _ => false
  | _ => false

/-- The letters after the help switch of one letter: they are switches of one letter too. -/
def gluedToHelp : List Char → Refusal
  | '-' :: _ => .misuse
  | 'h' :: '=' :: _ => .misuse
  | 'h' :: cs => gluedToHelp cs
  | _ => .help

/-- How a help switch ends the reading. -/
def helpRefusal : Attached → Refusal
  | .nothing => .help
  | .equals _ => .misuse
  | .glued letters => gluedToHelp letters

namespace Grammar

/-- The long switches of a grammar, with their targets. -/
def longSwitches (g : Grammar) : List (List Char × Target) :=
  ("--help".toList, .help) :: g.switches.map fun s => (s.name.toList, .switch s)

/-- The switch that bears a name. -/
def named? (g : Grammar) (name : List Char) : Option Target :=
  if name = ['-', 'h'] then some .help
  else ((g.longSwitches.find? (·.1 = name)).map (·.2))

/-- An argument that starts with a dash and bears no name of a switch. -/
def guess (g : Grammar) (cs : List Char) : Except Refusal Token :=
  let name := cs.takeWhile (· ≠ '=')
  let attached : Attached :=
    match cs.dropWhile (· ≠ '=') with
    | [] => .nothing
    | _ :: value => .equals (String.ofList value)
  let candidates : List Token :=
    match cs with
    | '-' :: '-' :: _ =>
      (g.longSwitches.filter (name.isPrefixOf ·.1)).map fun s => .option s.2 attached
    | '-' :: 'h' :: letters => [.option .help (.glued letters)]
    | _ => []
  match candidates with
  | [t] => .ok t
  | _ :: _ :: _ => .error .misuse
  | [] =>
    if isNegativeNumber cs || cs.contains ' ' then .ok (.word (String.ofList cs))
    else .ok (.option .unknown .nothing)

/-- An argument as it is understood, before two dashes. -/
def token (g : Grammar) (arg : String) : Except Refusal Token :=
  let cs := arg.toList
  match cs with
  | '-' :: _ :: _ =>
    match g.named? cs with
    | some t => .ok (.option t .nothing)
    | none =>
      match g.named? (cs.takeWhile (· ≠ '=')), cs.dropWhile (· ≠ '=') with
      | some t, _ :: value => .ok (.option t (.equals (String.ofList value)))
      | _, _ => g.guess cs
  | _ => .ok (.word arg)

/-- The arguments as they are understood. -/
def tokens (g : Grammar) : List String → Except Refusal (List Token)
  | [] => .ok []
  | arg :: rest =>
    if arg = "--" then .ok (.dashes :: rest.map .word)
    else do return (← g.token arg) :: (← g.tokens rest)

end Grammar

/-! ## Values -/

/-- Values as far as they were read. -/
structure Reading where
  /-- The slots that are still to be filled. -/
  slots : List Slot
  /-- The values by name; none for a slot that is left empty. -/
  values : Association (Option String)
  /-- Whether there was an argument that nothing takes. -/
  hasExtras : Bool
  /-- Whether the last argument filled a slot; two dashes may follow it. -/
  afterSlot : Bool
  /-- Whether the last argument was two dashes that belong to the word after them. -/
  afterDashes : Bool

namespace Reading

/-- A reading with one more value, if it is of the right kind. -/
def put (r : Reading) (name : String) (kind : Kind) (value : String) : Except Refusal Reading :=
  if kind.accepts value then
    .ok { r with values := r.values.put name (some value), afterSlot := false }
  else .error .misuse

/-- A reading with one more plain word. A slot whose word is two dashes is left empty, unless
it is the word that the first two dashes belong to. -/
def word (r : Reading) (s : String) : Except Refusal Reading :=
  match r.slots with
  | [] => .ok { r with hasExtras := true, afterSlot := false }
  | slot :: rest => do
    let filled ←
      if s = "--" && !r.afterDashes then
        pure { r with values := r.values.put slot.name none }
      else r.put slot.name slot.kind s
    return { filled with slots := rest, afterSlot := true, afterDashes := false }

/-- Reads what is left of the arguments. -/
def readAll (r : Reading) : List Token → Except Refusal Reading
  | [] => .ok r
  | .word s :: rest => do (← r.word s).readAll rest
  | .dashes :: rest =>
    { r with
      hasExtras := r.hasExtras || (rest.isEmpty && !r.afterSlot)
      afterDashes := !r.afterSlot }.readAll rest
  | .option .help attached :: _ => .error (helpRefusal attached)
  | .option .unknown _ :: rest => { r with hasExtras := true, afterSlot := false }.readAll rest
  | .option (.switch ⟨name, none⟩) attached :: rest =>
    if attached = .nothing then do (← r.put name .text "").readAll rest else .error .misuse
  | .option (.switch ⟨name, some kind⟩) (.equals value) :: rest => do
    (← r.put name kind value).readAll rest
  | .option (.switch ⟨name, some kind⟩) .nothing :: .word value :: rest => do
    (← r.put name kind value).readAll rest
  | .option (.switch ⟨_, some _⟩) _ :: _ => .error .misuse

end Reading

/-- The values in the arguments of a command, and whether something was left over. -/
def Grammar.read (g : Grammar) (args : List String) :
    Except Refusal (Association (Option String) × Bool) := do
  let r ← Reading.readAll ⟨g.slots, [], false, false, false⟩ (← g.tokens args)
  if r.slots.isEmpty then return (r.values, r.hasExtras) else .error .misuse

end Bookfinder.CommandLine
