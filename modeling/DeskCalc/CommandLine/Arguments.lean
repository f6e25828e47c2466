import DeskCalc.Code.Step
import DeskCalc.Number.Integer
import DeskCalc.Text.Split

/-!
The arguments of the command line. A command is a name with switches, settings and files after it; a
switch stands alone and a setting has a value, joined to it or in the next argument. Short names may
share one argument. Arguments are taken from left to right, so a question for help or for the version
is answered when nothing before it was wrong, whatever comes after it.
-/

namespace DeskCalc.CommandLine

/-! ### Commands -/

inductive Command where
  | compile (file : String) (output : Option String) (options : Options)
  | tree (file : String) (json checked : Bool)
  | run (file : String)
  deriving Repr, DecidableEq

inductive Request where
  | perform (command : Command) (verbosity : Nat)
  | version
  | help
  deriving Repr, DecidableEq

inductive UsageError where
  | missingCommand
  | unknownCommand (name : String)
  | unknownArgument (argument : String)
  | unneededValue (name : String)
  | missingValue (name : String)
  | invalidValue (name value : String)
  | repeated (name : String)
  | missingFile
  deriving Repr, DecidableEq

/-! ### Switches and settings -/

/-- Arguments that stand alone. -/
inductive Switch where
  | verbose
  | help
  | version
  | json
  | checked
  deriving Repr, DecidableEq

/-- Arguments that have a value. -/
inductive Setting where
  | output
  | target
  | precision
  deriving Repr, DecidableEq

def Switch.name : Switch → String
  | verbose => "verbose"
  | help => "help"
  | version => "version"
  | json => "json"
  | checked => "checked"

def Switch.letter? : Switch → Option Char
  | verbose => some 'v'
  | help => some 'h'
  | version => some 'V'
  | json => none
  | checked => none

def Setting.name : Setting → String
  | output => "output"
  | target => "target"
  | precision => "precision"

def Setting.letter? : Setting → Option Char
  | output => some 'o'
  | target => none
  | precision => none

/-- The switches and settings that are understood at a place of the command line. -/
structure Vocabulary where
  switches : List Switch
  settings : List Setting

/-- A switch or a setting. -/
abbrev Name := Switch ⊕ Setting

namespace Vocabulary

def long? (v : Vocabulary) (name : String) : Option Name :=
  match v.switches.find? (·.name = name) with
  | some s => some (.inl s)
  | none => (v.settings.find? (·.name = name)).map .inr

def short? (v : Vocabulary) (letter : Char) : Option Name :=
  match v.switches.find? (·.letter? = some letter) with
  | some s => some (.inl s)
  | none => (v.settings.find? (·.letter? = some letter)).map .inr

end Vocabulary

/-! ### Single arguments -/

/-- The parts that arguments come down to. -/
inductive Item where
  | switch (s : Switch)
  | setting (s : Setting) (value : String)
  | file (path : String)
  deriving Repr, DecidableEq

/-- What an argument is by its shape. -/
inductive Shape where
  | long (name : String) (value : Option String)
  | short (letters : List Char)
  | escape
  | plain
  deriving Repr, DecidableEq

/-- The shape of an argument: two dashes alone end the switches, two dashes begin a long name with
an optional value behind an equals sign, one dash begins short names, and one dash alone is plain. -/
def Shape.of (argument : String) : Shape :=
  match argument.toList with
  | ['-', '-'] => .escape
  | '-' :: '-' :: cs =>
    match cs.dropWhile (· ≠ '=') with
    | [] => .long (String.ofList cs) none
    | _ :: value => .long (String.ofList (cs.takeWhile (· ≠ '='))) (some (String.ofList value))
  | '-' :: c :: cs => .short (c :: cs)
  | _ => .plain

/-- The value of a setting that is joined to its short name, after an optional equals sign. -/
def joinedValue : List Char → String
  | '=' :: cs => String.ofList cs
  | cs => String.ofList cs

/-- The items of an argument with short names, and the setting that still waits for its value. -/
def shortItems (v : Vocabulary) : List Char → List (Except UsageError Item) × Option Setting
  | [] => ([], none)
  | c :: cs =>
    match v.short? c with
    | none => ([.error (.unknownArgument (String.ofList ['-', c]))], none)
    | some (.inr s) =>
      if cs.isEmpty then ([], some s) else ([.ok (.setting s (joinedValue cs))], none)
    | some (.inl s) =>
      let (items, waiting) := shortItems v cs
      (.ok (.switch s) :: items, waiting)

/-- The items of arguments in order, up to the first one that is wrong. A setting that waits for its
value takes the next argument, if that is plain. -/
def items (v : Vocabulary) : Option Setting → List String → List (Except UsageError Item)
  | some s, [] => [.error (.missingValue s.name)]
  | none, [] => []
  | some s, argument :: arguments =>
    if Shape.of argument = .plain then .ok (.setting s argument) :: items v none arguments
    else [.error (.missingValue s.name)]
  | none, argument :: arguments =>
    match Shape.of argument with
    | .escape => arguments.map fun path => .ok (.file path)
    | .plain => .ok (.file argument) :: items v none arguments
    | .short letters =>
      let (first, waiting) := shortItems v letters
      first ++ items v waiting arguments
    | .long name value =>
      match v.long? name, value with
      | none, _ => [.error (.unknownArgument argument)]
      | some (.inl _), some _ => [.error (.unneededValue name)]
      | some (.inl s), none => .ok (.switch s) :: items v none arguments
      | some (.inr s), none => items v (some s) arguments
      | some (.inr s), some value => .ok (.setting s value) :: items v none arguments

/-! ### Values -/

def readTarget? : String → Option Target
  | "dc" => some .dc
  | "bytecode" => some .bytecode
  | _ => none

def maxPrecision : Nat := UInt32.size - 1

/-- The precision that a text stands for: an integer from zero to the largest precision. -/
def readPrecision? (text : String) : Option Nat :=
  (Number.readInteger? text.toList).bind fun n =>
    if 0 ≤ n ∧ n ≤ maxPrecision then some n.toNat else none

/-- The path that a text stands for; it must not be empty. -/
def readPath? (text : String) : Option String :=
  if text = "" then none else some text

/-! ### Commands from items -/

/-- What was said so far. -/
structure Heard where
  verbosity : Nat
  json : Bool
  checked : Bool
  output : Option String
  target : Option Target
  precision : Option Nat
  file : Option String
  deriving Repr, DecidableEq

/-- How items end: with what was said in them, or early with an answer. -/
inductive Ended where
  | heard (h : Heard)
  | answer (r : Request)
  deriving Repr, DecidableEq

namespace Heard

def nothing : Heard :=
  ⟨0, false, false, none, none, none, none⟩

/-- A value that can be read and was not given before. -/
def once {α : Type} (name text : String) (held read : Option α) : Except UsageError (Option α) :=
  match read, held with
  | none, _ => .error (.invalidValue name text)
  | some _, some _ => .error (.repeated name)
  | some a, none => .ok (some a)

/-- A switch that was not given before. -/
def onceSwitch (name : String) (held : Bool) : Except UsageError Bool :=
  if held then .error (.repeated name) else .ok true

/-- Hears items in order, up to an answer or the first one that is wrong. Only `verbose` may be
said more than once. -/
def hear (h : Heard) : List (Except UsageError Item) → Except UsageError Ended
  | [] => .ok (.heard h)
  | .error e :: _ => .error e
  | .ok item :: rest => do
    match item with
    | .switch .help => return .answer .help
    | .switch .version => return .answer .version
    | .switch .verbose => hear { h with verbosity := h.verbosity + 1 } rest
    | .switch .json => hear { h with json := ← onceSwitch "json" h.json } rest
    | .switch .checked => hear { h with checked := ← onceSwitch "checked" h.checked } rest
    | .setting .output text =>
      hear { h with output := ← once "output" text h.output (readPath? text) } rest
    | .setting .target text =>
      hear { h with target := ← once "target" text h.target (readTarget? text) } rest
    | .setting .precision text =>
      hear { h with precision := ← once "precision" text h.precision (readPrecision? text) } rest
    | .file text => hear { h with file := ← once "file" text h.file (readPath? text) } rest

/-- The file, which has to be given. -/
def theFile (h : Heard) : Except UsageError String :=
  match h.file with
  | some path => .ok path
  | none => .error .missingFile

def options (h : Heard) : Options :=
  ⟨h.target.getD .dc, h.precision.getD defaultPrecision⟩

end Heard

/-! ### The command line -/

/-- The commands by their names, each with what it understands and what it makes of what it
heard. -/
def commands : List (String × Vocabulary × (Heard → String → Command)) :=
  [("compile", ⟨[.verbose, .help], [.output, .target, .precision]⟩,
      fun h file => .compile file h.output h.options),
    ("ast", ⟨[.verbose, .help, .json, .checked], []⟩, fun h file => .tree file h.json h.checked),
    ("run", ⟨[.verbose, .help], []⟩, fun _ file => .run file)]

def helpTopics : List String :=
  commands.map (·.1) ++ ["help"]

def readCommand (name : String) (verbosity : Nat) (arguments : List String) :
    Except UsageError Request :=
  match commands.lookup name with
  | some (vocabulary, command) => do
    match ← Heard.nothing.hear (items vocabulary none arguments) with
    | .answer r => return r
    | .heard h => return .perform (command h (← h.theFile)) (verbosity + h.verbosity)
  | none =>
    if name = "help" then
      match arguments with
      | [] => .ok .help
      | [topic] => if helpTopics.contains topic then .ok .help else .error (.unknownCommand topic)
      | _ :: argument :: _ => .error (.unknownArgument argument)
    else .error (.unknownCommand name)

/-- What a command line asks for: switches, then the name of a command and its arguments. -/
def readArguments (arguments : List String) : Except UsageError Request := do
  let isSwitch (argument : String) : Bool :=
    match Shape.of argument with
    | .long .. | .short _ => true
    | .plain | .escape => false
  match ← Heard.nothing.hear (items ⟨[.verbose, .help, .version], []⟩ none
      (arguments.takeWhile isSwitch)) with
  | .answer r => return r
  | .heard h =>
    match arguments.dropWhile isSwitch with
    | [] => throw .missingCommand
    | name :: rest =>
      if Shape.of name = .escape then throw .missingCommand
      else readCommand name h.verbosity rest

end DeskCalc.CommandLine
