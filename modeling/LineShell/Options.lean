import LineShell.Text.Basic

/-!
The argument grammar of the built-in commands and of the shell itself. Words are read from the
left. A word that starts with `-` is an option, `--` ends the options, and `help` and `--help` ask
for the usage text; all of this holds until the options have ended. The other words are positional,
and taking one may end the options too.
-/

namespace LineShell.Options

inductive ValueFault where
  | duplicate
  | numeral (fault : Numeral.Fault)
  deriving DecidableEq, Repr

inductive Refusal where
  /-- The usage text was asked for. -/
  | help
  /-- An option stands after a request for the usage text. -/
  | afterHelp
  | unrecognized (word : Text)
  | noValue (option : Text)
  | badValue (option value : Text) (fault : ValueFault)
  /-- A required positional word is missing. -/
  | missing (name : Text)
  deriving DecidableEq, Repr

inductive Effect (α : Type) where
  | switch (set : α → α)
  /-- Takes the next word, whatever it is. -/
  | value (set : α → Text → Except ValueFault α)

/-- A command's grammar, for a command that is parsed into an `α`. -/
structure Grammar (α : Type) where
  usage : Text
  start : α
  /-- The effect of an option, found by its whole word. -/
  option : Text → Option (Effect α)
  /-- Take a positional word, if there is a place for it; `true` if the options end with it. -/
  positional : α → Text → Option (α × Bool)
  /-- The name of a positional word that is still missing at the end. -/
  missing : α → Option Text

structure State (α : Type) where
  value : α
  /-- The usage text has been asked for. -/
  help : Bool := false
  /-- The options have ended. -/
  ended : Bool := false

/-- The words that ask for the usage text. -/
def isHelp (word : Text) : Bool := word == "help".toList || word == "--help".toList

variable {α : Type}

def Grammar.finish (g : Grammar α) (s : State α) : Except Refusal α :=
  if s.help then .error .help
  else match g.missing s.value with
    | some name => .error (.missing name)
    | none => .ok s.value

def Grammar.parseFrom (g : Grammar α) : State α → List Text → Except Refusal α
  | s, [] => g.finish s
  | s, word :: rest =>
    if !s.ended && isHelp word then g.parseFrom { s with help := true } rest
    else if !s.ended && word.head? == some '-' then
      if word = "--".toList then g.parseFrom { s with ended := true } rest
      else if s.help then .error .afterHelp
      else match g.option word with
        | none => .error (.unrecognized word)
        | some (.switch set) => g.parseFrom { s with value := set s.value } rest
        | some (.value set) =>
          match rest with
          | [] => .error (.noValue word)
          | v :: rest =>
            match set s.value v with
            | .ok value => g.parseFrom { s with value } rest
            | .error fault => .error (.badValue word v fault)
    else match g.positional s.value word with
      | none => .error (.unrecognized word)
      | some (value, ends) => g.parseFrom { s with value, ended := s.ended || ends } rest

def Grammar.parse (g : Grammar α) (words : List Text) : Except Refusal α :=
  g.parseFrom { value := g.start } words

def ValueFault.message : ValueFault → Text
  | .duplicate => "duplicate values provided".toList
  | .numeral fault => fault.message

def Grammar.explain (g : Grammar α) : Refusal → Text
  | .help => g.usage
  | .afterHelp => "Trailing arguments are not allowed after `help`.".toList
  | .unrecognized word => "Unrecognized argument: ".toList ++ word ++ ['\n']
  | .noValue option => "No value provided for option '".toList ++ option ++ "'.\n".toList
  | .badValue option value fault =>
    "Error parsing option '".toList ++ option ++ "' with value '".toList ++ value ++
      "': ".toList ++ fault.message ++ ['\n']
  | .missing name =>
    "Required positional arguments not provided:\n    ".toList ++ name ++ ['\n']

/-- Asking for the usage text is a success. -/
def Refusal.code : Refusal → Int
  | .help => 0
  | _ => 1

/-! ## Usage texts -/

structure Usage where
  /-- The command with its arguments. -/
  call : String
  purpose : String
  /-- Lines about the positional words, if they need any. -/
  positional : List String := []
  /-- Lines about the options. -/
  options : List String := []

def Usage.helpLine : String := "  --help, help      display usage information"

/-- The parts of a usage text, with a blank line after each but the last. -/
def Usage.lines (u : Usage) : List String :=
  ["Usage: " ++ u.call, "", u.purpose, ""] ++
    (if u.positional.isEmpty then [] else "Positional Arguments:" :: u.positional ++ [""]) ++
    "Options:" :: u.options ++ [Usage.helpLine]

def Usage.text (u : Usage) : Text := u.lines.flatMap fun line => line.toList ++ ['\n']

end LineShell.Options
