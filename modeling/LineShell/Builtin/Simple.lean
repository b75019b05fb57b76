import LineShell.Builtin.Files
import LineShell.Options
import LineShell.Position

/-!
`echo`, which prints its arguments with a space between neighbours, and a newline unless `-n` is
given; `pwd` and `exit`, which ignore their arguments; and `cat`, which prints files, or its input
if there are none.
-/

namespace LineShell.Builtin

structure Echo where
  noNewline : Bool := false
  words : List Text := []
  deriving DecidableEq, Repr

namespace Echo

def name : Text := "echo".toList

def usage : Options.Usage where
  call := "echo [-n] [args...]"
  purpose := "write the arguments to standard output, separated by spaces. by default, a " ++
    "trailing newline is printed."
  options := ["  -n, --no-newline  do not output the trailing newline."]

/-- The first word that is no option ends the options. -/
def grammar : Options.Grammar Echo where
  usage := usage.text
  start := {}
  option word :=
    if word = "-n".toList ∨ word = "--no-newline".toList then
      some (.switch fun echo => { echo with noNewline := true })
    else none
  positional echo word := some ({ echo with words := echo.words ++ [word] }, true)
  missing _ := none

def text (echo : Echo) : Text :=
  Text.join [' '] echo.words ++ if echo.noNewline then [] else ['\n']

def behaviour (echo : Echo) : Behaviour := .prints ⟨Utf8.encode echo.text, 0⟩

end Echo

/-- The grammar of a command without options: all words are kept, and the first one ends the
options. -/
def wordsGrammar (usage : Options.Usage) : Options.Grammar (List Text) where
  usage := usage.text
  start := []
  option _ := none
  positional words word := some (words ++ [word], true)
  missing _ := none

namespace Pwd

def name : Text := "pwd".toList

def grammar : Options.Grammar (List Text) :=
  wordsGrammar
    { call := "pwd [args...]"
      purpose := "Print the current working directory to standard output." }

def behaviour (site : Site) : Behaviour := .prints ⟨Utf8.encode (site.directory ++ ['\n']), 0⟩

end Pwd

namespace Exit

def name : Text := "exit".toList

def grammar : Options.Grammar (List Text) :=
  wordsGrammar { call := "exit [args...]", purpose := "End the shell session." }

def behaviour : Behaviour := .prints ⟨[], Signal.exitCode⟩

end Exit

namespace Cat

def name : Text := "cat".toList

def grammar : Options.Grammar (List Text) :=
  wordsGrammar { call := "cat [files...]", purpose := "print file(s) to stdout" }

def behaviour (site : Site) : List Text → Behaviour
  | [] => .reads fun data => ⟨data, 0⟩
  | files => .prints (site.visitAll name (fun _ data => data) files)

end Cat

end LineShell.Builtin
