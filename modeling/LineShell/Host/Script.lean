import LineShell.Text.Basic

/-!
Scripts: the part of the language of `sh` that is needed to try out a shell. Commands stand one to
a line or between semicolons; there are quotes, variables, arguments, patterns of one `*`, prefix
assignments, redirections that throw output away, and the loops `for` and `while`.
-/

namespace LineShell.Host

inductive Piece where
  | text (text : Text)
  /-- The value of a variable, an argument, or the number of the script's process. -/
  | value (name : Text)
  deriving DecidableEq, Repr

inductive ScriptWord where
  | pieces (pieces : List Piece)
  /-- All arguments, each a word of its own. -/
  | arguments
  /-- The names in the directory. -/
  | names
  deriving DecidableEq, Repr

inductive ScriptCommand where
  | simple (words : List ScriptWord) (isSilent : Bool)
  | forEach (name : Text) (words : List ScriptWord) (body : List ScriptCommand)
  | whileSucceeds (condition body : List ScriptCommand)

namespace Script

/-! ## Words -/

inductive ScriptToken where
  | word (word : ScriptWord)
  | stop
  /-- The sign of a redirection. -/
  | redirect
  deriving DecidableEq, Repr

def isNameChar (c : Char) : Bool := c.isAlphanum || c == '_'

/-- The name after a dollar sign: a special one of one character, or as many characters as go. -/
def variableName (text : Text) : Text :=
  match text with
  | c :: _ => if c = '$' ∨ c = '?' ∨ c = '#' ∨ c.isDigit then [c] else text.takeWhile isNameChar
  | [] => []

def endsWord (c : Char) : Bool := c == ' ' || c == '\t' || c == '\n' || c == ';' || c == '>'

/-- Read the pieces of a word of at most `n` more characters, and return the text after it. -/
def pieces : Nat → Bool → Text → List Piece × Text
  | 0, _, text => ([], text)
  | _, _, [] => ([], [])
  | n + 1, quoted, c :: r =>
    if c = '"' then pieces n (!quoted) r
    else if !quoted && endsWord c then ([], c :: r)
    else if !quoted && c == '\'' then
      let (more, rest) := pieces n quoted (r.dropWhile (· ≠ '\'')).tail
      (.text (r.takeWhile (· ≠ '\'')) :: more, rest)
    else if c = '$' ∧ variableName r ≠ [] then
      let name := variableName r
      let (more, rest) := pieces n quoted (r.drop name.length)
      (.value name :: more, rest)
    else if c = '\\' ∧ (!quoted ∨ r.head? = some '"' ∨ r.head? = some '\\' ∨ r.head? = some '$') then
      let (more, rest) := pieces n quoted r.tail
      (.text r.head?.toList :: more, rest)
    else
      let (more, rest) := pieces n quoted r
      (.text [c] :: more, rest)

def joinTexts : List Piece → List Piece
  | .text t :: rest =>
    match joinTexts rest with
    | .text u :: more => .text (t ++ u) :: more
    | more => .text t :: more
  | p :: rest => p :: joinTexts rest
  | [] => []

def tokens : Nat → Text → List ScriptToken
  | 0, _ => []
  | _, [] => []
  | n + 1, c :: r =>
    if c = ' ' ∨ c = '\t' then tokens n r
    else if c = '\n' ∨ c = ';' then .stop :: tokens n r
    else if c = '>' then .redirect :: tokens n r
    else if c = '#' then tokens n (r.dropWhile (· ≠ '\n'))
    else if "\"$@\"".toList.isPrefixOf (c :: r) then .word .arguments :: tokens n (r.drop 3)
    else if c = '*' ∧ r.head?.all endsWord then .word .names :: tokens n r
    else
      let (word, rest) := pieces (r.length + 2) false (c :: r)
      .word (.pieces (joinTexts word)) :: tokens n rest

/-! ## Commands -/

def ScriptToken.isWord (t : String) : ScriptToken → Bool
  | .word (.pieces [.text u]) => t.toList == u
  | _ => false

def words : List ScriptToken → List ScriptWord × List ScriptToken
  | .word w :: rest => let (ws, rest) := words rest; (w :: ws, rest)
  | rest => ([], rest)

/-- Read commands up to a closing word, which goes, or to the end; at most `n` tokens are left. -/
def commands : Nat → List ScriptToken → List ScriptCommand × List ScriptToken
  | 0, rest => ([], rest)
  | _, [] => ([], [])
  | n + 1, t :: rest =>
    if t == .stop then commands n rest
    else if t.isWord "do" || t.isWord "done" then ([], rest)
    else if t.isWord "while" then
      let (condition, rest) := commands n rest
      let (body, rest) := commands n rest
      let (more, rest) := commands n rest
      (.whileSucceeds condition body :: more, rest)
    else if t.isWord "for" then
      match rest with
      | .word (.pieces [.text name]) :: _ :: rest =>
        let (ws, rest) := words rest
        let (body, rest) := commands n (rest.dropWhile (· == .stop)).tail
        let (more, rest) := commands n rest
        (.forEach name ws body :: more, rest)
      | rest => ([], rest)
    else
      let (ws, rest) := words (t :: rest)
      let isSilent := rest.head? == some .redirect
      let (more, rest) := commands n (if isSilent then rest.drop 2 else rest)
      (.simple ws isSilent :: more, rest)

def parse (text : Text) : List ScriptCommand :=
  let tokens := tokens (text.length + 1) text
  (commands (tokens.length + 1) tokens).1

end Script

end LineShell.Host
