import LineShell.Error
import LineShell.Variables

/-!
Tokens and words of a line. A token is a single delimiter or a maximal run of other characters;
nothing is dropped, so the tokens of a line put together are the line. Words are tokens after quotes
are resolved and variables expanded. A three-state machine walks the tokens. Quotes that open or
close a quotation are dropped, `$` and the word right after it are replaced by the variable's value,
all else is kept. Each word remembers where its text comes from, because only unquoted text can
separate, pipe or assign. Neighbouring words are not joined here.
-/

namespace LineShell

/-! ## Tokens -/

abbrev Token := Text

namespace Token

/-- The characters that are always a token of their own: quotes, `$`, `|`, `=` and blanks. -/
def isDelimiter (c : Char) : Bool :=
  c == '\'' || c == '"' || c == '$' || c == '|' || c == '=' || Text.isBlank c

def isBlank : Token → Bool
  | [c] => Text.isBlank c
  | _ => false

def isWord : Token → Bool
  | c :: _ => !isDelimiter c
  | [] => false

def scan : Text → List Token
  | [] => []
  | c :: r =>
    if isDelimiter c then [c] :: scan r
    else match r with
      | [] => [[c]]
      | d :: _ => if isDelimiter d then [c] :: scan r else Text.consHead c (scan r)

end Token

/-! ## Words -/

inductive Word where
  /-- Unquoted text. -/
  | bare (text : Text)
  /-- Text from inside quotes: always literal. -/
  | quoted (text : Text)
  /-- The value of an unquoted reference. -/
  | expansion (text : Text)
  deriving DecidableEq, Repr

namespace Word

def text : Word → Text
  | bare t | quoted t | expansion t => t

def isBlank : Word → Bool
  | bare t => Token.isBlank t
  | _ => false

def isPipe : Word → Bool
  | bare t => t == ['|']
  | _ => false

def isEqual : Word → Bool
  | bare t => t == ['=']
  | _ => false

end Word

inductive Quoting where
  | bare | single | double
  deriving DecidableEq, Repr

namespace Quoting

inductive Action where
  /-- Drop the token and go on in another state. -/
  | switch (next : Quoting)
  /-- Replace the token and the name after it by the variable's value. -/
  | expand
  /-- Keep the token. -/
  | emit
  deriving DecidableEq, Repr

def closing? : Quoting → Option Char
  | bare => none
  | single => some '\''
  | double => some '"'

/-- A `$` names a variable if a word follows it directly. -/
def isReference (token : Token) (next : Option Token) : Bool :=
  token == ['$'] && next.any Token.isWord

def action : Quoting → Token → Option Token → Action
  | bare, token, next =>
    if token = ['\''] then .switch single
    else if token = ['"'] then .switch double
    else if isReference token next then .expand
    else .emit
  | single, token, _ => if token = ['\''] then .switch bare else .emit
  | double, token, next =>
    if token = ['"'] then .switch bare
    else if isReference token next then .expand
    else .emit

def literal : Quoting → Text → Word
  | bare, t => .bare t
  | _, t => .quoted t

def value : Quoting → Text → Word
  | bare, t => .expansion t
  | _, t => .quoted t

/-- The end of the tokens: an open quotation is an error. -/
def finish (q : Quoting) : Except LineError (List Word) :=
  match q.closing? with
  | some quote => .error (.unterminatedQuote quote)
  | none => .ok []

def words (vars : Variables) : Quoting → List Token → Except LineError (List Word)
  | q, [] => q.finish
  | q, token :: rest =>
    match q.action token rest.head? with
    | .switch next => words vars next rest
    | .emit => (q.literal token :: ·) <$> words vars q rest
    | .expand =>
      match rest with
      | name :: rest => (q.value (vars.expand name) :: ·) <$> words vars q rest
      | [] => q.finish

end Quoting

def Word.ofTokens (vars : Variables) (tokens : List Token) : Except LineError (List Word) :=
  Quoting.bare.words vars tokens

end LineShell
