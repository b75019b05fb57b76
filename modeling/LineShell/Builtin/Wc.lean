import LineShell.Builtin.Simple
import LineShell.Text.Basic

/-!
`wc`: how many lines, words and bytes a text has. Files are decoded before they are counted, and
the bytes are those of the decoded text. With several files, a last line adds up the counts of
those that could be read.
-/

namespace LineShell.Builtin

structure Counts where
  lines : Nat := 0
  words : Nat := 0
  bytes : Nat := 0
  deriving DecidableEq, Repr

namespace Counts

def ofText (text : Text) : Counts :=
  ⟨(Text.lines text).length, (Text.fields text).length, (Utf8.encode text).length⟩

def ofBytes (data : Bytes) : Counts := ofText (Utf8.decode data)

def add (a b : Counts) : Counts := ⟨a.lines + b.lines, a.words + b.words, a.bytes + b.bytes⟩

def sum (counts : List Counts) : Counts := counts.foldr add {}

/-- Each count after a tab. -/
def text (c : Counts) : Text :=
  '\t' :: Text.ofNat c.lines ++ '\t' :: Text.ofNat c.words ++ '\t' :: Text.ofNat c.bytes

end Counts

namespace Wc

def name : Text := "wc".toList

def grammar : Options.Grammar (List Text) :=
  wordsGrammar { call := "wc [files...]", purpose := "count lines, words and bytes" }

def labelled (counts : Counts) (label : Text) : Text := counts.text ++ ' ' :: label ++ ['\n']

/-- The counts of the files that can be read. -/
def total (site : Site) (files : List Text) : Counts :=
  Counts.sum (files.filterMap fun file => (site.read file).toOption.map Counts.ofBytes)

/-- The last line, which stands only below two files or more. -/
def totalLine (site : Site) (files : List Text) : Text :=
  if files.length > 1 then labelled (total site files) "total".toList else []

def behaviour (site : Site) : List Text → Behaviour
  | [] => .reads fun data => ⟨Utf8.encode ((Counts.ofBytes data).text ++ ['\n']), 0⟩
  | files =>
    let each := site.visitAll name
      (fun file data => Utf8.encode (labelled (Counts.ofBytes data) file)) files
    .prints { each with output := each.output ++ Utf8.encode (totalLine site files) }

end Wc

end LineShell.Builtin
