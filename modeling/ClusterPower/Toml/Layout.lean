import ClusterPower.Text.Reader

/-!
Blanks, line ends and comments of a TOML document.
-/

namespace ClusterPower.Toml

open ClusterPower.Text (Reader)

def isBlank (character : Char) : Bool :=
  character == ' ' || character == '\t'

/-- Characters that may stand in a comment: no control characters but the tab. -/
def isPrintable (character : Char) : Bool :=
  character == '\t' || (0x20 ≤ character.toNat && character.toNat != 0x7F)

def blanks : Reader Unit := do
  let _ ← Reader.takeWhile isBlank

def newline : Reader Unit :=
  Reader.character '\n' <|> Reader.literal "\r\n"

def comment : Reader Unit := do
  Reader.character '#'
  let _ ← Reader.takeWhile isPrintable

def lineEnd : Reader Unit := do
  blanks
  let _ ← Reader.optional comment
  newline <|> Reader.finished

def gap : Reader Unit := do
  let piece : Reader Unit :=
    (do let _ ← Reader.takeSome isBlank) <|> newline <|> (do comment; newline)
  let _ ← Reader.many piece (← Reader.remaining)

end ClusterPower.Toml
