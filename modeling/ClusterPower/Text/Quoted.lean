import ClusterPower.Text.Concealed

/-!
Texts in quotes for people to read. Whatever does not show by itself is written
as the number of its code point.
-/

namespace ClusterPower.Text

def codeEscape (character : Char) : List Char :=
  "\\u\x7b".toList ++ Nat.toDigits 16 character.toNat ++ ['\x7d']

def shortEscapes : List (Char × Char) :=
  [('\x00', '0'), ('\t', 't'), ('\n', 'n'), ('\r', 'r'), ('"', '"'), ('\\', '\\')]

def escaped (character : Char) : List Char :=
  match shortEscapes.lookup character with
  | some letter => ['\\', letter]
  | none => if isConcealed character then codeEscape character else [character]

def quoted (text : String) : String :=
  String.ofList ('"' :: text.toList.flatMap escaped ++ ['"'])

example : quoted "it's \"é\"\u0301\n" = "\"it's \\\"é\\\"\\u\x7b301\x7d\\n\"" := by
  decide +kernel

end ClusterPower.Text
