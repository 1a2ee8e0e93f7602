/-!
White space as Unicode has it, and text without the white space around it.
-/

namespace ClusterPower.Text

def isBlank (character : Char) : Bool :=
  let code := character.toNat
  (0x09 ≤ code && code ≤ 0x0D) || code == 0x20 || code == 0x85 || code == 0xA0 ||
    code == 0x1680 || (0x2000 ≤ code && code ≤ 0x200A) || code == 0x2028 ||
    code == 0x2029 || code == 0x202F || code == 0x205F || code == 0x3000

def strip (drops : Char → Bool) (characters : List Char) : List Char :=
  ((characters.dropWhile drops).reverse.dropWhile drops).reverse

def trim (text : String) : String :=
  String.ofList (strip isBlank text.toList)

example : trim "\t a b\u00a0" = "a b" := by decide +kernel

end ClusterPower.Text
