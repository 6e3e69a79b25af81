/-
  QUOTED TEXT — a string as error messages show it.

  The text stands in double quotes.  Quotes and backslashes are escaped, so are the usual control
  characters by a letter and all other characters without a visible form by their code point.
-/
import FeatureFlags.Text.Category

namespace FeatureFlags.Text

/-- One character of a quoted text. -/
def quotedChar (c : Char) : List Char :=
  match c with
  | '"' => ['\\', '"']
  | '\\' => ['\\', '\\']
  | '\n' => ['\\', 'n']
  | '\r' => ['\\', 'r']
  | '\t' => ['\\', 't']
  | '\x00' => ['\\', '0']
  | c => if isPrintable c then [c]
    else ['\\', 'u', '\x7b'] ++ Nat.toDigits 16 c.toNat ++ ['\x7d']

/-- **The quoted form** of a text. -/
def quoted (s : String) : String :=
  "\"" ++ String.ofList (s.toList.flatMap quotedChar) ++ "\""

example : quoted "a\"b\\c\n\x7f" = "\"a\\\"b\\\\c\\n\\u\x7b7f\x7d\"" := by decide +kernel

end FeatureFlags.Text
