import ContentionCharts.Text.GraphemeExtend
import ContentionCharts.Text.Unprintable

/-!
Text in double quotes for messages, on one line and without invisible characters. A single quote
stands as it is; characters that cannot be shown are written by their code point.
-/
namespace ContentionCharts.Text

def codePoint (c : Char) : List Char :=
  ['\\', 'u', '\x7b'] ++ Nat.toDigits 16 c.toNat ++ ['\x7d']

def quotedChar (c : Char) : List Char :=
  match c with
  | '"' => ['\\', '"']
  | '\\' => ['\\', '\\']
  | '\n' => ['\\', 'n']
  | '\r' => ['\\', 'r']
  | '\t' => ['\\', 't']
  | '\x00' => ['\\', '0']
  | c => if extendsGrapheme c || !isPrintable c then codePoint c else [c]

def quoted (text : List Char) : String :=
  String.ofList ('"' :: text.flatMap quotedChar ++ ['"'])

end ContentionCharts.Text
