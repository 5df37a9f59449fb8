/-!
Blank characters, and what a text is without them at its ends. Blank is the Unicode property
White_Space; U+200B and U+FEFF have no width and are not blank.
-/
namespace ContentionCharts.Text

def isBlank (c : Char) : Bool :=
  let n := c.toNat
  (9 ≤ n && n ≤ 13) || n == 0x20 || n == 0x85 || n == 0xA0 || n == 0x1680 ||
    (0x2000 ≤ n && n ≤ 0x200A) || n == 0x2028 || n == 0x2029 || n == 0x202F || n == 0x205F ||
    n == 0x3000

def trimStart (text : List Char) : List Char :=
  text.dropWhile isBlank

def trimEnd (text : List Char) : List Char :=
  (text.reverse.dropWhile isBlank).reverse

def trim (text : List Char) : List Char :=
  trimEnd (trimStart text)

def firstWord? (text : List Char) : Option (List Char) :=
  match (trimStart text).takeWhile (fun c => !isBlank c) with
  | [] => none
  | word => some word

end ContentionCharts.Text
