/-!
Paths of files as they are written. A path is never rewritten; only when two paths are compared, or
when a file is looked up, do its parts between the slashes count.
-/
namespace ContentionCharts

structure Path where
  text : String
  deriving DecidableEq, Repr

namespace Path

def isAbsolute (path : Path) : Bool :=
  path.text.toList.head? == some '/'

/-- An absolute name replaces the directory; one slash goes between, unless one is there already or
there is no directory. -/
def join (directory : Path) (name : String) : Path :=
  if isAbsolute ⟨name⟩ then ⟨name⟩
  else
    match directory.text.toList.getLast? with
    | none | some '/' => ⟨directory.text ++ name⟩
    | some _ => ⟨directory.text ++ "/" ++ name⟩

def pieces (path : Path) : List String :=
  (path.text.toList.splitOn '/').map String.ofList

/-- The pieces that matter to equality. A dot means something only at the start of a relative
path. -/
def parts (path : Path) : List String :=
  match path.pieces with
  | [] => []
  | first :: rest =>
    let named := rest.filter fun piece => piece != "" && piece != "."
    if first = "" then named else first :: named

/-- Equality up to repeated and trailing slashes and dots that stand for nothing. -/
def same (a b : Path) : Bool :=
  a.isAbsolute == b.isAbsolute && a.parts == b.parts

end Path

end ContentionCharts
