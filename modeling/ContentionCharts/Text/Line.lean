/-!
The lines of a text. Only a line feed ends a line, and one carriage return right before it belongs
to the ending; a carriage return anywhere else is part of its line.
-/
namespace ContentionCharts.Text

def dropReturn (line : List Char) : List Char :=
  if line.getLast? = some '\r' then line.dropLast else line

/-- The last piece has no line feed after it: it is a line as it stands, unless it is empty. -/
def lines (text : List Char) : List (List Char) :=
  let pieces := text.splitOn '\n'
  pieces.dropLast.map dropReturn ++ (pieces.getLast?.toList.filter fun last => !last.isEmpty)

@[simp] theorem lines_nil : lines [] = [] := rfl

theorem lines_of_notMem {text : List Char} (nonempty : text ≠ []) (h : '\n' ∉ text) :
    lines text = [text] := by
  have single : text.splitOn '\n' = [text] := List.splitOn_eq_singleton h
  simp [lines, single, nonempty]

theorem lines_append_cons {line : List Char} (h : '\n' ∉ line) (rest : List Char) :
    lines (line ++ '\n' :: rest) = dropReturn line :: lines rest := by
  have split : (line ++ '\n' :: rest).splitOn '\n' = line :: rest.splitOn '\n' :=
    List.splitOn_append_cons_self_of_not_mem h rest
  have some : rest.splitOn '\n' ≠ [] := List.splitOn_ne_nil '\n' rest
  simp [lines, split, List.dropLast_cons_of_ne_nil some, List.getLast?_cons_of_ne_nil some]

end ContentionCharts.Text
