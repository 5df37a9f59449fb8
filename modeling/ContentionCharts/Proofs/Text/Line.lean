import ContentionCharts.Text.Line

/-!
Texts line by line. A text that is written with a line feed after each line has these lines, a line
feed divides the lines of a text from those of the rest, and one at the end of a text closes its
last line.
-/
namespace ContentionCharts.Text

@[elab_as_elim]
theorem lineInduction {motive : List Char → Prop} (last : ∀ line, '\n' ∉ line → motive line)
    (feed : ∀ line rest, '\n' ∉ line → motive rest → motive (line ++ '\n' :: rest))
    (text : List Char) : motive text := by
  induction hlength : text.length using Nat.strongRecOn generalizing text with
  | ind n ih =>
    by_cases hfeed : '\n' ∈ text
    · obtain ⟨line, rest, rfl, hline⟩ := List.eq_append_cons_of_mem hfeed
      rw [List.length_append, List.length_cons] at hlength
      exact feed line rest hline (ih rest.length (by omega) rest rfl)
    · exact last text hfeed

def unlines (lines : List (List Char)) : List Char :=
  lines.flatMap fun line => line ++ ['\n']

theorem dropReturn_of_getLast? {line : List Char} (h : line.getLast? ≠ some '\r') :
    dropReturn line = line := by
  unfold dropReturn
  rw [if_neg h]

theorem lines_unlines {written : List (List Char)}
    (h : ∀ line ∈ written, '\n' ∉ line ∧ line.getLast? ≠ some '\r') :
    lines (unlines written) = written := by
  unfold unlines
  induction written with
  | nil => rfl
  | cons line rest ih =>
    rw [List.forall_mem_cons] at h
    rcases h with ⟨⟨hfeed, hreturn⟩, hrest⟩
    rw [List.flatMap_cons, List.append_assoc, List.singleton_append, lines_append_cons hfeed,
      ih hrest, dropReturn_of_getLast? hreturn]

theorem lines_append_feed (text rest : List Char) :
    lines (text ++ '\n' :: rest) = lines (text ++ ['\n']) ++ lines rest := by
  induction text using lineInduction with
  | last line hline =>
    rw [lines_append_cons hline, lines_append_cons hline, lines_nil]
    rfl
  | feed line later hline ih =>
    simp only [List.append_assoc, List.cons_append]
    rw [lines_append_cons hline, lines_append_cons hline, ih]
    rfl

theorem lines_append {text : List Char} (h : text = [] ∨ text.getLast? = some '\n')
    (rest : List Char) : lines (text ++ rest) = lines text ++ lines rest := by
  rcases h with rfl | hlast
  · rfl
  · obtain ⟨before, rfl⟩ := List.getLast?_eq_some_iff.mp hlast
    rw [List.append_assoc, List.singleton_append, lines_append_feed]

/-- A line feed at the end closes the last line, which may lose a carriage return; below a line feed
that is already there it makes one more line. -/
theorem exists_lines_closed (text : List Char) :
    ∃ before last, lines text = before ++ (if last = [] then [] else [last]) ∧
      lines (text ++ ['\n']) = before ++ [dropReturn last] := by
  induction text using lineInduction with
  | last line hline =>
    refine ⟨[], line, ?_, ?_⟩
    · by_cases hempty : line = []
      · rw [if_pos hempty, hempty]
        rfl
      · rw [if_neg hempty, lines_of_notMem hempty hline]
        rfl
    · rw [lines_append_cons hline, lines_nil]
      rfl
  | feed line rest hline ih =>
    obtain ⟨before, last, hlines, hclosed⟩ := ih
    refine ⟨dropReturn line :: before, last, ?_, ?_⟩
    · rw [lines_append_cons hline, hlines]
      rfl
    · rw [List.append_assoc, List.cons_append, lines_append_cons hline, hclosed]
      rfl

end ContentionCharts.Text
