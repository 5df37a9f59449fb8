/-!
How alike two words are, to guess which option was meant. This is the Jaro similarity: the share of
characters that match within a window, less half of the matches that are out of order.
-/
namespace ContentionCharts.CommandLine

def firstFree? (word : List Char) (used : List Nat) (low high : Nat) (c : Char) : Option Nat :=
  (List.range word.length).find? fun i =>
    low ≤ i && i < high && word[i]? == some c && !used.contains i

def matching (window : Nat) (second : List Char) :
    List Char → Nat → List Nat → List (Char × Nat)
  | [], _, _ => []
  | c :: rest, i, used =>
    match firstFree? second used (i - window) (i + window + 1) c with
    | none => matching window second rest (i + 1) used
    | some j => (c, j) :: matching window second rest (i + 1) (j :: used)

def similarity (first second : List Char) : Float :=
  if first.isEmpty && second.isEmpty then 1
  else
    let window := max first.length second.length / 2 - 1
    let found := matching window second first 0 []
    if found.isEmpty then 0
    else
      let positions := (found.map (·.2)).mergeSort
      let inOrder := positions.filterMap fun j => second[j]?
      let moved := ((found.map (·.1)).zip inOrder).countP fun (a, b) => a != b
      let share (n of : Nat) : Float := Float.ofNat n / Float.ofNat of
      (share found.length first.length + share found.length second.length +
        share (found.length - moved / 2) found.length) / 3

end ContentionCharts.CommandLine
