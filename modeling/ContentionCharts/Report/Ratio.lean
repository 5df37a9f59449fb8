import ContentionCharts.Number.Real
import ContentionCharts.Text.DecimalDigit
import ContentionCharts.Text.Search

/-!
Fairness ratios in running text: a number written as digits, a point and digits, found after the
phrases that announce it. Digits of every script delimit such a number, but it has a value only in
ASCII digits, and a number without a value is not passed over for a later one.
-/
namespace ContentionCharts.Report

open ContentionCharts.Text ContentionCharts.Number

def ratioAtStart? (text : List Char) : Option (List Char) :=
  let whole := text.takeWhile isDecimalDigit
  match text.dropWhile isDecimalDigit with
  | '.' :: rest =>
    let fraction := rest.takeWhile isDecimalDigit
    if whole = [] ∨ fraction = [] then none else some (whole ++ '.' :: fraction)
  | _ => none

def firstRatio? : List Char → Option (List Char)
  | [] => none
  | c :: rest =>
    match ratioAtStart? (c :: rest) with
    | some ratio => some ratio
    | none => firstRatio? rest

def candidatePhrase : List Char := "Fairness ratio".toList

/-- The candidate's ratio comes after its label and the phrase, any number of lines below. -/
def candidateRatio? (label text : List Char) : Option (List Char) :=
  ((after? label text).bind (after? candidatePhrase)).bind firstRatio?

def restOfLine (text : List Char) : List Char :=
  text.takeWhile fun c => c != '\n'

def ratioBeside? (phrase text : List Char) : Option (List Char) :=
  (phrase.isPrefixOf? text).bind fun following => firstRatio? (restOfLine following)

/-- The reference's ratio shares a line with the end of its phrase; an occurrence of the phrase
without a ratio to its right is passed over. -/
def referenceRatio? (phrase : List Char) : List Char → Option (List Char)
  | [] => none
  | c :: rest =>
    match ratioBeside? phrase (c :: rest) with
    | some ratio => some ratio
    | none => referenceRatio? phrase rest

end ContentionCharts.Report
