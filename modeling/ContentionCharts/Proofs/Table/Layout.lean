import ContentionCharts.Proofs.Table.Outcome

/-!
The layout of a line. How its fields are padded, which units follow the numbers, and what stands in
the fields after the third make no difference to its outcome; a row stays the same row if fields are
added at the end.
-/
namespace ContentionCharts.Table

open ContentionCharts.Text ContentionCharts.Number

variable {line other : List Char} {column minFields : Nat}

/-! Whatever is said of a column by its word holds of every line with this word there. -/

theorem HasNumber.of_hasWord (hwords : ∀ word, HasWord line column word → HasWord other column word)
    (h : HasNumber line column) : HasNumber other column := by
  obtain ⟨token, hword, hnumber⟩ := h
  exact ⟨token, hwords _ hword, hnumber⟩

theorem FaultIn.of_hasWord (hwords : ∀ word, HasWord line column word → HasWord other column word)
    {fault : RowFault} (h : FaultIn line column fault) : FaultIn other column fault := by
  cases h with
  | emptyField blank => exact .emptyField (hwords _ blank)
  | notNumeric word unread => exact .notNumeric (hwords _ word) unread

theorem Row.Outcome.of_hasWord (hbars : line.count '|' = other.count '|')
    (hwords : ∀ column < 3, ∀ word, HasWord line column word → HasWord other column word)
    {result : Except RowFault Row} (h : Row.Outcome minFields line result) :
    Row.Outcome minFields other result := by
  cases h with
  | tooFewFields few =>
    rw [hbars] at few ⊢
    exact .tooFewFields few
  | fault enough inRow numbersBefore here =>
    unfold Enough at enough
    rw [hbars] at enough
    refine .fault enough inRow ?_ (here.of_hasWord (hwords _ inRow))
    intro earlier hearlier
    exact (numbersBefore earlier hearlier).of_hasWord (hwords _ (hearlier.trans inRow))
  | row enough hasKey key_eq hasCandidate candidate_eq hasReference reference_eq =>
    unfold Enough at enough
    rw [hbars] at enough
    exact .row enough (hwords 0 (by decide) _ hasKey) key_eq
      (hwords 1 (by decide) _ hasCandidate) candidate_eq
      (hwords 2 (by decide) _ hasReference) reference_eq

/-! More fields at the end. -/

theorem HasWord.append {word : Option (List Char)} (h : HasWord line column word)
    (more : List Char) : HasWord (line ++ '|' :: more) column word := by
  obtain ⟨field, hfield, hword⟩ := h
  refine ⟨field, ?_, hword⟩
  rw [fields_append_bar, List.getElem?_append_left (List.getElem?_eq_some_iff.mp hfield).1]
  exact hfield

theorem Enough.append (h : Enough minFields line) (more : List Char) :
    Enough minFields (line ++ '|' :: more) := by
  unfold Enough at h ⊢
  rw [List.count_append]
  omega

theorem Row.Outcome.append {row : Row} (h : Row.Outcome minFields line (.ok row))
    (more : List Char) : Row.Outcome minFields (line ++ '|' :: more) (.ok row) := by
  cases h with
  | row enough hasKey key_eq hasCandidate candidate_eq hasReference reference_eq =>
    exact .row (enough.append more) (hasKey.append more) key_eq (hasCandidate.append more)
      candidate_eq (hasReference.append more) reference_eq

namespace Row

/-- Two lines with as many fields and the same first words in the three that are read have the same
outcome, be it a row or a fault. Blanks at the ends of a line make no difference, and neither do
fields after those of a row. -/
theorem ofLine_of_layout (minFields : Nat) (line : List Char) :
    (∀ other, (fields line).length = (fields other).length →
      (∀ column < 3, ∀ word, HasWord line column word ↔ HasWord other column word) →
      Row.ofLine minFields line = Row.ofLine minFields other) ∧
    Row.ofLine minFields (trim line) = Row.ofLine minFields line ∧
    (∀ row, Row.ofLine minFields line = .ok row →
      ∀ more, Row.ofLine minFields (line ++ '|' :: more) = .ok row) := by
  refine ⟨?words, Row.ofLine_trim minFields line, ?more⟩
  case words =>
    intro other hlength hwords
    rw [length_fields, length_fields, Nat.add_right_cancel_iff] at hlength
    rw [ofLine_eq_iff_outcome]
    apply (outcome_ofLine minFields other).of_hasWord hlength.symm
    intro column hcolumn word
    exact (hwords column hcolumn word).mpr
  case more =>
    intro row hrow more
    rw [ofLine_eq_iff_outcome] at hrow ⊢
    exact hrow.append more

/-- Units, blanks of several kinds, another last field, and then any number of fields more. -/
theorem ofLine_of_layout_units :
    let line := "4|20.10|18.00|1.12x".toList
    let other := "\u00a04 threads\t|\u300020.10 ops/s |  18.00\r|".toList
    Row.ofLine 3 line = Row.ofLine 3 other ∧ Row.ofLine 3 (trim other) = Row.ofLine 3 line ∧
      ∀ more, Row.ofLine 3 (other ++ '|' :: more) =
        .ok ⟨4, ofDecimal 2010 (-2), ofDecimal 1800 (-2)⟩ := by
  intro line other
  have hwords : ∀ column < 3, ((fields line).map firstWord?)[column]? =
      ((fields other).map firstWord?)[column]? := by decide
  have hsame : Row.ofLine 3 line = Row.ofLine 3 other := by
    refine (ofLine_of_layout 3 line).1 other (by decide) ?_
    intro column hcolumn word
    rw [hasWord_iff, hasWord_iff, hwords column hcolumn]
  have hline : Row.ofLine 3 line = .ok ⟨4, ofDecimal 2010 (-2), ofDecimal 1800 (-2)⟩ := rfl
  have ⟨_, htrim, hmore⟩ := ofLine_of_layout 3 other
  exact ⟨hsame, htrim.trans hsame.symm, hmore _ (hsame.symm.trans hline)⟩

end Row

end ContentionCharts.Table
