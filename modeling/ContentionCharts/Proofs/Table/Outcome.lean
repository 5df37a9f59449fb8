import ContentionCharts.Proofs.Table.Fields

/-!
What comes of a line that is read as a row, said by its bars and by the first words between them. A
line has exactly one outcome: it has too few fields, or one of its three columns is at fault and
those to the left of it are not, or it is a row.
-/
namespace ContentionCharts.Table

open ContentionCharts.Text ContentionCharts.Number

/-- The first word of a column of the line; no word if the column is blank. -/
def HasWord (line : List Char) (column : Nat) (word : Option (List Char)) : Prop :=
  ∃ field, (fields line)[column]? = some field ∧ FirstWord field word

def isNumber (column : Nat) (token : List Char) : Bool :=
  if column = 0 then (word? token).isSome else (real? token).isSome

def HasNumber (line : List Char) (column : Nat) : Prop :=
  ∃ token, HasWord line column (some token) ∧ isNumber column token

inductive FaultIn (line : List Char) (column : Nat) : RowFault → Prop
  | emptyField (blank : HasWord line column none) : FaultIn line column (.emptyField column)
  | notNumeric {token : List Char} (word : HasWord line column (some token))
      (unread : isNumber column token = false) :
      FaultIn line column (.notNumeric column (String.ofList token))

def Enough (minFields : Nat) (line : List Char) : Prop :=
  max minFields 3 ≤ line.count '|' + 1

inductive Row.Outcome (minFields : Nat) (line : List Char) : Except RowFault Row → Prop
  | tooFewFields (few : line.count '|' + 1 < max minFields 3) :
      Outcome minFields line (.error (.tooFewFields (line.count '|' + 1) (max minFields 3)))
  | fault {column : Nat} {fault : RowFault} (enough : Enough minFields line)
      (inRow : column < 3) (numbersBefore : ∀ earlier < column, HasNumber line earlier)
      (here : FaultIn line column fault) : Outcome minFields line (.error fault)
  | row {row : Row} {key candidate reference : List Char} (enough : Enough minFields line)
      (hasKey : HasWord line 0 (some key)) (key_eq : word? key = some row.key)
      (hasCandidate : HasWord line 1 (some candidate))
      (candidate_eq : real? candidate = some row.candidate)
      (hasReference : HasWord line 2 (some reference))
      (reference_eq : real? reference = some row.reference) : Outcome minFields line (.ok row)

variable {line : List Char} {column minFields : Nat}

theorem hasWord_iff {word : Option (List Char)} :
    HasWord line column word ↔ ((fields line).map firstWord?)[column]? = some word := by
  rw [List.getElem?_map, Option.map_eq_some_iff]
  unfold HasWord
  simp only [firstWord?_eq_iff]

theorem HasWord.unique {word other : Option (List Char)} (h : HasWord line column word)
    (hother : HasWord line column other) : word = other := by
  rw [hasWord_iff] at h hother
  rw [h] at hother
  exact Option.some.inj hother

theorem Enough.column_lt (h : Enough minFields line) (hcolumn : column < 3) :
    column < (fields line).length := by
  unfold Enough at h
  rw [length_fields]
  omega

/-! A column is a number or at fault, and at fault in one way only. -/

theorem FaultIn.not_hasNumber {fault : RowFault} (h : FaultIn line column fault) :
    ¬HasNumber line column := by
  rintro ⟨token, hword, hnumber⟩
  cases h with
  | emptyField blank => exact absurd (blank.unique hword) nofun
  | notNumeric word unread =>
    cases word.unique hword
    rw [hnumber] at unread
    contradiction

theorem FaultIn.unique {fault other : RowFault} (h : FaultIn line column fault)
    (hother : FaultIn line column other) : fault = other := by
  cases h with
  | emptyField blank =>
    cases hother with
    | emptyField => rfl
    | notNumeric word => exact absurd (blank.unique word) nofun
  | notNumeric word =>
    cases hother with
    | emptyField blank => exact absurd (word.unique blank) nofun
    | notNumeric otherWord =>
      cases word.unique otherWord
      rfl

section Reading

variable {α : Type} {read : List Char → Option α} {word : Option (List Char)}

theorem faultIn_of_readWord (hword : HasWord line column word)
    (hread : ∀ token, isNumber column token = (read token).isSome) {fault : RowFault}
    (h : readWord column read word = .error fault) : FaultIn line column fault := by
  cases word with
  | none =>
    cases h
    exact .emptyField hword
  | some token =>
    unfold readWord at h
    dsimp only at h
    cases hvalue : read token with
    | none =>
      rw [hvalue] at h
      cases h
      exact .notNumeric hword (by rw [hread, hvalue]; rfl)
    | some value =>
      rw [hvalue] at h
      contradiction

theorem hasNumber_of_readWord (hword : HasWord line column word)
    (hread : ∀ token, isNumber column token = (read token).isSome) {value : α}
    (h : readWord column read word = .ok value) : HasNumber line column := by
  obtain ⟨token, rfl, hvalue⟩ := readWord_eq_ok_iff.mp h
  exact ⟨token, hword, by rw [hread, hvalue]; rfl⟩

end Reading

theorem Row.ofLine_of_few (few : line.count '|' + 1 < max minFields 3) :
    Row.ofLine minFields line =
      .error (.tooFewFields (line.count '|' + 1) (max minFields 3)) := by
  have hlength := length_fields line
  unfold Row.ofLine expectedFields
  dsimp only
  rw [hlength]
  split
  · rw [if_pos few]
  · rfl

theorem Row.ofLine_of_enough (enough : Enough minFields line) :
    ∃ first second third, HasWord line 0 first ∧ HasWord line 1 second ∧ HasWord line 2 third ∧
      Row.ofLine minFields line = do
        let key ← readWord 0 word? first
        let candidate ← readWord 1 real? second
        let reference ← readWord 2 real? third
        return ⟨key, candidate, reference⟩ := by
  have hmany : expectedFields minFields ≤ ((fields line).map firstWord?).length := by
    rw [List.length_map, length_fields]
    exact enough
  have hthree : 3 ≤ expectedFields minFields := Nat.le_max_right minFields 3
  rw [Row.ofLine_eq_ofWords]
  simp only [hasWord_iff]
  generalize (fields line).map firstWord? = words at hmany ⊢
  rcases words with _ | ⟨first, _ | ⟨second, _ | ⟨third, others⟩⟩⟩
  · exact absurd (hthree.trans hmany) (by simp)
  · exact absurd (hthree.trans hmany) (by simp)
  · exact absurd (hthree.trans hmany) (by simp)
  · refine ⟨first, second, third, rfl, rfl, rfl, ?_⟩
    unfold Row.ofWords
    dsimp only
    rw [if_neg (Nat.not_lt.mpr hmany)]

namespace Row

theorem outcome_ofLine (minFields : Nat) (line : List Char) :
    Outcome minFields line (Row.ofLine minFields line) := by
  rcases Nat.lt_or_ge (line.count '|' + 1) (max minFields 3) with few | enough
  · rw [Row.ofLine_of_few few]
    exact .tooFewFields few
  · obtain ⟨first, second, third, hfirst, hsecond, hthird, hread⟩ := Row.ofLine_of_enough enough
    rw [hread]
    cases hkey : readWord 0 word? first with
    | error fault =>
      refine .fault enough (by decide) ?_ (faultIn_of_readWord hfirst (fun _ => rfl) hkey)
      intro earlier hearlier
      exact absurd hearlier (Nat.not_lt_zero earlier)
    | ok key =>
      have numberFirst := hasNumber_of_readWord hfirst (fun _ => rfl) hkey
      cases hcandidate : readWord 1 real? second with
      | error fault =>
        refine .fault enough (by decide) ?_ (faultIn_of_readWord hsecond (fun _ => rfl) hcandidate)
        intro earlier hearlier
        cases Nat.lt_one_iff.mp hearlier
        exact numberFirst
      | ok candidate =>
        have numberSecond := hasNumber_of_readWord hsecond (fun _ => rfl) hcandidate
        cases hreference : readWord 2 real? third with
        | error fault =>
          refine .fault enough (by decide) ?_
            (faultIn_of_readWord hthird (fun _ => rfl) hreference)
          intro earlier hearlier
          rcases Nat.le_one_iff_eq_zero_or_eq_one.mp (Nat.le_of_lt_succ hearlier) with rfl | rfl
          · exact numberFirst
          · exact numberSecond
        | ok reference =>
          obtain ⟨keyToken, rfl, hkeyToken⟩ := readWord_eq_ok_iff.mp hkey
          obtain ⟨candidateToken, rfl, hcandidateToken⟩ := readWord_eq_ok_iff.mp hcandidate
          obtain ⟨referenceToken, rfl, hreferenceToken⟩ := readWord_eq_ok_iff.mp hreference
          exact .row enough hfirst hkeyToken hsecond hcandidateToken hthird hreferenceToken

theorem Outcome.hasNumber {row : Row} (h : Outcome minFields line (.ok row))
    (hcolumn : column < 3) : HasNumber line column := by
  cases h with
  | row enough hasKey key_eq hasCandidate candidate_eq hasReference reference_eq =>
    match column, hcolumn with
    | 0, _ => exact ⟨_, hasKey, by rw [isNumber, if_pos rfl, key_eq]; rfl⟩
    | 1, _ => exact ⟨_, hasCandidate, by rw [isNumber, if_neg (by decide), candidate_eq]; rfl⟩
    | 2, _ => exact ⟨_, hasReference, by rw [isNumber, if_neg (by decide), reference_eq]; rfl⟩

theorem Outcome.row_unique {row other : Row} (h : Outcome minFields line (.ok row))
    (hother : Outcome minFields line (.ok other)) : row = other := by
  cases h with
  | row _ hasKey key_eq hasCandidate candidate_eq hasReference reference_eq =>
    cases hother with
    | row _ hasKey' key_eq' hasCandidate' candidate_eq' hasReference' reference_eq' =>
      cases hasKey.unique hasKey'
      cases hasCandidate.unique hasCandidate'
      cases hasReference.unique hasReference'
      rw [key_eq, Option.some.injEq] at key_eq'
      rw [candidate_eq, Option.some.injEq] at candidate_eq'
      rw [reference_eq, Option.some.injEq] at reference_eq'
      cases row
      cases other
      rw [Row.mk.injEq]
      exact ⟨key_eq', candidate_eq', reference_eq'⟩

theorem Outcome.not_ok {fault : RowFault} {row : Row} (h : Outcome minFields line (.error fault)) :
    ¬Outcome minFields line (.ok row) := by
  intro hrow
  cases h with
  | tooFewFields few =>
    cases hrow with
    | row enough => exact absurd enough (Nat.not_le.mpr few)
  | fault _ inRow _ here => exact absurd (hrow.hasNumber inRow) here.not_hasNumber

theorem Outcome.fault_unique {fault other : RowFault} (h : Outcome minFields line (.error fault))
    (hother : Outcome minFields line (.error other)) : fault = other := by
  cases h with
  | tooFewFields few =>
    cases hother with
    | tooFewFields => rfl
    | fault enough => exact absurd enough (Nat.not_le.mpr few)
  | @fault column _ enough _ numbersBefore here =>
    cases hother with
    | tooFewFields few => exact absurd enough (Nat.not_le.mpr few)
    | @fault otherColumn _ _ _ otherNumbersBefore otherHere =>
      rcases Nat.lt_trichotomy column otherColumn with hlt | rfl | hlt
      · exact absurd (otherNumbersBefore column hlt) here.not_hasNumber
      · exact here.unique otherHere
      · exact absurd (numbersBefore otherColumn hlt) otherHere.not_hasNumber

theorem Outcome.unique {result other : Except RowFault Row} (h : Outcome minFields line result)
    (hother : Outcome minFields line other) : result = other := by
  cases result with
  | error fault =>
    cases other with
    | error otherFault => rw [h.fault_unique hother]
    | ok row => exact absurd hother h.not_ok
  | ok row =>
    cases other with
    | error fault => exact absurd h hother.not_ok
    | ok otherRow => rw [h.row_unique hother]

theorem ofLine_eq_iff_outcome {result : Except RowFault Row} :
    Row.ofLine minFields line = result ↔ Outcome minFields line result := by
  constructor
  · rintro rfl
    exact outcome_ofLine minFields line
  · exact (outcome_ofLine minFields line).unique

/-- A line has the outcome that its bars and words call for and no other one, and the columns that
are read are there. A key is the number that is written, and one that does not fit is refused. -/
theorem ofLine_outcome (minFields : Nat) (line : List Char) :
    (∀ result, Row.ofLine minFields line = result ↔ Outcome minFields line result) ∧
    (Enough minFields line → ∀ column < 3, column < (fields line).length) ∧
    (∀ token, Enough minFields line → HasWord line 0 (some token) →
      UInt64.size ≤ Nat.ofDigitChars 10 (dropPlus token) 0 →
      Row.ofLine minFields line = .error (.notNumeric 0 (String.ofList token))) ∧
    (∀ row, Row.ofLine minFields line = .ok row → ∃ token, HasWord line 0 (some token) ∧
      (dropPlus token ≠ [] ∧ (dropPlus token).all Char.isDigit) ∧
      Nat.ofDigitChars 10 (dropPlus token) 0 = row.key.toNat) := by
  refine ⟨fun result => ofLine_eq_iff_outcome, fun enough column => enough.column_lt, ?large, ?key⟩
  case large =>
    intro token enough hword hlarge
    have hunread : isNumber 0 token = false := by
      rw [isNumber, if_pos rfl, word?_eq_none_of_size_le hlarge]
      rfl
    rw [ofLine_eq_iff_outcome]
    refine .fault enough (by decide) ?_ (.notNumeric hword hunread)
    intro earlier hearlier
    exact absurd hearlier (Nat.not_lt_zero earlier)
  case key =>
    intro row hrow
    rw [ofLine_eq_iff_outcome] at hrow
    cases hrow with
    | row _ hasKey key_eq => exact ⟨_, hasKey, word?_eq_some_iff.mp key_eq⟩

/-- Three columns at fault: the first one counts, whose number is one too large for a key. -/
theorem ofLine_outcome_large_key :
    Row.ofLine 3 "+18446744073709551616 | | x".toList =
      .error (.notNumeric 0 "+18446744073709551616") := by
  obtain ⟨_, _, hlarge, _⟩ := ofLine_outcome 3 "+18446744073709551616 | | x".toList
  have enough : Enough 3 "+18446744073709551616 | | x".toList := by
    unfold Enough
    decide
  have hword : HasWord "+18446744073709551616 | | x".toList 0
      (some "+18446744073709551616".toList) := hasWord_iff.mpr rfl
  exact hlarge _ enough hword (by decide)

end Row

end ContentionCharts.Table
