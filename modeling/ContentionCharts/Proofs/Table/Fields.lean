import ContentionCharts.Proofs.Number.Digits
import ContentionCharts.Proofs.Text.Search
import ContentionCharts.Proofs.Text.Trim
import ContentionCharts.Table.Line

/-!
A row seen through the first words of its fields. Nothing else of a line counts, so blanks at the
ends of the line may go, and a line that gives a row is neither blank nor a ruled line.
-/
namespace ContentionCharts.Table

open ContentionCharts.Text ContentionCharts.Number

theorem fields_cons (c : Char) (rest : List Char) :
    fields (c :: rest) =
      if c = '|' then [] :: fields rest else (fields rest).modifyHead (c :: ·) := by
  unfold fields
  rw [List.splitOn_cons_eq_if_modifyHead]
  simp

theorem exists_fields_eq_cons (line : List Char) :
    ∃ first others, fields line = first :: others :=
  List.exists_cons_of_ne_nil (List.splitOn_ne_nil '|' line)

theorem ne_bar_of_isBlank {c : Char} (h : isBlank c) : c ≠ '|' := by
  rintro rfl
  revert h
  decide

theorem flatten_fields_sublist (line : List Char) : (fields line).flatten.Sublist line := by
  induction line with
  | nil => exact List.Sublist.refl _
  | cons c rest ih =>
    rcases exists_fields_eq_cons rest with ⟨first, others, hrest⟩
    rw [hrest] at ih
    rw [fields_cons, hrest]
    split
    · exact ih.cons c
    · exact ih.cons_cons c

theorem mem_of_mem_fields {line field : List Char} (hfield : field ∈ fields line) {c : Char}
    (hc : c ∈ field) : c ∈ line :=
  (flatten_fields_sublist line).subset (List.mem_flatten_of_mem hfield hc)

theorem length_fields (line : List Char) : (fields line).length = line.count '|' + 1 := by
  induction line with
  | nil => rfl
  | cons c rest ih =>
    rw [fields_cons]
    by_cases hbar : c = '|'
    · rw [if_pos hbar, hbar, List.count_cons_self, List.length_cons, ih]
    · rw [if_neg hbar, List.count_cons_of_ne hbar, List.length_modifyHead, ih]

theorem fields_append_bar (line more : List Char) :
    fields (line ++ '|' :: more) = fields line ++ fields more :=
  List.splitOn_append_cons_self line more

/-! Blanks at the ends of a line are blanks at the ends of its fields. -/

theorem map_trimStart_fields (line : List Char) :
    (fields (trimStart line)).map trimStart = (fields line).map trimStart := by
  induction line with
  | nil => rfl
  | cons c rest ih =>
    cases h : isBlank c with
    | false => rw [trimStart_cons_of_solid h]
    | true =>
      rcases exists_fields_eq_cons rest with ⟨first, others, hrest⟩
      rw [trimStart_cons_of_blank h, ih, fields_cons, if_neg (ne_bar_of_isBlank h), hrest]
      simp [trimStart_cons_of_blank h]

theorem map_trimEnd_fields (line : List Char) :
    (fields (trimEnd line)).map trimEnd = (fields line).map trimEnd := by
  induction line with
  | nil => rfl
  | cons c rest ih =>
    rcases exists_fields_eq_cons rest with ⟨first, others, hrest⟩
    rcases exists_fields_eq_cons (trimEnd rest) with ⟨first', others', hrest'⟩
    rw [hrest, hrest', List.map_cons, List.map_cons] at ih
    rcases List.cons.inj ih with ⟨hfirst, hothers⟩
    have hhead := trimEnd_cons_congr c hfirst
    rw [trimEnd_cons]
    by_cases h : trimEnd rest = [] ∧ isBlank c
    · rw [h.1] at hrest'
      cases hrest'
      rw [if_pos h, fields_cons, if_neg (ne_bar_of_isBlank h.2), hrest, List.modifyHead_cons,
        List.map_cons, ← hhead, ← hothers, trimEnd_cons, if_pos ⟨rfl, h.2⟩]
      rfl
    · rw [if_neg h, fields_cons, fields_cons, hrest, hrest']
      split
      · rw [List.map_cons, List.map_cons, List.map_cons, List.map_cons, hfirst, hothers]
      · rw [List.modifyHead_cons, List.modifyHead_cons, List.map_cons, List.map_cons, hhead,
          hothers]

theorem map_firstWord?_fields_trim (line : List Char) :
    (fields (trim line)).map firstWord? = (fields line).map firstWord? := by
  have hstart : firstWord? ∘ trimStart = firstWord? := funext firstWord?_trimStart
  have hend : firstWord? ∘ trimEnd = firstWord? := funext firstWord?_trimEnd
  calc
    (fields (trim line)).map firstWord? =
        ((fields (trimEnd (trimStart line))).map trimEnd).map firstWord? := by
      rw [List.map_map, hend, trim]
    _ = ((fields (trimStart line)).map trimStart).map firstWord? := by
      rw [map_trimEnd_fields, List.map_map, List.map_map, hend, hstart]
    _ = (fields line).map firstWord? := by
      rw [map_trimStart_fields, List.map_map, hstart]

/-! A row from words. -/

def readWord (column : Nat) (read : List Char → Option α) :
    Option (List Char) → Except RowFault α
  | none => .error (.emptyField column)
  | some token =>
    match read token with
    | none => .error (.notNumeric column (String.ofList token))
    | some value => .ok value

theorem readField_eq_readWord (column : Nat) (read : List Char → Option α) (field : List Char) :
    readField column read field = readWord column read (firstWord? field) := by
  unfold readField readWord
  cases firstWord? field <;> rfl

def Row.ofWords (minFields : Nat) (words : List (Option (List Char))) : Except RowFault Row :=
  match words with
  | first :: second :: third :: _ =>
    if words.length < expectedFields minFields then
      .error (.tooFewFields words.length (expectedFields minFields))
    else do
      let key ← readWord 0 word? first
      let candidate ← readWord 1 real? second
      let reference ← readWord 2 real? third
      return ⟨key, candidate, reference⟩
  | _ => .error (.tooFewFields words.length (expectedFields minFields))

theorem Row.ofLine_eq_ofWords (minFields : Nat) (line : List Char) :
    Row.ofLine minFields line = Row.ofWords minFields ((fields line).map firstWord?) := by
  unfold Row.ofLine Row.ofWords
  rcases fields line with _ | ⟨first, _ | ⟨second, _ | ⟨third, others⟩⟩⟩
  · rfl
  · rfl
  · rfl
  · simp only [List.map_cons, readField_eq_readWord, List.length_cons, List.length_map]

theorem Row.ofLine_trim (minFields : Nat) (line : List Char) :
    Row.ofLine minFields (trim line) = Row.ofLine minFields line := by
  rw [Row.ofLine_eq_ofWords, Row.ofLine_eq_ofWords, map_firstWord?_fields_trim]

theorem except_bind_eq_ok_iff {ε α β : Type} {x : Except ε α} {f : α → Except ε β} {b : β} :
    (x >>= f) = .ok b ↔ ∃ a, x = .ok a ∧ f a = .ok b := by
  cases x with
  | error fault => simp [bind, Except.bind]
  | ok a => simp [bind, Except.bind]

theorem readWord_eq_ok_iff {α : Type} {column : Nat} {read : List Char → Option α}
    {word : Option (List Char)} {value : α} :
    readWord column read word = .ok value ↔
      ∃ token, word = some token ∧ read token = some value := by
  cases word with
  | none => simp [readWord]
  | some token => cases hread : read token <;> simp [readWord, hread]

/-- A row comes of enough fields and three numbers at the front, and holds these numbers. -/
theorem Row.ofWords_eq_ok_iff {minFields : Nat} {words : List (Option (List Char))} {row : Row} :
    Row.ofWords minFields words = .ok row ↔
      ∃ key candidate reference others,
        words = some key :: some candidate :: some reference :: others ∧
        expectedFields minFields ≤ words.length ∧ word? key = some row.key ∧
        real? candidate = some row.candidate ∧ real? reference = some row.reference := by
  rcases words with _ | ⟨first, _ | ⟨second, _ | ⟨third, others⟩⟩⟩
  · simp [Row.ofWords]
  · simp [Row.ofWords]
  · simp [Row.ofWords]
  · unfold Row.ofWords
    dsimp only
    by_cases hfew : (first :: second :: third :: others).length < expectedFields minFields
    · rw [if_pos hfew]
      refine iff_of_false (by simp) ?_
      rintro ⟨_, _, _, _, -, henough, -⟩
      exact absurd hfew (Nat.not_lt.mpr henough)
    · rw [if_neg hfew]
      simp only [except_bind_eq_ok_iff, readWord_eq_ok_iff]
      constructor
      · rintro ⟨key, ⟨token, rfl, hkey⟩, candidate, ⟨token', rfl, hcandidate⟩, reference,
          ⟨token'', rfl, hreference⟩, hrow⟩
        cases hrow
        exact ⟨token, token', token'', others, rfl, Nat.not_lt.mp hfew, hkey, hcandidate,
          hreference⟩
      · rintro ⟨token, token', token'', _, hwords, -, hkey, hcandidate, hreference⟩
        cases hwords
        exact ⟨_, ⟨token, rfl, hkey⟩, _, ⟨token', rfl, hcandidate⟩, _, ⟨token'', rfl, hreference⟩,
          rfl⟩

theorem Row.ofLine_eq_ok_iff_of_le {minFields more : Nat} (h : minFields ≤ more)
    {line : List Char} {row : Row} :
    Row.ofLine more line = .ok row ↔
      Row.ofLine minFields line = .ok row ∧ expectedFields more ≤ (fields line).length := by
  have hexpected : expectedFields minFields ≤ expectedFields more := by
    unfold expectedFields
    omega
  simp only [Row.ofLine_eq_ofWords, Row.ofWords_eq_ok_iff, List.length_map]
  constructor
  · rintro ⟨key, candidate, reference, others, hwords, henough, hread⟩
    exact ⟨⟨key, candidate, reference, others, hwords, hexpected.trans henough, hread⟩, henough⟩
  · rintro ⟨⟨key, candidate, reference, others, hwords, -, hread⟩, henough⟩
    exact ⟨key, candidate, reference, others, hwords, henough, hread⟩

/-! A line with a row in it is not a ruled line, since its key has a digit. -/

theorem isBlank_eq_false_of_isDigit {c : Char} (h : c.isDigit) : isBlank c = false := by
  have hbounds := toNat_bounds_of_isDigit h
  simp only [isBlank, Bool.or_eq_false_iff, Bool.and_eq_false_iff, decide_eq_false_iff_not,
    beq_eq_false_iff_ne]
  omega

theorem not_joint_of_isDigit {c : Char} (h : c.isDigit) :
    (c == '-' || c == '|' || c == '+' || isBlank c) = false := by
  have hne (joint : Char) (hjoint : joint.isDigit = false) : (c == joint) = false := by
    rw [beq_eq_false_iff_ne]
    rintro rfl
    rw [hjoint] at h
    contradiction
  rw [hne '-' (by decide), hne '|' (by decide), hne '+' (by decide),
    isBlank_eq_false_of_isDigit h]
  rfl

theorem exists_digit_of_ofLine {minFields : Nat} {line : List Char} {row : Row}
    (h : Row.ofLine minFields line = .ok row) : ∃ c ∈ line, c.isDigit := by
  rw [Row.ofLine_eq_ofWords, Row.ofWords_eq_ok_iff] at h
  rcases h with ⟨key, _, _, _, hwords, -, hkey, -⟩
  have hmem : some key ∈ (fields line).map firstWord? := by
    rw [hwords]
    exact List.mem_cons_self
  rcases List.mem_map.mp hmem with ⟨field, hfield, hword⟩
  rcases exists_digit_of_word? hkey with ⟨c, hc, hdigit⟩
  exact ⟨c, mem_of_mem_fields hfield (mem_of_firstWord? hword hc), hdigit⟩

theorem isRule_eq_false_of_ofLine {minFields : Nat} {line : List Char} {row : Row}
    (h : Row.ofLine minFields line = .ok row) : isRule line = false := by
  rcases exists_digit_of_ofLine h with ⟨c, hc, hdigit⟩
  have hall : (line.all fun c => c == '-' || c == '|' || c == '+' || isBlank c) = false := by
    rw [List.all_eq_false]
    exact ⟨c, hc, by rw [not_joint_of_isDigit hdigit]; simp⟩
  rw [isRule, hall, Bool.and_false]

theorem trim_ne_nil_of_ofLine {minFields : Nat} {line : List Char} {row : Row}
    (h : Row.ofLine minFields line = .ok row) : trim line ≠ [] := by
  rcases exists_digit_of_ofLine h with ⟨c, hc, hdigit⟩
  intro hnil
  have hblank := (trim_eq_nil_iff line).mp hnil c hc
  rw [isBlank_eq_false_of_isDigit hdigit] at hblank
  contradiction

namespace Spec

theorem isHeader_trim_eq_false {spec : Spec} {line : List Char}
    (plain : spec.isHeader line = false) : spec.isHeader (trim line) = false := by
  unfold isHeader at plain ⊢
  rw [Bool.or_eq_false_iff] at plain ⊢
  have hoccurs (phrase : List Char) (h : occursIn phrase line = false) :
      occursIn phrase (trim line) = false := by
    rw [Bool.eq_false_iff] at h ⊢
    exact fun htrim => h (occursIn_of_isInfix htrim (trim_isInfix line))
  refine ⟨hoccurs _ plain.1, ?_⟩
  cases hexclude : spec.exclude with
  | none => rfl
  | some phrase =>
    rw [hexclude] at plain
    exact hoccurs _ plain.2

theorem classOf_eq_data_iff {spec : Spec} {line : List Char} {row : Row} :
    spec.classOf line = .data row ↔
      Row.ofLine spec.minFields line = .ok row ∧ spec.isHeader (trim line) = false := by
  rw [← Row.ofLine_trim]
  constructor
  · intro hclass
    unfold classOf at hclass
    dsimp only at hclass
    split at hclass
    · contradiction
    split at hclass
    · contradiction
    rename_i hheader
    split at hclass
    · contradiction
    split at hclass
    next found hread =>
      cases hclass
      exact ⟨hread, (Bool.not_eq_true _).mp hheader⟩
    next => contradiction
  · rintro ⟨hread, hheader⟩
    have hsome : (trim line).isEmpty = false := by
      rw [List.isEmpty_eq_false_iff]
      rw [Row.ofLine_trim] at hread
      exact trim_ne_nil_of_ofLine hread
    unfold classOf
    simp only [hsome, hheader, isRule_eq_false_of_ofLine hread, hread, Bool.false_eq_true,
      ↓reduceIte]

theorem classOf_eq_data {spec : Spec} {line : List Char} {row : Row}
    (h : Row.ofLine spec.minFields line = .ok row) (plain : spec.isHeader line = false) :
    spec.classOf line = .data row :=
  classOf_eq_data_iff.mpr ⟨h, isHeader_trim_eq_false plain⟩

theorem classOf_eq_blank {spec : Spec} {line : List Char} (h : ∀ c ∈ line, isBlank c) :
    spec.classOf line = .blank := by
  have hnil := (trim_eq_nil_iff line).mpr h
  unfold classOf
  rw [hnil]
  rfl

end Spec

end ContentionCharts.Table
