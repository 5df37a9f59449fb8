import ContentionCharts.Program
import ContentionCharts.Proofs.Number.Digits
import Mathlib.Data.List.TakeWhile

/-!
What a setting of the log asks for. It names the least severe level that is shown, by name or by
number, and all that is more severe is shown too; a setting that names no level is not valid.
-/
namespace ContentionCharts

open ContentionCharts.Number

def Level.all : List Level := [.error, .warn, .info, .debug, .trace]

/-- The levels that are shown when one is named, or none of them is. -/
def levelsByName : List (String × List Level) :=
  [("off", []), ("error", [.error]), ("warn", [.error, .warn]), ("info", [.error, .warn, .info]),
    ("debug", [.error, .warn, .info, .debug]), ("trace", Level.all)]

/-- A word asks for levels by a name in any case, or by the place of the name, counted from zero.
The empty word asks for all levels. -/
inductive WordAsksFor : List Char → List Level → Prop where
  | name {word : List Char} {name : String} {levels : List Level}
      (hmem : (name, levels) ∈ levelsByName) (hword : word.map Char.toLower = name.toList) :
      WordAsksFor word levels
  | place {word : List Char} {place : UInt64} {entry : String × List Level}
      (hentry : levelsByName[place.toNat]? = some entry) (hword : word? word = some place) :
      WordAsksFor word entry.2
  | empty : WordAsksFor [] Level.all

/-- Without a setting, errors and warnings are asked for. A setting asks by a word; a comma may
follow the word, and blanks the comma. -/
inductive AsksFor : Option String → List Level → Prop where
  | unset : AsksFor none [.error, .warn]
  | word {text : String} {levels : List Level} (h : WordAsksFor text.toList levels) :
      AsksFor (some text) levels
  | closed {text : String} {word blanks : List Char} {levels : List Level}
      (htext : text.toList = word ++ ',' :: blanks) (h : WordAsksFor word levels)
      (hblank : blanks.all Text.isBlank) : AsksFor (some text) levels

variable {setting : Option String} {word : List Char} {levels : List Level} {verbosity : Verbosity}

/-! Words. -/

theorem word?_eq_none_of_name {name : String} (hmem : (name, levels) ∈ levelsByName)
    (hword : word.map Char.toLower = name.toList) : word? word = none := by
  rw [Option.eq_none_iff_forall_ne_some]
  intro place hplace
  obtain ⟨c, hc, hdigit⟩ := exists_digit_of_word? hplace
  obtain ⟨d, hd, rfl⟩ := exists_digitChar hdigit
  have hlower : ∀ d < 10, d.digitChar.toLower = d.digitChar := by decide
  have hnames : ∀ entry ∈ levelsByName, entry.1.toList.all (fun c => !c.isDigit) := by decide
  have hname : d.digitChar ∈ name.toList := by
    rw [← hword, ← hlower d hd]
    exact List.mem_map_of_mem hc
  have hletter := List.all_eq_true.mp (hnames _ hmem) _ hname
  rw [hdigit] at hletter
  contradiction

theorem ofLevel?_of_wordAsksFor (h : WordAsksFor word levels) :
    Verbosity.ofLevel? word = some ⟨levels.length⟩ := by
  unfold Verbosity.ofLevel?
  cases h with
  | name hmem hword =>
    rw [word?_eq_none_of_name hmem hword, hword, String.ofList_toList]
    simp only [levelsByName, List.mem_cons, List.not_mem_nil, or_false, Prod.mk.injEq] at hmem
    rcases hmem with ⟨rfl, rfl⟩ | ⟨rfl, rfl⟩ | ⟨rfl, rfl⟩ | ⟨rfl, rfl⟩ | ⟨rfl, rfl⟩ | ⟨rfl, rfl⟩ <;>
      rfl
  | @place _ place entry hentry hword =>
    have hplace : ∀ n < 6, ∀ entry ∈ levelsByName[n]?, entry.2.length = n := by decide
    obtain ⟨hlt, -⟩ := List.getElem?_eq_some_iff.mp hentry
    rw [hword]
    dsimp only
    rw [if_pos, hplace _ hlt entry hentry]
    exact UInt64.le_iff_toNat_le.mpr (Nat.le_of_lt_succ hlt)
  | empty => rfl

theorem exists_wordAsksFor (h : Verbosity.ofLevel? word = some verbosity) :
    ∃ levels, WordAsksFor word levels := by
  have hnamed {name : String} (hword : String.ofList (word.map Char.toLower) = name)
      (hname : name ∈ levelsByName.map Prod.fst) : ∃ levels, WordAsksFor word levels := by
    obtain ⟨entry, hmem, rfl⟩ := List.mem_map.mp hname
    exact ⟨entry.2, .name hmem (by rw [← hword, String.toList_ofList])⟩
  unfold Verbosity.ofLevel? at h
  split at h
  next place hplace =>
    split at h
    next hle =>
      have hlt : place.toNat < levelsByName.length :=
        Nat.lt_succ_of_le (UInt64.le_iff_toNat_le.mp hle)
      exact ⟨_, .place (List.getElem?_eq_getElem hlt) hplace⟩
    next => contradiction
  next =>
    split at h
    case h_7 hword =>
      rw [String.ofList_eq_empty_iff, List.map_eq_nil_iff] at hword
      rw [hword]
      exact ⟨_, .empty⟩
    case h_8 => contradiction
    all_goals exact hnamed ‹_› (by decide)

theorem comma_notMem_of_wordAsksFor (h : WordAsksFor word levels) : ',' ∉ word := by
  intro hcomma
  cases h with
  | name hmem hword =>
    have hnames : ∀ entry ∈ levelsByName, ',' ∉ entry.1.toList := by decide
    refine hnames _ hmem ?_
    rw [← hword]
    exact List.mem_map_of_mem hcomma
  | place _ hword => exact absurd (isDigit_or_plus_of_word? hword hcomma) (by decide)
  | empty => contradiction

/-! Settings. -/

theorem verbosity?_of_asksFor (h : AsksFor setting levels) :
    verbosity? setting = some ⟨levels.length⟩ := by
  have hword {word : List Char} (h : WordAsksFor word levels) : ∀ c ∈ word, c != ',' :=
    fun c hc => bne_iff_ne.mpr fun hcomma => comma_notMem_of_wordAsksFor h (hcomma ▸ hc)
  unfold verbosity? Verbosity.ofText?
  cases h with
  | unset => decide
  | word h =>
    rw [Option.getD_some, List.takeWhile_eq_self_iff.mpr (hword h),
      List.dropWhile_eq_nil_iff.mpr (hword h)]
    exact ofLevel?_of_wordAsksFor h
  | closed htext h hblank =>
    rw [Option.getD_some, htext, List.takeWhile_append_of_pos (hword h),
      List.dropWhile_append_of_pos (hword h), List.takeWhile_cons_of_neg (by decide),
      List.dropWhile_cons_of_neg (by decide), List.drop_one, List.tail_cons, List.append_nil]
    dsimp only
    rw [if_pos hblank]
    exact ofLevel?_of_wordAsksFor h

theorem exists_asksFor (h : verbosity? setting = some verbosity) :
    ∃ levels, AsksFor setting levels := by
  cases setting with
  | none => exact ⟨_, .unset⟩
  | some text =>
    change Verbosity.ofText? text = _ at h
    unfold Verbosity.ofText? at h
    dsimp only at h
    split at h
    next hblank =>
      obtain ⟨levels, hlevels⟩ := exists_wordAsksFor h
      have htext := List.takeWhile_append_dropWhile (p := fun c => c != ',') (l := text.toList)
      cases hrest : text.toList.dropWhile fun c => c != ',' with
      | nil =>
        rw [hrest, List.append_nil] at htext
        exact ⟨levels, .word (htext ▸ hlevels)⟩
      | cons c blanks =>
        have hcomma : c = ',' := by
          have hhead := List.head?_dropWhile_not (fun c => c != ',') text.toList
          rw [hrest] at hhead
          exact bne_eq_false_iff_eq.mp hhead
        rw [hrest] at htext hblank
        exact ⟨levels, .closed (hcomma ▸ htext).symm hlevels hblank⟩
    next => contradiction

theorem mem_of_asksFor (h : AsksFor setting levels) : levels ∈ levelsByName.map Prod.snd := by
  have hword {word : List Char} (h : WordAsksFor word levels) :
      levels ∈ levelsByName.map Prod.snd := by
    cases h with
    | name hmem _ => exact List.mem_map_of_mem hmem
    | place hentry _ => exact List.mem_map_of_mem (List.mem_of_getElem? hentry)
    | empty => decide
  cases h with
  | unset => decide
  | word h => exact hword h
  | closed _ h _ => exact hword h

theorem admits_of_asksFor (h : AsksFor setting levels) (event : Event) :
    (Verbosity.mk levels.length).admits event = decide (event.level ∈ levels) := by
  have hrank : ∀ levels ∈ levelsByName.map Prod.snd, ∀ level ∈ Level.all,
      decide (level.rank ≤ levels.length) = decide (level ∈ levels) := by decide
  refine hrank levels (mem_of_asksFor h) event.level ?_
  cases event.level <;> decide

theorem eq_all_of_asksFor (h : AsksFor setting levels) (htrace : Level.trace ∈ levels) :
    levels = Level.all := by
  have hlast : ∀ levels ∈ levelsByName.map Prod.snd, Level.trace ∈ levels → levels = Level.all := by
    decide
  exact hlast levels (mem_of_asksFor h) htrace

end ContentionCharts
