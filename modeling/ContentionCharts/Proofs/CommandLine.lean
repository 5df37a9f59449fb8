import ContentionCharts.CommandLine.Arguments

/-!
Which command lines ask for what. A report is named by itself, after `--` or before it; the usage is
asked for by saying nothing, `--` or not. Every other list of arguments asks for help or is refused.
-/
namespace ContentionCharts.CommandLine

/-- Not an option: a single dash, or a text that does not begin with one. -/
def IsBare (text : String) : Prop :=
  text = "-" ∨ text.toList.head? ≠ some '-'

/-- The arguments name a report. After `--` it may look like an option; it is never empty. -/
inductive Names : List String → String → Prop where
  | alone {report : String} (hne : report ≠ "") (hbare : IsBare report) : Names [report] report
  | escaped {report : String} (hne : report ≠ "") : Names ["--", report] report
  | closed {report : String} (hne : report ≠ "") (hbare : IsBare report) :
      Names [report, "--"] report

def AsksForUsage (arguments : List String) : Prop :=
  arguments = [] ∨ arguments = ["--"]

/-! One argument. -/

def Argument.isOption : Argument → Bool
  | escape | report _ => false
  | helpFlag | helpWithValue _ | unknownFlag _ | unknownWord _ => true

theorem isOption_ofWord (word : List Char) : (ofWord word).isOption := by
  unfold ofWord
  dsimp only
  split <;> rfl

theorem not_isBare {text : String} (hhead : text.toList.head? = some '-') (hne : text ≠ "-") :
    ¬IsBare text := fun h => h.elim hne fun hother => hother hhead

theorem ofText_cases (text : String) :
    text = "--" ∧ Argument.ofText text = .escape ∨
      IsBare text ∧ Argument.ofText text = .report text ∨
      (text ≠ "--" ∧ ¬IsBare text) ∧ (Argument.ofText text).isOption := by
  unfold Argument.ofText
  split
  case h_1 hchars => exact .inl ⟨String.toList_inj.mp hchars, rfl⟩
  case h_2 word hword hchars =>
    refine .inr (.inr ⟨⟨?_, not_isBare (by rw [hchars]; rfl) ?_⟩, isOption_ofWord word⟩)
    · rintro rfl
      exact hword (List.cons.inj (List.cons.inj hchars).2).2.symm
    · rintro rfl
      exact List.cons_ne_nil _ _ (List.cons.inj hchars).2.symm
  case h_3 letter rest _ hletter hchars =>
    refine .inr (.inr ⟨⟨?_, not_isBare (by rw [hchars]; rfl) ?_⟩, by split <;> rfl⟩)
    · rintro rfl
      exact hletter (List.cons.inj (List.cons.inj hchars).2).1.symm
    · rintro rfl
      exact List.cons_ne_nil _ _ (List.cons.inj hchars).2.symm
  case h_4 _ _ hoption =>
    refine .inr (.inl ⟨?_, rfl⟩)
    cases hchars : text.toList with
    | nil =>
      right
      rw [hchars]
      exact nofun
    | cons c rest =>
      by_cases hdash : c = '-'
      · subst hdash
        cases rest with
        | nil => exact .inl (String.toList_inj.mp hchars)
        | cons letter tail => exact absurd hchars (hoption letter tail)
      · right
        rw [hchars]
        exact fun h => hdash (Option.some.inj h)

/-! All arguments. -/

def IsAside (result : Except ArgumentError Request) : Prop :=
  result = .ok .help ∨ ∃ error, result = .error error

theorem settle_of_ne {text : String} (h : text ≠ "") : settle (some text) = .ok (.plot text) := by
  unfold settle
  split
  · contradiction
  · rename_i heq
    exact absurd (Option.some.inj heq) h
  · rename_i heq
    rw [Option.some.inj heq]

theorem isAside_of_isOption {report : Option String} {text : String} {texts : List String}
    (h : (Argument.ofText text).isOption) : IsAside (takeArguments report (text :: texts)) := by
  unfold takeArguments
  cases hargument : Argument.ofText text with
  | escape =>
    rw [hargument] at h
    contradiction
  | helpFlag =>
    dsimp only
    split
    · exact .inr ⟨_, rfl⟩
    · exact .inl rfl
  | helpWithValue value => exact .inr ⟨_, rfl⟩
  | unknownFlag letter => exact .inr ⟨_, rfl⟩
  | unknownWord word => exact .inr ⟨_, rfl⟩
  | report other =>
    rw [hargument] at h
    contradiction

theorem not_isBare_escape : ¬IsBare "--" := by
  unfold IsBare
  decide

theorem not_asksForUsage_cons {text : String} (h : text ≠ "--") (texts : List String) :
    ¬AsksForUsage (text :: texts) := by
  rintro (hnil | hescape)
  · contradiction
  · exact h (List.cons.inj hescape).1

/-- After a report there may only be `--`, and that only at the end. -/
theorem takeArguments_some_cases (text : String) (texts : List String) :
    AsksForUsage texts ∧ takeArguments (some text) texts = settle (some text) ∨
      ¬AsksForUsage texts ∧ IsAside (takeArguments (some text) texts) := by
  cases texts with
  | nil => exact .inl ⟨.inl rfl, rfl⟩
  | cons next rest =>
    rcases ofText_cases next with ⟨rfl, hescape⟩ | ⟨hbare, hreport⟩ | ⟨⟨hne, _⟩, hoption⟩
    · cases rest with
      | nil => exact .inl ⟨.inr rfl, rfl⟩
      | cons surplus more =>
        refine .inr ⟨?_, .inr ⟨_, rfl⟩⟩
        rintro (hnil | hescape)
        · contradiction
        · exact List.cons_ne_nil _ _ (List.cons.inj hescape).2
    · refine .inr ⟨not_asksForUsage_cons ?_ rest, .inr ⟨.surplus next, ?_⟩⟩
      · rintro rfl
        exact not_isBare_escape hbare
      · unfold takeArguments
        rw [hreport]
    · exact .inr ⟨not_asksForUsage_cons hne rest, isAside_of_isOption hoption⟩

theorem Names.cons_cases {text report : String} {texts : List String}
    (h : Names (text :: texts) report) :
    text = "--" ∧ texts = [report] ∧ report ≠ "" ∨
      IsBare text ∧ text ≠ "" ∧ AsksForUsage texts := by
  cases h with
  | alone hne hbare => exact .inr ⟨hbare, hne, .inl rfl⟩
  | escaped hne => exact .inl ⟨rfl, rfl, hne⟩
  | closed hne hbare => exact .inr ⟨hbare, hne, .inr rfl⟩

theorem takeReports_cases (texts : List String) :
    texts = [] ∧ takeReports none texts = .ok .usage ∨
      (∃ report, report ≠ "" ∧ texts = [report] ∧ takeReports none texts = .ok (.plot report)) ∨
      (texts ≠ [] ∧ ∀ report, texts = [report] → report = "") ∧
        IsAside (takeReports none texts) := by
  match texts with
  | [] => exact .inl ⟨rfl, rfl⟩
  | [report] =>
    by_cases hne : report = ""
    · subst hne
      exact .inr (.inr ⟨⟨nofun, fun _ h => (List.cons.inj h).1.symm⟩, .inr ⟨_, rfl⟩⟩)
    · exact .inr (.inl ⟨report, hne, rfl, settle_of_ne hne⟩)
  | report :: surplus :: more =>
    refine .inr (.inr ⟨⟨nofun, fun _ h => ?_⟩, .inr ⟨_, rfl⟩⟩)
    exact absurd (List.cons.inj h).2 (List.cons_ne_nil _ _)

inductive Meaning (arguments : List String) : Except ArgumentError Request → Prop where
  | usage (h : AsksForUsage arguments) : Meaning arguments (.ok .usage)
  | plot {report : String} (h : Names arguments report) : Meaning arguments (.ok (.plot report))
  | aside {result : Except ArgumentError Request} (husage : ¬AsksForUsage arguments)
      (hnames : ∀ report, ¬Names arguments report) (h : IsAside result) : Meaning arguments result

theorem meaning_of_escape (texts : List String) :
    Meaning ("--" :: texts) (takeReports none texts) := by
  rcases takeReports_cases texts with ⟨rfl, husage⟩ | ⟨report, hne, rfl, hplot⟩ |
    ⟨⟨hne, hempty⟩, haside⟩
  · exact husage ▸ .usage (.inr rfl)
  · exact hplot ▸ .plot (.escaped hne)
  · refine .aside ?_ (fun report hnames => ?_) haside
    · rintro (hnil | hescape)
      · contradiction
      · exact hne (List.cons.inj hescape).2
    · rcases hnames.cons_cases with ⟨_, htexts, hreport⟩ | ⟨hbare, _⟩
      · exact hreport (hempty report htexts)
      · exact not_isBare_escape hbare

theorem meaning_of_bare {text : String} (hbare : IsBare text) (texts : List String) :
    Meaning (text :: texts) (takeArguments (some text) texts) := by
  have hescape : text ≠ "--" := by
    rintro rfl
    exact not_isBare_escape hbare
  rcases takeArguments_some_cases text texts with ⟨husage, htake⟩ | ⟨husage, haside⟩
  · rw [htake]
    by_cases hne : text = ""
    · subst hne
      refine .aside (not_asksForUsage_cons hescape texts) (fun report hnames => ?_) (.inr ⟨_, rfl⟩)
      rcases hnames.cons_cases with ⟨hmark, _⟩ | ⟨_, hne, _⟩
      · exact hescape hmark
      · exact hne rfl
    · rw [settle_of_ne hne]
      rcases husage with rfl | rfl
      · exact .plot (.alone hne hbare)
      · exact .plot (.closed hne hbare)
  · refine .aside (not_asksForUsage_cons hescape texts) (fun report hnames => ?_) haside
    rcases hnames.cons_cases with ⟨hmark, _⟩ | ⟨_, _, hother⟩
    · exact hescape hmark
    · exact husage hother

theorem meaning_parse (arguments : List String) : Meaning arguments (parse arguments) := by
  cases arguments with
  | nil => exact .usage (.inl rfl)
  | cons text texts =>
    rcases ofText_cases text with ⟨rfl, _⟩ | ⟨hbare, hreport⟩ | ⟨⟨hne, hbare⟩, hoption⟩
    · exact meaning_of_escape texts
    · have hparse : parse (text :: texts) = takeArguments (some text) texts := by
        unfold parse
        rw [takeArguments, hreport]
      rw [hparse]
      exact meaning_of_bare hbare texts
    · refine .aside (not_asksForUsage_cons hne texts) (fun report hnames => ?_)
        (isAside_of_isOption hoption)
      rcases hnames.cons_cases with ⟨hescape, _⟩ | ⟨hother, _⟩
      · exact hne hescape
      · exact hbare hother

theorem Names.unique {arguments : List String} {report other : String}
    (h : Names arguments report) (hother : Names arguments other) : report = other := by
  cases h with
  | alone => cases hother with
    | alone => rfl
  | escaped => cases hother with
    | escaped => rfl
    | closed _ hbare => exact absurd hbare not_isBare_escape
  | closed _ hbare => cases hother with
    | escaped => exact absurd hbare not_isBare_escape
    | closed => rfl

theorem Names.not_asksForUsage {arguments : List String} {report : String}
    (h : Names arguments report) : ¬AsksForUsage arguments := by
  rintro (rfl | rfl)
  · cases h
  · cases h with
    | alone _ hbare => exact not_isBare_escape hbare

theorem Names.parse_eq {arguments : List String} {report : String} (h : Names arguments report) :
    parse arguments = .ok (.plot report) := by
  generalize hresult : parse arguments = result
  have hmeaning := hresult ▸ meaning_parse arguments
  cases hmeaning with
  | usage husage => exact absurd husage h.not_asksForUsage
  | plot hother => rw [h.unique hother]
  | aside _ hnames => exact absurd h (hnames report)

end ContentionCharts.CommandLine
