import ContentionCharts.Script

/-!
Charts that are tried one after the other. An attempt leaves its files to the next one, whether it
succeeded or not; up to the first refusal, the charts that were tried are the charts that were
written, but for the last one.
-/
namespace ContentionCharts.Storage

variable {σ : Type} (storage : Storage σ)

def afterAll (files : σ) (charts : List Chart) : σ :=
  charts.foldl (fun files chart => (storage.draw files chart).2) files

/-- Whether the chart at a position is written once all before it have been tried. -/
def writesAt (files : σ) (charts : List Chart) (i : Nat) : Bool :=
  charts[i]?.any fun chart => (storage.draw (storage.afterAll files (charts.take i)) chart).1

/-- The position of the first chart that is refused, or the number of charts if none is. -/
def firstRefusal (files : σ) (charts : List Chart) : Nat :=
  (List.range charts.length).findIdx fun i => !storage.writesAt files charts i

/-- Those of the charts that are written when all of them are tried. -/
def written (files : σ) (charts : List Chart) : List Chart :=
  ((List.range charts.length).filter (storage.writesAt files charts)).filterMap (charts[·]?)

theorem afterAll_cons (files : σ) (chart : Chart) (charts : List Chart) :
    storage.afterAll files (chart :: charts) =
      storage.afterAll (storage.draw files chart).2 charts :=
  rfl

theorem writesAt_cons_zero (files : σ) (chart : Chart) (charts : List Chart) :
    storage.writesAt files (chart :: charts) 0 = (storage.draw files chart).1 :=
  rfl

theorem writesAt_cons_succ (files : σ) (chart : Chart) (charts : List Chart) (i : Nat) :
    storage.writesAt files (chart :: charts) (i + 1) =
      storage.writesAt (storage.draw files chart).2 charts i :=
  rfl

theorem firstRefusal_cons (files : σ) (chart : Chart) (charts : List Chart) :
    storage.firstRefusal files (chart :: charts) =
      if (storage.draw files chart).1 then
        storage.firstRefusal (storage.draw files chart).2 charts + 1
      else 0 := by
  unfold firstRefusal
  rw [List.length_cons, List.range_succ_eq_map, List.findIdx_cons, List.findIdx_map,
    writesAt_cons_zero]
  simp only [Function.comp_def, Nat.succ_eq_add_one, writesAt_cons_succ]
  cases (storage.draw files chart).1 <;> rfl

theorem written_cons (files : σ) (chart : Chart) (charts : List Chart) :
    storage.written files (chart :: charts) =
      (if (storage.draw files chart).1 then [chart] else []) ++
        storage.written (storage.draw files chart).2 charts := by
  unfold written
  rw [List.length_cons, List.range_succ_eq_map, List.filter_cons, List.filter_map,
    writesAt_cons_zero]
  have hlater (later : List Nat) :
      (later.map Nat.succ).filterMap ((chart :: charts)[·]?) = later.filterMap (charts[·]?) := by
    rw [List.filterMap_map]
    rfl
  cases (storage.draw files chart).1 with
  | true => exact congrArg (chart :: ·) (hlater _)
  | false => exact hlater _

theorem written_take_firstRefusal (files : σ) (charts : List Chart) :
    storage.written files (charts.take (storage.firstRefusal files charts + 1)) =
      charts.take (storage.firstRefusal files charts) := by
  induction charts generalizing files with
  | nil => rfl
  | cons chart charts ih =>
    rw [firstRefusal_cons]
    cases hdraw : (storage.draw files chart).1 with
    | true =>
      rw [if_pos rfl, List.take_succ_cons, List.take_succ_cons, written_cons, hdraw, ih, if_pos rfl,
        List.singleton_append]
    | false =>
      rw [if_neg Bool.false_ne_true, List.take_succ_cons, List.take_zero, written_cons, hdraw]
      rfl

theorem afterAll_append (files : σ) (charts later : List Chart) :
    storage.afterAll files (charts ++ later) =
      storage.afterAll (storage.afterAll files charts) later :=
  List.foldl_append

def Reaches (files after : σ) : Prop :=
  ∃ charts, after = storage.afterAll files charts

variable {storage}

theorem Reaches.refl (files : σ) : storage.Reaches files files := ⟨[], rfl⟩

theorem Reaches.afterAll {files reached : σ} (h : storage.Reaches files reached)
    (charts : List Chart) : storage.Reaches files (storage.afterAll reached charts) := by
  obtain ⟨earlier, rfl⟩ := h
  exact ⟨earlier ++ charts, (storage.afterAll_append files earlier charts).symm⟩

theorem Reaches.draw {files reached : σ} (h : storage.Reaches files reached) (chart : Chart) :
    storage.Reaches files (storage.draw reached chart).2 :=
  h.afterAll [chart]

end ContentionCharts.Storage
