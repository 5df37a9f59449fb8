import ContentionCharts.Proofs.Filing

/-!
What drawing does to a tree of files. Where an image for a path goes is settled by the folders
alone, and drawing neither makes nor removes a folder. So a tree keeps charts in files: a path leads
to one file or to none however many charts are drawn, and drawing a chart is about that file alone.
-/
namespace ContentionCharts

theorem lookup_map_replace {α β : Type} [BEq α] [LawfulBEq α] [DecidableEq α]
    (entries : List (α × β)) (key other : α) (value : β) :
    (entries.map fun (k, old) => (k, if k = key then value else old)).lookup other =
      (entries.lookup other).map fun old => if other = key then value else old := by
  induction entries with
  | nil => rfl
  | cons entry entries ih =>
    obtain ⟨k, old⟩ := entry
    rw [List.map_cons, List.lookup_cons, List.lookup_cons, ih]
    cases h : other == k with
    | true => rw [eq_of_beq h]; rfl
    | false => rfl

theorem toOption_bind {ε α β : Type} (result : Except ε α) (f : α → Except ε β) :
    (result >>= f).toOption = result.toOption.bind fun value => (f value).toOption := by
  cases result <;> rfl

def Entry.size? : Entry → Option Extent
  | .image _ size => some size
  | .folder | .document _ => none

namespace Directory

variable {a b c : Directory}

theorem find?_insert (directory : Directory) (names other : List String) (entry : Entry) :
    (directory.insert names entry).find? other =
      if other = names then some entry else directory.find? other := by
  unfold insert
  cases hfound : directory.find? names with
  | some old =>
    change (List.map _ directory.entries).lookup other = _
    rw [lookup_map_replace]
    split
    next hother => rw [hother, show directory.entries.lookup names = some old from hfound]; rfl
    next => exact Option.map_id_apply
  | none =>
    change (directory.entries ++ [(names, entry)]).lookup other = _
    rw [List.lookup_append, List.lookup_cons]
    by_cases hother : other = names
    · rw [hother, show directory.entries.lookup names = none from hfound, beq_self_eq_true]
      simp
    · rw [beq_eq_false_iff_ne.mpr hother, if_neg hother]
      exact Option.or_none

theorem working_insert (directory : Directory) (names : List String) (entry : Entry) :
    (directory.insert names entry).working = directory.working := by
  unfold insert
  split <;> rfl

/-! Folders, and the files that images go to. -/

structure SameFolders (a b : Directory) : Prop where
  working : a.working = b.working
  folders : a.hasFolder = b.hasFolder

theorem SameFolders.refl (directory : Directory) : SameFolders directory directory :=
  ⟨rfl, rfl⟩

theorem SameFolders.trans (hab : SameFolders a b) (hbc : SameFolders b c) : SameFolders a c :=
  ⟨hab.working.trans hbc.working, hab.folders.trans hbc.folders⟩

theorem toOption_enter (h : SameFolders a b) (folder : List String) (piece : String) :
    (a.enter folder piece).toOption = (b.enter folder piece).toOption := by
  unfold enter
  dsimp only
  rw [h.folders]
  split
  next => rfl
  split
  next => rfl
  split
  next => rfl
  split <;> rfl

theorem toOption_foldlM_enter (h : SameFolders a b) (pieces folder : List String) :
    (pieces.foldlM a.enter folder).toOption = (pieces.foldlM b.enter folder).toOption := by
  induction pieces generalizing folder with
  | nil => rfl
  | cons piece pieces ih =>
    rw [List.foldlM_cons, List.foldlM_cons, toOption_bind, toOption_bind, toOption_enter h]
    exact congrArg _ (funext ih)

theorem toOption_locate (h : SameFolders a b) (path : Path) :
    (a.locate path).toOption = (b.locate path).toOption := by
  unfold locate
  dsimp only
  split
  · rfl
  split
  · rfl
  split
  · rfl
  rw [toOption_bind, toOption_bind, toOption_foldlM_enter h, h.working]

/-- The file that an image for a path goes to, by its names, and its format; none if nothing can be
put there. -/
def target? (directory : Directory) (path : Path) : Option (List String × ImageFormat) := do
  let (folder, some name) ← (directory.locate path).toOption | none
  let format ← ImageFormat.ofName? name
  if directory.hasFolder (folder ++ [name]) then none else some (folder ++ [name], format)

theorem target?_congr (h : SameFolders a b) (path : Path) : a.target? path = b.target? path := by
  unfold target?
  rw [toOption_locate h, h.folders]

theorem hasFolder_of_target? {directory : Directory} {path : Path} {names : List String}
    {format : ImageFormat} (h : directory.target? path = some (names, format)) :
    directory.hasFolder names = false := by
  obtain ⟨⟨folder, name⟩, _, h⟩ := Option.bind_eq_some_iff.mp h
  cases name with
  | none => contradiction
  | some name =>
    obtain ⟨_, _, h⟩ := Option.bind_eq_some_iff.mp h
    split at h
    · contradiction
    · next hfolder =>
      obtain ⟨rfl, -⟩ := Prod.mk.inj (Option.some.inj h)
      exact Bool.eq_false_iff.mpr hfolder

theorem draw_eq (directory : Directory) (path : Path) (size : Extent) :
    directory.draw path size =
      match directory.target? path with
      | none => (false, directory)
      | some (names, format) =>
        (format.holds size, directory.insert names (.drawn format size)) := by
  unfold draw target?
  cases directory.locate path with
  | error => rfl
  | ok found =>
    obtain ⟨folder, name⟩ := found
    cases name with
    | none => rfl
    | some name =>
      dsimp only [Except.toOption, Option.bind_eq_bind, Option.bind_some]
      cases ImageFormat.ofName? name with
      | none => rfl
      | some format =>
        dsimp only [Option.bind_some]
        split <;> rfl

theorem sameFolders_draw (directory : Directory) (path : Path) (size : Extent) :
    SameFolders directory (directory.draw path size).2 := by
  rw [draw_eq]
  cases htarget : directory.target? path with
  | none => exact .refl directory
  | some target =>
    obtain ⟨names, format⟩ := target
    refine ⟨(working_insert ..).symm, funext fun other => ?_⟩
    dsimp only [hasFolder]
    rw [find?_insert]
    split
    next hother =>
      have hdrawn : (Entry.drawn format size).isFolder = false := by
        unfold Entry.drawn
        split <;> rfl
      rw [hother, Option.any_some, hdrawn]
      exact hasFolder_of_target? htarget
    next => rfl

theorem sameFolders_of_reaches (h : storage.Reaches a b) : SameFolders a b := by
  obtain ⟨charts, rfl⟩ := h
  induction charts generalizing a with
  | nil => exact .refl a
  | cons chart charts ih => exact (a.sameFolders_draw chart.path chart.size).trans ih

/-! A tree as a storage of charts. -/

theorem draw_of_reaches {reached : Directory} (h : storage.Reaches a reached) (chart : Chart) :
    storage.draw reached chart =
      match a.target? chart.path with
      | none => (false, reached)
      | some (names, format) =>
        (format.holds chart.size, reached.insert names (.drawn format chart.size)) := by
  rw [target?_congr (sameFolders_of_reaches h)]
  exact reached.draw_eq chart.path chart.size

def filing (directory : Directory) : Filing storage directory (List String) Entry where
  target? path := (directory.target? path).map Prod.fst
  held? := find?
  size? := Entry.size?
  image chart :=
    .image (((directory.target? chart.path).map Prod.snd).getD .png) chart.size
  size?_image _ := rfl
  written := by
    intro reached chart hreached hwritten
    rw [draw_of_reaches hreached] at hwritten ⊢
    cases htarget : directory.target? chart.path with
    | none =>
      rw [htarget] at hwritten
      contradiction
    | some target =>
      obtain ⟨names, format⟩ := target
      rw [htarget] at hwritten
      have hdrawn : Entry.drawn format chart.size = .image format chart.size := if_pos hwritten
      dsimp only
      refine ⟨names, rfl, ?_, fun other hother => ?_⟩
      · rw [find?_insert, if_pos rfl, hdrawn]
        rfl
      · rw [find?_insert, if_neg hother]

end Directory

end ContentionCharts
