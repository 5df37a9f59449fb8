import ContentionCharts.Proofs.Storage

/-!
Charts and the files they are written to. What is asked of a storage is little: a path leads to one
file or to none, and a chart that is written replaces what was in its file and touches no other. So
after any number of attempts a file holds the last chart that was written to it. If moreover an
attempt has nothing to do with other files, charts with files of their own do not disturb each
other.
-/
namespace ContentionCharts

/-- How a storage keeps charts in files, as long as nothing but charts is written to it. -/
structure Filing {σ : Type} (storage : Storage σ) (files : σ) (File Content : Type) where
  /-- The file that a path leads to. Charts make no folders, so that it stays the same. -/
  target? : Path → Option File
  held? : σ → File → Option Content
  /-- The size of an image; other contents have none. -/
  size? : Content → Option Extent
  image : Chart → Content
  size?_image : ∀ chart, size? (image chart) = some chart.size
  written : ∀ {reached : σ} {chart : Chart}, storage.Reaches files reached →
    (storage.draw reached chart).1 = true →
      ∃ file, target? chart.path = some file ∧
        held? (storage.draw reached chart).2 file = some (image chart) ∧
        ∀ other, other ≠ file → held? (storage.draw reached chart).2 other = held? reached other

namespace Filing

variable {σ File Content : Type} {storage : Storage σ} {files : σ}

/-- An attempt at a chart depends on the file that its path leads to and on no other one, and
whatever comes of it concerns that file alone. -/
structure Local (filing : Filing storage files File Content) : Prop where
  elsewhere : ∀ {reached : σ} {chart : Chart} {file : File}, storage.Reaches files reached →
    filing.target? chart.path ≠ some file →
      filing.held? (storage.draw reached chart).2 file = filing.held? reached file
  alike : ∀ {a b : σ} {chart : Chart}, storage.Reaches files a → storage.Reaches files b →
    (∀ file, filing.target? chart.path = some file → filing.held? a file = filing.held? b file) →
      (storage.draw a chart).1 = (storage.draw b chart).1 ∧
        ∀ file, filing.target? chart.path = some file →
          filing.held? (storage.draw a chart).2 file = filing.held? (storage.draw b chart).2 file

variable {filing : Filing storage files File Content} {reached : σ} {charts later : List Chart}

section

variable [DecidableEq File]

end

structure Agree (filing : Filing storage files File Content) (inside : File → Prop) (a b : σ) :
    Prop where
  left : storage.Reaches files a
  right : storage.Reaches files b
  same : ∀ file, inside file → filing.held? a file = filing.held? b file

theorem Agree.symm {inside : File → Prop} {a b : σ} (h : filing.Agree inside a b) :
    filing.Agree inside b a :=
  ⟨h.right, h.left, fun file hfile => (h.same file hfile).symm⟩

theorem Agree.draw (hlocal : filing.Local) {inside : File → Prop} {a b : σ} {chart : Chart}
    (h : filing.Agree inside a b)
    (hchart : ∀ file, filing.target? chart.path = some file → inside file) :
    (storage.draw a chart).1 = (storage.draw b chart).1 ∧
      filing.Agree inside (storage.draw a chart).2 (storage.draw b chart).2 := by
  obtain ⟨hanswer, htarget⟩ :=
    hlocal.alike h.left h.right fun file hfile => h.same file (hchart file hfile)
  refine ⟨hanswer, h.left.draw chart, h.right.draw chart, fun file hinside => ?_⟩
  by_cases hfile : filing.target? chart.path = some file
  · exact htarget file hfile
  · rw [hlocal.elsewhere h.left hfile, hlocal.elsewhere h.right hfile]
    exact h.same file hinside

end Filing

end ContentionCharts
