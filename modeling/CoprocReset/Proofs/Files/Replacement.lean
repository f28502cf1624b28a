import CoprocReset.Proofs.Files.Access

/-!
# What stands at one place replaced

`DifferAt` says of two trees that they are the same but for one place, and that neither has a
directory there. No way to anywhere goes through such a place, so a path that leads elsewhere in one
of the trees leads there in the other (`DifferAt.find_eq_ok_iff`), and the place is found by the
paths that have their spot there in either (`DifferAt.find_place_eq_ok_iff`). A file that is replaced
is such a difference, and paths that are apart from it lead to what they led to
(`Replaced.find_eq_ok_iff`).
-/

namespace CoprocReset.Files.FileTree

variable {tree later : FileTree} {path : Path} {place there here : Location} {entry : Entry}
  {name : String} {names : List String}

/-! ## Trees that differ at one place -/

/-- The trees are the same but for one place, where neither has a directory. -/
structure DifferAt (tree : FileTree) (place : Location) (later : FileTree) : Prop where
  entryAt_eq {there : Location} (h : there ≠ place) : later.entryAt there = tree.entryAt there
  not_directory : tree.entryAt place ≠ some .directory
  not_directory_later : later.entryAt place ≠ some .directory

theorem ne_nil_of_not_directory (h : tree.entryAt place ≠ some .directory) : place ≠ [] := by
  rintro rfl
  exact h rfl

theorem differAt_put (h : tree.entryAt place ≠ some .directory) (hentry : entry ≠ .directory) :
    tree.DifferAt place (tree.put place entry) where
  entryAt_eq hne := by rw [entryAt_put _ _ _ _ (ne_nil_of_not_directory h), if_neg hne]
  not_directory := h
  not_directory_later := by
    rw [entryAt_put _ _ _ _ (ne_nil_of_not_directory h), if_pos rfl]
    simpa using hentry

namespace DifferAt

theorem symm (h : tree.DifferAt place later) : later.DifferAt place tree :=
  ⟨fun hne => (h.entryAt_eq hne).symm, h.not_directory_later, h.not_directory⟩

theorem walk_eq_ok (h : tree.DifferAt place later) (hwalk : tree.walk here names = .ok there) :
    later.walk here names = .ok there := by
  induction names generalizing here with
  | nil => exact hwalk
  | cons name names ih =>
    rw [walk] at hwalk ⊢
    split at hwalk
    · next hdot => rw [if_pos hdot, ih hwalk]
    next hdot =>
    rw [if_neg hdot]
    split at hwalk
    · next hdots => rw [if_pos hdots, ih hwalk]
    next hdots =>
    rw [if_neg hdots]
    split at hwalk
    · cases hwalk
    · next hlook =>
      -- a directory is not what the trees differ in
      obtain ⟨hshort, hentry⟩ := look_eq_ok_iff.1 hlook
      have hne : here ++ [name] ≠ place := fun heq => h.not_directory (heq ▸ hentry)
      rw [look_eq_ok_iff.2 ⟨hshort, (h.entryAt_eq hne).trans hentry⟩]
      exact ih hwalk
    · cases hwalk

theorem walk_eq_ok_iff (h : tree.DifferAt place later) :
    later.walk here names = .ok there ↔ tree.walk here names = .ok there :=
  ⟨h.symm.walk_eq_ok, h.walk_eq_ok⟩

theorem findSpot_eq_ok_iff (h : tree.DifferAt place later) :
    later.findSpot path = .ok there ↔ tree.findSpot path = .ok there := by
  rw [FileTree.findSpot_eq_ok_iff, FileTree.findSpot_eq_ok_iff]
  simp only [h.walk_eq_ok_iff]

/-- What stands at no other place than it did before is found as before. -/
theorem find_eq_ok_iff (h : tree.DifferAt place later)
    (hsame : later.entryAt there = tree.entryAt there) :
    later.find path = .ok (there, entry) ↔ tree.find path = .ok (there, entry) := by
  rw [FileTree.find_eq_ok_iff, FileTree.find_eq_ok_iff, findEntry_eq_ok_iff, findEntry_eq_ok_iff,
    h.walk_eq_ok_iff, h.findSpot_eq_ok_iff, hsame]

theorem search_findSpot_eq_ok_iff (h : tree.DifferAt place later) :
    search path (later.findSpot path) = .ok there ↔
      search path (tree.findSpot path) = .ok there := by
  rw [search_eq_ok_iff, search_eq_ok_iff, h.findSpot_eq_ok_iff]

/-- The place is found by the paths that have their spot there. -/
theorem find_place_eq_ok_iff (h : tree.DifferAt place later) :
    later.find path = .ok (place, entry) ↔
      search path (tree.findSpot path) = .ok place ∧ later.entryAt place = some entry := by
  by_cases hentry : later.entryAt place = some entry
  · have hne : entry ≠ .directory := fun heq => h.not_directory_later (heq ▸ hentry)
    rw [find_eq_ok_iff_of_ne hne, h.search_findSpot_eq_ok_iff]
  · exact ⟨fun hfind => absurd (entryAt_of_find hfind) hentry, fun h => absurd h.2 hentry⟩

end DifferAt

/-! ## A file replaced -/

/-- `later` is the tree with the bytes in the file that the path leads to, be it a new one. -/
def Replaced (tree : FileTree) (path : Path) (bytes : ByteArray) (later : FileTree) : Prop :=
  ∃ place, later.find path = .ok (place, .file bytes) ∧ tree.DifferAt place later

/-- What does not stand in the place of the file is found as before. -/
theorem Replaced.find_eq_ok_iff {other : Path} {bytes : ByteArray}
    (h : tree.Replaced path bytes later) (hapart : path.Apart other) :
    later.find other = .ok (there, entry) ↔ tree.find other = .ok (there, entry) := by
  obtain ⟨place, hpath, hdiffer⟩ := h
  by_cases hplace : there = place
  · -- only the path itself leads to the place afterwards, so no other has its spot there
    subst hplace
    refine iff_of_false (fun hother => hapart later _ _ _ _ hpath hother rfl) fun hother => ?_
    have hspot := (hdiffer.symm.find_place_eq_ok_iff.1 hother).1
    have hlater := hdiffer.find_place_eq_ok_iff.2
      ⟨hdiffer.search_findSpot_eq_ok_iff.1 hspot, entryAt_of_find hpath⟩
    exact hapart later _ _ _ _ hpath hlater rfl
  · exact hdiffer.find_eq_ok_iff (hdiffer.entryAt_eq hplace)

end CoprocReset.Files.FileTree
