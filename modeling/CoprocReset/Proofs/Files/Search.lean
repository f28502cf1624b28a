import CoprocReset.Files.Tree

/-!
# Where paths lead

A path leads to a directory that it asks for, or to whatever stands at its spot
(`findEntry_eq_ok_iff`). The way there goes through directories (`entryAt_of_walk`), so what a path is
said to lead to is what stands at the place (`entryAt_of_find`).
-/

namespace CoprocReset.Files.FileTree

variable {tree : FileTree} {path : Path} {place there here : Location} {entry : Entry}
  {name : String} {names : List String}

theorem bind_eq_ok_iff {ε α β : Type} {x : Except ε α} {f : α → Except ε β} {value : β} :
    x >>= f = .ok value ↔ ∃ first, x = .ok first ∧ f first = .ok value := by
  cases x <;> simp [bind, Except.bind]

theorem search_eq_ok_iff {α : Type} {result : Except OsCode α} {value : α} :
    search path result = .ok value ↔ pathFault path = none ∧ result = .ok value := by
  rw [search]
  cases pathFault path with
  | some cause => simp
  | none =>
    cases result with
    | error code =>
      change Except.error (IoCause.os code) = Except.ok value ↔ _
      simp
    | ok found =>
      change Except.ok found = Except.ok value ↔ _
      simp

theorem find_eq_ok_iff : tree.find path = .ok (place, entry) ↔
    pathFault path = none ∧ tree.findEntry path = .ok (place, entry) :=
  search_eq_ok_iff

/-- A path that leads anywhere does so by its entry. -/
theorem findEntry_of_find {found : Location × Entry} (h : tree.find path = .ok found) :
    tree.findEntry path = .ok found :=
  (search_eq_ok_iff.1 h).2

theorem look_eq_ok_iff : tree.look here name = .ok entry ↔
    name.utf8ByteSize ≤ nameLimit ∧ tree.entryAt (here ++ [name]) = some entry := by
  rw [look]
  split
  · next hlong => simp [Nat.not_le.2 hlong]
  · next hlong => cases tree.entryAt (here ++ [name]) <;> simp [Nat.not_lt.1 hlong]

/-- A spot is under the last name of the path, in the directory that has it. -/
theorem findSpot_eq_ok_iff : tree.findSpot path = .ok place ↔
    leadsToDirectory path = false ∧ ∃ name here, path.components.getLast? = some name ∧
      tree.walk [] path.components.dropLast = .ok here ∧ name.utf8ByteSize ≤ nameLimit ∧
      place = here ++ [name] := by
  rw [findSpot]
  cases path.components.getLast? with
  | none => simp
  | some name =>
    simp only [bind_eq_ok_iff]
    by_cases hdirectory : leadsToDirectory path <;>
      by_cases hlong : nameLimit < name.utf8ByteSize <;>
      simp [hdirectory, hlong, pure, Except.pure, Nat.not_le.2, Nat.not_lt.1, eq_comm]

/-- A path leads to a directory that it asks for, or to what stands at its spot. -/
theorem findEntry_eq_ok_iff : tree.findEntry path = .ok (place, entry) ↔
    ((path.components = [] ∨ leadsToDirectory path = true) ∧
      tree.walk [] path.components = .ok place ∧ entry = .directory) ∨
    (tree.findSpot path = .ok place ∧ tree.entryAt place = some entry) := by
  rw [findSpot_eq_ok_iff, findEntry]
  cases hlast : path.components.getLast? with
  | none =>
    have hcomponents : path.components = [] := List.getLast?_eq_none_iff.1 hlast
    simp only [hcomponents, walk, true_or, true_and, Except.ok.injEq, Prod.mk.injEq, reduceCtorEq,
      false_and, and_false, exists_false, or_false]
    exact and_congr_right fun _ => eq_comm
  | some name =>
    have hcomponents : path.components ≠ [] := fun h => by simp [h] at hlast
    by_cases hdirectory : leadsToDirectory path = true
    · simp only [hdirectory, if_true, bind_eq_ok_iff, pure, Except.pure, Except.ok.injEq,
        Prod.mk.injEq, or_true, true_and, Bool.true_eq_false, false_and, or_false]
      constructor
      · rintro ⟨_, hwalk, rfl, rfl⟩
        exact ⟨hwalk, rfl⟩
      · rintro ⟨hwalk, rfl⟩
        exact ⟨place, hwalk, rfl, rfl⟩
    · simp only [hdirectory, Bool.false_eq_true, if_false, bind_eq_ok_iff, look_eq_ok_iff, pure,
        Except.pure, Except.ok.injEq, Prod.mk.injEq, Option.some.injEq, hcomponents, or_self,
        false_and, false_or, true_and]
      constructor
      · rintro ⟨here, hwalk, _, ⟨hshort, hentry⟩, rfl, rfl⟩
        exact ⟨⟨name, here, rfl, hwalk, hshort, rfl⟩, hentry⟩
      · rintro ⟨⟨_, here, rfl, hwalk, hshort, rfl⟩, hentry⟩
        exact ⟨here, hwalk, entry, ⟨hshort, hentry⟩, rfl, rfl⟩

/-- The way to a directory goes through directories. -/
theorem entryAt_of_walk (hhere : ∀ above, above <+: here → tree.entryAt above = some .directory)
    (h : tree.walk here names = .ok there) :
    ∀ above, above <+: there → tree.entryAt above = some .directory := by
  induction names generalizing here with
  | nil =>
    cases h
    exact hhere
  | cons name names ih =>
    rw [walk] at h
    split at h
    · exact ih hhere h
    split at h
    · exact ih (fun above habove => hhere above (habove.trans (List.dropLast_prefix _))) h
    split at h
    · cases h
    · next hlook =>
      refine ih (fun above habove => ?_) h
      obtain rfl | habove := List.prefix_concat_iff.1 habove
      · exact (look_eq_ok_iff.1 hlook).2
      · exact hhere above habove
    · cases h

/-- What a path leads to is what stands at the place. -/
theorem entryAt_of_find (h : tree.find path = .ok (place, entry)) :
    tree.entryAt place = some entry := by
  obtain ⟨-, hwalk, rfl⟩ | ⟨-, hentry⟩ := findEntry_eq_ok_iff.1 (findEntry_of_find h)
  · refine entryAt_of_walk (fun above habove => ?_) hwalk place (List.prefix_refl place)
    rw [List.prefix_nil.1 habove]
    rfl
  · exact hentry

/-- A path leads to something that is no directory by its spot. -/
theorem find_eq_ok_iff_of_ne (hne : entry ≠ .directory) :
    tree.find path = .ok (place, entry) ↔
      search path (tree.findSpot path) = .ok place ∧ tree.entryAt place = some entry := by
  rw [find_eq_ok_iff, search_eq_ok_iff, findEntry_eq_ok_iff]
  simp [hne, and_assoc]

end CoprocReset.Files.FileTree
