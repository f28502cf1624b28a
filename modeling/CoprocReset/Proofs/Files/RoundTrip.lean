import CoprocReset.Proofs.Files.Replacement
import CoprocReset.Proofs.Files.Writes

/-!
# All or nothing

A file is written in two steps: it is opened, which makes it if need be and takes out what it held,
and then the bytes are added at its end (`writeInSteps`). The second step can fail, but only where
the first changed nothing, so the two steps come to the same as one that is refused or done as a
whole (`writeInSteps_alike`).

An accepted text is read back from its file, and `Overwritten` says that this is all the difference
it makes: other places and the paths to them are as before, and no path leads anywhere that did not
before, except to the file that was made (`overwritten_of_write`). A refused text leaves the tree as
it was, and its failure has a code unless the path has a null character (`write_all_or_nothing`).
-/

namespace CoprocReset.Files

/-! ## One step after the other -/

/-- What is left of an entry that was opened for new content. -/
def Entry.emptied : Entry → Except IoCause Entry
  | .directory => .error (.os .isDirectory)
  | .file _ => .ok (.file ByteArray.empty)
  | .fullDevice => .ok .fullDevice

/-- An entry with the bytes added at its end. -/
def Entry.extended : Entry → ByteArray → Except IoCause Entry
  | .directory, _ => .error (.os .isDirectory)
  | .file held, bytes => .ok (.file (held ++ bytes))
  | .fullDevice, bytes => if bytes.size = 0 then .ok .fullDevice else .error (.os .noSpace)

/-- The place that the path leads to, and what is there once it was opened for new content. -/
def FileTree.opened (tree : FileTree) (path : Path) (create : Bool) :
    Except IoCause (Location × Entry) := do
  let (place, entry) ← tree.findForWriting path create
  let entry ← entry.emptied
  return (place, entry)

/-- Opens the file, and then adds the text to what opening left of it. -/
def writeInSteps (path : Path) (create : Bool) (text : String) : Action FileTree Unit := fun tree =>
  match tree.opened path create with
  | .error cause => ⟨.failed (.ioWrite path text cause), tree, []⟩
  | .ok (place, entry) =>
    let middle := tree.put place entry
    match entry.extended text.toUTF8 with
    | .error cause => ⟨.failed (.ioWrite path text cause), middle, []⟩
    | .ok entry => ⟨.done (), middle.put place entry, []⟩

namespace FileTree

variable {tree later : FileTree} {path : Path} {place : Location} {entry : Entry} {create : Bool}
  {text : String}

/-! ## What is accepted -/

/-- A file can be put at the place: there is one already, or none is there and it may be made. -/
def Room (tree : FileTree) (create : Bool) (place : Location) : Prop :=
  (∃ bytes, tree.entryAt place = some (.file bytes)) ∨ create = true ∧ tree.entryAt place = none

theorem findForWriting_eq_ok_iff (hne : entry ≠ .directory) :
    tree.findForWriting path create = .ok (place, entry) ↔
      search path (tree.findSpot path) = .ok place ∧
        (tree.entryAt place = some entry ∨
          create = true ∧ tree.entryAt place = none ∧ entry = .file ByteArray.empty) := by
  rw [findForWriting]
  split
  · next hcreate =>
    cases hspot : search path (tree.findSpot path) with
    | error cause => simp [Except.map]
    | ok there =>
      simp only [Except.map, Except.ok.injEq, Prod.mk.injEq, hcreate, true_and]
      refine and_congr_right ?_
      rintro rfl
      cases tree.entryAt there <;> simp [eq_comm]
  · next hcreate =>
    rw [find_eq_ok_iff_of_ne hne]
    simp [hcreate]

theorem write_eq_ok_iff : tree.write path create text = .ok later ↔
    ∃ place, search path (tree.findSpot path) = .ok place ∧
      (tree.Room create place ∧ later = tree.put place (.file text.toUTF8) ∨
        tree.entryAt place = some .fullDevice ∧ text = "" ∧
          later = tree.put place .fullDevice) := by
  rw [FileTree.write, bind_eq_ok_iff]
  constructor
  · rintro ⟨⟨place, entry⟩, hfind, hlater⟩
    obtain ⟨entry', hreplaced, hlater⟩ := bind_eq_ok_iff.1 hlater
    cases hlater
    cases entry with
    | directory => cases hreplaced
    | file bytes =>
      cases hreplaced
      obtain ⟨hspot, hentry⟩ := (findForWriting_eq_ok_iff (by simp)).1 hfind
      refine ⟨place, hspot, .inl ⟨?_, rfl⟩⟩
      exact hentry.imp (fun h => ⟨bytes, h⟩) fun h => ⟨h.1, h.2.1⟩
    | fullDevice =>
      obtain ⟨hspot, hentry⟩ := (findForWriting_eq_ok_iff (by simp)).1 hfind
      rw [Entry.replaced] at hreplaced
      split at hreplaced
      · next htext =>
        cases hreplaced
        exact ⟨place, hspot, .inr ⟨by simpa using hentry, htext, rfl⟩⟩
      · cases hreplaced
  · rintro ⟨place, hspot, ⟨hroom, rfl⟩ | ⟨hdevice, rfl, rfl⟩⟩
    · obtain ⟨bytes, hentry⟩ | ⟨hcreate, hnone⟩ := hroom
      · exact ⟨(place, .file bytes),
          (findForWriting_eq_ok_iff (by simp)).2 ⟨hspot, .inl hentry⟩, rfl⟩
      · exact ⟨(place, .file ByteArray.empty),
          (findForWriting_eq_ok_iff (by simp)).2 ⟨hspot, .inr ⟨hcreate, hnone, rfl⟩⟩, rfl⟩
    · exact ⟨(place, .fullDevice),
        (findForWriting_eq_ok_iff (by simp)).2 ⟨hspot, .inl hdevice⟩, rfl⟩

/-- A text is accepted where a file can be put, and a full device accepts the empty one. -/
theorem write_done_iff : (Files.write path create text tree).outcome = .done () ↔
    ∃ place, search path (tree.findSpot path) = .ok place ∧
      (tree.Room create place ∨ tree.entryAt place = some .fullDevice ∧ text = "") := by
  have hwrite : (Files.write path create text tree).outcome = .done () ↔
      ∃ later, tree.write path create text = .ok later := by
    rw [Files.write]
    cases tree.write path create text <;> simp
  rw [hwrite]
  constructor
  · rintro ⟨later, hlater⟩
    obtain ⟨place, hspot, hcase⟩ := write_eq_ok_iff.1 hlater
    exact ⟨place, hspot, hcase.imp And.left fun h => ⟨h.1, h.2.1⟩⟩
  · rintro ⟨place, hspot, hroom | ⟨hdevice, htext⟩⟩
    · exact ⟨_, write_eq_ok_iff.2 ⟨place, hspot, .inl ⟨hroom, rfl⟩⟩⟩
    · exact ⟨_, write_eq_ok_iff.2 ⟨place, hspot, .inr ⟨hdevice, htext, rfl⟩⟩⟩

theorem Room.not_directory (h : tree.Room create place) :
    tree.entryAt place ≠ some .directory := by
  obtain ⟨bytes, h⟩ | ⟨-, h⟩ := h <;> simp [h]

/-! ## What an accepted text changes -/

/-- `later` is the tree with the text in the file that the path leads to, which was made for it only
if that was asked for. If the path leads to no file, `later` is no different from before. -/
structure Overwritten (tree : FileTree) (path : Path) (create : Bool) (text : String)
    (later : FileTree) : Prop where
  read_eq (h : later.HoldsFile path) : Files.read path later = ⟨.done text, later, []⟩
  entryAt_eq {place : Location} (h : ∀ bytes, later.find path ≠ .ok (place, .file bytes)) :
    later.entryAt place = tree.entryAt place
  find_eq_ok_iff {other : Path} {place : Location} {entry : Entry}
    (h : ∀ bytes, later.find path ≠ .ok (place, .file bytes)) :
    later.find other = .ok (place, entry) ↔ tree.find other = .ok (place, entry)
  leads_iff {other : Path} : later.leads other = true ↔ tree.leads other = true ∨
    create = true ∧ ∃ place, later.find other = .ok (place, .file text.toUTF8) ∧
      later.find path = .ok (place, .file text.toUTF8)

/-- Paths lead where they led, and those with their spot at the place lead to what is there now. -/
theorem DifferAt.leads_iff {other : Path} (h : tree.DifferAt place later)
    (hentry : later.entryAt place = some entry) :
    later.leads other = true ↔
      tree.leads other = true ∨ search other (tree.findSpot other) = .ok place := by
  rw [FileTree.leads_iff, FileTree.leads_iff]
  constructor
  · rintro ⟨there, found, hfind⟩
    by_cases hplace : there = place
    · exact .inr (h.find_place_eq_ok_iff.1 (hplace ▸ hfind)).1
    · exact .inl ⟨there, found, (h.find_eq_ok_iff (h.entryAt_eq hplace)).1 hfind⟩
  · rintro (⟨there, found, hfind⟩ | hspot)
    · by_cases hplace : there = place
      · have hspot := (h.symm.find_place_eq_ok_iff.1 (hplace ▸ hfind)).1
        exact ⟨place, entry,
          h.find_place_eq_ok_iff.2 ⟨h.search_findSpot_eq_ok_iff.1 hspot, hentry⟩⟩
      · exact ⟨there, found, (h.find_eq_ok_iff (h.entryAt_eq hplace)).2 hfind⟩
    · exact ⟨place, entry, h.find_place_eq_ok_iff.2 ⟨hspot, hentry⟩⟩

/-- What is there can be put there again. -/
theorem entryAt_put_of_eq (hplace : place ≠ []) (h : tree.entryAt place = some entry)
    (there : Location) : (tree.put place entry).entryAt there = tree.entryAt there := by
  rw [entryAt_put _ _ _ _ hplace]
  split
  · next heq => rw [heq, h]
  · rfl

theorem overwritten_file (hspot : search path (tree.findSpot path) = .ok place)
    (hroom : tree.Room create place) (text : String) :
    tree.Overwritten path create text (tree.put place (.file text.toUTF8)) := by
  have hdiffer : tree.DifferAt place (tree.put place (.file text.toUTF8)) :=
    differAt_put hroom.not_directory nofun
  have hentry : (tree.put place (.file text.toUTF8)).entryAt place = some (.file text.toUTF8) := by
    rw [entryAt_put _ _ _ _ (ne_nil_of_not_directory hroom.not_directory), if_pos rfl]
  have hfind := hdiffer.find_place_eq_ok_iff.2 ⟨hspot, hentry⟩
  have hne {there : Location}
      (h : ∀ bytes, (tree.put place (.file text.toUTF8)).find path ≠ .ok (there, .file bytes)) :
      there ≠ place := by
    rintro rfl
    exact h _ hfind
  refine ⟨fun _ => read_holdsText ⟨place, hfind⟩, fun h => hdiffer.entryAt_eq (hne h),
    fun h => hdiffer.find_eq_ok_iff (hdiffer.entryAt_eq (hne h)), fun {other} => ?_⟩
  rw [hdiffer.leads_iff hentry]
  constructor
  · rintro (hleads | hother)
    · exact .inl hleads
    obtain ⟨bytes, hbytes⟩ | ⟨hcreate, hnone⟩ := hroom
    · refine .inl (FileTree.leads_iff.2 ⟨place, .file bytes, ?_⟩)
      exact (find_eq_ok_iff_of_ne (by simp)).2 ⟨hother, hbytes⟩
    · exact .inr ⟨hcreate, place, hdiffer.find_place_eq_ok_iff.2 ⟨hother, hentry⟩, hfind⟩
  · rintro (hleads | ⟨-, there, hother, hthere⟩)
    · exact .inl hleads
    · obtain rfl : place = there := by
        rw [hfind] at hthere
        cases hthere
        rfl
      exact .inr (hdiffer.find_place_eq_ok_iff.1 hother).1

theorem overwritten_device (hspot : search path (tree.findSpot path) = .ok place)
    (hdevice : tree.entryAt place = some .fullDevice) (create : Bool) :
    tree.Overwritten path create "" (tree.put place .fullDevice) := by
  have hnot : tree.entryAt place ≠ some .directory := by simp [hdevice]
  have hdiffer : tree.DifferAt place (tree.put place .fullDevice) := differAt_put hnot nofun
  have hsame := entryAt_put_of_eq (ne_nil_of_not_directory hnot) hdevice
  have hfind := hdiffer.find_place_eq_ok_iff.2 ⟨hspot, (hsame place).trans hdevice⟩
  -- the path leads to the device, and not to a file
  have hnofile {there : Location} {bytes : ByteArray}
      (h : (tree.put place .fullDevice).find path = .ok (there, .file bytes)) : False := by
    rw [hfind] at h
    cases h
  have hleads (other : Path) :
      (tree.put place .fullDevice).leads other = true ↔ tree.leads other = true := by
    rw [FileTree.leads_iff, FileTree.leads_iff]
    simp only [LeadsTo, hdiffer.find_eq_ok_iff (hsame _)]
  refine ⟨fun hholds => ?_, fun _ => hsame _, fun _ => hdiffer.find_eq_ok_iff (hsame _),
    fun {other} => ?_⟩
  · obtain ⟨there, bytes, hfile⟩ := hholds
    exact (hnofile hfile).elim
  · rw [hleads other]
    refine ⟨.inl, fun h => h.resolve_right ?_⟩
    rintro ⟨-, there, -, hfile⟩
    exact hnofile hfile

/-- An accepted text is in the file that its path leads to, and that is all the difference it makes. -/
theorem overwritten_of_write (h : tree.write path create text = .ok later) :
    tree.Overwritten path create text later := by
  obtain ⟨place, hspot, ⟨hroom, rfl⟩ | ⟨hdevice, rfl, rfl⟩⟩ := write_eq_ok_iff.1 h
  · exact overwritten_file hspot hroom text
  · exact overwritten_device hspot hdevice create

/-! ## What is refused -/

theorem not_mem_of_pathFault_eq_none (h : pathFault path = none) :
    '\x00' ∉ path.text.toList := by
  intro hnull
  rw [pathFault, if_pos (by simpa using hnull)] at h
  cases h

/-- Only a null character keeps a path from the system. -/
theorem code_search {α : Type} {result : Except OsCode α} {cause : IoCause}
    (h : search path result = .error cause) : cause.code = none ↔ '\x00' ∈ path.text.toList := by
  rw [search] at h
  split at h
  · next fault hfault =>
    cases h
    rw [pathFault] at hfault
    split at hfault
    · next hnull =>
      cases hfault
      exact iff_of_true rfl (by simpa using hnull)
    · next hnull =>
      refine iff_of_false ?_ (by simpa using hnull)
      split at hfault
      · cases hfault
        simp [IoCause.code]
      · split at hfault <;> cases hfault
        simp [IoCause.code]
  · next hfault =>
    refine iff_of_false ?_ (not_mem_of_pathFault_eq_none hfault)
    cases result with
    | ok value => cases h
    | error code =>
      cases h
      simp [IoCause.code]

/-- A file to be written is searched for like any other. -/
theorem exists_findForWriting_eq (tree : FileTree) (path : Path) (create : Bool) :
    ∃ result, tree.findForWriting path create = search path result := by
  rw [findForWriting]
  split
  · refine ⟨(tree.findSpot path).map fun place =>
      (place, (tree.entryAt place).getD (.file ByteArray.empty)), ?_⟩
    rw [search, search]
    cases pathFault path <;> cases tree.findSpot path <;> rfl
  · exact ⟨_, rfl⟩

/-- A refusal has the system's code, unless the system was never asked. -/
theorem code_write {cause : IoCause} (h : tree.write path create text = .error cause) :
    cause.code = none ↔ '\x00' ∈ path.text.toList := by
  obtain ⟨result, hresult⟩ := exists_findForWriting_eq tree path create
  rw [FileTree.write, hresult] at h
  cases hfind : search path result with
  | error cause' =>
    rw [hfind] at h
    cases h
    exact code_search hfind
  | ok found =>
    refine iff_of_false ?_ (not_mem_of_pathFault_eq_none (search_eq_ok_iff.1 hfind).1)
    rw [hfind] at h
    obtain ⟨place, _ | bytes | _⟩ := found
    case directory => cases h; simp [IoCause.code]
    case file => cases h
    case fullDevice =>
      by_cases htext : text = "" <;>
        simp [Entry.replaced, htext, bind, Except.bind, pure, Except.pure] at h
      cases h
      simp [IoCause.code]

/-! ## Both steps as one -/

theorem entryAt_put_put (hplace : place ≠ []) (entry entry' : Entry) (there : Location) :
    ((tree.put place entry).put place entry').entryAt there =
      (tree.put place entry').entryAt there := by
  rw [entryAt_put _ _ _ _ hplace, entryAt_put _ _ _ _ hplace, entryAt_put _ _ _ _ hplace]
  split <;> rfl

theorem ne_nil_of_findForWriting (hne : entry ≠ .directory)
    (h : tree.findForWriting path create = .ok (place, entry)) : place ≠ [] := by
  refine @ne_nil_of_not_directory tree place ?_
  obtain hentry | ⟨-, hnone, -⟩ := ((findForWriting_eq_ok_iff hne).1 h).2
  · simpa [hentry] using hne
  · simp [hnone]

end FileTree

/-- Opening and adding end like one step, and leave the same everywhere. -/
theorem writeInSteps_alike (path : Path) (create : Bool) (text : String) (tree : FileTree) :
    (writeInSteps path create text tree).outcome = (write path create text tree).outcome ∧
      ∀ place, (writeInSteps path create text tree).world.entryAt place =
        (write path create text tree).world.entryAt place := by
  rw [writeInSteps, write, FileTree.opened, FileTree.write]
  rcases hfind : tree.findForWriting path create with cause | ⟨place, entry⟩
  case error => exact ⟨rfl, fun _ => rfl⟩
  cases entry with
  | directory => exact ⟨rfl, fun _ => rfl⟩
  | file bytes =>
    have hplace := FileTree.ne_nil_of_findForWriting (by simp) hfind
    simp only [bind, Except.bind, pure, Except.pure, Entry.emptied, Entry.extended, Entry.replaced,
      ByteArray.empty_append, FileTree.entryAt_put_put hplace, true_and, implies_true]
  | fullDevice =>
    have hplace := FileTree.ne_nil_of_findForWriting (by simp) hfind
    have hdevice : tree.entryAt place = some .fullDevice := by
      simpa using ((FileTree.findForWriting_eq_ok_iff (by simp)).1 hfind).2
    by_cases htext : text = ""
    · simp [bind, Except.bind, pure, Except.pure, Entry.emptied, Entry.extended, Entry.replaced,
        htext, FileTree.entryAt_put_put hplace]
    · -- the device was opened, but that is no change
      simp [bind, Except.bind, pure, Except.pure, Entry.emptied, Entry.extended, Entry.replaced,
        htext, FileTree.entryAt_put_of_eq hplace hdevice]

/-- A text is read back from the file that accepted it, and nothing else is different then; a text
that is refused makes no difference at all. That holds of the two steps as much as of one. -/
theorem write_all_or_nothing (path : Path) (create : Bool) (text : String) (tree : FileTree) :
    ((write path create text).Delivers tree fun result later =>
      result = .ok () ∧ tree.Overwritten path create text later ∨
      ∃ cause, result = .error (.ioWrite path text cause) ∧ later = tree ∧
        (Failure.ioWrite path text cause).osCode = cause.code ∧
        (cause.code = none ↔ '\x00' ∈ path.text.toList)) ∧
    ((write path create text tree).outcome = .done () ↔
      ∃ place, FileTree.search path (tree.findSpot path) = .ok place ∧
        (tree.Room create place ∨ tree.entryAt place = some .fullDevice ∧ text = "")) ∧
    ((writeInSteps path create text tree).outcome = (write path create text tree).outcome ∧
      ∀ place, (writeInSteps path create text tree).world.entryAt place =
        (write path create text tree).world.entryAt place) ∧
    (read path tree).world = tree := by
  refine ⟨?_, FileTree.write_done_iff, writeInSteps_alike path create text tree,
    read_world path tree⟩
  rw [Action.Delivers, write]
  cases hwrite : tree.write path create text with
  | ok later => exact ⟨.ok (), rfl, .inl ⟨rfl, FileTree.overwritten_of_write hwrite⟩⟩
  | error cause => exact ⟨.error _, rfl, .inr ⟨cause, rfl, rfl, rfl, FileTree.code_write hwrite⟩⟩

end CoprocReset.Files
