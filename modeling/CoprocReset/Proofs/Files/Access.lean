import CoprocReset.Files.Access
import CoprocReset.Proofs.Files.Search

/-!
# Files that are read and written

`HoldsFile` says that a path leads to a regular file. Such a file can be written, its text can be
read back, and every other file is still there with its own text (`write_holdsFile`); what cannot be
written stays as it is (`write_cases`). All this rests on one fact: a file in place of a file makes
no difference to where any path leads (`find_put`). What was written to one file makes no difference
to what is read from another (`read_write`).

`Path.Apart` says of two paths that they never lead to one place. Paths are apart that end in two
plain names (`apart_join`), or in one name within directories of two names (`apart_join_join`).
-/

namespace CoprocReset.Files

namespace Path

/-- What an entry of a directory can be called: something without a slash that is not one of the
names for the directory itself and the one above. -/
structure PlainName (name : String) : Prop where
  ne_empty : name ≠ ""
  ne_dot : name ≠ "."
  ne_dots : name ≠ ".."
  no_slash : '/' ∉ name.toList

variable {name : String}

theorem PlainName.getLast_ne (h : PlainName name) : name.toList.getLast? ≠ some '/' :=
  fun hlast => h.no_slash (List.mem_of_getLast? hlast)

theorem PlainName.toList_ne_nil (h : PlainName name) : name.toList ≠ [] := by
  simpa using h.ne_empty

/-- A plain name continues the text of a path. -/
theorem join_text (base : Path) (h : PlainName name) :
    ∃ front, (base.join name).text.toList = front ++ name.toList ∧
      ((front = [] ∧ base.text = "") ∨ ∃ start, front = start ++ ['/'] ∧
        (base.text.toList = start ∨ base.text.toList = start ++ ['/'])) := by
  have hhead : name.toList.head? ≠ some '/' := fun hhead => h.no_slash (List.mem_of_head? hhead)
  rw [join, if_neg hhead]
  by_cases hempty : base.text = ""
  · exact ⟨[], by simp [hempty], .inl ⟨rfl, hempty⟩⟩
  by_cases hslash : base.text.toList.getLast? = some '/'
  · obtain ⟨start, hstart⟩ := List.getLast?_eq_some_iff.1 hslash
    exact ⟨start ++ ['/'], by simp [hstart], .inr ⟨start, rfl, .inr hstart⟩⟩
  · refine ⟨base.text.toList ++ ['/'], ?_, .inr ⟨_, rfl, .inl rfl⟩⟩
    simp [hempty, hslash]

/-- What continues a path comes after its text. -/
theorem join_eq_append (base : Path) (h : PlainName name) :
    ∃ rest, (base.join name).text = base.text ++ rest := by
  have hhead : name.toList.head? ≠ some '/' := fun hhead => h.no_slash (List.mem_of_head? hhead)
  rw [join, if_neg hhead]
  split
  · exact ⟨name, rfl⟩
  · exact ⟨"/" ++ name, by rw [String.append_assoc]⟩

theorem join_ne_empty (base : Path) (h : PlainName name) : (base.join name).text ≠ "" := by
  obtain ⟨front, htext, -⟩ := join_text base h
  intro hempty
  simp [hempty, h.ne_empty] at htext

theorem components_join (base : Path) (h : PlainName name) :
    (base.join name).components = base.components ++ [name] := by
  have hname : name.toList.splitOn '/' = [name.toList] := List.splitOn_eq_singleton h.no_slash
  have hkept : [name.toList].filter (· ≠ []) = [name.toList] := by simp [h.toList_ne_nil]
  obtain ⟨front, htext, ⟨rfl, hempty⟩ | ⟨start, rfl, hbase⟩⟩ := join_text base h
  · rw [List.nil_append] at htext
    rw [components, components, htext, hempty, hname, hkept]
    simp
  · have hsplit : ((start ++ ['/']) ++ name.toList).splitOn '/' =
        start.splitOn '/' ++ [name.toList] := by
      rw [List.append_assoc, List.singleton_append, List.splitOn_append_cons_self, hname]
    obtain hbase | hbase := hbase
    · rw [components, components, htext, hbase, hsplit, List.filter_append, hkept]
      simp
    · rw [components, components, htext, hbase, hsplit, List.filter_append, hkept,
        List.splitOn_append_cons_self]
      simp

example : ((mk "//gpio/./").join "export").components = ["gpio", ".", "export"] := by decide

theorem leadsToDirectory_join (base : Path) (h : PlainName name) :
    FileTree.leadsToDirectory (base.join name) = false := by
  obtain ⟨front, htext, -⟩ := join_text base h
  have hslash : (base.join name).endsInSlash = false := by
    rw [endsInSlash, htext, List.getLast?_append]
    cases hlast : name.toList.getLast? with
    | none => exact absurd (List.getLast?_eq_none_iff.1 hlast) h.toList_ne_nil
    | some last => simpa [hlast] using h.getLast_ne
  simp [FileTree.leadsToDirectory, hslash, components_join base h, h.ne_dot, h.ne_dots]

end Path

namespace FileTree

variable {tree : FileTree} {path : Path} {place : Location} {bytes : ByteArray}

/-! ## The way that a path leads -/

theorem walk_append (tree : FileTree) (here : Location) (names later : List String) :
    tree.walk here (names ++ later) = tree.walk here names >>= fun there => tree.walk there later := by
  induction names generalizing here with
  | nil => rfl
  | cons name names ih =>
    simp only [List.cons_append, walk]
    split
    · exact ih here
    split
    · exact ih _
    split
    · rfl
    · exact ih _
    · rfl

theorem findEntry_join (tree : FileTree) (base : Path) {name : String} (h : Path.PlainName name) :
    tree.findEntry (base.join name) = do
      let directory ← tree.walk [] base.components
      let entry ← tree.look directory name
      return (directory ++ [name], entry) := by
  simp [findEntry, Path.components_join base h, Path.leadsToDirectory_join base h]

/-- A plain name is the last on the way to where it leads. -/
theorem place_join {base : Path} {name : String} (hname : Path.PlainName name) {entry : Entry}
    (h : tree.find (base.join name) = .ok (place, entry)) :
    ∃ here, tree.walk [] base.components = .ok here ∧ place = here ++ [name] := by
  have hentry := findEntry_of_find h
  rw [findEntry_join tree base hname] at hentry
  obtain ⟨here, hwalk, hrest⟩ := bind_eq_ok_iff.1 hentry
  obtain ⟨found, -, hplace⟩ := bind_eq_ok_iff.1 hrest
  cases hplace
  exact ⟨here, hwalk, rfl⟩

/-- A directory that a plain name leads into has that name. -/
theorem walk_join {base : Path} {name : String} (hname : Path.PlainName name) {there : Location}
    (h : tree.walk [] (base.join name).components = .ok there) :
    ∃ here, there = here ++ [name] := by
  rw [Path.components_join base hname, walk_append] at h
  obtain ⟨here, -, hlast⟩ := bind_eq_ok_iff.1 h
  simp only [walk, hname.ne_dot, hname.ne_dots, if_false] at hlast
  split at hlast <;> simp at hlast
  exact ⟨here, hlast.symm⟩

/-- Nothing is wrong with the beginning of a path if nothing is wrong with the path. -/
theorem pathFault_of_join {base : Path} {name : String} (hname : Path.PlainName name)
    (hbase : base.text ≠ "") (h : pathFault (base.join name) = none) : pathFault base = none := by
  obtain ⟨rest, htext⟩ := base.join_eq_append hname
  rw [pathFault, htext, String.toList_append, String.utf8ByteSize_append] at h
  rw [pathFault]
  split at h
  · cases h
  · next hnull =>
    rw [if_neg (fun hmem => hnull (by simpa using .inl (by simpa using hmem))), if_neg hbase]
    split at h
    · cases h
    split at h
    · cases h
    · rw [if_neg (by omega)]

/-- What is in a directory is found by way of the directory. -/
theorem leads_of_leads_join {base : Path} {directory name : String}
    (hdirectory : Path.PlainName directory) (hname : Path.PlainName name)
    (h : tree.leads ((base.join directory).join name) = true) :
    tree.leads (base.join directory) = true := by
  cases hfind : tree.find ((base.join directory).join name) with
  | error cause => simp [leads, hfind, Except.isOk, Except.toBool] at h
  | ok found =>
    have hfault : pathFault (base.join directory) = none :=
      pathFault_of_join hname (base.join_ne_empty hdirectory) (find_eq_ok_iff.1 hfind).1
    obtain ⟨there, hwalk, -⟩ := place_join hname hfind
    rw [Path.components_join base hdirectory, walk_append] at hwalk
    obtain ⟨here, hhere, hlast⟩ := bind_eq_ok_iff.1 hwalk
    simp only [walk, hdirectory.ne_dot, hdirectory.ne_dots, if_false] at hlast
    cases hlook : tree.look here directory with
    | error code => simp [hlook] at hlast
    | ok entry =>
      have hentry : tree.findEntry (base.join directory) = .ok (here ++ [directory], entry) := by
        rw [findEntry_join tree base hdirectory, hhere]
        simp [hlook, bind, Except.bind, pure, Except.pure]
      rw [leads, find, search, hfault, hentry]
      rfl

/-! ## A file in place of a file -/

/-- What a path leads to, after the file at a place got other bytes. -/
def refresh (place : Location) (bytes : ByteArray) : Location × Entry → Location × Entry
  | (there, .directory) => (there, .directory)
  | (there, entry) => if there = place then (there, .file bytes) else (there, entry)

section Put

variable (hfile : tree.entryAt place = some (.file bytes)) (bytes' : ByteArray)
include hfile

theorem ne_nil_of_file : place ≠ [] := by
  rintro rfl
  simp [entryAt] at hfile

theorem look_put (directory : Location) (name : String) :
    (tree.put place (.file bytes')).look directory name =
      (tree.look directory name).map fun entry =>
        if directory ++ [name] = place then .file bytes' else entry := by
  unfold look
  split
  · rfl
  · rw [entryAt_put _ _ _ _ (ne_nil_of_file hfile)]
    by_cases hplace : directory ++ [name] = place
    · simp [hplace, hfile, Except.map]
    · cases tree.entryAt (directory ++ [name]) <;> simp [hplace, Except.map]

theorem walk_put (here : Location) (names : List String) :
    (tree.put place (.file bytes')).walk here names = tree.walk here names := by
  induction names generalizing here with
  | nil => rfl
  | cons name names ih =>
    simp only [walk, look_put hfile, ih]
    by_cases hplace : here ++ [name] = place
    · have hlook : tree.look here name = .ok (.file bytes) ∨
          ∃ code, tree.look here name = .error code := by
        unfold look
        split
        · exact .inr ⟨_, rfl⟩
        · exact .inl (by simp [hplace, hfile])
      obtain hlook | ⟨code, hlook⟩ := hlook <;> simp [hplace, hlook, Except.map]
    · cases hlook : tree.look here name <;> simp [hplace, Except.map]

/-- A path leads where it led before. -/
theorem find_put (path : Path) :
    (tree.put place (.file bytes')).find path = (tree.find path).map (refresh place bytes') := by
  have hentry : (tree.put place (.file bytes')).findEntry path =
      (tree.findEntry path).map (refresh place bytes') := by
    unfold findEntry
    split
    · rfl
    · next name _ =>
      simp only [walk_put hfile, look_put hfile]
      split
      · cases tree.walk [] path.components <;> rfl
      · cases tree.walk [] path.components.dropLast with
        | error code => rfl
        | ok directory =>
          cases hlook : tree.look directory name with
          | error code => simp [hlook, bind, Except.bind, Except.map]
          | ok entry =>
            have hdirectory (h : directory ++ [name] = place) : entry ≠ .directory := by
              rintro rfl
              unfold look at hlook
              split at hlook
              · cases hlook
              · simp [h, hfile] at hlook
            cases entry <;> by_cases hplace : directory ++ [name] = place <;>
              simp_all [bind, Except.bind, Except.map, refresh, pure, Except.pure]
  rw [find, find, search, search, hentry]
  split
  · rfl
  · cases tree.findEntry path <;> rfl

/-- What does not stand at the place is read as before. -/
theorem read_put (hother : ∀ there entry, tree.find path = .ok (there, entry) → there ≠ place) :
    (tree.put place (.file bytes')).read path = tree.read path := by
  rw [FileTree.read, FileTree.read, find_put hfile]
  cases hfind : tree.find path with
  | error cause => rfl
  | ok found =>
    obtain ⟨there, entry⟩ := found
    have hne : there ≠ place := hother there entry hfind
    cases entry <;> simp [Except.map, refresh, hne]

end Put

/-! ## Files -/

/-- The path leads to a regular file. -/
def HoldsFile (tree : FileTree) (path : Path) : Prop :=
  ∃ place bytes, tree.find path = .ok (place, .file bytes)

/-- The path leads to a regular file with that text. -/
def HoldsText (tree : FileTree) (path : Path) (text : String) : Prop :=
  ∃ place, tree.find path = .ok (place, .file text.toUTF8)

theorem HoldsText.holdsFile {text : String} (h : tree.HoldsText path text) :
    tree.HoldsFile path :=
  let ⟨place, hfind⟩ := h
  ⟨place, _, hfind⟩

/-- Bytes are at most one text, the one that is encoded as them. -/
theorem fromUTF8?_eq_some_iff {text : String} :
    String.fromUTF8? bytes = some text ↔ text.toUTF8 = bytes := by
  constructor
  · intro h
    obtain ⟨hvalid, htext⟩ := Option.dite_none_right_eq_some.1 h
    cases htext
    rfl
  · rintro rfl
    exact dif_pos text.isValidUTF8

theorem HoldsText.read_eq {text : String} (h : tree.HoldsText path text) :
    tree.read path = .ok text := by
  obtain ⟨place, hfind⟩ := h
  have htext : String.fromUTF8? text.toUTF8 = some text := fromUTF8?_eq_some_iff.2 rfl
  rw [FileTree.read, hfind]
  simp only [bind, Except.bind, Entry.text, htext]

/-- Every file is still there, and the same paths lead anywhere. -/
structure Preserves (tree later : FileTree) : Prop where
  holdsFile {path : Path} (h : tree.HoldsFile path) : later.HoldsFile path
  leads (path : Path) : later.leads path = tree.leads path

theorem Preserves.refl (tree : FileTree) : tree.Preserves tree := ⟨id, fun _ => rfl⟩

theorem Preserves.trans {middle later : FileTree} (h : tree.Preserves middle)
    (h' : middle.Preserves later) : tree.Preserves later :=
  ⟨fun hfile => h'.holdsFile (h.holdsFile hfile), fun path => (h'.leads path).trans (h.leads path)⟩

end FileTree

namespace Path

/-- The paths never lead to one place. -/
def Apart (path other : Path) : Prop :=
  ∀ (tree : FileTree) place place' entry entry', tree.find path = .ok (place, entry) →
    tree.find other = .ok (place', entry') → place ≠ place'

theorem Apart.symm {path other : Path} (h : path.Apart other) : other.Apart path :=
  fun tree _ _ _ _ hother hpath => (h tree _ _ _ _ hpath hother).symm

theorem apart_join (base base' : Path) {name name' : String} (h : PlainName name)
    (h' : PlainName name') (hne : name ≠ name') : (base.join name).Apart (base'.join name') := by
  rintro tree place place' entry entry' hpath hother rfl
  obtain ⟨here, -, hplace⟩ := FileTree.place_join h hpath
  obtain ⟨here', -, hplace'⟩ := FileTree.place_join h' hother
  exact hne (List.append_inj' (hplace.symm.trans hplace') rfl |>.2 |> List.singleton_inj.1)

theorem apart_join_join (base base' : Path) {directory directory' name name' : String}
    (hdirectory : PlainName directory) (hdirectory' : PlainName directory') (h : PlainName name)
    (h' : PlainName name') (hne : directory ≠ directory') :
    ((base.join directory).join name).Apart ((base'.join directory').join name') := by
  rintro tree place place' entry entry' hpath hother rfl
  obtain ⟨there, hwalk, hplace⟩ := FileTree.place_join h hpath
  obtain ⟨there', hwalk', hplace'⟩ := FileTree.place_join h' hother
  obtain ⟨here, rfl⟩ := FileTree.walk_join hdirectory hwalk
  obtain ⟨here', rfl⟩ := FileTree.walk_join hdirectory' hwalk'
  have hthere := (List.append_inj' (hplace.symm.trans hplace') rfl).1
  exact hne (List.append_inj' hthere rfl |>.2 |> List.singleton_inj.1)

end Path

variable {tree : FileTree} {path : Path}

theorem read_holdsText {text : String} (h : tree.HoldsText path text) :
    read path tree = ⟨.done text, tree, []⟩ := by
  simp [read, h.read_eq]

/-- What is written to a file takes the place of what it held. -/
theorem write_eq_put {place : Location} {bytes : ByteArray}
    (h : tree.find path = .ok (place, .file bytes)) (text : String) :
    write path false text tree = ⟨.done (), tree.put place (.file text.toUTF8), []⟩ := by
  simp [write, FileTree.write, FileTree.findForWriting, h, Entry.replaced, bind, Except.bind, pure,
    Except.pure]

/-- A file is replaced by a text, and every other stays as it is. -/
theorem write_holdsFile (h : tree.HoldsFile path) (text : String) :
    ∃ later, write path false text tree = ⟨.done (), later, []⟩ ∧ later.HoldsText path text ∧
      tree.Preserves later ∧
      ∀ other content, path.Apart other → tree.HoldsText other content →
        later.HoldsText other content := by
  obtain ⟨place, bytes, hfind⟩ := h
  have hput := FileTree.find_put (FileTree.entryAt_of_find hfind) text.toUTF8
  have hrefresh (there : Location) (bytes : ByteArray) :
      FileTree.refresh place text.toUTF8 (there, .file bytes) =
        if there = place then (there, .file text.toUTF8) else (there, .file bytes) := rfl
  refine ⟨tree.put place (.file text.toUTF8), write_eq_put hfind text, ⟨place, ?_⟩,
    ⟨?_, fun other => ?_⟩, ?_⟩
  · rw [hput, hfind, Except.map, hrefresh, if_pos rfl]
  · rintro other ⟨place', bytes', hother⟩
    by_cases hplace : place' = place
    · exact ⟨place', text.toUTF8, by rw [hput, hother, Except.map, hrefresh, if_pos hplace]⟩
    · exact ⟨place', bytes', by rw [hput, hother, Except.map, hrefresh, if_neg hplace]⟩
  · rw [FileTree.leads, FileTree.leads, hput]
    cases tree.find other <;> rfl
  · rintro other content hapart ⟨place', hother⟩
    have hplace : place' ≠ place := (hapart tree _ _ _ _ hfind hother).symm
    exact ⟨place', by rw [hput, hother, Except.map, hrefresh, if_neg hplace]⟩

/-- What is no file takes no text. -/
theorem write_cases (tree : FileTree) (path : Path) {text : String} (htext : text ≠ "") :
    tree.HoldsFile path ∨ ∃ failure, write path false text tree = ⟨.failed failure, tree, []⟩ := by
  cases hfind : tree.find path with
  | error cause =>
    refine .inr ⟨.ioWrite path text cause, ?_⟩
    simp [write, FileTree.write, FileTree.findForWriting, hfind, bind, Except.bind]
  | ok found =>
    obtain ⟨place, _ | bytes | _⟩ := found
    case file => exact .inl ⟨place, bytes, hfind⟩
    case directory =>
      refine .inr ⟨.ioWrite path text (.os .isDirectory), ?_⟩
      simp [write, FileTree.write, FileTree.findForWriting, hfind, Entry.replaced, bind, Except.bind]
    case fullDevice =>
      refine .inr ⟨.ioWrite path text (.os .noSpace), ?_⟩
      simp [write, FileTree.write, FileTree.findForWriting, hfind, Entry.replaced, htext, bind,
        Except.bind]

/-- A file is read as before, whatever came of writing to another. -/
theorem read_write {other : Path} (h : path.Apart other) {text : String} (htext : text ≠ "")
    (tree : FileTree) : (write path false text tree).world.read other = tree.read other := by
  obtain ⟨place, bytes, hfind⟩ | ⟨failure, hrun⟩ := write_cases tree path htext
  · rw [write_eq_put hfind]
    refine FileTree.read_put (FileTree.entryAt_of_find hfind) _ fun there entry hother => ?_
    exact (h tree _ _ _ _ hfind hother).symm
  · rw [hrun]

end CoprocReset.Files
