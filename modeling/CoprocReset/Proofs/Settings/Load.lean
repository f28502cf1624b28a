import CoprocReset.Proofs.Action
import CoprocReset.Proofs.Files.Access
import CoprocReset.Proofs.Settings.Fields
import CoprocReset.Settings.Load

/-!
# What the settings are

`FileSays` says what comes of looking for a document in a file. Settings and log depend on nothing
but what comes of looking in two files (`load_field_by_field`): a file without a document counts as
an empty document, and the log says why it does.

A document is had or not had as a whole (`document_all_or_nothing`).
-/

namespace CoprocReset.Settings

open Files (FileTree Path)
open Overrides (Acceptable SameKnown Settles activeLowIn gpioIn)
open Toml (Entries)

variable {tree : FileTree} {path vendorPath userPath : Path} {owner text : String}
  {entries : Entries} {answer vendor user : Except Failure Entries}

/-- What comes of looking for a document in a file. -/
inductive FileSays (tree : FileTree) (path : Path) : Except Failure Entries → Prop
  | document {text : String} {entries : Entries} (held : tree.HoldsText path text)
      (read : Toml.read text = some entries) (acceptable : Acceptable entries) :
      FileSays tree path (.ok entries)
  /-- There is no regular file. -/
  | missing (missing : ¬ tree.HoldsFile path) :
      FileSays tree path (.error (.argument ("Config file not found in " ++ path.quoted)))
  /-- The bytes of the file are no text. -/
  | noText {place : Files.Location} {bytes : ByteArray}
      (found : tree.find path = .ok (place, .file bytes)) (noText : String.fromUTF8? bytes = none) :
      FileSays tree path (.error (.ioRead path .notUtf8))
  /-- The text is no document, or one with something known in it that is out of shape. -/
  | noDocument {text : String} (held : tree.HoldsText path text)
      (unread : ∀ entries, Toml.read text = some entries → ¬ Acceptable entries) :
      FileSays tree path (.error (.badDocument text))

/-- The document that counts: an empty one if there is none. -/
def counted (answer : Except Failure Entries) : Entries := answer.toOption.getD []

@[simp] theorem counted_ok (entries : Entries) : counted (.ok entries) = entries := rfl

/-- What the log says about a file: nothing if there was a document in it. -/
def warnings (owner : String) : Except Failure Entries → Log
  | .ok _ => []
  | .error failure =>
    [⟨.warn, "Using hardcoded values for " ++ owner ++
      " config because loading config failed: " ++ failure.message⟩]

/-! ## One file -/

theorem exists_fileSays (tree : FileTree) (path : Path) : ∃ answer, FileSays tree path answer := by
  have hmissing (h : ∀ place bytes, tree.find path ≠ .ok (place, .file bytes)) :
      ∃ answer, FileSays tree path answer :=
    ⟨_, .missing fun ⟨place, bytes, hfind⟩ => h place bytes hfind⟩
  rcases hfind : tree.find path with cause | ⟨place, entry⟩
  case error => exact hmissing (by simp [hfind])
  cases entry with
  | directory => exact hmissing (by simp [hfind])
  | fullDevice => exact hmissing (by simp [hfind])
  | file bytes =>
    cases htext : String.fromUTF8? bytes with
    | none => exact ⟨_, .noText hfind htext⟩
    | some text =>
      have hheld : tree.HoldsText path text := ⟨place, FileTree.fromUTF8?_eq_some_iff.1 htext ▸ hfind⟩
      by_cases h : ∃ entries, Toml.read text = some entries ∧ Acceptable entries
      · obtain ⟨entries, hread, hacceptable⟩ := h
        exact ⟨_, .document hheld hread hacceptable⟩
      · refine ⟨_, .noDocument hheld fun entries hread hacceptable => ?_⟩
        exact h ⟨entries, hread, hacceptable⟩

/-- A text is turned into overrides exactly if it is an acceptable document. -/
theorem ofDocument_eq_ok_iff {overrides : Overrides} :
    Overrides.ofDocument text = .ok overrides ↔
      ∃ entries, Toml.read text = some entries ∧ Overrides.ofEntries entries = some overrides := by
  rw [Overrides.ofDocument]
  cases hread : Toml.read text with
  | none => simp
  | some entries =>
    cases hoverrides : Overrides.ofEntries entries <;> simp [hoverrides]

theorem exists_ofDocument_iff :
    (∃ overrides, Overrides.ofDocument text = .ok overrides) ↔
      ∃ entries, Toml.read text = some entries ∧ Acceptable entries := by
  simp only [ofDocument_eq_ok_iff, ← Overrides.isSome_ofEntries, Option.isSome_iff_exists]
  exact ⟨fun ⟨overrides, entries, hread, h⟩ => ⟨entries, hread, overrides, h⟩,
    fun ⟨entries, hread, overrides, h⟩ => ⟨overrides, entries, hread, h⟩⟩

theorem isSome_ofDocument_iff (text : String) :
    (Overrides.ofDocument text).toOption.isSome = true ↔
      ∃ entries, Toml.read text = some entries ∧ Acceptable entries := by
  rw [← exists_ofDocument_iff]
  cases Overrides.ofDocument text <;> simp [Except.toOption]

theorem ofDocument_of_noDocument
    (h : ∀ entries, Toml.read text = some entries → ¬ Acceptable entries) :
    Overrides.ofDocument text = .error (.badDocument text) := by
  cases hdocument : Overrides.ofDocument text with
  | ok overrides =>
    obtain ⟨entries, hread, hacceptable⟩ := exists_ofDocument_iff.1 ⟨overrides, hdocument⟩
    exact absurd hacceptable (h entries hread)
  | error failure =>
    rw [Overrides.ofDocument] at hdocument
    split at hdocument <;> cases hdocument
    rfl

theorem readFile_eq (path : Path) (tree : FileTree) :
    readFile path tree =
      (if tree.leadsToFile path then
        Files.read path >>= fun text => Action.ofExcept (Overrides.ofDocument text)
      else Action.fail (.argument ("Config file not found in " ++ path.quoted))) tree := by
  rw [readFile, Action.bind_done (show Action.world tree = ⟨.done tree, tree, []⟩ from rfl)]
  rfl

theorem leadsToFile_iff : tree.leadsToFile path = true ↔ tree.HoldsFile path := by
  rw [FileTree.leadsToFile, FileTree.HoldsFile]
  split
  · next place bytes hfind => exact ⟨fun _ => ⟨place, bytes, hfind⟩, fun _ => rfl⟩
  · next hother => exact ⟨nofun, fun ⟨place, bytes, hfind⟩ => absurd hfind (hother place bytes)⟩

theorem readFile_holdsText (h : tree.HoldsText path text) :
    readFile path tree = ⟨.ofExcept (Overrides.ofDocument text), tree, []⟩ := by
  rw [readFile_eq, if_pos (leadsToFile_iff.2 h.holdsFile),
    Action.bind_done (Files.read_holdsText h)]
  rfl

/-- A file is read as what it says, and nothing is changed. -/
theorem FileSays.readFile_eq (h : FileSays tree path answer) :
    ∃ overrides, Overrides.ofEntries (counted answer) = some overrides ∧
      readFile path tree = ⟨.ofExcept (answer.map fun _ => overrides), tree, []⟩ := by
  cases h with
  | document held hread acceptable =>
    obtain ⟨overrides, hoverrides⟩ :=
      Option.isSome_iff_exists.1 ((Overrides.isSome_ofEntries _).2 acceptable)
    refine ⟨overrides, hoverrides, ?_⟩
    rw [readFile_holdsText held, ofDocument_eq_ok_iff.2 ⟨_, hread, hoverrides⟩]
    rfl
  | missing missing =>
    refine ⟨{}, rfl, ?_⟩
    rw [Settings.readFile_eq, if_neg (mt leadsToFile_iff.1 missing)]
    rfl
  | noText found noText =>
    refine ⟨{}, rfl, ?_⟩
    have hread : Files.read path tree = ⟨.failed (.ioRead path .notUtf8), tree, []⟩ := by
      simp [Files.read, FileTree.read, found, Files.Entry.text, noText, bind, Except.bind]
    rw [Settings.readFile_eq, if_pos (leadsToFile_iff.2 ⟨_, _, found⟩), Action.bind_failed hread]
    rfl
  | noDocument held unread =>
    refine ⟨{}, rfl, ?_⟩
    rw [readFile_holdsText held, ofDocument_of_noDocument unread]
    rfl

/-- A file that has no document counts as one that has an empty one, but for the warning. -/
theorem FileSays.readLayer_eq (h : FileSays tree path answer) (owner : String) :
    ∃ overrides, Overrides.ofEntries (counted answer) = some overrides ∧
      readLayer owner path tree = ⟨.done overrides, tree, warnings owner answer⟩ := by
  obtain ⟨overrides, hoverrides, hrun⟩ := h.readFile_eq
  refine ⟨overrides, hoverrides, ?_⟩
  rw [readLayer, Action.bind_done (Action.attempt_answered hrun)]
  cases answer with
  | ok entries => rfl
  | error failure =>
    obtain rfl : overrides = {} := (Option.some.inj hoverrides).symm
    rfl

/-! ## Two files -/

theorem load_eq (hvendor : FileSays tree vendorPath vendor) (huser : FileSays tree userPath user) :
    ∃ first second, Overrides.ofEntries (counted user) = some first ∧
      Overrides.ofEntries (counted vendor) = some second ∧
      load vendorPath userPath tree =
        ⟨.done (first.merge second).resolve, tree,
          warnings "vendor" vendor ++ warnings "user" user⟩ := by
  obtain ⟨second, hsecond, hvendorRun⟩ := hvendor.readLayer_eq "vendor"
  obtain ⟨first, hfirst, huserRun⟩ := huser.readLayer_eq "user"
  refine ⟨first, second, hfirst, hsecond, ?_⟩
  rw [load, Action.bind_done hvendorRun, Action.bind_done huserRun]
  simp

/-- Something always comes of looking for a document. From what comes of it for two files, the
settings follow field by field, and so does the log; the files are left as they are. -/
theorem load_field_by_field (vendorPath userPath : Path) (tree : FileTree) :
    (∃ vendor, FileSays tree vendorPath vendor) ∧ (∃ user, FileSays tree userPath user) ∧
    ∀ vendor user, FileSays tree vendorPath vendor → FileSays tree userPath user →
      ∃ settings, Settles (counted user) (counted vendor) settings ∧
        load vendorPath userPath tree =
          ⟨.done settings, tree, warnings "vendor" vendor ++ warnings "user" user⟩ := by
  refine ⟨exists_fileSays tree vendorPath, exists_fileSays tree userPath, ?_⟩
  intro vendor user hvendor huser
  obtain ⟨first, second, hfirst, hsecond, hrun⟩ := load_eq hvendor huser
  exact ⟨_, Overrides.settles_of_reads (Overrides.reads_of_ofEntries hfirst)
    (Overrides.reads_of_ofEntries hsecond), hrun⟩

/-- A document of the user that has only the number of the reset line. -/
def mixedUser : String := "[lines.reset]\ngpio = 20\n"

/-- A document of the vendor that has more of the reset line, and another line. -/
def mixedVendor : String :=
  "[lines.reset]\ngpio = 10\nactive_low = true\n[lines.boot_select]\ngpio = 11\n"

/-- The files with these documents. -/
def mixedFiles : FileTree :=
  ⟨[(["vendor.toml"], .file mixedVendor.toUTF8), (["user.toml"], .file mixedUser.toUTF8)]⟩

/-- The reset line gets its number from one file and its polarity from the other. -/
theorem load_field_by_field_mixed :
    ∃ settings, load ⟨"/vendor.toml"⟩ ⟨"/user.toml"⟩ mixedFiles = ⟨.done settings, mixedFiles, []⟩ ∧
      settings.reset.gpio = some 20 ∧ settings.reset.polarity = .activeLow ∧
      settings.bootSelect.gpio = some 11 := by
  obtain ⟨vendor, hvendorRead, hvendor⟩ :=
    (isSome_ofDocument_iff mixedVendor).1 (by decide +kernel)
  obtain ⟨user, huserRead, huser⟩ := (isSome_ofDocument_iff mixedUser).1 (by decide +kernel)
  have hreset : (Toml.read mixedUser).bind (gpioIn "reset") = some 20 := by decide +kernel
  have hactiveLow : (Toml.read mixedUser).bind (activeLowIn "reset") = none := by decide +kernel
  have hbootSelect : (Toml.read mixedUser).bind (gpioIn "boot_select") = none := by decide +kernel
  have hactiveLow' : (Toml.read mixedVendor).bind (activeLowIn "reset") = some true := by
    decide +kernel
  have hbootSelect' : (Toml.read mixedVendor).bind (gpioIn "boot_select") = some 11 := by
    decide +kernel
  rw [huserRead, Option.bind_some] at hreset hactiveLow hbootSelect
  rw [hvendorRead, Option.bind_some] at hactiveLow' hbootSelect'
  obtain ⟨settings, hsettles, hload⟩ :=
    (load_field_by_field ⟨"/vendor.toml"⟩ ⟨"/user.toml"⟩ mixedFiles).2.2 (.ok vendor) (.ok user)
      (.document ⟨["vendor.toml"], rfl⟩ hvendorRead hvendor)
      (.document ⟨["user.toml"], rfl⟩ huserRead huser)
  refine ⟨settings, hload, ?_, ?_, ?_⟩
  · rw [hsettles.resetGpio, counted_ok, hreset]
    rfl
  · rw [hsettles.resetPolarity, counted_ok, counted_ok, hactiveLow, hactiveLow']
    rfl
  · rw [hsettles.bootSelectGpio, counted_ok, counted_ok, hbootSelect, hbootSelect']
    rfl

/-! ## Documents as a whole -/

section Whole

variable {path' missing other : Path} {text' : String} {entries' : Entries}
  {answer' : Except Failure Entries}

/-- Files of which the same is decoded are as good as one another. -/
theorem load_congr (h : FileSays tree path answer) (h' : FileSays tree path' answer')
    (hsame : Overrides.ofEntries (counted answer) = Overrides.ofEntries (counted answer'))
    (other : Path) :
    (load path other tree).outcome = (load path' other tree).outcome ∧
      (load other path tree).outcome = (load other path' tree).outcome := by
  obtain ⟨others, hother⟩ := exists_fileSays tree other
  constructor
  · obtain ⟨first, second, hfirst, hsecond, hrun⟩ := load_eq h hother
    obtain ⟨first', second', hfirst', hsecond', hrun'⟩ := load_eq h' hother
    obtain rfl : first = first' := Option.some.inj (hfirst.symm.trans hfirst')
    obtain rfl : second = second' := Option.some.inj (hsecond.symm.trans (hsame.trans hsecond'))
    rw [hrun, hrun']
  · obtain ⟨first, second, hfirst, hsecond, hrun⟩ := load_eq hother h
    obtain ⟨first', second', hfirst', hsecond', hrun'⟩ := load_eq hother h'
    obtain rfl : first = first' := Option.some.inj (hfirst.symm.trans (hsame.trans hfirst'))
    obtain rfl : second = second' := Option.some.inj (hsecond.symm.trans hsecond')
    rw [hrun, hrun']

/-- What is decoded of a file with a text: nothing if the document is not acceptable. -/
theorem exists_fileSays_of_read (held : tree.HoldsText path text)
    (hread : Toml.read text = some entries) :
    ∃ answer, FileSays tree path answer ∧
      Overrides.ofEntries (counted answer) = some ((Overrides.ofEntries entries).getD {}) := by
  cases hoverrides : Overrides.ofEntries entries with
  | some overrides =>
    have hacceptable := (Overrides.isSome_ofEntries entries).1 (by simp [hoverrides])
    exact ⟨_, .document held hread hacceptable, hoverrides⟩
  | none =>
    refine ⟨_, .noDocument held fun other hother hacceptable => ?_, rfl⟩
    obtain rfl : entries = other := Option.some.inj (hread.symm.trans hother)
    simpa [hoverrides] using (Overrides.isSome_ofEntries entries).2 hacceptable

theorem toOption_ofDocument (hread : Toml.read text = some entries) :
    (Overrides.ofDocument text).toOption = Overrides.ofEntries entries := by
  rw [Overrides.ofDocument, hread]
  cases hoverrides : Overrides.ofEntries entries <;> simp [hoverrides, Except.toOption]

/-- A document is accepted exactly if nothing that is known in it is out of shape. Nothing else in
it makes a difference, neither to that nor to the settings. One that is not accepted gives the
settings nothing: they are those without the file. -/
theorem document_all_or_nothing (text : String) (entries : Entries)
    (hread : Toml.read text = some entries) :
    ((∃ overrides, Overrides.ofDocument text = .ok overrides) ↔ Acceptable entries) ∧
    (∀ text' entries', Toml.read text' = some entries' → SameKnown entries entries' →
      (Overrides.ofDocument text').toOption = (Overrides.ofDocument text).toOption ∧
      ∀ (tree : FileTree) (path path' other : Path), tree.HoldsText path text →
        tree.HoldsText path' text' →
        (load path' other tree).outcome = (load path other tree).outcome ∧
          (load other path' tree).outcome = (load other path tree).outcome) ∧
    (¬ Acceptable entries → ∀ (tree : FileTree) (path missing other : Path),
      tree.HoldsText path text → ¬ tree.HoldsFile missing →
      (load path other tree).outcome = (load missing other tree).outcome ∧
        (load other path tree).outcome = (load other missing tree).outcome) := by
  refine ⟨?_, fun text' entries' hread' hsame => ⟨?_, ?_⟩, ?_⟩
  · rw [exists_ofDocument_iff, hread]
    simp
  · rw [toOption_ofDocument hread, toOption_ofDocument hread', Overrides.ofEntries_congr hsame]
  · intro tree path path' other held held'
    obtain ⟨answer, hanswer, hdecoded⟩ := exists_fileSays_of_read held hread
    obtain ⟨answer', hanswer', hdecoded'⟩ := exists_fileSays_of_read held' hread'
    refine load_congr hanswer' hanswer ?_ other
    rw [hdecoded, hdecoded', Overrides.ofEntries_congr hsame]
  · intro hunacceptable tree path missing other held hmissing
    obtain ⟨answer, hanswer, hdecoded⟩ := exists_fileSays_of_read held hread
    have hnone : Overrides.ofEntries entries = none :=
      Option.not_isSome_iff_eq_none.1 (mt (Overrides.isSome_ofEntries entries).1 hunacceptable)
    refine load_congr hanswer (.missing hmissing) ?_ other
    rw [hdecoded, hnone]
    rfl

/-- A document with one backend that there is not. -/
def gpiodDocument : String := "[lines.reset]\ngpio = 4\n[device]\nbackend = \"gpiod\"\n"

/-- The file of the user with that document. -/
def gpiodFile : FileTree := ⟨[(["user.toml"], .file gpiodDocument.toUTF8)]⟩

/-- Because of the backend, the number of the line does not count either. -/
theorem document_all_or_nothing_gpiod :
    (¬ ∃ overrides, Overrides.ofDocument gpiodDocument = .ok overrides) ∧
      (load ⟨"/vendor.toml"⟩ ⟨"/user.toml"⟩ gpiodFile).outcome =
        (load ⟨"/vendor.toml"⟩ ⟨"/missing.toml"⟩ gpiodFile).outcome := by
  obtain ⟨entries, hread⟩ : ∃ entries, Toml.read gpiodDocument = some entries :=
    Option.isSome_iff_exists.1 (by decide +kernel)
  have hunacceptable : ¬ Acceptable entries := by
    have hnone : ¬ (Overrides.ofDocument gpiodDocument).toOption.isSome = true := by decide +kernel
    exact fun hacceptable => hnone ((isSome_ofDocument_iff _).2 ⟨entries, hread, hacceptable⟩)
  have hmissing : ¬ gpiodFile.HoldsFile ⟨"/missing.toml"⟩ := mt leadsToFile_iff.2 (by decide)
  obtain ⟨haccepted, -, hnothing⟩ := document_all_or_nothing gpiodDocument entries hread
  exact ⟨mt haccepted.1 hunacceptable,
    (hnothing hunacceptable gpiodFile ⟨"/user.toml"⟩ ⟨"/missing.toml"⟩ ⟨"/vendor.toml"⟩
      ⟨["user.toml"], rfl⟩ hmissing).2⟩

/-- A value with a form that a section may be written in. -/
def isCompound : Toml.Value → Bool
  | .table _ _ | .array _ _ => true
  | _ => false

/-- A date is accepted as a section, though it is neither a table nor an array; and the name of a
backend is accepted as a key with an empty array. -/
theorem accepts_neither_table_nor_array :
    (∃ entries value, Toml.read "device=1979-05-27\n[lines.reset]\ngpio=4\n" = some entries ∧
      entries.lookup "device" = some value ∧ isCompound value = false) ∧
    (Overrides.ofDocument "device=1979-05-27\n[lines.reset]\ngpio=4\n").toOption =
      some { device := some {}, lines := some { reset := some { gpio := some 4 } } } ∧
    (Overrides.ofDocument "device.backend.memory=[]\n").toOption =
      some { device := some { backend := some .memory } } := by
  refine ⟨?_, by decide +kernel, by decide +kernel⟩
  have hdevice : ((Toml.read "device=1979-05-27\n[lines.reset]\ngpio=4\n").bind
      (List.lookup "device")).map isCompound = some false := by decide +kernel
  obtain ⟨value, hvalue, hcompound⟩ := Option.map_eq_some_iff.1 hdevice
  obtain ⟨entries, hread, hlookup⟩ := Option.bind_eq_some_iff.1 hvalue
  exact ⟨entries, value, hread, hlookup, hcompound⟩

end Whole

end CoprocReset.Settings
