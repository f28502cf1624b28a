import CoprocReset.Proofs.Files.Replacement
import CoprocReset.Proofs.Files.Writes
import CoprocReset.Proofs.Line.Faithful
import CoprocReset.Proofs.Text.Numeral

/-!
# Lines behind files as registers

The file of a line belongs to no one: anybody may replace what it holds. `Decoded` says what a line
makes of any bytes: a level if they are its digit with nothing but blanks around it, an error that
tells text from no text otherwise.

`History` is what happens to several lines and to the files behind them, in any order. What does not
replace the file of a line makes no difference to what is in it, one step at a time
(`RegisterEvent.find_eq`) and over a whole history (`History.find_eq`). So each line is a register of
its own: it reads what was last put in its file, by a set or from outside
(`registers_under_interference`).
-/

namespace CoprocReset

open Files (FileTree Path)

namespace SysfsLine

variable {line other : SysfsLine} {tree later : FileTree} {place : Files.Location} {level : Level}
  {bytes : ByteArray} {text : String}

/-! ## Reading bytes -/

/-- What comes of reading a line with these bytes in its file at the path. -/
structure Decoded (path : Path) (bytes : ByteArray) (outcome : Outcome Level) : Prop where
  done_iff (level : Level) : outcome = .done level ↔
    ∃ text : String, text.toUTF8 = bytes ∧ Text.Trimmed text.toList level.digit.toList
  no_text (h : ∀ text : String, text.toUTF8 ≠ bytes) :
    outcome = .failed (.ioRead path .notUtf8)
  no_level {text : String} (h : text.toUTF8 = bytes)
    (hlevel : ∀ level : Level, ¬ Text.Trimmed text.toList level.digit.toList) :
    outcome = .failed (.internal
      (path.quoted ++ " holds unexpected value " ++ Text.quote (Text.trim text)))

theorem trim_eq_iff {core : String} :
    Text.trim text = core ↔ Text.Trimmed text.toList core.toList := by
  rw [Text.trimmed_iff, Text.trim, eq_comm, ← String.toList_inj, String.toList_ofList]

/-- A text stands for a level if it is the digit with blanks around it. -/
theorem readLevel_eq_some_iff :
    readLevel text = some level ↔ Text.Trimmed text.toList level.digit.toList := by
  rw [← trim_eq_iff, readLevel]
  cases level <;> (split <;> simp_all [Level.digit])

theorem outcome_get (line : SysfsLine) (tree : FileTree) :
    (line.get tree).outcome = match tree.read line.value with
      | .error cause => .failed (.ioRead line.value cause)
      | .ok text => (readLevel text).elim
          (.failed (.internal
            (line.value.quoted ++ " holds unexpected value " ++ Text.quote (Text.trim text))))
          .done := by
  cases hread : tree.read line.value with
  | error cause =>
    have hrun : Files.read line.value tree = ⟨.failed (.ioRead line.value cause), tree, []⟩ := by
      rw [Files.read, hread]
    rw [get, Action.bind_failed hrun]
  | ok text =>
    have hrun : Files.read line.value tree = ⟨.done text, tree, []⟩ := by
      rw [Files.read, hread]
    rw [get, Action.bind_done hrun]
    dsimp only
    cases readLevel text <;> rfl

/-- A file with any bytes at all is read as they say. -/
theorem decoded_get (h : tree.find line.value = .ok (place, .file bytes)) :
    Decoded line.value bytes (line.get tree).outcome := by
  rw [outcome_get, FileTree.read, h]
  cases htext : String.fromUTF8? bytes with
  | none =>
    have hnone (text : String) : text.toUTF8 ≠ bytes := fun heq => by
      simp [FileTree.fromUTF8?_eq_some_iff.2 heq] at htext
    simp only [bind, Except.bind, Files.Entry.text, htext]
    refine ⟨fun level => iff_of_false (by simp) ?_, fun _ => rfl, fun heq => absurd heq (hnone _)⟩
    rintro ⟨text, heq, -⟩
    exact hnone text heq
  | some text =>
    obtain rfl := FileTree.fromUTF8?_eq_some_iff.1 htext
    have honly {other : String} (heq : other.toUTF8 = text.toUTF8) : other = text :=
      Option.some.inj ((FileTree.fromUTF8?_eq_some_iff.2 heq).symm.trans htext)
    simp only [bind, Except.bind, Files.Entry.text, htext]
    refine ⟨fun level => ?_, fun hnone => absurd rfl (hnone text), fun heq hlevel => ?_⟩
    · have htrimmed : readLevel text = some level ↔ ∃ other : String,
          other.toUTF8 = text.toUTF8 ∧ Text.Trimmed other.toList level.digit.toList := by
        rw [readLevel_eq_some_iff]
        refine ⟨fun h => ⟨text, rfl, h⟩, ?_⟩
        rintro ⟨other, heq, h⟩
        exact honly heq ▸ h
      rw [← htrimmed]
      cases readLevel text <;> simp
    · obtain rfl := honly heq
      have hread : readLevel _ = none := Option.eq_none_iff_forall_ne_some.2 fun level hsome =>
        hlevel level (readLevel_eq_some_iff.1 hsome)
      rw [hread]
      rfl

/-! ## Apart from each other -/

/-- The line came from an acquisition. -/
def Acquired (line : SysfsLine) : Prop :=
  ∃ gpioClass request tree, (acquire gpioClass request tree).outcome = .done line

theorem Acquired.value_eq (h : line.Acquired) :
    ∃ gpioClass, line.value = valuePath gpioClass line.gpio := by
  obtain ⟨gpioClass, request, tree, hdone⟩ := h
  obtain ⟨gpio, -, hline⟩ := (yields_acquire gpioClass request tree).done hdone line rfl
  exact ⟨gpioClass, by rw [hline, value_ofGpio]; rfl⟩

/-- Lines of two numbers have files apart, whatever class each of them is from. -/
theorem apart_of_acquired (h : line.Acquired) (h' : other.Acquired)
    (hgpio : line.gpio ≠ other.gpio) : line.value.Apart other.value := by
  obtain ⟨gpioClass, hvalue⟩ := h.value_eq
  obtain ⟨gpioClass', hvalue'⟩ := h'.value_eq
  rw [hvalue, hvalue']
  exact apart_value gpioClass gpioClass' hgpio

/-- A set that was accepted replaces the file by the digit. -/
theorem replaced_of_set {u : Unit} (h : (line.set level tree).outcome = .done u) :
    tree.Replaced line.value level.digit.toUTF8 (line.set level tree).world := by
  obtain ⟨place, bytes, hfind⟩ := holdsFile_of_set h
  have hfile := FileTree.entryAt_of_find hfind
  rw [SysfsLine.set, Files.write_eq_put hfind]
  refine ⟨place, ?_, FileTree.differAt_put (by simp [hfile]) (by simp)⟩
  rw [FileTree.find_put hfile, hfind]
  simp [Except.map, FileTree.refresh]

/-- What happens to one line makes no difference to what is read of another. -/
theorem get_set_of_apart (h : line.value.Apart other.value) (level : Level) (tree : FileTree) :
    (other.get (line.set level tree).world).outcome = (other.get tree).outcome := by
  rw [outcome_get, outcome_get, SysfsLine.set, Files.read_write h (digit_ne_empty level)]

end SysfsLine

/-! ## Histories -/

/-- Something that happens to one of several lines: a call, with what came of it if it is a set, or
its file is replaced by somebody else. -/
inductive RegisterEvent (ι : Type) where
  | get (i : ι)
  | set (i : ι) (level : Level) (result : Except Failure Unit)
  | replaced (i : ι) (bytes : ByteArray)

namespace RegisterEvent

variable {ι : Type} {lines : ι → SysfsLine} {i j : ι} {tree middle later : FileTree}
  {event : RegisterEvent ι} {events : List (RegisterEvent ι)} {place : Files.Location}
  {entry : Files.Entry}

/-- What the event makes of the files. -/
def Happens (lines : ι → SysfsLine) (tree : FileTree) : RegisterEvent ι → FileTree → Prop
  | .get i, later => later = ((lines i).get tree).world
  | .set i level result, later =>
    ((lines i).set level tree).outcome = .ofExcept result ∧
      later = ((lines i).set level tree).world
  | .replaced i bytes, later => tree.Replaced (lines i).value bytes later

/-- What the events make of the files, one after the other. -/
def History (lines : ι → SysfsLine) : FileTree → List (RegisterEvent ι) → FileTree → Prop
  | tree, [], later => later = tree
  | tree, event :: events, later =>
    ∃ middle, Happens lines tree event middle ∧ History lines middle events later

/-- Whether the event leaves other bytes in the file of the line. -/
def Writes (i : ι) : RegisterEvent ι → Prop
  | .set j _ (.ok ()) | .replaced j _ => j = i
  | _ => False

theorem History.append {earlier late : List (RegisterEvent ι)}
    (h : History lines tree (earlier ++ late) later) :
    ∃ middle, History lines tree earlier middle ∧ History lines middle late later := by
  induction earlier generalizing tree with
  | nil => exact ⟨tree, rfl, h⟩
  | cons event earlier ih =>
    obtain ⟨next, hevent, hrest⟩ := h
    obtain ⟨middle, hearlier, hlate⟩ := ih hrest
    exact ⟨middle, ⟨next, hevent, hearlier⟩, hlate⟩

section Apart

variable (hapart : ∀ i j, i ≠ j → (lines i).value.Apart (lines j).value)
include hapart

/-- What does not write to the file of a line leaves it as it is. -/
theorem find_eq (hevent : Happens lines tree event later) (hwrites : ¬ event.Writes i)
    (h : tree.find (lines i).value = .ok (place, entry)) :
    later.find (lines i).value = .ok (place, entry) := by
  cases event with
  | get j =>
    have hstill : later = tree := hevent.trans (sysfsHardware_still ⟨""⟩ (lines j) tree)
    exact hstill ▸ h
  | set j level result =>
    obtain ⟨houtcome, rfl⟩ := hevent
    cases result with
    | error failure =>
      rwa [SysfsLine.of_set_failed houtcome]
    | ok u =>
      exact ((SysfsLine.replaced_of_set houtcome).find_eq_ok_iff (hapart j i hwrites)).2 h
  | replaced j bytes => exact (hevent.find_eq_ok_iff (hapart j i hwrites)).2 h

theorem History.find_eq (h : History lines tree events later)
    (hwrites : ∀ event ∈ events, ¬ event.Writes i)
    (hfind : tree.find (lines i).value = .ok (place, entry)) :
    later.find (lines i).value = .ok (place, entry) := by
  induction events generalizing tree with
  | nil => exact h ▸ hfind
  | cons event events ih =>
    obtain ⟨hevent, hevents⟩ := List.forall_mem_cons.1 hwrites
    obtain ⟨middle, hhappens, hrest⟩ := h
    exact ih hrest hevents (RegisterEvent.find_eq hapart hhappens hevent hfind)

/-- What was put in the file of a line is there until something else is. -/
theorem History.find_of_replaced {bytes : ByteArray}
    (hreplaced : tree.Replaced (lines i).value bytes middle) (h : History lines middle events later)
    (hwrites : ∀ event ∈ events, ¬ event.Writes i) :
    ∃ place, later.find (lines i).value = .ok (place, .file bytes) :=
  let ⟨place, hfind, _⟩ := hreplaced
  ⟨place, h.find_eq hapart hwrites hfind⟩

end Apart

end RegisterEvent

open RegisterEvent (History)

/-- A line reads what it was last set to or what its file was last replaced by, and can be set
again. Nothing that happens to the others makes a difference to it, and reading makes none at all. -/
theorem registers_under_interference {ι : Type} {lines : ι → SysfsLine}
    (hacquired : ∀ i, (lines i).Acquired) (hgpio : Function.Injective fun i => (lines i).gpio)
    {start finish : FileTree} {events : List (RegisterEvent ι)}
    (h : History lines start events finish) (i : ι) :
    (∀ before level between, events = before ++ .set i level (.ok ()) :: between →
      (∀ event ∈ between, ¬ event.Writes i) →
      (lines i).get finish = ⟨.done level, finish, []⟩) ∧
    (∀ before bytes between, events = before ++ .replaced i bytes :: between →
      (∀ event ∈ between, ¬ event.Writes i) →
      SysfsLine.Decoded (lines i).value bytes ((lines i).get finish).outcome ∧
      ∀ level, ((lines i).set level finish).outcome = .done ()) ∧
    ((∀ event ∈ events, ¬ event.Writes i) → start.leads (lines i).value = true →
      ((lines i).get finish).outcome = ((lines i).get start).outcome) ∧
    (∀ j level tree, j ≠ i →
      ((lines i).get ((lines j).set level tree).world).outcome = ((lines i).get tree).outcome) ∧
    ∀ tree, ((lines i).get tree).world = tree := by
  have hapart (i j : ι) (hne : i ≠ j) : (lines i).value.Apart (lines j).value :=
    SysfsLine.apart_of_acquired (hacquired i) (hacquired j) fun heq => hne (hgpio heq)
  refine ⟨?_, ?_, ?_, ?_, ?_⟩
  · rintro before level between rfl hbetween
    obtain ⟨middle, -, next, ⟨hdone, rfl⟩, hrest⟩ := History.append h
    obtain ⟨place, hfind⟩ :=
      History.find_of_replaced hapart (SysfsLine.replaced_of_set hdone) hrest hbetween
    exact SysfsLine.IsAt.get_eq ⟨place, hfind⟩
  · rintro before bytes between rfl hbetween
    obtain ⟨middle, -, next, hreplaced, hrest⟩ := History.append h
    obtain ⟨place, hfind⟩ := History.find_of_replaced hapart hreplaced hrest hbetween
    refine ⟨SysfsLine.decoded_get hfind, fun level => ?_⟩
    obtain ⟨later, hset, -⟩ := SysfsLine.set_eq ⟨place, bytes, hfind⟩ level
    rw [hset]
  · intro hevents hleads
    obtain ⟨place, entry, hfind⟩ := FileTree.leads_iff.1 hleads
    have hread : finish.read (lines i).value = start.read (lines i).value := by
      rw [FileTree.read, FileTree.read, h.find_eq hapart hevents hfind, hfind]
    rw [SysfsLine.outcome_get, SysfsLine.outcome_get, hread]
  · exact fun j level tree hne => SysfsLine.get_set_of_apart (hapart j i hne) level tree
  · exact fun tree => sysfsHardware_still ⟨""⟩ (lines i) tree

/-- The files of two exported lines. -/
def exportedFiles : FileTree where
  entries :=
    [(["gpio"], .directory),
      (["gpio", "gpio4"], .directory), (["gpio", "gpio4", "active_low"], .file ByteArray.empty),
      (["gpio", "gpio4", "direction"], .file ByteArray.empty),
      (["gpio", "gpio4", "value"], .file "0".toUTF8),
      (["gpio", "gpio5"], .directory), (["gpio", "gpio5", "active_low"], .file ByteArray.empty),
      (["gpio", "gpio5", "direction"], .file ByteArray.empty),
      (["gpio", "gpio5", "value"], .file "0".toUTF8)]

/-- Those two lines. -/
def exportedLines (second : Bool) : SysfsLine :=
  .ofGpio ⟨"/gpio"⟩ "line" (if second then 5 else 4) .activeHigh

/-- A byte that no text has, in the file of the second line. -/
def spoiltFiles : FileTree := exportedFiles.put ["gpio", "gpio5", "value"] (.file ⟨#[255]⟩)

/-- A spoilt line cannot be read until it is set, whatever is done to the other line in between. -/
theorem registers_under_interference_spoilt :
    ((exportedLines true).get spoiltFiles).outcome =
        .failed (.ioRead ⟨"/gpio/gpio5/value"⟩ .notUtf8) ∧
      let set := ((exportedLines true).set .high spoiltFiles).world
      let finish := ((exportedLines false).set .low set).world
      (exportedLines true).get finish = ⟨.done .high, finish, []⟩ := by
  have hacquired (second : Bool) : (exportedLines second).Acquired := by
    cases second
    · exact ⟨⟨"/gpio"⟩, ⟨⟨some 4, .activeHigh⟩, "line", .low⟩, exportedFiles, by rfl⟩
    · exact ⟨⟨"/gpio"⟩, ⟨⟨some 5, .activeHigh⟩, "line", .low⟩, exportedFiles, by rfl⟩
  have hgpio : Function.Injective fun second => (exportedLines second).gpio := by
    intro second second'
    cases second <;> cases second' <;> simp [exportedLines, SysfsLine.ofGpio]
  have hspoilt : exportedFiles.Replaced (exportedLines true).value ⟨#[255]⟩ spoiltFiles := by
    refine ⟨["gpio", "gpio5", "value"], by rfl, FileTree.differAt_put (fun h => ?_) (by simp)⟩
    cases show some (Files.Entry.file "0".toUTF8) = some .directory from h
  constructor
  · have hhistory : History exportedLines exportedFiles [.replaced true ⟨#[255]⟩] spoiltFiles :=
      ⟨spoiltFiles, hspoilt, rfl⟩
    obtain ⟨-, hreplaced, -⟩ := registers_under_interference hacquired hgpio hhistory true
    refine (hreplaced [] _ [] rfl (by simp)).1.no_text fun text heq => ?_
    have hnone : String.fromUTF8? ⟨#[255]⟩ = none := by rfl
    simp [FileTree.fromUTF8?_eq_some_iff.2 heq] at hnone
  · intro set finish
    have hhistory : History exportedLines spoiltFiles
        [.set true .high (.ok ()), .set false .low (.ok ())] finish :=
      ⟨set, ⟨by rfl, rfl⟩, finish, ⟨by rfl, rfl⟩, rfl⟩
    obtain ⟨hset, -⟩ := registers_under_interference hacquired hgpio hhistory true
    exact hset [] .high _ rfl (by simp [RegisterEvent.Writes])

end CoprocReset
