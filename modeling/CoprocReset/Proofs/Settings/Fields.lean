import CoprocReset.Proofs.Settings.Shape

/-!
# Fields of two documents

What a document says of a field can be read off the document itself, on the way through its
sections (`Schema.field`), and the decoder makes nothing else of it (`reads_of_ofEntries`). From what
two documents say, the settings follow one field at a time (`settles_of_reads`): no section has to be
in both documents, or in any, as one that is missing is one that says nothing (`bind_merge`).
-/

namespace CoprocReset.Overrides

open Toml (Value Entries)

/-! ## What a document says -/

/-- The value of a field in a section, if there is such a section with such a field. -/
def Schema.field (known : Schema) (name : String) (holder : Option Value) : Option Value :=
  holder.bind fun value => (fields (known.map Prod.fst) value).bind fun field => field name

variable {entries : Entries} {overrides : Overrides}

/-- The device's name in a document. -/
def compatibleIn (entries : Entries) : Option String :=
  (deviceFields.field "compatible" (entries.lookup "device")).bind text

/-- The backend in a document. -/
def backendIn (entries : Entries) : Option Backend :=
  (deviceFields.field "backend" (entries.lookup "device")).bind backendField

/-- The directory of the GPIO class in a document. -/
def gpioClassIn (entries : Entries) : Option String :=
  (pathsFields.field "gpio_sysfs_dir" (entries.lookup "system_paths")).bind text

/-- The number of a line in a document. -/
def gpioIn (line : String) (entries : Entries) : Option Nat :=
  (lineFields.field "gpio" (linesFields.field line (entries.lookup "lines"))).bind lineNumber

/-- Whether a line is active low, in a document. -/
def activeLowIn (line : String) (entries : Entries) : Option Bool :=
  (lineFields.field "active_low" (linesFields.field line (entries.lookup "lines"))).bind truth

/-! ## What the decoder makes of it -/

section Accepted

variable {σ α β : Type} {decode : Value → Option α} {decode' : Value → Option β}

/-- The content is what the decoder makes of the value. One is there exactly if the other is. -/
def Accepted (decode : Value → Option α) : Option Value → Option α → Prop :=
  Option.Rel fun value content => decode value = some content

theorem accepted_of_optionalField {value? : Option Value} {content? : Option α}
    (h : optionalField decode value? = some content?) : Accepted decode value? content? := by
  cases value? with
  | none =>
    cases h
    exact .none
  | some value =>
    obtain ⟨content, hcontent, rfl⟩ := Option.map_eq_some_iff.1 h
    exact .some hcontent

theorem Accepted.eq_bind {value? : Option Value} {content? : Option α}
    (h : Accepted decode value? content?) : content? = value?.bind decode := by
  cases h with
  | none => rfl
  | some h => exact h.symm

/-- What is accepted of a section is accepted of its fields. -/
theorem Accepted.field {known : Schema} {name : String} {decodeSection : Value → Option σ}
    {part : σ → Option α} {holder : Option Value} {content? : Option σ}
    (h : Accepted decodeSection holder content?)
    (hpart : ∀ value content, decodeSection value = some content →
      Accepted decode (known.field name (some value)) (part content)) :
    Accepted decode (known.field name holder) (content?.bind part) := by
  cases h with
  | none => exact .none
  | some h => exact hpart _ _ h

theorem accepted_one {name : String} {kind : Kind} {make : Option α → σ} {value : Value}
    {content : σ} (h : (do
      let field ← fields [name] value
      let content ← optionalField decode (field name)
      return make content) = some content) :
    ∃ first, content = make first ∧
      Accepted decode (Schema.field [(name, kind)] name (some value)) first := by
  obtain ⟨field, hfield, h⟩ := Option.bind_eq_some_iff.1 h
  obtain ⟨first, hfirst, h⟩ := Option.bind_eq_some_iff.1 h
  cases h
  refine ⟨first, rfl, ?_⟩
  simp only [Schema.field, List.map_cons, List.map_nil, Option.bind_some, hfield]
  exact accepted_of_optionalField hfirst

theorem accepted_two {name name' : String} {kind kind' : Kind} {make : Option α → Option β → σ}
    {value : Value} {content : σ} (h : (do
      let field ← fields [name, name'] value
      let first ← optionalField decode (field name)
      let second ← optionalField decode' (field name')
      return make first second) = some content) :
    ∃ first second, content = make first second ∧
      Accepted decode (Schema.field [(name, kind), (name', kind')] name (some value)) first ∧
      Accepted decode' (Schema.field [(name, kind), (name', kind')] name' (some value)) second := by
  obtain ⟨field, hfield, h⟩ := Option.bind_eq_some_iff.1 h
  obtain ⟨first, hfirst, h⟩ := Option.bind_eq_some_iff.1 h
  obtain ⟨second, hsecond, h⟩ := Option.bind_eq_some_iff.1 h
  cases h
  refine ⟨first, second, rfl, ?_⟩
  simp only [Schema.field, List.map_cons, List.map_nil, Option.bind_some, hfield]
  exact ⟨accepted_of_optionalField hfirst, accepted_of_optionalField hsecond⟩

end Accepted

theorem lineSection_accepted {value : Value} {line : LineSection}
    (h : lineSection value = some line) :
    Accepted lineNumber (lineFields.field "gpio" (some value)) line.gpio ∧
      Accepted truth (lineFields.field "active_low" (some value)) line.activeLow := by
  obtain ⟨gpio, activeLow, rfl, haccepted⟩ := accepted_two h
  exact haccepted

theorem deviceSection_accepted {value : Value} {device : DeviceSection}
    (h : deviceSection value = some device) :
    Accepted text (deviceFields.field "compatible" (some value)) device.compatible ∧
      Accepted backendField (deviceFields.field "backend" (some value)) device.backend := by
  obtain ⟨compatible, backend, rfl, haccepted⟩ := accepted_two h
  exact haccepted

theorem pathsSection_accepted {value : Value} {paths : PathsSection}
    (h : pathsSection value = some paths) :
    Accepted text (pathsFields.field "gpio_sysfs_dir" (some value)) paths.gpioClass := by
  obtain ⟨gpioClass, rfl, haccepted⟩ := accepted_one h
  exact haccepted

theorem linesSection_accepted {value : Value} {lines : LinesSection}
    (h : linesSection value = some lines) :
    Accepted lineSection (linesFields.field "reset" (some value)) lines.reset ∧
      Accepted lineSection (linesFields.field "boot_select" (some value)) lines.bootSelect := by
  obtain ⟨reset, bootSelect, rfl, haccepted⟩ := accepted_two h
  exact haccepted

/-! ## The overrides, field by field -/

/-- The device's name in the overrides. -/
def compatible? (overrides : Overrides) : Option String :=
  overrides.device.bind DeviceSection.compatible

/-- The backend in the overrides. -/
def backend? (overrides : Overrides) : Option Backend :=
  overrides.device.bind DeviceSection.backend

/-- The directory of the GPIO class in the overrides. -/
def gpioClass? (overrides : Overrides) : Option String :=
  overrides.paths.bind PathsSection.gpioClass

/-- The number of a line in the overrides. -/
def gpio? (line : LinesSection → Option LineSection) (overrides : Overrides) : Option Nat :=
  (overrides.lines.bind line).bind LineSection.gpio

/-- Whether a line is active low, in the overrides. -/
def activeLow? (line : LinesSection → Option LineSection) (overrides : Overrides) : Option Bool :=
  (overrides.lines.bind line).bind LineSection.activeLow

/-- The overrides have the fields of the document. -/
structure Reads (entries : Entries) (overrides : Overrides) : Prop where
  compatible : overrides.compatible? = compatibleIn entries
  backend : overrides.backend? = backendIn entries
  gpioClass : overrides.gpioClass? = gpioClassIn entries
  resetGpio : overrides.gpio? LinesSection.reset = gpioIn "reset" entries
  resetActiveLow : overrides.activeLow? LinesSection.reset = activeLowIn "reset" entries
  bootSelectGpio : overrides.gpio? LinesSection.bootSelect = gpioIn "boot_select" entries
  bootSelectActiveLow :
    overrides.activeLow? LinesSection.bootSelect = activeLowIn "boot_select" entries

/-- What is decoded is what the document says. -/
theorem reads_of_ofEntries (h : ofEntries entries = some overrides) : Reads entries overrides := by
  obtain ⟨device, hdevice, h⟩ := Option.bind_eq_some_iff.1 h
  obtain ⟨paths, hpaths, h⟩ := Option.bind_eq_some_iff.1 h
  obtain ⟨lines, hlines, h⟩ := Option.bind_eq_some_iff.1 h
  cases h
  have hdevice := accepted_of_optionalField hdevice
  have hlines := accepted_of_optionalField hlines
  have hreset := hlines.field fun _ _ h => (linesSection_accepted h).1
  have hbootSelect := hlines.field fun _ _ h => (linesSection_accepted h).2
  exact {
    compatible := (hdevice.field fun _ _ h => (deviceSection_accepted h).1).eq_bind
    backend := (hdevice.field fun _ _ h => (deviceSection_accepted h).2).eq_bind
    gpioClass := ((accepted_of_optionalField hpaths).field fun _ _ => pathsSection_accepted).eq_bind
    resetGpio := (hreset.field fun _ _ h => (lineSection_accepted h).1).eq_bind
    resetActiveLow := (hreset.field fun _ _ h => (lineSection_accepted h).2).eq_bind
    bootSelectGpio := (hbootSelect.field fun _ _ h => (lineSection_accepted h).1).eq_bind
    bootSelectActiveLow := (hbootSelect.field fun _ _ h => (lineSection_accepted h).2).eq_bind }

/-! ## One document over another -/

section Merge

variable {α β : Type} {merge : α → α → α}

/-- A field is taken from the first section that has it. -/
theorem bind_merge {part : α → Option β}
    (hpart : ∀ first second, part (merge first second) = (part first <|> part second))
    (first second : Option α) :
    (first.merge merge second).bind part = (first.bind part <|> second.bind part) := by
  cases first <;> cases second <;> simp [hpart]

/-- A subsection is laid over a subsection. -/
theorem bind_merge_merge {merge' : β → β → β} {part : α → Option β}
    (hpart : ∀ first second, part (merge first second) = (part first).merge merge' (part second))
    (first second : Option α) :
    (first.merge merge second).bind part = (first.bind part).merge merge' (second.bind part) := by
  cases first <;> cases second <;> simp [hpart]

end Merge

variable (first second : Overrides)

theorem compatible?_merge :
    (first.merge second).compatible? = (first.compatible? <|> second.compatible?) :=
  bind_merge (fun _ _ => rfl) _ _

theorem backend?_merge : (first.merge second).backend? = (first.backend? <|> second.backend?) :=
  bind_merge (fun _ _ => rfl) _ _

theorem gpioClass?_merge :
    (first.merge second).gpioClass? = (first.gpioClass? <|> second.gpioClass?) :=
  bind_merge (fun _ _ => rfl) _ _

section Line

variable {line : LinesSection → Option LineSection}
  (hline : ∀ first second : LinesSection,
    line (first.merge second) = (line first).merge LineSection.merge (line second))
include hline

theorem gpio?_merge :
    (first.merge second).gpio? line = (first.gpio? line <|> second.gpio? line) := by
  have hlines := bind_merge_merge hline first.lines second.lines
  exact (congrArg (Option.bind · LineSection.gpio) hlines).trans
    (bind_merge (fun _ _ => rfl) _ _)

theorem activeLow?_merge :
    (first.merge second).activeLow? line = (first.activeLow? line <|> second.activeLow? line) := by
  have hlines := bind_merge_merge hline first.lines second.lines
  exact (congrArg (Option.bind · LineSection.activeLow) hlines).trans
    (bind_merge (fun _ _ => rfl) _ _)

end Line

/-! ## The settings -/

/-- Each field is the user's, else the vendor's, else the one that holds without any document. -/
structure Settles (user vendor : Entries) (settings : Settings) : Prop where
  compatible : settings.compatible =
    (compatibleIn user <|> compatibleIn vendor).getD "portenta,x8h7rst"
  backend : settings.backend = (backendIn user <|> backendIn vendor).getD .sysfs
  gpioClass : settings.gpioClass =
    ⟨(gpioClassIn user <|> gpioClassIn vendor).getD "/sys/class/gpio/"⟩
  resetGpio : settings.reset.gpio = (gpioIn "reset" user <|> gpioIn "reset" vendor)
  resetPolarity : settings.reset.polarity =
    .ofActiveLow ((activeLowIn "reset" user <|> activeLowIn "reset" vendor).getD false)
  bootSelectGpio : settings.bootSelect.gpio =
    (gpioIn "boot_select" user <|> gpioIn "boot_select" vendor)
  bootSelectPolarity : settings.bootSelect.polarity =
    .ofActiveLow ((activeLowIn "boot_select" user <|> activeLowIn "boot_select" vendor).getD false)

/-- A section that is missing has no field. -/
theorem getD_part {σ α : Type} {part : σ → Option α} {empty : σ} (hempty : part empty = none)
    (content? : Option σ) : part (content?.getD empty) = content?.bind part := by
  cases content? with
  | none => exact hempty
  | some content => rfl

theorem resolve_compatible (overrides : Overrides) :
    overrides.resolve.compatible = overrides.compatible?.getD "portenta,x8h7rst" :=
  congrArg (Option.getD · _) (getD_part rfl overrides.device)

theorem resolve_backend (overrides : Overrides) :
    overrides.resolve.backend = overrides.backend?.getD .sysfs :=
  congrArg (Option.getD · _) (getD_part rfl overrides.device)

theorem resolve_gpioClass (overrides : Overrides) :
    overrides.resolve.gpioClass = ⟨overrides.gpioClass?.getD "/sys/class/gpio/"⟩ := by
  have hname : (overrides.paths.getD {}).gpioClass = overrides.gpioClass? :=
    getD_part rfl overrides.paths
  rw [← hname]
  rfl

/-- The fields of a line that may be missing among lines that may be missing. -/
theorem resolve_line {line : LinesSection → Option LineSection} (hline : line {} = none)
    (overrides : Overrides) :
    ((line (overrides.lines.getD {})).getD {}).resolve =
      ⟨overrides.gpio? line, .ofActiveLow ((overrides.activeLow? line).getD false)⟩ := by
  rw [LineSection.resolve, getD_part hline, getD_part (show LineSection.gpio {} = none from rfl),
    getD_part (show LineSection.activeLow {} = none from rfl)]
  rfl

theorem settles_of_reads {user vendor : Entries} {first second : Overrides}
    (huser : Reads user first) (hvendor : Reads vendor second) :
    Settles user vendor (first.merge second).resolve := by
  have hreset : (first.merge second).resolve.reset = _ :=
    resolve_line (show LinesSection.reset {} = none from rfl) (first.merge second)
  have hbootSelect : (first.merge second).resolve.bootSelect = _ :=
    resolve_line (show LinesSection.bootSelect {} = none from rfl) (first.merge second)
  rw [gpio?_merge first second fun _ _ => rfl, activeLow?_merge first second fun _ _ => rfl]
    at hreset hbootSelect
  rw [huser.resetGpio, hvendor.resetGpio, huser.resetActiveLow, hvendor.resetActiveLow] at hreset
  rw [huser.bootSelectGpio, hvendor.bootSelectGpio, huser.bootSelectActiveLow,
    hvendor.bootSelectActiveLow] at hbootSelect
  constructor
  case compatible =>
    rw [resolve_compatible, compatible?_merge, huser.compatible, hvendor.compatible]
  case backend => rw [resolve_backend, backend?_merge, huser.backend, hvendor.backend]
  case gpioClass => rw [resolve_gpioClass, gpioClass?_merge, huser.gpioClass, hvendor.gpioClass]
  case resetGpio => rw [hreset]
  case resetPolarity => rw [hreset]
  case bootSelectGpio => rw [hbootSelect]
  case bootSelectPolarity => rw [hbootSelect]

end CoprocReset.Overrides
