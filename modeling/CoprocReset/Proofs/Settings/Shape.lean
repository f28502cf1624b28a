import CoprocReset.Settings.Document

/-!
# Which documents are accepted

A `Kind` says which values can stand for something and which of them come to the same. The kind of a
section is made of the kinds of its fields, so the kind of a whole document can be read like a list
of what may be in it (`documentFields`).

A decoder is right for a kind if it accepts what fits, and nothing else, and does not tell apart
what comes to the same (`Kind.Decodes`). There is one proof of this for all sections
(`decodes_section`), and so it holds of the decoder of documents (`isSome_ofEntries`,
`ofEntries_congr`).
-/

namespace CoprocReset.Overrides

open Toml (Value Entries ArrayForm TableForm)

/-! ## Kinds -/

/-- A kind of value. -/
structure Kind where
  /-- The value can stand for something of this kind. -/
  Fits : Value → Prop
  /-- The two values come to the same. -/
  Alike : Value → Value → Prop := Eq

/-- The fields of a section by their names, in their order. -/
abbrev Schema := List (String × Kind)

namespace Schema

/-- Each known field that is there fits. -/
def Holds (known : Schema) (field : FieldTable) : Prop :=
  ∀ entry ∈ known, ∀ value, field entry.1 = some value → entry.2.Fits value

/-- Each known field is in both, with values that come to the same, or in neither. -/
def Agrees (known : Schema) (field field' : FieldTable) : Prop :=
  ∀ entry ∈ known, Option.Rel entry.2.Alike (field entry.1) (field' entry.1)

/-- The elements begin with all fields in their order, and each fits. What follows is free. -/
inductive ElementsFit : Schema → List Value → Prop
  | rest (elements : List Value) : ElementsFit [] elements
  | cons {name : String} {kind : Kind} {known : Schema} {value : Value} {elements : List Value}
      (head : kind.Fits value) (tail : ElementsFit known elements) :
      ElementsFit ((name, kind) :: known) (value :: elements)

/-- The elements that stand for fields come to the same, as far as there are any. -/
inductive ElementsAlike : Schema → List Value → List Value → Prop
  | rest (elements elements' : List Value) : ElementsAlike [] elements elements'
  | short (known : Schema) : ElementsAlike known [] []
  | cons {name : String} {kind : Kind} {known : Schema} {value value' : Value}
      {elements elements' : List Value} (head : kind.Alike value value')
      (tail : ElementsAlike known elements elements') :
      ElementsAlike ((name, kind) :: known) (value :: elements) (value' :: elements')

/-- The value is a section in which nothing that is known is out of shape. A section may be written
as a table, in which anything else may be, or as an array; a date or time is one without fields. -/
inductive Fits (known : Schema) : Value → Prop
  | table (form : TableForm) {entries : Entries}
      (holds : known.Holds fun name => entries.lookup name) : Fits known (.table form entries)
  | array (form : ArrayForm) {elements : List Value} (fit : ElementsFit known elements) :
      Fits known (.array form elements)
  | dateTime : Fits known .dateTime

/-- The two values differ in nothing that is known: of tables in the other keys, of arrays in the
other elements, and inside what is known in what is not known there. -/
inductive Alike (known : Schema) : Value → Value → Prop
  | refl (value : Value) : Alike known value value
  | table (form form' : TableForm) {entries entries' : Entries}
      (agrees : known.Agrees (fun name => entries.lookup name) fun name => entries'.lookup name) :
      Alike known (.table form entries) (.table form' entries')
  | array (form form' : ArrayForm) {elements elements' : List Value}
      (alike : ElementsAlike known elements elements') :
      Alike known (.array form elements) (.array form' elements')

/-- The kind of a section with these fields. -/
def kind (known : Schema) : Kind := ⟨known.Fits, known.Alike⟩

end Schema

/-- A backend by its name, or by a table of one key with nothing to say about it. -/
inductive IsBackend : Value → Prop
  | name {name : String} (known : name = "sysfs" ∨ name = "memory") : IsBackend (.string name)
  | emptyTable (form inner : TableForm) {name : String} (known : name = "sysfs" ∨ name = "memory") :
      IsBackend (.table form [(name, .table inner [])])
  | emptyArray (form : TableForm) (inner : ArrayForm) {name : String}
      (known : name = "sysfs" ∨ name = "memory") : IsBackend (.table form [(name, .array inner [])])

namespace Kind

/-- A text. -/
def text : Kind where
  Fits value := ∃ text, value = .string text

/-- Yes or no. -/
def truth : Kind where
  Fits value := ∃ truth, value = .boolean truth

/-- An integer of 32 bits without a sign. -/
def lineNumber : Kind where
  Fits value := ∃ number, value = .integer number ∧ 0 ≤ number ∧ number ≤ 4294967295

/-- A backend, in letters as they are. -/
def backend : Kind where
  Fits := IsBackend

end Kind

/-- What can be said about a line. -/
def lineFields : Schema := [("gpio", .lineNumber), ("active_low", .truth)]

/-- What can be said about the device. -/
def deviceFields : Schema := [("compatible", .text), ("backend", .backend)]

/-- What can be said about directories. -/
def pathsFields : Schema := [("gpio_sysfs_dir", .text)]

/-- What can be said about the lines. -/
def linesFields : Schema := [("reset", lineFields.kind), ("boot_select", lineFields.kind)]

/-- What can be said in a document. -/
def documentFields : Schema :=
  [("device", deviceFields.kind), ("system_paths", pathsFields.kind), ("lines", linesFields.kind)]

/-! ## Decoders -/

/-- The decoder accepts what fits, and does not tell apart what comes to the same. -/
structure Kind.Decodes {α : Type} (kind : Kind) (decode : Value → Option α) : Prop where
  isSome_iff (value : Value) : (decode value).isSome = true ↔ kind.Fits value
  alike_refl (value : Value) : kind.Alike value value
  congr {value value' : Value} (h : kind.Alike value value') : decode value = decode value'

theorem decodes_text : Kind.text.Decodes text where
  isSome_iff value := by cases value <;> simp [text, Kind.text]
  alike_refl _ := rfl
  congr h := congrArg text h

theorem decodes_truth : Kind.truth.Decodes truth where
  isSome_iff value := by cases value <;> simp [truth, Kind.truth]
  alike_refl _ := rfl
  congr h := congrArg truth h

theorem decodes_lineNumber : Kind.lineNumber.Decodes lineNumber where
  isSome_iff value := by
    cases value with
    | integer number =>
      by_cases hrange : 0 ≤ number ∧ number ≤ 4294967295 <;>
        simp [lineNumber, Kind.lineNumber, hrange]
    | _ => simp [lineNumber, Kind.lineNumber]
  alike_refl _ := rfl
  congr h := congrArg lineNumber h

theorem isSome_backendOfName (name : String) :
    (backendOfName name).isSome = true ↔ name = "sysfs" ∨ name = "memory" := by
  unfold backendOfName
  split <;> simp_all

theorem decodes_backend : Kind.backend.Decodes backendField where
  isSome_iff value := by
    constructor
    · intro h
      unfold backendField at h
      split at h
      · exact .name ((isSome_backendOfName _).1 h)
      · next name value =>
        split at h
        · next hnothing =>
          unfold holdsNothing at hnothing
          split at hnothing
          · exact .emptyTable _ _ ((isSome_backendOfName _).1 h)
          · exact .emptyArray _ _ ((isSome_backendOfName _).1 h)
          · cases hnothing
        · cases h
      · cases h
    · rintro (known | ⟨-, -, known⟩ | ⟨-, -, known⟩) <;>
        exact (isSome_backendOfName _).2 known
  alike_refl _ := rfl
  congr h := congrArg backendField h

section Fields

variable {α : Type} {kind : Kind} {decode : Value → Option α} {value? value?' : Option Value}

theorem isSome_optionalField (h : kind.Decodes decode) :
    (optionalField decode value?).isSome = true ↔
      ∀ value, value? = some value → kind.Fits value := by
  cases value? with
  | none => simp [optionalField]
  | some value => simp [optionalField, ← h.isSome_iff]

theorem optionalField_congr (h : kind.Decodes decode)
    (halike : Option.Rel kind.Alike value? value?') :
    optionalField decode value? = optionalField decode value?' := by
  cases halike with
  | none => rfl
  | some halike => simp [optionalField, h.congr halike]

end Fields

/-! ## Sections -/

namespace Schema

variable {known : Schema}

/-- The fields of a section that is an array. -/
def byPosition (known : Schema) (elements : List Value) : FieldTable :=
  fun name => ((known.map Prod.fst).zip elements).lookup name

theorem byPosition_head (name : String) (kind : Kind) (known : Schema) (value : Value)
    (elements : List Value) :
    byPosition ((name, kind) :: known) (value :: elements) name = some value := by
  simp [byPosition]

/-- The first field is not in the way of the others. -/
theorem byPosition_tail {name : String} {kind : Kind} {value : Value} {elements : List Value}
    {entry : String × Kind} (hnodup : ((name, kind) :: known).map Prod.fst |>.Nodup)
    (hentry : entry ∈ known) :
    byPosition ((name, kind) :: known) (value :: elements) entry.1 =
      byPosition known elements entry.1 := by
  have hne : entry.1 ≠ name := by
    rintro rfl
    exact (List.nodup_cons.1 hnodup).1 (List.mem_map.2 ⟨entry, hentry, rfl⟩)
  simp [byPosition, List.lookup_cons, beq_eq_false_iff_ne.2 hne]

theorem elementsFit_iff (hnodup : (known.map Prod.fst).Nodup) (elements : List Value) :
    ElementsFit known elements ↔
      known.length ≤ elements.length ∧ known.Holds (known.byPosition elements) := by
  induction known generalizing elements with
  | nil => exact ⟨fun _ => ⟨Nat.zero_le _, nofun⟩, fun _ => .rest elements⟩
  | cons entry known ih =>
    obtain ⟨name, kind⟩ := entry
    have ih := ih (List.nodup_cons.1 hnodup).2
    cases elements with
    | nil => exact ⟨nofun, fun h => absurd h.1 (by simp)⟩
    | cons value elements =>
      have hholds : Holds ((name, kind) :: known) (byPosition ((name, kind) :: known)
          (value :: elements)) ↔ kind.Fits value ∧ Holds known (byPosition known elements) := by
        rw [Holds, List.forall_mem_cons, byPosition_head]
        refine and_congr (by simp) (forall₂_congr fun entry hentry => ?_)
        rw [byPosition_tail hnodup hentry]
      rw [hholds, List.length_cons, List.length_cons, Nat.succ_le_succ_iff]
      constructor
      · rintro (_ | ⟨hhead, htail⟩)
        exact ⟨((ih _).1 htail).1, hhead, ((ih _).1 htail).2⟩
      · rintro ⟨hlength, hhead, htail⟩
        exact .cons hhead ((ih _).2 ⟨hlength, htail⟩)

/-- A section fits if it has fields at all and they hold. -/
theorem fits_iff (hnodup : (known.map Prod.fst).Nodup) (value : Value) :
    known.Fits value ↔
      ∃ field, fields (known.map Prod.fst) value = some field ∧ known.Holds field := by
  constructor
  · rintro (⟨form, holds⟩ | ⟨form, fit⟩ | _)
    · exact ⟨_, rfl, holds⟩
    · obtain ⟨hlength, holds⟩ := (elementsFit_iff hnodup _).1 fit
      exact ⟨_, if_pos (by simpa using hlength), holds⟩
    · exact ⟨_, rfl, fun _ _ _ h => nomatch h⟩
  · rintro ⟨field, hfield, holds⟩
    cases value with
    | table form entries =>
      cases hfield
      exact .table form holds
    | array form elements =>
      obtain ⟨hlength, hfield⟩ := Option.ite_none_right_eq_some.1 hfield
      cases hfield
      exact .array form ((elementsFit_iff hnodup _).2 ⟨by simpa using hlength, holds⟩)
    | dateTime => exact .dateTime
    | string text => cases hfield
    | integer number => cases hfield
    | float => cases hfield
    | boolean truth => cases hfield

theorem agrees_refl (hrefl : ∀ entry ∈ known, ∀ value, entry.2.Alike value value)
    (field : FieldTable) : known.Agrees field field := by
  intro entry hentry
  cases field entry.1 with
  | none => exact .none
  | some value => exact .some (hrefl entry hentry value)

theorem agrees_of_elementsAlike (hnodup : (known.map Prod.fst).Nodup)
    {elements elements' : List Value} (h : ElementsAlike known elements elements') :
    (known.length ≤ elements.length ↔ known.length ≤ elements'.length) ∧
      known.Agrees (known.byPosition elements) (known.byPosition elements') := by
  induction h with
  | rest elements elements' => exact ⟨by simp, nofun⟩
  | short known => exact ⟨Iff.rfl, fun entry _ => by simp [byPosition]⟩
  | cons head tail ih =>
    obtain ⟨hlength, hagrees⟩ := ih (List.nodup_cons.1 hnodup).2
    refine ⟨by simpa using hlength, List.forall_mem_cons.2 ⟨?_, fun entry hentry => ?_⟩⟩
    · rw [byPosition_head, byPosition_head]
      exact .some head
    · rw [byPosition_tail hnodup hentry, byPosition_tail hnodup hentry]
      exact hagrees entry hentry

/-- Sections that come to the same have fields that come to the same, if they have any. -/
theorem fields_agree (hnodup : (known.map Prod.fst).Nodup)
    (hrefl : ∀ entry ∈ known, ∀ value, entry.2.Alike value value) {value value' : Value}
    (h : known.Alike value value') :
    Option.Rel known.Agrees (fields (known.map Prod.fst) value)
      (fields (known.map Prod.fst) value') := by
  cases h with
  | refl =>
    cases fields (known.map Prod.fst) value with
    | none => exact .none
    | some field => exact .some (agrees_refl hrefl field)
  | table form form' agrees => exact .some agrees
  | array form form' alike =>
    obtain ⟨hlength, hagrees⟩ := agrees_of_elementsAlike hnodup alike
    rw [fields, fields, List.length_map]
    split
    · next hle =>
      rw [if_pos (hlength.1 hle)]
      exact .some hagrees
    · next hlt =>
      rw [if_neg (mt hlength.2 hlt)]
      exact .none

end Schema

/-- The decoder of a section is right if what it does with the fields is. -/
theorem decodes_section {α : Type} {known : Schema} (hnodup : (known.map Prod.fst).Nodup)
    (hrefl : ∀ entry ∈ known, ∀ value, entry.2.Alike value value) {rest : FieldTable → Option α}
    (hrest : ∀ field, (rest field).isSome = true ↔ known.Holds field)
    (hcongr : ∀ field field', known.Agrees field field' → rest field = rest field') :
    known.kind.Decodes fun value => fields (known.map Prod.fst) value >>= rest where
  isSome_iff value := by
    change _ ↔ known.Fits value
    rw [Schema.fits_iff hnodup]
    cases fields (known.map Prod.fst) value <;> simp [hrest]
  alike_refl value := Schema.Alike.refl value
  congr h := by
    have hfields := Schema.fields_agree hnodup hrefl h
    revert hfields
    generalize fields (known.map Prod.fst) _ = field?, fields (known.map Prod.fst) _ = field?'
    rintro (hagrees | _)
    · exact hcongr _ _ hagrees
    · rfl

section Two

variable {α β γ : Type} {name name' : String} {kind kind' : Kind} {decode : Value → Option α}
  {decode' : Value → Option β}

theorem decodes_one (h : kind.Decodes decode) (make : Option α → γ) :
    (Schema.kind [(name, kind)]).Decodes fun value => do
      let field ← fields [name] value
      let content ← optionalField decode (field name)
      return make content := by
  refine decodes_section (by simp) (by simpa using h.alike_refl) (fun field => ?_)
    fun field field' hagrees => ?_
  · simp only [Schema.Holds, List.forall_mem_singleton, ← isSome_optionalField h]
    cases optionalField decode (field name) <;> simp
  · rw [optionalField_congr h (hagrees _ (List.mem_singleton_self _))]

theorem decodes_two (hne : name ≠ name') (h : kind.Decodes decode) (h' : kind'.Decodes decode')
    (make : Option α → Option β → γ) :
    (Schema.kind [(name, kind), (name', kind')]).Decodes fun value => do
      let field ← fields [name, name'] value
      let first ← optionalField decode (field name)
      let second ← optionalField decode' (field name')
      return make first second := by
  refine decodes_section (by simpa using hne) (by simpa using ⟨h.alike_refl, h'.alike_refl⟩)
    (fun field => ?_) fun field field' hagrees => ?_
  · simp only [Schema.Holds, List.forall_mem_cons, ← isSome_optionalField h,
      ← isSome_optionalField h']
    cases optionalField decode (field name) <;>
      cases optionalField decode' (field name') <;> simp
  · obtain ⟨hfirst, hrest⟩ := List.forall_mem_cons.1 hagrees
    have hsecond := List.forall_mem_singleton.1 hrest
    rw [optionalField_congr h hfirst, optionalField_congr h' hsecond]

end Two

theorem decodes_lineSection : lineFields.kind.Decodes lineSection :=
  decodes_two (by decide) decodes_lineNumber decodes_truth LineSection.mk

theorem decodes_deviceSection : deviceFields.kind.Decodes deviceSection :=
  decodes_two (by decide) decodes_text decodes_backend DeviceSection.mk

theorem decodes_pathsSection : pathsFields.kind.Decodes pathsSection :=
  decodes_one decodes_text PathsSection.mk

theorem decodes_linesSection : linesFields.kind.Decodes linesSection :=
  decodes_two (by decide) decodes_lineSection decodes_lineSection LinesSection.mk

/-! ## Documents -/

variable {entries entries' : Entries} {overrides : Overrides}

/-- Nothing that is known in the document is out of shape. -/
def Acceptable (entries : Entries) : Prop := documentFields.Holds fun name => entries.lookup name

/-- The two documents differ in nothing that is known. -/
def SameKnown (entries entries' : Entries) : Prop :=
  documentFields.Agrees (fun name => entries.lookup name) fun name => entries'.lookup name

theorem isSome_ofEntries (entries : Entries) :
    (ofEntries entries).isSome = true ↔ Acceptable entries := by
  simp only [Acceptable, documentFields, Schema.Holds, List.forall_mem_cons,
    ← isSome_optionalField decodes_deviceSection, ← isSome_optionalField decodes_pathsSection,
    ← isSome_optionalField decodes_linesSection, ofEntries]
  cases optionalField deviceSection (entries.lookup "device") <;>
    cases optionalField pathsSection (entries.lookup "system_paths") <;>
    cases optionalField linesSection (entries.lookup "lines") <;> simp

theorem ofEntries_congr (h : SameKnown entries entries') :
    ofEntries entries = ofEntries entries' := by
  obtain ⟨hdevice, hrest⟩ := List.forall_mem_cons.1 h
  obtain ⟨hpaths, hrest⟩ := List.forall_mem_cons.1 hrest
  have hlines := List.forall_mem_singleton.1 hrest
  rw [ofEntries, ofEntries, optionalField_congr decodes_deviceSection hdevice,
    optionalField_congr decodes_pathsSection hpaths,
    optionalField_congr decodes_linesSection hlines]

end CoprocReset.Overrides
