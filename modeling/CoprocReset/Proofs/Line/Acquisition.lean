import CoprocReset.Proofs.Files.Writes
import CoprocReset.Proofs.Line.Sysfs

/-!
# How an acquisition behind files ends

An acquisition gives texts to up to three files: `export`, unless the directory of the line is there
already, then `active_low` and `direction`. Writing to `export` makes no directory here, so a line
that is not there is not acquired, and what was exported for the purpose is taken back.

The first refusal decides what the acquisition comes to (`verdict`); the undo has no say in it.
Which files were written follows from the refusals as well (`acquire_ends`).
-/

namespace CoprocReset.SysfsLine

open Files (FileTree Path Write writeAll delivers_writeAll)

variable {gpioClass : Path} {gpio : Nat} {request : LineRequest} {tree : FileTree}

/-- The file `active_low` of the line of a number. -/
def activeLow (gpioClass : Path) (gpio : Nat) : Path := (directory gpioClass gpio).join "active_low"

/-- The file `direction` of the line of a number. -/
def direction (gpioClass : Path) (gpio : Nat) : Path := (directory gpioClass gpio).join "direction"

/-- What exports the line. -/
def exportWrite (gpioClass : Path) (gpio : Nat) : Write := ⟨gpioClass.join "export", toString gpio⟩

/-- What takes the export back. -/
def unexportWrite (gpioClass : Path) (gpio : Nat) : Write :=
  ⟨gpioClass.join "unexport", toString gpio⟩

/-- What sets the polarity. -/
def polarityWrite (gpioClass : Path) (gpio : Nat) (request : LineRequest) : Write :=
  ⟨activeLow gpioClass gpio, polarityDigit request.polarity⟩

/-- What makes the line an output at its first level. -/
def levelWrite (gpioClass : Path) (gpio : Nat) (request : LineRequest) : Write :=
  ⟨direction gpioClass gpio, directionWord (request.polarity.toPhysical request.initial)⟩

/-- What sets an exported line up. -/
def setup (gpioClass : Path) (gpio : Nat) (request : LineRequest) : List Write :=
  [polarityWrite gpioClass gpio request, levelWrite gpioClass gpio request]

/-- What is attempted for a line, in this order. -/
def attempts (gpioClass : Path) (gpio : Nat) (request : LineRequest) (tree : FileTree) :
    List Write :=
  if tree.leads (directory gpioClass gpio) then setup gpioClass gpio request
  else exportWrite gpioClass gpio :: setup gpioClass gpio request

/-- What the acquisition comes to. -/
def verdict (gpioClass : Path) (request : LineRequest) (tree : FileTree) :
    Except Failure SysfsLine :=
  match request.gpio with
  | none => .error (.acquisition request.name .invalid)
  | some gpio =>
    match tree.firstRefusal? (attempts gpioClass gpio request tree) with
    | none => .ok (ofGpio gpioClass request.name gpio request.polarity)
    | some failure => .error (.acquisition request.name (failure.osCode.getD .ioError))

/-- The line of the number is there, and can be set up as requested. -/
structure Acquirable (gpioClass : Path) (gpio : Nat) (request : LineRequest) (tree : FileTree) :
    Prop where
  leads : tree.leads (directory gpioClass gpio) = true
  polarity : tree.refusal? (polarityWrite gpioClass gpio request) = none
  level : tree.refusal? (levelWrite gpioClass gpio request) = none

/-- The line is not there, and is exported for the acquisition. -/
structure Exports (gpioClass : Path) (gpio : Nat) (tree : FileTree) : Prop where
  missing : tree.leads (directory gpioClass gpio) = false
  taken : tree.refusal? (exportWrite gpioClass gpio) = none

/-! ## The files -/

theorem plainName_export : Path.PlainName "export" := by constructor <;> decide

theorem plainName_activeLow : Path.PlainName "active_low" := by constructor <;> decide

theorem plainName_direction : Path.PlainName "direction" := by constructor <;> decide

theorem apart_setup (gpioClass : Path) (gpio : Nat) (request : LineRequest) :
    (setup gpioClass gpio request).Pairwise fun w w' => w.path.Apart w'.path := by
  have hapart : (activeLow gpioClass gpio).Apart (direction gpioClass gpio) :=
    Path.apart_join _ _ plainName_activeLow plainName_direction (by decide)
  simpa [setup, polarityWrite, levelWrite] using hapart

theorem apart_activeLow_unexport (gpioClass : Path) (gpio : Nat) :
    (activeLow gpioClass gpio).Apart (gpioClass.join "unexport") :=
  Path.apart_join _ _ plainName_activeLow plainName_unexport (by decide)

theorem apart_export_unexport (gpioClass : Path) :
    (gpioClass.join "export").Apart (gpioClass.join "unexport") :=
  Path.apart_join _ _ plainName_export plainName_unexport (by decide)

theorem numeral_ne_empty (gpio : Nat) : toString gpio ≠ "" := by
  intro h
  have hdigits : Nat.toDigits 10 gpio = [] := by
    simpa [Nat.toString_eq_ofList_toDigits] using congrArg String.toList h
  exact Nat.toDigits_ne_nil hdigits

theorem setup_text : ∀ w ∈ setup gpioClass gpio request, w.text ≠ "" := by
  have hdigit : polarityDigit request.polarity ≠ "" := by cases request.polarity <;> decide
  have hword (level : Level) : directionWord level ≠ "" := by cases level <;> decide
  simp [setup, polarityWrite, levelWrite, hdigit, hword]

/-- Nothing can be set up where no line is. -/
theorem setup_refused (request : LineRequest)
    (h : tree.leads (directory gpioClass gpio) = false) :
    ∃ failure, tree.refusal? (polarityWrite gpioClass gpio request) = some failure := by
  rw [← Option.ne_none_iff_exists']
  intro hnone
  obtain ⟨place, bytes, hfind⟩ :=
    (FileTree.refusal?_eq_none_iff (setup_text _ List.mem_cons_self)).1 hnone
  have hleads : tree.leads (activeLow gpioClass gpio) = true := by
    rw [FileTree.leads, show tree.find (activeLow gpioClass gpio) = _ from hfind]
    rfl
  have := FileTree.leads_of_leads_join (plainName_gpio gpio) plainName_activeLow hleads
  exact Bool.false_ne_true (h.symm.trans this)

/-- There is no refusal exactly if the line is there and can be set up. -/
theorem firstRefusal?_attempts_eq_none_iff :
    tree.firstRefusal? (attempts gpioClass gpio request tree) = none ↔
      Acquirable gpioClass gpio request tree := by
  cases hleads : tree.leads (directory gpioClass gpio) with
  | true =>
    rw [attempts, if_pos hleads, FileTree.firstRefusal?_eq_none_iff, setup, List.forall_mem_cons,
      List.forall_mem_singleton]
    exact ⟨fun ⟨hpolarity, hlevel⟩ => ⟨hleads, hpolarity, hlevel⟩,
      fun ⟨_, hpolarity, hlevel⟩ => ⟨hpolarity, hlevel⟩⟩
  | false =>
    obtain ⟨failure, hrefusal⟩ := setup_refused request hleads
    constructor
    · intro h
      have hnone := FileTree.firstRefusal?_eq_none_iff.1 h (polarityWrite gpioClass gpio request)
        (by simp [attempts, hleads, setup])
      simp [hrefusal] at hnone
    · rintro ⟨htrue, -, -⟩
      simp [hleads] at htrue

theorem verdict_eq_ok_iff {line : SysfsLine} :
    verdict gpioClass request tree = .ok line ↔ ∃ gpio, request.gpio = some gpio ∧
      Acquirable gpioClass gpio request tree ∧
      line = ofGpio gpioClass request.name gpio request.polarity := by
  rw [verdict]
  cases hgpio : request.gpio with
  | none => simp
  | some gpio =>
    simp only [Option.some.injEq, exists_eq_left', ← firstRefusal?_attempts_eq_none_iff]
    cases tree.firstRefusal? (attempts gpioClass gpio request tree) <;> simp [eq_comm]

/-- Where the attempts end alike, so does the acquisition. -/
theorem verdict_congr {other : FileTree} (hgpio : request.gpio = some gpio)
    (hleads : other.leads (directory gpioClass gpio) = tree.leads (directory gpioClass gpio))
    (hrefusal : ∀ w ∈ attempts gpioClass gpio request tree, other.refusal? w = tree.refusal? w) :
    verdict gpioClass request other = verdict gpioClass request tree := by
  have hattempts :
      attempts gpioClass gpio request other = attempts gpioClass gpio request tree := by
    rw [attempts, attempts, hleads]
  have hfirst : other.firstRefusal? (attempts gpioClass gpio request tree) =
      tree.firstRefusal? (attempts gpioClass gpio request tree) :=
    FileTree.firstRefusal?_congr hrefusal
  simp only [verdict, hgpio, hattempts, hfirst]

/-! ## The steps -/

theorem configure_eq (gpioClass : Path) (gpio : Nat) (request : LineRequest) :
    configure (directory gpioClass gpio) request = writeAll (setup gpioClass gpio request) := by
  simp only [writeAll, setup, bind_pure_unit]
  rfl

theorem delivers_configure (gpioClass : Path) (gpio : Nat) (request : LineRequest)
    (tree : FileTree) :
    (configure (directory gpioClass gpio) request).Delivers tree fun result later =>
      result = (tree.firstRefusal? (setup gpioClass gpio request)).elim (.ok ()) .error ∧
        (∀ w ∈ tree.taken (setup gpioClass gpio request), later.HoldsText w.path w.text) ∧
        tree.Rewritten ((tree.taken (setup gpioClass gpio request)).map Write.path) later := by
  rw [configure_eq]
  exact delivers_writeAll (apart_setup gpioClass gpio request) setup_text tree

theorem delivers_giveUp {α : Type} {name : String} {cause : Failure}
    {post : Except Failure α → FileTree → Prop}
    (h : post (.error (.acquisition name (cause.osCode.getD .ioError))) tree) :
    (giveUp name cause).Delivers tree post :=
  .note_bind ((Action.delivers_fail _).2 h)

/-- Whatever comes of taking an export back, nobody is told. -/
theorem delivers_takeBack (gpioClass : Path) (gpio : Nat) (tree : FileTree) :
    (takeBack gpioClass gpio).Delivers tree fun result later =>
      result = .ok () ∧
        (tree.refusal? (unexportWrite gpioClass gpio) = none →
          later.HoldsText (gpioClass.join "unexport") (toString gpio)) ∧
        tree.Rewritten [gpioClass.join "unexport"] later := by
  cases hrefusal : tree.refusal? (unexportWrite gpioClass gpio) with
  | none =>
    refine .bind (.attempt ((FileTree.delivers_taken hrefusal (numeral_ne_empty gpio)).mono ?_))
    rintro _ later ⟨rfl, hheld, hlater⟩
    exact (Action.delivers_pure _).2 ⟨rfl, fun _ => hheld, hlater⟩
  | some failure =>
    refine .bind (.attempt ((FileTree.delivers_refused hrefusal).mono ?_))
    rintro _ _ ⟨rfl, rfl⟩
    exact (Action.delivers_note _ _).2
      ⟨rfl, by simp, (FileTree.Rewritten.refl _).mono (List.nil_subset _)⟩

/-! ## The acquisition -/

theorem acquire_unnumbered (h : request.gpio = none) (tree : FileTree) :
    (acquire gpioClass request).Delivers tree fun result later =>
      result = verdict gpioClass request tree ∧ later = tree := by
  rw [acquire, verdict, h]
  exact .note_bind ((Action.delivers_fail _).2 ⟨rfl, rfl⟩)

variable (hgpio : request.gpio = some gpio)
include hgpio

theorem verdict_of_refusal {failure : Failure}
    (h : tree.firstRefusal? (attempts gpioClass gpio request tree) = some failure) :
    verdict gpioClass request tree =
      .error (.acquisition request.name (failure.osCode.getD .ioError)) := by
  simp [verdict, hgpio, h]

/-- A line that is there is set up, as far as its files allow. -/
theorem acquire_present (h : tree.leads (directory gpioClass gpio) = true) :
    (acquire gpioClass request).Delivers tree fun result later =>
      result = verdict gpioClass request tree ∧
        (∀ w ∈ tree.taken (setup gpioClass gpio request), later.HoldsText w.path w.text) ∧
        tree.Rewritten ((tree.taken (setup gpioClass gpio request)).map Write.path) later := by
  have hattempts : attempts gpioClass gpio request tree = setup gpioClass gpio request := if_pos h
  have hensured : (ensureExported gpioClass request.name gpio).Delivers tree fun result later =>
      result = .ok false ∧ later = tree := by
    refine .world_bind ?_
    rw [if_pos h]
    exact .note_bind ((Action.delivers_pure _).2 ⟨rfl, rfl⟩)
  rw [acquire, hgpio]
  refine .bind (hensured.mono ?_)
  rintro _ _ ⟨rfl, rfl⟩
  refine .bind (.attempt ((delivers_configure gpioClass gpio request _).mono ?_))
  rintro result later ⟨hresult, hlater⟩
  cases hfirst : FileTree.firstRefusal? _ (setup gpioClass gpio request) with
  | none =>
    rw [hfirst] at hresult
    obtain rfl : result = .ok () := hresult
    refine (Action.delivers_pure _).2 ⟨?_, hlater⟩
    simp only [verdict, hgpio, hattempts, hfirst]
    rfl
  | some failure =>
    rw [hfirst] at hresult
    obtain rfl : result = .error failure := hresult
    exact delivers_giveUp ⟨(verdict_of_refusal hgpio (hattempts ▸ hfirst)).symm, hlater⟩

/-- A line that cannot be exported is left alone. -/
theorem acquire_not_exported {failure : Failure}
    (h : tree.leads (directory gpioClass gpio) = false)
    (hrefusal : tree.refusal? (exportWrite gpioClass gpio) = some failure) :
    (acquire gpioClass request).Delivers tree fun result later =>
      result = verdict gpioClass request tree ∧ later = tree := by
  have hfirst : tree.firstRefusal? (attempts gpioClass gpio request tree) = some failure := by
    rw [attempts, if_neg (by simp [h])]
    exact FileTree.firstRefusal?_cons_refused hrefusal
  rw [acquire, hgpio]
  refine .bind (.world_bind ?_)
  rw [if_neg (by simp [h])]
  refine .bind (.attempt ((FileTree.delivers_refused hrefusal).mono ?_))
  rintro _ _ ⟨rfl, rfl⟩
  exact delivers_giveUp ⟨(verdict_of_refusal hgpio hfirst).symm, rfl⟩

/-- A line that is there and can be set up is set up. -/
theorem acquire_granted (h : Acquirable gpioClass gpio request tree) :
    (acquire gpioClass request).Delivers tree fun _ later =>
      later.HoldsText (activeLow gpioClass gpio) (polarityDigit request.polarity) ∧
        later.HoldsText (direction gpioClass gpio)
          (directionWord (request.polarity.toPhysical request.initial)) ∧
        tree.Rewritten [activeLow gpioClass gpio, direction gpioClass gpio] later := by
  have htaken : tree.taken (setup gpioClass gpio request) = setup gpioClass gpio request := by
    rw [setup, FileTree.taken_cons_taken h.polarity, FileTree.taken_cons_taken h.level,
      FileTree.taken_nil]
  refine (acquire_present hgpio h.leads).mono ?_
  rintro result later ⟨-, hheld, hrewritten⟩
  rw [htaken] at hheld hrewritten
  simp only [setup, polarityWrite, levelWrite, List.forall_mem_cons, List.map_cons,
    List.map_nil] at hheld hrewritten
  exact ⟨hheld.1, hheld.2.1, hrewritten⟩

/-- A line that is there but cannot be set up has its polarity at most. -/
theorem acquire_refused (h : ¬ Acquirable gpioClass gpio request tree)
    (hexports : ¬ Exports gpioClass gpio tree) :
    (acquire gpioClass request).Delivers tree fun _ later =>
      tree.Rewritten [activeLow gpioClass gpio] later := by
  cases hleads : tree.leads (directory gpioClass gpio) with
  | true =>
    refine (acquire_present hgpio hleads).mono fun _ later hlater => hlater.2.2.mono ?_
    cases hpolarity : tree.refusal? (polarityWrite gpioClass gpio request) with
    | some failure => simp [setup, FileTree.taken_cons_refused hpolarity]
    | none =>
      cases hlevel : tree.refusal? (levelWrite gpioClass gpio request) with
      | some failure =>
        have htaken : tree.taken (setup gpioClass gpio request) =
            [polarityWrite gpioClass gpio request] := by
          rw [setup, FileTree.taken_cons_taken hpolarity, FileTree.taken_cons_refused hlevel]
        rw [htaken]
        exact List.Subset.refl _
      | none => exact absurd ⟨hleads, hpolarity, hlevel⟩ h
  | false =>
    cases hrefusal : tree.refusal? (exportWrite gpioClass gpio) with
    | some failure =>
      refine (acquire_not_exported hgpio hleads hrefusal).mono ?_
      rintro _ _ ⟨-, rfl⟩
      exact (FileTree.Rewritten.refl _).mono (List.nil_subset _)
    | none => exact absurd ⟨hleads, hrefusal⟩ hexports

/-- Exporting makes no line here, so it is taken back. -/
theorem acquire_exports (h : Exports gpioClass gpio tree) :
    (acquire gpioClass request).Delivers tree fun result later =>
      result = verdict gpioClass request tree ∧
        later.HoldsText (gpioClass.join "export") (toString gpio) ∧
        (tree.refusal? (unexportWrite gpioClass gpio) = none →
          later.HoldsText (gpioClass.join "unexport") (toString gpio)) ∧
        tree.Rewritten [gpioClass.join "export", gpioClass.join "unexport"] later := by
  obtain ⟨failure, hrefusal⟩ := setup_refused request h.missing
  have hfirst : tree.firstRefusal? (setup gpioClass gpio request) = some failure :=
    FileTree.firstRefusal?_cons_refused hrefusal
  have htaken : tree.taken (setup gpioClass gpio request) = [] :=
    FileTree.taken_cons_refused hrefusal
  have hattempts : tree.firstRefusal? (attempts gpioClass gpio request tree) = some failure := by
    rw [attempts, if_neg (by simp [h.missing]), FileTree.firstRefusal?_cons_taken h.taken, hfirst]
  have hensured : (ensureExported gpioClass request.name gpio).Delivers tree fun result later =>
      result = .ok true ∧ later.HoldsText (gpioClass.join "export") (toString gpio) ∧
        tree.Rewritten [gpioClass.join "export"] later := by
    refine .world_bind ?_
    rw [if_neg (by simp [h.missing])]
    refine .bind (.attempt ((FileTree.delivers_taken h.taken (numeral_ne_empty gpio)).mono ?_))
    rintro _ later ⟨rfl, hlater⟩
    exact (Action.delivers_pure _).2 ⟨rfl, hlater⟩
  rw [acquire, hgpio]
  refine .bind (hensured.mono ?_)
  rintro _ middle ⟨rfl, hexport, hmiddle⟩
  refine .bind (.attempt ((delivers_configure gpioClass gpio request middle).mono ?_))
  rintro result middle' ⟨hresult, -, hsetup⟩
  rw [hmiddle.taken_eq, htaken] at hsetup
  rw [hmiddle.firstRefusal?_eq, hfirst] at hresult
  obtain rfl : result = .error failure := hresult
  have hmiddle' := hmiddle.trans hsetup
  refine .bind ((delivers_takeBack gpioClass gpio middle').mono ?_)
  rintro _ later ⟨rfl, hunexport, hlater⟩
  refine delivers_giveUp ⟨(verdict_of_refusal hgpio hattempts).symm, ?_, ?_, hmiddle'.trans hlater⟩
  · refine hlater.holdsText ?_ (hsetup.holdsText (by simp) hexport)
    simpa using (apart_export_unexport gpioClass).symm
  · rwa [hmiddle'.refusal?_eq] at hunexport

omit hgpio

theorem acquire_outcome (gpioClass : Path) (request : LineRequest) (tree : FileTree) :
    (acquire gpioClass request tree).outcome = .ofExcept (verdict gpioClass request tree) := by
  suffices h : (acquire gpioClass request).Delivers tree fun result _ =>
      result = verdict gpioClass request tree by
    obtain ⟨result, houtcome, hresult⟩ := h
    rwa [hresult] at houtcome
  cases hgpio : request.gpio with
  | none => exact (acquire_unnumbered hgpio tree).mono fun _ _ h => h.1
  | some gpio =>
    cases hleads : tree.leads (directory gpioClass gpio) with
    | true => exact (acquire_present hgpio hleads).mono fun _ _ h => h.1
    | false =>
      cases hrefusal : tree.refusal? (exportWrite gpioClass gpio) with
      | none => exact (acquire_exports hgpio ⟨hleads, hrefusal⟩).mono fun _ _ h => h.1
      | some failure => exact (acquire_not_exported hgpio hleads hrefusal).mono fun _ _ h => h.1

/-- The first refusal decides how an acquisition ends. A line is handed out exactly if it is there
and takes its polarity and its first level; these are then in its files, and no other file has
changed. If the acquisition fails, `unexport` is written only if the acquisition had exported the
line itself, and what comes of that is not told. -/
theorem acquire_ends (gpioClass : Path) (request : LineRequest) (tree : FileTree) :
    let run := acquire gpioClass request tree
    run.outcome = .ofExcept (verdict gpioClass request tree) ∧
    (∀ line, run.outcome = .done line ↔ ∃ gpio, request.gpio = some gpio ∧
      Acquirable gpioClass gpio request tree ∧
      line = ofGpio gpioClass request.name gpio request.polarity) ∧
    (request.gpio = none → run.world = tree) ∧
    ∀ gpio, request.gpio = some gpio →
      (Acquirable gpioClass gpio request tree →
        run.world.HoldsText (activeLow gpioClass gpio) (polarityDigit request.polarity) ∧
        run.world.HoldsText (direction gpioClass gpio)
          (directionWord (request.polarity.toPhysical request.initial)) ∧
        tree.Rewritten [activeLow gpioClass gpio, direction gpioClass gpio] run.world) ∧
      (¬ Acquirable gpioClass gpio request tree → ¬ Exports gpioClass gpio tree →
        tree.Rewritten [activeLow gpioClass gpio] run.world ∧
        run.world.find (gpioClass.join "unexport") = tree.find (gpioClass.join "unexport")) ∧
      (Exports gpioClass gpio tree →
        ¬ Acquirable gpioClass gpio request tree ∧
        run.world.HoldsText (gpioClass.join "export") (toString gpio) ∧
        (tree.refusal? (unexportWrite gpioClass gpio) = none →
          run.world.HoldsText (gpioClass.join "unexport") (toString gpio)) ∧
        tree.Rewritten [gpioClass.join "export", gpioClass.join "unexport"] run.world) ∧
      ∀ other : FileTree,
        other.leads (directory gpioClass gpio) = tree.leads (directory gpioClass gpio) →
        (∀ w ∈ attempts gpioClass gpio request tree, other.refusal? w = tree.refusal? w) →
        (acquire gpioClass request other).outcome = run.outcome := by
  intro run
  have houtcome := acquire_outcome gpioClass request tree
  refine ⟨houtcome, fun line => ?_, fun hgpio => ?_, fun gpio hgpio => ⟨fun h => ?_,
    fun h hexports => ?_, fun h => ⟨fun hacquirable => ?_, ?_⟩, fun other hleads hrefusal => ?_⟩⟩
  · rw [← verdict_eq_ok_iff, houtcome]
    change Outcome.ofExcept _ = .ofExcept (.ok line) ↔ _
    exact Outcome.ofExcept_inj
  · obtain ⟨_, -, -, hworld⟩ := acquire_unnumbered hgpio tree
    exact hworld
  · obtain ⟨_, -, hworld⟩ := acquire_granted hgpio h
    exact hworld
  · obtain ⟨_, -, hrewritten⟩ := acquire_refused hgpio h hexports
    refine ⟨hrewritten, hrewritten.find_eq ?_⟩
    simpa using apart_activeLow_unexport gpioClass gpio
  · simpa [h.missing] using hacquirable.leads
  · obtain ⟨_, -, -, hworld⟩ := acquire_exports hgpio h
    exact hworld
  · have hother := acquire_outcome gpioClass request other
    rw [verdict_congr hgpio hleads hrefusal] at hother
    exact hother.trans houtcome.symm

/-- A class that takes exports, but neither makes a line nor takes an export back. -/
def barren : FileTree where
  entries := [(["gpio"], .directory), (["gpio", "export"], .file ByteArray.empty)]

/-- The request for a line that is not there. -/
def barrenRequest : LineRequest where
  gpio := some 4
  polarity := .activeLow
  name := "reset"
  initial := .high

/-- That the export is not taken back is not told: the failure is that there is no such line. -/
theorem acquire_ends_barren :
    let run := acquire ⟨"/gpio"⟩ barrenRequest barren
    run.outcome = .failed (.acquisition "reset" ⟨2⟩) ∧
      run.world.HoldsText ⟨"/gpio/export"⟩ "4" ∧
      barren.refusal? (unexportWrite ⟨"/gpio"⟩ 4) ≠ none := by
  intro run
  have hexports : Exports ⟨"/gpio"⟩ 4 barren := ⟨by rfl, by rfl⟩
  obtain ⟨houtcome, -, -, hlater⟩ := acquire_ends ⟨"/gpio"⟩ barrenRequest barren
  obtain ⟨-, hheld, -, -⟩ := (hlater 4 rfl).2.2.1 hexports
  refine ⟨houtcome, hheld, ?_⟩
  rintro ⟨⟩

end CoprocReset.SysfsLine
