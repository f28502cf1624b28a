import CoprocReset.Proofs.Line.LikeNew

/-!
# Lending the lines of a bank

The bank tells nobody apart: whoever has a line may call it, and the table only knows whether the
line of a name is held. `Lending` keeps beside the bank which lines were handed out under each
name, what has become of them and at which level each must be. `Registered` ties the entry of a
name to the last line under it, the only one that may still be in somebody's hands; every deed keeps
it (`Orderly.step`), and so does every row of deeds (`orderly_run`). So the bank is a file of
registers, each with one owner at a time (`exclusive_registers`).
-/

namespace CoprocReset.MemoryBank

/-! ## Deeds -/

/-- What has become of a line that was handed out. -/
inductive Fate where
  | live
  | released
  | dropped
  deriving DecidableEq, Repr

/-- A line that was handed out, and its level: the first one, or the last that was set through the
line or forced on its name since. -/
structure Loan where
  line : MemoryLine
  level : Level
  fate : Fate
  deriving DecidableEq, Repr

/-- What holders of lines and others can do with a bank. A line is called by its name and the
number of lines that were handed out under this name before. -/
inductive Deed where
  | acquire (request : LineRequest)
  | get (name : String) (number : Nat)
  | set (name : String) (number : Nat) (level : Level)
  | release (name : String) (number : Nat)
  | drop (name : String) (number : Nat)
  | refuse (name : String) (code : Files.OsCode)
  | allow (name : String)
  | force (name : String) (level : Level)

/-- The name that the deed is about. -/
def Deed.name : Deed → String
  | .acquire request => request.name
  | .get name _ | .set name _ _ | .release name _ | .drop name _ => name
  | .refuse name _ | .allow name | .force name _ => name

/-- A bank with the lines handed out under each name, and all sets, both in their order. -/
structure Lending where
  bank : MemoryBank
  loans : String → List Loan
  sets : List (String × Level)

namespace Lending

/-- Nothing was handed out yet. -/
def initial : Lending := ⟨.empty, fun _ => [], []⟩

/-- The loans with those under one name replaced. -/
def enter (lending : Lending) (name : String) (loans : List Loan) : String → List Loan :=
  fun other => if other = name then loans else lending.loans other

/-- The line, if it is still in somebody's hands. -/
def live? (lending : Lending) (name : String) (number : Nat) : Option Loan :=
  (lending.loans name)[number]?.filter (·.fate = .live)

/-- The holder of a line does something with it. Nobody can do anything with a line that was given
back or dropped. -/
def use {α : Type} (lending : Lending) (name : String) (number : Nat)
    (call : MemoryLine → Action MemoryBank α) (left : Loan → Loan) (written : List Level) : Lending :=
  match lending.live? name number with
  | none => lending
  | some loan =>
    { bank := (call loan.line lending.bank).world
      loans := lending.enter name ((lending.loans name).set number (left loan))
      sets := lending.sets ++ written.map fun level => (name, level) }

/-- What a deed leads to. -/
def step (lending : Lending) : Deed → Lending
  | .acquire request =>
    let answer := MemoryLine.acquire request lending.bank
    match answer.outcome with
    | .done line =>
      { lending with
        bank := answer.world
        loans := lending.enter request.name
          (lending.loans request.name ++ [⟨line, request.initial, .live⟩]) }
    | _ => { lending with bank := answer.world }
  | .get name number => lending.use name number MemoryLine.get id []
  | .set name number level =>
    lending.use name number (MemoryLine.set · level) (fun loan => { loan with level }) [level]
  | .release name number =>
    lending.use name number MemoryLine.release (fun loan => { loan with fate := .released }) []
  | .drop name number =>
    lending.use name number (fun _ => pure ()) (fun loan => { loan with fate := .dropped }) []
  | .refuse name code => { lending with bank := lending.bank.refuse name code }
  | .allow name => { lending with bank := lending.bank.allow name }
  | .force name level =>
    { lending with
      bank := lending.bank.force name level
      loans := lending.enter name ((lending.loans name).map fun loan => { loan with level }) }

/-- What a row of deeds leads to, from an empty bank on. -/
def run (deeds : List Deed) : Lending := deeds.foldl step initial

end Lending

/-- The code that acquiring the name is made to fail with, after one more deed. -/
def Deed.injects (name : String) (code : Option Files.OsCode) : Deed → Option Files.OsCode
  | .refuse other new => if name = other then some new else code
  | .allow other => if name = other then none else code
  | _ => code

/-- The code that acquiring the name is made to fail with, after the deeds. -/
def injected (name : String) (deeds : List Deed) : Option Files.OsCode :=
  deeds.foldl (Deed.injects name) none

/-! ## What the bank knows of its loans -/

/-- The entry that the line has: it is held until the line is released. -/
def Loan.entry (loan : Loan) : MemoryEntry :=
  ⟨loan.level, loan.line.polarity, loan.fate ≠ .released⟩

/-- The entry of a name goes with the last line handed out under it, and all others were released. -/
inductive Registered (name : String) : List Loan → Option MemoryEntry → Prop
  | unknown : Registered name [] none
  | lent {earlier : List Loan} {last : Loan} (returned : ∀ loan ∈ earlier, loan.fate = .released)
      (named : last.line.name = name) : Registered name (earlier ++ [last]) (some last.entry)

namespace Registered

variable {name : String} {loans : List Loan} {entry : Option MemoryEntry}

/-- A line in somebody's hands is the last one under its name. -/
theorem live (h : Registered name loans entry) {number : Nat} {loan : Loan}
    (hloan : loans[number]? = some loan) (hlive : loan.fate = .live) :
    ∃ earlier, loans = earlier ++ [loan] ∧ number = earlier.length ∧
      (∀ other ∈ earlier, other.fate = .released) ∧ loan.line.name = name ∧
        entry = some loan.entry := by
  cases h with
  | unknown => simp at hloan
  | @lent earlier last returned named =>
    by_cases hearlier : number < earlier.length
    · rw [List.getElem?_append_left hearlier] at hloan
      rw [returned loan (List.mem_of_getElem? hloan)] at hlive
      cases hlive
    · have hnumber : number < (earlier ++ [last]).length := (List.getElem?_eq_some_iff.1 hloan).1
      rw [List.length_append, List.length_singleton] at hnumber
      obtain rfl : number = earlier.length := by omega
      obtain rfl : last = loan := by simpa using hloan
      exact ⟨earlier, rfl, rfl, returned, named, rfl⟩

/-- The line of a name is held unless the last one that was handed out was released. -/
theorem held_iff (h : Registered name loans entry) :
    entry.any (·.held) = false ↔ ∀ loan, loans.getLast? = some loan → loan.fate = .released := by
  cases h with
  | unknown => simp
  | lent returned named => simp [Loan.entry]

/-- Then another one may be handed out. -/
theorem handOut (h : Registered name loans entry) (hfree : entry.any (·.held) = false) {loan : Loan}
    (hname : loan.line.name = name) : Registered name (loans ++ [loan]) (some loan.entry) := by
  refine .lent (fun other hother => ?_) hname
  have hlast := h.held_iff.1 hfree
  cases h with
  | unknown => cases hother
  | lent returned named =>
    rcases List.mem_append.1 hother with hother | hother
    · exact returned other hother
    · obtain rfl := List.mem_singleton.1 hother
      exact hlast other (by simp)

/-- A level is forced on every line of the name. -/
theorem force (h : Registered name loans entry) (level : Level) :
    Registered name (loans.map fun loan => { loan with level })
      (entry.map fun entry => { entry with level }) := by
  cases h with
  | unknown => exact .unknown
  | @lent earlier last returned named =>
    rw [List.map_append]
    refine @Registered.lent name _ { last with level } (fun loan hloan => ?_) named
    obtain ⟨before, hbefore, rfl⟩ := List.mem_map.1 hloan
    exact returned before hbefore

end Registered

/-- The table and the journal go with the loans and the sets. -/
structure Lending.Orderly (lending : Lending) : Prop where
  registered : ∀ name, Registered name (lending.loans name) (lending.bank.entryAt name)
  journal : lending.bank.journal = lending.sets

namespace Lending

variable {lending : Lending} {name : String} {number : Nat} {loan : Loan}

theorem live?_eq_some_iff :
    lending.live? name number = some loan ↔
      (lending.loans name)[number]? = some loan ∧ loan.fate = .live := by
  simp [live?, Option.filter_eq_some_iff]

end Lending

/-! ## Calls on a line in somebody's hands -/

/-- A call leaves the entry of one name as it is said and enters the levels in the journal; it changes
nothing else. -/
structure Touches {α : Type} (call : Action MemoryBank α) (bank : MemoryBank) (name : String)
    (after : MemoryEntry) (written : List Level) : Prop where
  entry : ∀ other, (call bank).world.entryAt other =
    if other = name then some after else bank.entryAt other
  refusals : (call bank).world.refusals = bank.refusals
  journal : (call bank).world.journal = bank.journal ++ written.map fun level => (name, level)

section Calls

variable {bank : MemoryBank} {line : MemoryLine} {entry : MemoryEntry}

theorem touches_put {α : Type} {call : Action MemoryBank α} {name : String} {journal}
    {written : List Level} {outcome : Outcome α} {log : Log}
    (hrun : call bank = ⟨outcome, { bank.put name entry with journal }, log⟩)
    (hjournal : journal = bank.journal ++ written.map fun level => (name, level)) :
    Touches call bank name entry written := by
  constructor
  · intro other
    rw [hrun, entryAt_journal, entryAt_put]
  · rw [hrun]
    rfl
  · rw [hrun, hjournal]

theorem touches_of_same {α : Type} {call : Action MemoryBank α} {name : String}
    (hrun : (call bank).world = bank) (hentry : bank.entryAt name = some entry) :
    Touches call bank name entry [] := by
  constructor
  · intro other
    rw [hrun]
    split
    · next hname => rw [hname, hentry]
    · rfl
  · rw [hrun]
  · rw [hrun, List.map_nil, List.append_nil]

theorem touches_get (hentry : bank.entryAt line.name = some entry) :
    Touches line.get bank line.name entry [] :=
  touches_of_same (memoryHardware_still line bank) hentry

theorem touches_set (hentry : bank.entryAt line.name = some entry) (level : Level) :
    Touches (line.set level) bank line.name { entry with level } [level] :=
  touches_put (MemoryLine.set_eq hentry level) rfl

theorem release_held (hentry : bank.entryAt line.name = some entry) (hheld : entry.held = true) :
    line.release bank = ⟨.done (), bank.put line.name { entry with held := false }, []⟩ := by
  simp [MemoryLine.release, Action.bind_apply, Action.andThen, Action.world, Action.update, hentry,
    hheld]

theorem touches_release (hentry : bank.entryAt line.name = some entry) (hheld : entry.held = true) :
    Touches line.release bank line.name { entry with held := false } [] :=
  touches_put (release_held hentry hheld) (List.append_nil _).symm

end Calls

section Force

variable (bank : MemoryBank) (name : String) (level : Level)

theorem entryAt_forced (other : String) :
    (bank.force name level).entryAt other =
      if other = name then (bank.entryAt name).map fun entry => { entry with level }
      else bank.entryAt other := by
  cases hentry : bank.entryAt name with
  | none =>
    simp only [force, hentry]
    split
    · next hname => rw [hname, hentry]; rfl
    · rfl
  | some entry =>
    rw [force, hentry]
    exact entryAt_put ..

theorem refusals_force : (bank.force name level).refusals = bank.refusals := by
  rw [force]
  split <;> rfl

theorem journal_force : (bank.force name level).journal = bank.journal := by
  rw [force]
  split <;> rfl

end Force

/-! ## Every deed keeps the order -/

/-- Whatever is done about one name leaves all that is known of the others. -/
structure Lending.Beside (name : String) (before after : Lending) : Prop where
  loans : after.loans name = before.loans name
  entry : after.bank.entryAt name = before.bank.entryAt name
  refusal : after.bank.refusals.lookup name = before.bank.refusals.lookup name
  journal : after.bank.journal.filter (·.1 = name) = before.bank.journal.filter (·.1 = name)

/-- What a deed leads to goes on being in order, and so do the failures to be made. -/
structure Lending.Follows (before : Lending) (deed : Deed) (after : Lending) : Prop where
  orderly : after.Orderly
  refusals : ∀ name, after.bank.refusals.lookup name =
    deed.injects name (before.bank.refusals.lookup name)
  beside : ∀ other ≠ deed.name, Beside other before after

namespace Lending

variable {lending : Lending} {name other : String} {number : Nat} {loan : Loan}

theorem enter_self (lending : Lending) (name : String) (loans : List Loan) :
    lending.enter name loans name = loans := if_pos rfl

theorem enter_other (lending : Lending) {name other : String} (hne : other ≠ name)
    (loans : List Loan) : lending.enter name loans other = lending.loans other := if_neg hne

theorem Beside.refl (name : String) (lending : Lending) : Beside name lending lending :=
  ⟨rfl, rfl, rfl, rfl⟩

/-- A line in somebody's hands is the last under its name, and its entry is as the loan says. -/
theorem Orderly.live (h : lending.Orderly) (hlive : lending.live? name number = some loan) :
    ∃ earlier, lending.loans name = earlier ++ [loan] ∧ number = earlier.length ∧
      (∀ other ∈ earlier, other.fate = .released) ∧ loan.line.name = name ∧
        lending.bank.entryAt name = some loan.entry := by
  obtain ⟨hloan, hfate⟩ := live?_eq_some_iff.1 hlive
  exact (h.registered name).live hloan hfate

/-- What the holder of a line does is done to the bank and to the loans alike. -/
theorem Orderly.use {α : Type} (h : lending.Orderly) {call : MemoryLine → Action MemoryBank α}
    {left : Loan → Loan} {written : List Level} {deed : Deed} (hname : deed.name = name)
    (hinjects : ∀ name code, deed.injects name code = code)
    (hcall : ∀ loan, loan.fate = .live → loan.line.name = name →
      lending.bank.entryAt loan.line.name = some loan.entry →
        (left loan).line = loan.line ∧
          Touches (call loan.line) lending.bank loan.line.name (left loan).entry written) :
    lending.Follows deed (lending.use name number call left written) := by
  rw [Lending.use]
  cases hlive : lending.live? name number with
  | none => exact ⟨h, fun _ => (hinjects _ _).symm, fun other _ => .refl other lending⟩
  | some loan =>
    obtain ⟨earlier, hloans, rfl, hreturned, rfl, hentry⟩ := h.live hlive
    obtain ⟨hline, htouches⟩ := hcall loan (live?_eq_some_iff.1 hlive).2 rfl hentry
    refine ⟨⟨fun other => ?_, ?_⟩, fun other => ?_,
      fun other hother => have hne := hname ▸ hother; ⟨?_, ?_, ?_, ?_⟩⟩
    · dsimp only
      rw [htouches.entry]
      by_cases hother : other = loan.line.name
      · subst hother
        rw [if_pos rfl, enter_self, hloans]
        have hset : (earlier ++ [loan]).set earlier.length (left loan) = earlier ++ [left loan] := by
          simp
        rw [hset]
        exact .lent hreturned (by rw [hline])
      · rw [if_neg hother, enter_other _ hother]
        exact h.registered other
    · dsimp only
      rw [htouches.journal, h.journal]
    · rw [hinjects]
      exact congrArg (List.lookup other) htouches.refusals
    · exact enter_other _ hne _
    · exact (htouches.entry other).trans (if_neg hne)
    · exact congrArg (List.lookup other) htouches.refusals
    · dsimp only
      rw [htouches.journal, List.filter_append]
      have hnone : (written.map fun level => (loan.line.name, level)).filter (·.1 = other) = [] := by
        simp [List.filter_eq_nil_iff, hne.symm]
      rw [hnone, List.append_nil]

/-- A name is handed out only if its last line was released. -/
theorem Orderly.acquire (h : lending.Orderly) (request : LineRequest) :
    lending.Follows (.acquire request) (lending.step (.acquire request)) := by
  obtain ⟨hfree, hrun⟩ | ⟨failure, hrun⟩ := MemoryLine.acquire_cases request lending.bank
  · simp only [step, hrun]
    refine ⟨⟨fun other => ?_, h.journal⟩, fun _ => rfl, fun other hne => ⟨?_, ?_, rfl, rfl⟩⟩
    · dsimp only
      rw [entryAt_put]
      by_cases hother : other = request.name
      · subst hother
        rw [if_pos rfl, enter_self]
        exact (h.registered request.name).handOut hfree rfl
      · rw [if_neg hother, enter_other _ hother]
        exact h.registered other
    · exact enter_other _ hne _
    · exact (entryAt_put ..).trans (if_neg hne)
  · simp only [step, hrun]
    exact ⟨h, fun _ => rfl, fun other _ => .refl other lending⟩

/-- A level is forced on the entry and on the loans. -/
theorem Orderly.force (h : lending.Orderly) (name : String) (level : Level) :
    lending.Follows (.force name level) (lending.step (.force name level)) := by
  refine ⟨⟨fun other => ?_, ?_⟩, fun other => ?_, fun other hne => ⟨?_, ?_, ?_, ?_⟩⟩
  · dsimp only [step]
    rw [entryAt_forced]
    by_cases hother : other = name
    · subst hother
      rw [if_pos rfl, enter_self]
      exact (h.registered other).force level
    · rw [if_neg hother, enter_other _ hother]
      exact h.registered other
  · exact (journal_force ..).trans h.journal
  · exact congrArg (List.lookup other) (refusals_force ..)
  · exact enter_other _ hne _
  · exact (entryAt_forced ..).trans (if_neg hne)
  · exact congrArg (List.lookup other) (refusals_force ..)
  · exact congrArg _ (journal_force ..)

/-- Every deed keeps the order, and all that is known of other names. -/
theorem Orderly.step (h : lending.Orderly) (deed : Deed) :
    lending.Follows deed (lending.step deed) := by
  cases deed with
  | acquire request => exact h.acquire request
  | get name number =>
    rw [Lending.step]
    exact h.use rfl (fun _ _ => rfl) fun loan _ _ hentry => ⟨rfl, touches_get hentry⟩
  | set name number level =>
    rw [Lending.step]
    exact h.use rfl (fun _ _ => rfl) fun loan _ _ hentry => ⟨rfl, touches_set hentry level⟩
  | release name number =>
    rw [Lending.step]
    refine h.use rfl (fun _ _ => rfl) fun loan hlive _ hentry => ⟨rfl, ?_⟩
    exact touches_release hentry (by simp [Loan.entry, hlive])
  | drop name number =>
    rw [Lending.step]
    refine h.use rfl (fun _ _ => rfl) fun loan hlive _ hentry => ⟨rfl, ?_⟩
    exact touches_of_same rfl (by simpa [Loan.entry, hlive] using hentry)
  | refuse name code =>
    refine ⟨⟨h.registered, h.journal⟩, fun _ => ?_, fun other hne => ⟨rfl, rfl, ?_, rfl⟩⟩
    · exact Assoc.lookup_insert ..
    · exact (Assoc.lookup_insert ..).trans (if_neg hne)
  | allow name =>
    refine ⟨⟨h.registered, h.journal⟩, fun _ => ?_, fun other hne => ⟨rfl, rfl, ?_, rfl⟩⟩
    · exact Assoc.lookup_erase ..
    · exact (Assoc.lookup_erase ..).trans (if_neg hne)
  | force name level => exact h.force name level

/-- So does every row of deeds. -/
theorem Orderly.foldl (h : lending.Orderly) (deeds : List Deed) :
    (deeds.foldl Lending.step lending).Orderly := by
  induction deeds generalizing lending with
  | nil => exact h
  | cons deed deeds ih => exact ih (h.step deed).orderly

theorem orderly_run (deeds : List Deed) : (run deeds).Orderly :=
  Orderly.foldl ⟨fun _ => .unknown, rfl⟩ deeds

/-- The failures to be made are those that the deeds have left. -/
theorem Orderly.refusals_foldl (h : lending.Orderly) (name : String) (deeds : List Deed) :
    (deeds.foldl Lending.step lending).bank.refusals.lookup name =
      deeds.foldl (Deed.injects name) (lending.bank.refusals.lookup name) := by
  induction deeds generalizing lending with
  | nil => rfl
  | cons deed deeds ih =>
    rw [List.foldl_cons, ih (h.step deed).orderly, (h.step deed).refusals name]
    rfl

theorem refusals_run (name : String) (deeds : List Deed) :
    (run deeds).bank.refusals.lookup name = injected name deeds :=
  Orderly.refusals_foldl ⟨fun _ => .unknown, rfl⟩ name deeds

/-! ## A line that was dropped -/

/-- The last line handed out under the name was dropped. -/
def Dropped (name : String) (lending : Lending) : Prop :=
  ∃ loan, (lending.loans name).getLast? = some loan ∧ loan.fate = .dropped

/-- Nobody has a line under the name then. -/
theorem Dropped.live? (h : Dropped name lending) (orderly : lending.Orderly) (number : Nat) :
    lending.live? name number = none := by
  cases hlive : lending.live? name number with
  | none => rfl
  | some loan =>
    obtain ⟨dropped, hlast, hdropped⟩ := h
    obtain ⟨earlier, hloans, -⟩ := orderly.live hlive
    obtain rfl : loan = dropped := by simpa [hloans] using hlast
    rw [(live?_eq_some_iff.1 hlive).2] at hdropped
    cases hdropped

/-- Its entry is held. -/
theorem Dropped.held (h : Dropped name lending) (orderly : lending.Orderly) :
    (lending.bank.entryAt name).any (·.held) = true := by
  rw [← Bool.not_eq_false, (orderly.registered name).held_iff]
  obtain ⟨loan, hlast, hdropped⟩ := h
  intro hreleased
  rw [hreleased loan hlast] at hdropped
  cases hdropped

/-- And nobody gets one: the name stays busy. -/
theorem Dropped.step (h : Dropped name lending) (orderly : lending.Orderly) (deed : Deed) :
    Dropped name (lending.step deed) := by
  by_cases hname : name = deed.name
  · have used {α : Type} (number : Nat) (call : MemoryLine → Action MemoryBank α)
        (left : Loan → Loan) (written : List Level) :
        Dropped name (lending.use name number call left written) := by
      rw [Lending.use, h.live? orderly]
      exact h
    subst hname
    cases deed with
    | acquire request =>
      obtain ⟨hfree, -⟩ | ⟨failure, hrun⟩ := MemoryLine.acquire_cases request lending.bank
      · exact absurd (h.held orderly) (Bool.eq_false_iff.1 hfree)
      · rw [Lending.step, hrun]
        exact h
    | get name number => exact used number MemoryLine.get _ _
    | set name number level => exact used number (MemoryLine.set · level) _ _
    | release name number => exact used number MemoryLine.release _ _
    | drop name number => exact used number (fun _ => (pure () : Action MemoryBank Unit)) _ _
    | refuse name code => exact h
    | allow name => exact h
    | force name level =>
      obtain ⟨loan, hlast, hdropped⟩ := h
      refine ⟨{ loan with level }, ?_, hdropped⟩
      refine (congrArg List.getLast? (enter_self lending name _)).trans ?_
      rw [List.getLast?_map]
      exact congrArg _ hlast
  · obtain ⟨loan, hlast, hdropped⟩ := h
    exact ⟨loan, ((orderly.step deed).beside name hname).loans ▸ hlast, hdropped⟩

theorem Dropped.foldl (h : Dropped name lending) (orderly : lending.Orderly) (deeds : List Deed) :
    Dropped name (deeds.foldl Lending.step lending) := by
  induction deeds generalizing lending with
  | nil => exact h
  | cons deed deeds ih => exact ih (h.step orderly deed) (orderly.step deed).orderly

/-! ## A file of registers -/

/-- A line in somebody's hands answers every call, and its entry is held and at the level. -/
theorem Orderly.answers (h : lending.Orderly) (hlive : lending.live? name number = some loan) :
    (∃ entry, lending.bank.entryAt name = some entry ∧ entry.held = true ∧
        entry.physicalLevel = loan.line.polarity.toPhysical loan.level) ∧
      loan.line.get lending.bank = ⟨.done loan.level, lending.bank, []⟩ ∧
      (∀ level, (loan.line.set level lending.bank).outcome = .done ()) ∧
      (loan.line.release lending.bank).outcome = .done () := by
  obtain ⟨earlier, -, -, -, rfl, hentry⟩ := h.live hlive
  have hheld : loan.entry.held = true := by simp [Loan.entry, (live?_eq_some_iff.1 hlive).2]
  refine ⟨⟨loan.entry, hentry, hheld, rfl⟩, ?_, fun level => ?_, ?_⟩
  · rw [MemoryLine.get_eq hentry, levelAt, hentry]
    rfl
  · rw [MemoryLine.set_eq hentry]
  · rw [release_held hentry hheld]

/-- At most one line of a name is in somebody's hands. -/
theorem Orderly.alone (h : lending.Orderly) (hlive : lending.live? name number = some loan)
    {other : Nat} (hother : (lending.live? name other).isSome) : other = number := by
  obtain ⟨second, hsecond⟩ := Option.isSome_iff_exists.1 hother
  obtain ⟨earlier, hloans, rfl, -⟩ := h.live hlive
  obtain ⟨earlier', hloans', rfl, -⟩ := h.live hsecond
  have := congrArg List.length (hloans.symm.trans hloans')
  simpa using this.symm

end Lending

/-- A refusal tells the code that was asked for, or that the line is held. -/
theorem acquire_denied {bank : MemoryBank} {request : LineRequest}
    (h : bank.refusals.lookup request.name = none → (bank.entryAt request.name).any (·.held) = true) :
    MemoryLine.acquire request bank =
      ⟨.failed (.acquisition request.name ((bank.refusals.lookup request.name).getD .busy)),
        bank, []⟩ := by
  cases hrefusal : bank.refusals.lookup request.name with
  | some code =>
    simp only [MemoryLine.acquire, Action.bind_apply, Action.andThen, Action.world, hrefusal]
    rfl
  | none =>
    simp only [MemoryLine.acquire, Action.bind_apply, Action.andThen, Action.world, hrefusal,
      h hrefusal, if_true]
    rfl

/-- After every row of deeds: a line in somebody's hands is the only one under its name, is held in
the table and answers every call, with the latest of the levels it was given. A name is handed out
exactly if nothing is injected for it and its last line was released, so never again after a line
was dropped. The journal has all sets in their order, and nobody notices what is done about other
names. -/
theorem exclusive_registers (deeds : List Deed) :
    let lending := Lending.run deeds
    (∀ name number loan, lending.live? name number = some loan →
      (∀ other, (lending.live? name other).isSome → other = number) ∧
      (∃ entry, lending.bank.entryAt name = some entry ∧ entry.held = true ∧
        entry.physicalLevel = loan.line.polarity.toPhysical loan.level) ∧
      loan.line.get lending.bank = ⟨.done loan.level, lending.bank, []⟩ ∧
      (∀ level, (loan.line.set level lending.bank).outcome = .done ()) ∧
      (loan.line.release lending.bank).outcome = .done ()) ∧
    (∀ request : LineRequest,
      let mayHave := injected request.name deeds = none ∧
        ∀ loan, (lending.loans request.name).getLast? = some loan → loan.fate = .released
      (mayHave → (MemoryLine.acquire request lending.bank).outcome =
        .done ⟨request.name, request.polarity⟩) ∧
      (¬ mayHave → MemoryLine.acquire request lending.bank =
        ⟨.failed (.acquisition request.name ((injected request.name deeds).getD ⟨16⟩)),
          lending.bank, []⟩)) ∧
    (∀ name loan, (lending.loans name).getLast? = some loan → loan.fate = .dropped →
      ∀ more, ∀ request : LineRequest, request.name = name →
        let later := Lending.run (deeds ++ more)
        ∃ code, MemoryLine.acquire request later.bank =
          ⟨.failed (.acquisition name code), later.bank, []⟩) ∧
    lending.bank.journal = lending.sets ∧
    ∀ deed : Deed, ∀ name ≠ deed.name, Lending.Beside name lending (lending.step deed) := by
  have orderly := Lending.orderly_run deeds
  refine ⟨fun name number loan hlive => ⟨fun other => orderly.alone hlive, orderly.answers hlive⟩,
    fun request => ?_, ?_, orderly.journal, fun deed => (orderly.step deed).beside⟩
  · have free := (orderly.registered request.name).held_iff
    rw [← Lending.refusals_run, ← free]
    refine ⟨fun ⟨hrefusal, hfree⟩ => ?_, fun denied => acquire_denied fun hrefusal => ?_⟩
    · rw [MemoryLine.acquire_eq hrefusal hfree]
    · simpa [hrefusal] using denied
  · rintro _ loan hlast hdropped more request rfl
    refine ⟨_, acquire_denied fun _ => ?_⟩
    rw [Lending.run, List.foldl_append]
    exact (Lending.Dropped.foldl ⟨loan, hlast, hdropped⟩ orderly more).held
      (orderly.foldl more)

end CoprocReset.MemoryBank
