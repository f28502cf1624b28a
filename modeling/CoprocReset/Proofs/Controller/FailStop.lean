import CoprocReset.Proofs.Controller.Request

/-!
# Controllers that stop for good

Threads share a controller whose lines may do anything: every call may fail or crash. A history has
ended once the lines were taken away, or once a call crashed under the lock (`ended?`). From then on no
line is touched, and every operation that anyone begins fails with the failure that the end stands for
(`lawful_run`). The invariant is `Upholds`: before the end the controller has its lines, and no thread
on its way to take them away can fail; after the end every thread under the lock is about to be refused.
-/

namespace CoprocReset

namespace Shared

variable {W L : Type} {α β : Type}

/-! ## What can be said of a history -/

/-- What everyone is told after the event who comes to the controller of that name, if the event ends
the use of its lines. -/
def Event.ends? (name : String) : Event L → Option Failure
  | .crashed _ => some (.internal (name ++ " line lock is poisoned"))
  | .unlocked _ .surrender (.ok _) =>
    some (.notReady (name ++ " has no lines: the device is not attached"))
  | _ => none

/-- What everyone is told after the history, if the use of the lines has ended. -/
def ended? (name : String) (history : List (Event L)) : Option Failure :=
  history.findSome? (Event.ends? name)

/-- The thread has begun an operation when the use of the lines had ended. -/
def Late (name : String) (thread : Nat) (history : List (Event L)) (failure : Failure) : Prop :=
  ∃ earlier since, ∃ (α : Type) (operation : Operation L α),
    history = earlier ++ .began thread operation :: since ∧ ended? name earlier = some failure

/-- What an event may be after a history. -/
structure Lawful (name : String) (history : List (Event L)) (event : Event L) : Prop where
  /-- After the end no line is touched. -/
  untouched : ∀ thread {β : Type} (request : LineCall L β), event = .called thread request →
    ended? name history = none
  /-- An operation that was begun after the end fails. -/
  refused : ∀ thread {α : Type} (operation : Operation L α) result,
    event = .returned thread operation result → ∀ failure, Late name thread history failure →
      result = .error failure
  /-- The use of the lines ends only once. -/
  once : ∀ failure, event.ends? name = some failure → ended? name history = none

variable {name : String} {history : List (Event L)} {event : Event L} {thread : Nat}
  {failure : Failure}

theorem ended?_snoc (name : String) (history : List (Event L)) (event : Event L) :
    ended? name (history ++ [event]) = (ended? name history).or (event.ends? name) := by
  rw [ended?, List.findSome?_append]
  simp [ended?]

/-- Who is late finds the history ended in the same way ever after. -/
theorem Late.ended? (h : Late name thread history failure) :
    Shared.ended? name history = some failure := by
  obtain ⟨earlier, since, _, operation, rfl, hended⟩ := h
  rw [Shared.ended?, List.findSome?_append]
  rw [Shared.ended?] at hended
  rw [hended, Option.some_or]

theorem late_snoc (h : Late name thread (history ++ [event]) failure) :
    Late name thread history failure ∨
      (∃ (α : Type) (operation : Operation L α), event = .began thread operation) ∧
        Shared.ended? name history = some failure := by
  obtain ⟨earlier, since, α, operation, hsplit, hended⟩ := h
  rcases List.eq_nil_or_concat since with rfl | ⟨since, last, rfl⟩
  · obtain ⟨rfl, hlast⟩ := List.append_inj' hsplit rfl
    exact .inr ⟨⟨α, operation, List.singleton_inj.1 hlast⟩, hended⟩
  · rw [List.concat_eq_append, ← List.cons_append, ← List.append_assoc] at hsplit
    exact .inl ⟨earlier, since, α, operation, (List.append_inj' hsplit rfl).1, hended⟩

/-! ## What a thread will say -/

/-- The script fails as soon as a stay is refused, and does nothing before. -/
def GivesUp (failure : Failure) : ControllerScript L α → Prop
  | .finish result => result = .error failure
  | .call (.enter _) next => next (.error failure) = .finish (.error failure)
  | .call (.note ..) _ => False

/-- If stays are refused from now on, the thread fails. -/
def WillFail (failure : Failure) : Thread L → Prop
  | .idle => True
  | .outside _ rest => GivesUp failure rest
  | .inside _ _ _ next => next (.error failure) = .finish (.error failure)

/-- Every operation begins with a stay, and fails if it is refused. -/
theorem givesUp_script (name : String) (operation : Operation L α) (failure : Failure) :
    GivesUp failure (operation.script name) := by
  cases operation with
  | shutdown => rfl
  | request asked => cases asked <;> rfl

/-- Taking the lines away does not fail, even if the coprocessor cannot be forced into reset. -/
theorem neverFails_routine {stay : Section L β} (htakes : stay.keepsLines = false)
    (pair : LinePair L) : (stay.routine pair).NeverFails := by
  cases stay with
  | surrender => exact (Script.neverFails_attempt _).bind fun forced => ⟨(pair, forced), rfl⟩
  | ready | classify | drive => cases htakes

/-! ## The invariant -/

variable {hw : Hardware W L} {pair : LinePair L} {shared : Shared W L}

/-- What the controller and those under its lock are at. -/
inductive Custodian (name : String) (pair : LinePair L) (history : List (Event L))
    (shared : Shared W L) : Prop
  /-- The controller has its lines, and who is to take them away will. -/
  | holding (hopen : ended? name history = none) (hcontroller : shared.controller = ⟨name, .holding pair⟩)
    (htakes : ∀ thread {α β : Type} {operation : Operation L α} {stay : Section L β} {rest next},
      shared.threads thread = .inside operation stay rest next → stay.keepsLines = false →
        rest.NeverFails)
  /-- The controller refuses everyone, and who is late fails because of it. -/
  | refusing {failure : Failure} (hended : ended? name history = some failure)
    (hrefusal : shared.controller.refusal? = some failure)
    (hinside : ∀ thread {α β : Type} {operation : Operation L α} {stay : Section L β} {rest next},
      shared.threads thread = .inside operation stay rest next → rest = .finish (.error failure))
    (hlate : ∀ thread, Late name thread history failure → WillFail failure (shared.threads thread))

/-- The invariant. -/
structure Upholds (name : String) (pair : LinePair L) (history : List (Event L))
    (shared : Shared W L) : Prop where
  owner {thread : Nat} (h : IsInside (shared.threads thread)) : shared.owner = some thread
  custodian : Custodian name pair history shared
  lawful {before : List (Event L)} {event : Event L} {after : List (Event L)}
    (h : history = before ++ event :: after) : Lawful name before event

theorem Upholds.owner_setThread (h : Upholds name pair history shared) {state : Thread L}
    (hafter : ¬IsInside state) {other : Nat}
    (hother : IsInside ((shared.setThread thread state).threads other)) :
    shared.owner = some other := by
  rw [threads_setThread] at hother
  split at hother
  · exact absurd hother hafter
  · exact h.owner hother

/-- Who is late will fail, in another state of one thread as well. -/
theorem willFail_setThread
    (h : ∀ thread, Late name thread history failure → WillFail failure (shared.threads thread))
    {state : Thread L} (hstate : WillFail failure (shared.threads thread) → WillFail failure state)
    {other : Nat} (hother : Late name other history failure) :
    WillFail failure ((shared.setThread thread state).threads other) := by
  rw [threads_setThread]
  split
  · next heq => exact hstate (h thread (heq ▸ hother))
  · exact h other hother

/-- A thread that is not under the lock changes its state, and nothing happens. -/
theorem Custodian.setThread (h : Custodian name pair history shared) {state : Thread L}
    (hafter : ¬IsInside state)
    (hstate : ∀ failure, WillFail failure (shared.threads thread) → WillFail failure state) :
    Custodian name pair history (shared.setThread thread state) := by
  have hinside {other : Nat} {α β : Type} {operation : Operation L α} {stay : Section L β} {rest next}
      (hother : (shared.setThread thread state).threads other = .inside operation stay rest next) :
      shared.threads other = .inside operation stay rest next := by
    rw [threads_setThread] at hother
    split at hother
    · exact absurd (isInside_of_eq hother) hafter
    · exact hother
  cases h with
  | holding hopen hcontroller htakes =>
    exact .holding hopen hcontroller fun other _ _ _ _ _ _ hother => htakes other (hinside hother)
  | refusing hended hrefusal hrest hlate =>
    refine .refusing hended hrefusal (fun other _ _ _ _ _ _ hother => hrest other (hinside hother)) ?_
    exact fun other hother => willFail_setThread hlate (hstate _) hother

/-- An event that ends nothing happens. Who begins an operation will be refused if everyone is. -/
theorem Custodian.snoc (h : Custodian name pair history shared) (hevent : event.ends? name = none)
    (hbegan : ∀ thread {α : Type} (operation : Operation L α), event = .began thread operation →
      ∀ failure, WillFail failure (shared.threads thread)) :
    Custodian name pair (history ++ [event]) shared := by
  have hsame : ended? name (history ++ [event]) = ended? name history := by
    rw [ended?_snoc, hevent, Option.or_none]
  cases h with
  | holding hopen hcontroller htakes => exact .holding (hsame.trans hopen) hcontroller htakes
  | refusing hended hrefusal hinside hlate =>
    refine .refusing (hsame.trans hended) hrefusal hinside fun thread hthread => ?_
    obtain hearlier | ⟨⟨_, operation, hbegin⟩, -⟩ := late_snoc hthread
    · exact hlate thread hearlier
    · exact hbegan thread operation hbegin _

/-! ## Moves outside the lock -/

theorem routine_refused {controller : Controller L} (h : controller.refusal? = some failure)
    (stay : Section L β) : controller.routine stay = .finish (.error failure) := by
  rcases controller with ⟨name, pair | _ | _⟩ <;> cases h <;> rfl

theorem leave_refused {controller : Controller L} (h : controller.refusal? = some failure)
    (stay : Section L β) (outcome : Outcome β) : controller.leave stay outcome = controller := by
  rcases controller with ⟨name, pair | _ | _⟩ <;> cases h <;> rfl

section Upholds

variable (h : Upholds name pair history shared)
include h

theorem Upholds.begin {operation : Operation L α} :
    Upholds name pair (history ++ [.began thread operation])
      (shared.setThread thread (.outside operation (operation.script shared.controller.name))) where
  owner := h.owner_setThread id
  custodian := by
    have hstate (failure : Failure) :
        WillFail failure (.outside operation (operation.script shared.controller.name)) :=
      givesUp_script _ operation failure
    refine (h.custodian.setThread id fun failure _ => hstate failure).snoc rfl ?_
    rintro other _ _ ⟨⟩ failure
    rw [threads_setThread, if_pos rfl]
    exact hstate failure
  lawful :=
    have hbegan : Lawful name history (.began thread operation) := ⟨nofun, nofun, nofun⟩
    splits_snoc h.lawful hbegan

/-- An operation that was begun after the end returns its failure. -/
theorem Upholds.lawful_returned {operation : Operation L α} {result : Except Failure α}
    (hthread : shared.threads thread = .outside operation (.finish result)) :
    Lawful name history (.returned thread operation result) := by
  refine ⟨nofun, ?_, nofun⟩
  rintro _ _ _ _ ⟨⟩ failure hlate
  cases h.custodian with
  | holding hopen => exact absurd (hopen.symm.trans hlate.ended?) nofun
  | refusing hended _ _ hfails =>
    obtain rfl := Option.some.inj (hended.symm.trans hlate.ended?)
    have hfails := hfails thread hlate
    rwa [hthread] at hfails

theorem Upholds.finish {operation : Operation L α} {result : Except Failure α}
    (hthread : shared.threads thread = .outside operation (.finish result)) :
    Upholds name pair (history ++ [.returned thread operation result])
      (shared.setThread thread .idle) where
  owner := h.owner_setThread id
  custodian := by
    have hidle (failure : Failure) : WillFail failure (.idle : Thread L) := trivial
    exact (h.custodian.setThread id fun failure _ => hidle failure).snoc rfl nofun
  lawful := splits_snoc h.lawful (h.lawful_returned hthread)

/-- A thread takes the lock. -/
theorem Upholds.lock {operation : Operation L α} {stay : Section L β}
    {next : Except Failure β → ControllerScript L α}
    (hthread : shared.threads thread = .outside operation (.call (.enter stay) next))
    (howner : shared.owner = none) :
    Upholds name pair (history ++ [.locked thread])
      { shared.setThread thread
          (.inside operation stay (shared.controller.routine stay) next) with
        owner := some thread } where
  owner {other} hother := by
    rw [threads_setThread] at hother
    split at hother
    · next heq => exact congrArg some heq.symm
    · exact absurd (h.owner hother) (by simp [howner])
  custodian := by
    have hsame : ended? name (history ++ [.locked thread]) = ended? name history := by
      rw [ended?_snoc, show (Event.locked thread).ends? name = none from rfl, Option.or_none]
    cases h.custodian with
    | holding hopen hcontroller htakes =>
      refine .holding (hsame.trans hopen) hcontroller fun other _ _ _ _ _ _ hother hkeeps => ?_
      rw [threads_setThread] at hother
      split at hother
      · obtain ⟨⟩ := hother
        have hroutine : shared.controller.routine stay = stay.routine pair := by
          rw [hcontroller, Controller.routine]
        rw [hroutine]
        exact neverFails_routine hkeeps pair
      · exact htakes other hother hkeeps
    | refusing hended hrefusal hinside hlate =>
      refine .refusing (hsame.trans hended) hrefusal (fun other _ _ _ _ _ _ hother => ?_) ?_
      · rw [threads_setThread] at hother
        split at hother
        · obtain ⟨⟩ := hother
          exact routine_refused hrefusal stay
        · exact hinside other hother
      · intro other hother
        have hearlier : Late name other history _ := (late_snoc hother).resolve_right nofun
        refine willFail_setThread hlate (fun hfails => ?_) hearlier
        rwa [hthread] at hfails
  lawful :=
    have hlocked : Lawful name history (.locked thread) := ⟨nofun, nofun, nofun⟩
    splits_snoc h.lawful hlocked

theorem Upholds.move_outside {operation : Operation L α} {rest : ControllerScript L α}
    (hthread : shared.threads thread = .outside operation rest) :
    Upholds name pair (history ++ (shared.moveOutside thread operation rest).2)
      (shared.moveOutside thread operation rest).1 := by
  cases rest with
  | finish result => exact h.finish hthread
  | call request next =>
    cases request with
    | note severity text =>
      rw [moveOutside, List.append_nil]
      refine ⟨h.owner_setThread id, h.custodian.setThread id fun failure hfails => ?_, h.lawful⟩
      rw [hthread] at hfails
      exact hfails.elim
    | enter stay =>
      rcases howner : shared.owner with _ | owner
      · simp only [moveOutside, howner]
        exact h.lock hthread howner
      · simp only [moveOutside, howner, List.append_nil]
        exact h

/-! ## Moves under the lock -/

/-- When the thread that has the lock leaves it, nobody is under it. -/
theorem Upholds.nobody (hthread : IsInside (shared.threads thread)) {state : Thread L}
    (hafter : ¬IsInside state) (other : Nat) :
    ¬IsInside ((shared.setThread thread state).threads other) := by
  intro hother
  have howner : shared.owner = some other := h.owner_setThread hafter hother
  obtain rfl := Option.some.inj ((h.owner hthread).symm.trans howner)
  rw [threads_setThread, if_pos rfl] at hother
  exact hafter hother

theorem Upholds.lawful_unlocked {operation : Operation L α} {stay : Section L β}
    {result : Except Failure β} {next : Except Failure β → ControllerScript L α}
    (hthread : shared.threads thread = .inside operation stay (.finish result) next) :
    Lawful name history (.unlocked thread stay result) := by
  refine ⟨nofun, nofun, fun failure hends => ?_⟩
  cases h.custodian with
  | holding hopen => exact hopen
  | refusing _ _ hinside =>
    obtain rfl := Script.finish.inj (hinside thread hthread)
    cases stay <;> cases hends

/-- A thread that leaves the lock leaves the lines with the controller, or takes them away, or was
refused. -/
theorem Upholds.unlock {operation : Operation L α} {stay : Section L β} {result : Except Failure β}
    {next : Except Failure β → ControllerScript L α}
    (hthread : shared.threads thread = .inside operation stay (.finish result) next) :
    Upholds name pair (history ++ [.unlocked thread stay result])
      { shared.setThread thread (.outside operation (next result)) with
        controller := shared.controller.leave stay (.ofExcept result)
        owner := none } := by
  have hnobody : ∀ other, ¬IsInside
      ((shared.setThread thread (.outside operation (next result))).threads other) :=
    h.nobody (isInside_of_eq hthread) id
  refine ⟨fun hother => absurd hother (hnobody _), ?_,
    splits_snoc h.lawful (h.lawful_unlocked hthread)⟩
  cases h.custodian with
  | holding hopen hcontroller htakes =>
    cases stay with
    | surrender =>
      -- the stay cannot have failed, so the lines are gone now
      obtain ⟨value, rfl⟩ := htakes thread hthread rfl
      have hended : ended? name (history ++ [.unlocked thread .surrender (.ok value)]) =
          some (.notReady (name ++ " has no lines: the device is not attached")) := by
        rw [ended?_snoc, hopen]
        rfl
      refine .refusing hended ?_ (fun other _ _ _ _ _ _ hother => ?_) fun other hother => ?_
      · rw [hcontroller]
        rfl
      · exact absurd (isInside_of_eq hother) (hnobody other)
      · have hearlier := (late_snoc hother).resolve_right nofun
        exact absurd (hopen.symm.trans hearlier.ended?) nofun
    | ready | classify | drive =>
      refine .holding ?_ ?_ fun other _ _ _ _ _ _ hother =>
        absurd (isInside_of_eq hother) (hnobody other)
      · rw [ended?_snoc, hopen]
        rfl
      · rw [hcontroller]
        cases result <;> rfl
  | @refusing failure hended hrefusal hinside hlate =>
    obtain rfl : result = .error failure := Script.finish.inj (hinside thread hthread)
    have hsame : ended? name (history ++ [.unlocked thread stay (.error failure)]) =
        some failure := by
      rw [ended?_snoc, hended, Option.some_or]
    refine .refusing hsame ?_ (fun other _ _ _ _ _ _ hother => ?_) fun other hother => ?_
    · rwa [leave_refused hrefusal]
    · exact absurd (isInside_of_eq hother) (hnobody other)
    · have hearlier := (late_snoc hother).resolve_right nofun
      refine willFail_setThread hlate (fun hfails => ?_) hearlier
      rw [hthread] at hfails
      change GivesUp failure (next (.error failure))
      rw [hfails]
      rfl

/-- Under the lock calls are made only while the controller has its lines. -/
theorem Upholds.holding_of_call {γ : Type} {operation : Operation L α} {stay : Section L β}
    {request : LineCall L γ} {rest : Except Failure γ → LineScript L β}
    {next : Except Failure β → ControllerScript L α}
    (hthread : shared.threads thread = .inside operation stay (.call request rest) next) :
    ended? name history = none ∧ shared.controller = ⟨name, .holding pair⟩ ∧
      ∀ thread {α β : Type} {operation : Operation L α} {stay : Section L β} {rest next},
        shared.threads thread = .inside operation stay rest next → stay.keepsLines = false →
          rest.NeverFails := by
  cases h.custodian with
  | holding hopen hcontroller htakes => exact ⟨hopen, hcontroller, htakes⟩
  | refusing _ _ hinside => exact absurd (hinside thread hthread) nofun

theorem Upholds.lawful_called {γ : Type} {operation : Operation L α} {stay : Section L β}
    {request : LineCall L γ} {rest : Except Failure γ → LineScript L β}
    {next : Except Failure β → ControllerScript L α}
    (hthread : shared.threads thread = .inside operation stay (.call request rest) next) :
    Lawful name history (.called thread request) :=
  ⟨fun _ _ _ _ => (h.holding_of_call hthread).1, nofun, nofun⟩

/-- A call is answered. -/
theorem Upholds.call {γ : Type} {operation : Operation L α} {stay : Section L β}
    {request : LineCall L γ} {rest : Except Failure γ → LineScript L β}
    {next : Except Failure β → ControllerScript L α}
    (hthread : shared.threads thread = .inside operation stay (.call request rest) next)
    (answer : Except Failure γ) (world : W) :
    Upholds name pair (history ++ [.called thread request])
      { shared.setThread thread (.inside operation stay (rest answer) next) with world } where
  owner {other} hother := by
    rw [threads_setThread] at hother
    split at hother
    · next heq =>
      rw [heq]
      exact h.owner (isInside_of_eq hthread)
    · exact h.owner hother
  custodian := by
    obtain ⟨hopen, hcontroller, htakes⟩ := h.holding_of_call hthread
    refine .holding ?_ hcontroller fun other _ _ _ _ _ _ hother hkeeps => ?_
    · rw [ended?_snoc, hopen]
      rfl
    · rw [threads_setThread] at hother
      split at hother
      · obtain ⟨⟩ := hother
        exact htakes thread hthread hkeeps answer
      · exact htakes other hother hkeeps
  lawful := splits_snoc h.lawful (h.lawful_called hthread)

/-- A call crashes, and with it ends the use of the lines. -/
theorem Upholds.crash {γ : Type} {operation : Operation L α} {stay : Section L β}
    {request : LineCall L γ} {rest : Except Failure γ → LineScript L β}
    {next : Except Failure β → ControllerScript L α}
    (hthread : shared.threads thread = .inside operation stay (.call request rest) next)
    (message : String) (world : W) :
    Upholds name pair (history ++ [.called thread request] ++ [.crashed thread])
      { shared.setThread thread .idle with
        world
        controller := shared.controller.leave stay (.crashed message)
        owner := none } := by
  have hnobody : ∀ other, ¬IsInside ((shared.setThread thread .idle).threads other) :=
    h.nobody (isInside_of_eq hthread) id
  obtain ⟨hopen, hcontroller, -⟩ := h.holding_of_call hthread
  have hopen' : ended? name (history ++ [.called thread request]) = none := by
    rw [ended?_snoc, hopen]
    rfl
  have hended : ended? name (history ++ [.called thread request] ++ [.crashed thread]) =
      some (.internal (name ++ " line lock is poisoned")) := by
    rw [ended?_snoc, hopen']
    rfl
  have hcrashed : Lawful name (history ++ [.called thread request]) (.crashed thread) :=
    ⟨nofun, nofun, fun _ _ => hopen'⟩
  refine ⟨fun hother => absurd hother (hnobody _), ?_,
    splits_snoc (splits_snoc h.lawful (h.lawful_called hthread)) hcrashed⟩
  refine .refusing hended ?_ (fun other _ _ _ _ _ _ hother => ?_) fun other hother => ?_
  · rw [hcontroller]
    rfl
  · exact absurd (isInside_of_eq hother) (hnobody other)
  · have hearlier := (late_snoc hother).resolve_right nofun
    exact absurd (hopen'.symm.trans hearlier.ended?) nofun

theorem Upholds.move_inside {operation : Operation L α} {stay : Section L β}
    {rest : LineScript L β} {next : Except Failure β → ControllerScript L α}
    (hthread : shared.threads thread = .inside operation stay rest next) :
    Upholds name pair (history ++ (shared.moveInside hw thread operation stay next rest).2)
      (shared.moveInside hw thread operation stay next rest).1 := by
  cases rest with
  | finish result => exact h.unlock hthread
  | call request rest =>
    rcases hrun : hw.perform request shared.world with ⟨value | failure | message, world, log⟩
    · simp only [moveInside, hrun]
      exact h.call hthread (.ok value) world
    · simp only [moveInside, hrun]
      exact h.call hthread (.error failure) world
    · simp only [moveInside, hrun]
      have hcrash := h.crash hthread message world
      rwa [List.append_assoc] at hcrash

theorem Upholds.move (next : Move L) :
    Upholds name pair (history ++ (shared.move hw next).2) (shared.move hw next).1 := by
  have hnothing : Upholds name pair (history ++ []) shared := by rwa [List.append_nil]
  cases next with
  | begin thread operation =>
    cases hthread : shared.threads thread with
    | idle =>
      simp only [Shared.move, hthread]
      exact h.begin
    | outside | inside => simpa only [Shared.move, hthread] using hnothing
  | advance thread =>
    cases hthread : shared.threads thread with
    | idle => simpa only [Shared.move, hthread] using hnothing
    | outside operation rest =>
      simp only [Shared.move, hthread]
      exact h.move_outside hthread
    | inside operation stay rest next =>
      simp only [Shared.move, hthread]
      exact h.move_inside hthread

end Upholds

theorem Upholds.run (h : Upholds name pair history shared) (schedule : List (Move L)) :
    Upholds name pair (history ++ (shared.run hw schedule).2) (shared.run hw schedule).1 := by
  induction schedule generalizing history shared with
  | nil => simpa [Shared.run] using h
  | cons next rest ih => simpa [Shared.run] using ih (h.move next)

theorem upholds_opened (name : String) (pair : LinePair L) (world : W) :
    Upholds name pair [] (opened name pair world) where
  owner h := h.elim
  custodian := .holding rfl rfl nofun
  lawful h := by simp at h

/-- What ends the use of the lines in a lawful history is what everyone is told ever after. -/
theorem ended?_of_mem
    (h : ∀ before event after, history = before ++ event :: after → Lawful name before event)
    (hmem : event ∈ history) (hends : event.ends? name = some failure) :
    ended? name history = some failure := by
  obtain ⟨before, after, rfl⟩ := List.append_of_mem hmem
  have hopen := (h before event after rfl).once failure hends
  rw [ended?] at hopen
  rw [ended?, List.findSome?_append, hopen, Option.none_or, List.findSome?_cons, hends]

/-- Whatever the threads do, whoever's move is next and whatever the lines do: every event is lawful,
and once an event has ended the use of the lines, the controller refuses every operation because of it,
and nothing is done. -/
theorem lawful_run (hw : Hardware W L) (name : String) (pair : LinePair L) (world : W)
    (schedule : List (Move L)) :
    let result := (opened name pair world).run hw schedule
    (∀ before event after, result.2 = before ++ event :: after → Lawful name before event) ∧
      ∀ event ∈ result.2, ∀ failure, event.ends? name = some failure →
        ∀ {α : Type} (operation : Operation L α),
          Controller.exec hw (operation.script name) (result.1.world, result.1.controller) =
            ⟨.failed failure, (result.1.world, result.1.controller), []⟩ := by
  intro result
  have hupholds : Upholds name pair result.2 result.1 := (upholds_opened name pair world).run schedule
  have hlawful (before event after) (h : result.2 = before ++ event :: after) :
    Lawful name before event := hupholds.lawful h
  refine ⟨hlawful, fun event hmem failure hends α operation => ?_⟩
  have hended := ended?_of_mem hlawful hmem hends
  cases hupholds.custodian with
  | holding hopen => exact absurd (hopen.symm.trans hended) nofun
  | refusing hended' hrefusal =>
    obtain rfl := Option.some.inj (hended'.symm.trans hended)
    exact Controller.exec_refused hrefusal name operation

end Shared

end CoprocReset
