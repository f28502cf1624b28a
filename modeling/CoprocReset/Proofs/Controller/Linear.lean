import CoprocReset.Proofs.Controller.Alone
import CoprocReset.Proofs.Controller.InTurn
import CoprocReset.Proofs.Line.Memory

/-!
# Operations take place at once

Threads that use one controller get in between each other: a store gives the lock back between finding
out that the lines are there and driving them. All the same, every history of theirs is that of
operations carried out one after the other (`linearizable`). An operation takes place with its last
stay under the lock, or with the crash that ends it. Until then its thread has only looked whether the
lines are there, which can as well be left out (`Pending`), or is under the lock, where nobody
interrupts it; from then on only entries in the log and the return are left (`Settled`). `Linear` says
so of all threads at once. It is kept by every move (`Linear.move`), along which `turns` grows by the
operation that takes place.
-/

namespace CoprocReset

variable {W L α β γ : Type} {hw : Hardware W L}

namespace Shared

/-! ## What threads see -/

/-- The thread that an event is of. -/
def Event.thread : Event L → Nat
  | .began thread _ | .locked thread | .called thread _ | .unlocked thread _ _
  | .returned thread _ _ | .crashed thread => thread

/-- A thread takes the lock or gives it back. -/
def Event.isLock : Event L → Bool
  | .locked _ | .unlocked .. => true
  | _ => false

/-- A call on a line is made. -/
def Event.isCall : Event L → Bool
  | .called .. => true
  | _ => false

/-- An operation begins. -/
def Event.isBegin : Event L → Bool
  | .began .. => true
  | _ => false

/-- An operation ends. -/
def Event.isEnd : Event L → Bool
  | .returned .. | .crashed _ => true
  | _ => false

/-- What a thread sees of a history: the operations that it begins, their calls and their ends. -/
def seenBy (thread : Nat) (history : List (Event L)) : List (Event L) :=
  history.filter fun event => event.thread = thread && !event.isLock

/-- The calls on lines in a history. -/
def calls (history : List (Event L)) : List (Event L) := history.filter Event.isCall

/-- How many operations a thread has begun. -/
def begun (thread : Nat) (history : List (Event L)) : Nat :=
  (seenBy thread history).countP Event.isBegin

/-- How many operations of a thread have ended. -/
def ended (thread : Nat) (history : List (Event L)) : Nat :=
  (seenBy thread history).countP Event.isEnd

/-- An operation in a history: whose it is, and how many that thread has begun before. -/
structure Occurrence where
  thread : Nat
  number : Nat

/-- The first operation has ended when the second begins. -/
def Precedes (history : List (Event L)) (first second : Occurrence) : Prop :=
  ∃ (before after : List (Event L)) (α : Type) (operation : Operation L α),
    history = before ++ .began second.thread operation :: after ∧
      begun second.thread before = second.number ∧ first.number < ended first.thread before

/-- A history of threads that get in between each other is explained by operations in turn: they leave
the same lines and the same controller, make the same calls in the same order, every thread sees the
same operations with the same results, and operations that do not overlap keep their order. -/
structure Explains (hw : Hardware W L) (start : W × Controller L) (turns : List (Turn L))
    (shared : Shared W L) (history : List (Event L)) : Prop where
  state : (inTurn hw start turns).1 = (shared.world, shared.controller)
  calls : calls (inTurn hw start turns).2 = calls history
  seen (thread : Nat) : seenBy thread (inTurn hw start turns).2 = seenBy thread history
  precedes {first second : Occurrence} (h : Precedes history first second) :
    Precedes (inTurn hw start turns).2 first second

section Histories

variable {history later : List (Event L)} {thread : Nat} {first second : Occurrence}

@[simp] theorem seenBy_append (thread : Nat) (history later : List (Event L)) :
    seenBy thread (history ++ later) = seenBy thread history ++ seenBy thread later :=
  List.filter_append ..

@[simp] theorem calls_append (history later : List (Event L)) :
    calls (history ++ later) = calls history ++ calls later :=
  List.filter_append ..

theorem begun_append (thread : Nat) (history later : List (Event L)) :
    begun thread (history ++ later) = begun thread history + begun thread later := by
  simp [begun]

theorem ended_append (thread : Nat) (history later : List (Event L)) :
    ended thread (history ++ later) = ended thread history + ended thread later := by
  simp [ended]

theorem Precedes.append (h : Precedes history first second) (later : List (Event L)) :
    Precedes (history ++ later) first second := by
  obtain ⟨before, after, _, operation, rfl, hnumber, hended⟩ := h
  exact ⟨before, after ++ later, _, operation, by simp, hnumber, hended⟩

/-- Where nothing begins, nothing comes to be preceded. -/
theorem Precedes.of_append (h : Precedes (history ++ later) first second)
    (hlater : ∀ event ∈ later, event.isBegin = false) : Precedes history first second := by
  obtain ⟨before, after, _, operation, heq, hnumber, hended⟩ := h
  obtain ⟨between, -, hsplit⟩ | ⟨between, hbefore, hsplit⟩ := List.append_eq_append_iff.1 heq
  · have hfalse := hlater (.began second.thread operation) (by simp [hsplit])
    cases hfalse
  · cases between with
    | nil =>
      rw [List.nil_append] at hsplit
      have hfalse := hlater (.began second.thread operation) (hsplit ▸ List.mem_cons_self)
      cases hfalse
    | cons event between =>
      obtain ⟨rfl, -⟩ := List.cons.inj hsplit
      exact ⟨before, between, _, operation, hbefore, hnumber, hended⟩

/-- When an operation begins, it is preceded by what has ended. -/
theorem Precedes.of_began {operation : Operation L α}
    (h : Precedes (history ++ [.began thread operation]) first second) :
    Precedes history first second ∨
      second = ⟨thread, begun thread history⟩ ∧ first.number < ended first.thread history := by
  obtain ⟨before, after, _, operation', heq, hnumber, hended⟩ := h
  rcases List.eq_nil_or_concat after with rfl | ⟨after, last, rfl⟩
  · obtain ⟨rfl, hlast⟩ := List.append_inj' heq rfl
    cases hlast
    exact .inr ⟨by rw [hnumber], hended⟩
  · rw [List.concat_eq_append, ← List.cons_append, ← List.append_assoc] at heq
    exact .inl ⟨before, after, _, operation', (List.append_inj' heq rfl).1, hnumber, hended⟩

end Histories

/-! ## The invariant -/

/-- How a thread stands to the operations that have taken place so far. -/
inductive Standing (hw : Hardware W L) (name : String) (past : (W × Controller L) × List (Event L))
    (shared : Shared W L) (history : List (Event L)) (thread : Nat) : Prop
  | idle (hthread : shared.threads thread = .idle)
    (hseen : seenBy thread history = seenBy thread past.2)
  /-- Its operation is still to take place. -/
  | pending {α : Type} {operation : Operation L α} {rest : ControllerScript L α}
    (hthread : shared.threads thread = .outside operation rest) (hpending : Pending hw rest)
    (hsame : SameEffect hw rest (operation.script name))
    (hseen : seenBy thread history = seenBy thread past.2 ++ [.began thread operation])
  /-- Its operation has taken place and is about to return. -/
  | settled {α : Type} {operation : Operation L α} {rest : ControllerScript L α}
    {result : Except Failure α} (hthread : shared.threads thread = .outside operation rest)
    (hsettled : Settled result rest)
    (hseen : seenBy thread past.2 = seenBy thread history ++ [.returned thread operation result])
  /-- It is under the lock, and has made some of the calls that its operation will have made. -/
  | inside {α β : Type} {operation : Operation L α} {stay : Section L β} {rest : LineScript L β}
    {next : Except Failure β → ControllerScript L α} {made : List (Asked L)}
    (hthread : shared.threads thread = .inside operation stay rest next)
    (hpending : Pending hw (.call (.enter stay) next))
    (hsame : SameEffect hw (.call (.enter stay) next) (operation.script name))
    (hprogress : hw.effect (past.1.2.routine stay) past.1.1 =
      (hw.effect rest shared.world).after made)
    (hcalls : calls history = calls past.2 ++ calls (progress thread operation made))
    (hseen : seenBy thread history = seenBy thread past.2 ++ progress thread operation made)

/-- The operations that have taken place, in turn, and what they leave explain how all threads
stand. -/
structure Linear (hw : Hardware W L) (start : W × Controller L) (turns : List (Turn L))
    (shared : Shared W L) (history : List (Event L)) : Prop where
  standing (thread : Nat) :
    Standing hw start.2.name (inTurn hw start turns) shared history thread
  owner (thread : Nat) : shared.owner = some thread ↔ IsInside (shared.threads thread)
  controller : (inTurn hw start turns).1.2 = shared.controller
  name : shared.controller.name = start.2.name
  free (h : shared.owner = none) : (inTurn hw start turns).1.1 = shared.world ∧
    calls history = calls (inTurn hw start turns).2
  ended {first second : Occurrence} (h : Precedes history first second) :
    first.number < ended first.thread (inTurn hw start turns).2
  precedes {first second : Occurrence} (h : Precedes history first second)
    (hsecond : second.number < begun second.thread (inTurn hw start turns).2) :
    Precedes (inTurn hw start turns).2 first second

section Invariant

variable {start : W × Controller L} {name : String}
  {past past' : (W × Controller L) × List (Event L)} {turns : List (Turn L)} {shared : Shared W L}
  {history events : List (Event L)}
  {thread : Nat}

theorem seenBy_of_thread_eq (hevents : ∀ event ∈ events, event.thread = thread)
    (hlock : ∀ event ∈ events, event.isLock = false) : seenBy thread events = events :=
  List.filter_eq_self.2 fun event hevent => by simp [hevents event hevent, hlock event hevent]

theorem seenBy_of_thread {other : Nat} (hevents : ∀ event ∈ events, event.thread = thread)
    (hne : other ≠ thread) : seenBy other events = [] := by
  simp only [seenBy, List.filter_eq_nil_iff]
  intro event hevent
  simp [hevents event hevent, hne.symm]

/-! ### Events of one operation -/

section Operation

variable (thread : Nat) (operation : Operation L α) (outcome : Outcome α) (made : List (Asked L))

theorem thread_of_progress {event : Event L} (h : event ∈ progress thread operation made) :
    event.thread = thread ∧ event.isLock = false := by
  rcases List.mem_cons.1 h with rfl | h
  · exact ⟨rfl, rfl⟩
  · obtain ⟨call, -, rfl⟩ := List.mem_map.1 h
    exact ⟨rfl, rfl⟩

theorem seenBy_progress :
    seenBy thread (progress thread operation made) = progress thread operation made :=
  seenBy_of_thread_eq (fun _ h => (thread_of_progress thread operation made h).1)
    fun _ h => (thread_of_progress thread operation made h).2

theorem begun_progress : begun thread (progress thread operation made) = 1 := by
  rw [begun, seenBy_progress, progress, List.countP_cons_of_pos rfl, List.countP_map]
  simp [Function.comp_def, Event.isBegin]

theorem ended_progress : ended thread (progress thread operation made) = 0 := by
  rw [Shared.ended, seenBy_progress, progress, List.countP_cons_of_neg (by simp [Event.isEnd]),
    List.countP_map]
  simp [Function.comp_def, Event.isEnd]

theorem thread_ending : (ending thread operation outcome).thread = thread := by
  cases outcome <;> rfl

theorem seenBy_ending :
    seenBy thread [ending thread operation outcome] = [ending thread operation outcome] :=
  seenBy_of_thread_eq (by simp [thread_ending]) (by cases outcome <;> simp [ending, Event.isLock])

theorem calls_ending : calls [ending thread operation outcome] = [] := by
  cases outcome <;> rfl

theorem begun_ending : begun thread [ending thread operation outcome] = 0 := by
  rw [begun, seenBy_ending]
  cases outcome <;> rfl

end Operation

/-- What has ended has taken place. -/
theorem Standing.ended_le (h : Standing hw name past shared history thread) :
    Shared.ended thread history ≤ Shared.ended thread past.2 := by
  cases h with
  | idle _ hseen => simp [Shared.ended, hseen]
  | pending _ _ _ hseen => simp [Shared.ended, hseen, Event.isEnd]
  | settled _ _ hseen => simp [Shared.ended, hseen]
  | @inside _ _ operation _ _ _ made _ _ _ _ _ hseen =>
    have hnone := ended_progress thread operation made
    rw [Shared.ended, seenBy_progress] at hnone
    simp [Shared.ended, hseen, hnone]

/-- A thread stands as before after moves of others. -/
theorem Standing.other {shared' : Shared W L} (h : Standing hw name past shared history thread)
    (hthread : shared'.threads thread = shared.threads thread)
    (hevents : seenBy thread events = []) (hpast : seenBy thread past'.2 = seenBy thread past.2)
    (hinside : IsInside (shared.threads thread) →
      past' = past ∧ shared'.world = shared.world ∧ calls events = []) :
    Standing hw name past' shared' (history ++ events) thread := by
  cases h with
  | idle hidle hseen => exact .idle (hthread.trans hidle) (by simp [hevents, hpast, hseen])
  | pending houtside hpending hsame hseen =>
    exact .pending (hthread.trans houtside) hpending hsame (by simp [hevents, hpast, hseen])
  | settled houtside hsettled hseen =>
    exact .settled (hthread.trans houtside) hsettled (by simp [hevents, hpast, hseen])
  | inside hin hpending hsame hprogress hcalls hseen =>
    obtain ⟨rfl, hworld, hnone⟩ := hinside (isInside_of_eq hin)
    refine .inside (hthread.trans hin) hpending hsame (by rw [hworld]; exact hprogress) ?_ ?_
    · simp [hnone, hcalls]
    · simp [hevents, hseen]

/-- At most one thread has the lock. -/
theorem Linear.alone {other : Nat} (h : Linear hw start turns shared history)
    (hthread : IsInside (shared.threads thread)) (hother : IsInside (shared.threads other)) :
    other = thread := by
  have howner := (h.owner thread).2 hthread
  rw [(h.owner other).2 hother] at howner
  exact Option.some.inj howner

/-- A step of a thread in which no operation takes place. -/
theorem Linear.step {shared' : Shared W L} (h : Linear hw start turns shared history)
    (thread : Nat) (hthreads : ∀ other ≠ thread, shared'.threads other = shared.threads other)
    (hevents : ∀ event ∈ events, event.thread = thread)
    (hstanding : Standing hw start.2.name (inTurn hw start turns) shared' (history ++ events) thread)
    (hothers : IsInside (shared.threads thread) ∨
      shared'.world = shared.world ∧ calls events = [])
    (howner : ∀ other, shared'.owner = some other ↔ IsInside (shared'.threads other))
    (hcontroller : shared'.controller = shared.controller)
    (hfree : shared'.owner = none → (inTurn hw start turns).1.1 = shared'.world ∧
      calls (history ++ events) = calls (inTurn hw start turns).2)
    (hprecedes : ∀ {first second}, Precedes (history ++ events) first second →
      Precedes history first second ∨
        first.number < Shared.ended first.thread history ∧
          begun second.thread (inTurn hw start turns).2 ≤ second.number) :
    Linear hw start turns shared' (history ++ events) where
  standing other := by
    by_cases hother : other = thread
    · exact hother ▸ hstanding
    refine (h.standing other).other (hthreads other hother) (seenBy_of_thread hevents hother) rfl ?_
    exact fun hinside => ⟨rfl, hothers.resolve_left fun hthread => hother (h.alone hthread hinside)⟩
  owner := howner
  controller := h.controller.trans hcontroller.symm
  name := by rw [hcontroller, h.name]
  free := hfree
  ended {first second} hfirst := by
    obtain hbefore | ⟨hended, -⟩ := hprecedes hfirst
    · exact h.ended hbefore
    · exact Nat.lt_of_lt_of_le hended (h.standing first.thread).ended_le
  precedes {first second} hfirst hsecond := by
    obtain hbefore | ⟨-, hlate⟩ := hprecedes hfirst
    · exact h.precedes hbefore hsecond
    · omega

theorem owner_setThread {state : Thread L} (h : Linear hw start turns shared history)
    (hbefore : ¬IsInside (shared.threads thread)) (hafter : ¬IsInside state) (other : Nat) :
    shared.owner = some other ↔ IsInside ((shared.setThread thread state).threads other) := by
  rw [threads_setThread]
  split
  · next heq => simp [heq, h.owner, hbefore, hafter]
  · exact h.owner other

/-- A step outside the lock. -/
theorem Linear.setThread {state : Thread L} (h : Linear hw start turns shared history)
    (hbefore : ¬IsInside (shared.threads thread)) (hafter : ¬IsInside state)
    (events : List (Event L)) (hevents : ∀ event ∈ events, event.thread = thread)
    (hcalls : calls events = []) (hbegin : ∀ event ∈ events, event.isBegin = false)
    (hstanding : Standing hw start.2.name (inTurn hw start turns) (shared.setThread thread state)
      (history ++ events) thread) :
    Linear hw start turns (shared.setThread thread state) (history ++ events) :=
  h.step thread (fun other hother => by rw [threads_setThread, if_neg hother]) hevents hstanding
    (.inr ⟨rfl, hcalls⟩) (owner_setThread h hbefore hafter) rfl
    (fun howner => by rw [calls_append, hcalls, List.append_nil]; exact h.free howner)
    fun hfirst => .inl (hfirst.of_append hbegin)

theorem Linear.begin (h : Linear hw start turns shared history)
    (hidle : shared.threads thread = .idle) (operation : Operation L α) :
    Linear hw start turns
      (shared.setThread thread (.outside operation (operation.script shared.controller.name)))
      (history ++ [.began thread operation]) := by
  have hbefore : ¬IsInside (shared.threads thread) := by simp [hidle, IsInside]
  have hseen : seenBy thread history = seenBy thread (inTurn hw start turns).2 := by
    have hstanding := h.standing thread
    cases hstanding with
    | idle _ hseen => exact hseen
    | pending hthread | settled hthread | inside hthread => rw [hidle] at hthread; cases hthread
  refine h.step thread ?_ ?_ ?_ (.inr ⟨rfl, rfl⟩) (owner_setThread h hbefore id) rfl ?_ ?_
  · exact fun other hother => by rw [threads_setThread, if_neg hother]
  · simp [Event.thread]
  · refine .pending (if_pos rfl) (operation.pending _) (by rw [h.name]; exact fun _ => rfl) ?_
    rw [seenBy_append, hseen]
    simp [seenBy, Event.thread, Event.isLock]
  · intro howner
    rw [calls_append, show calls [.began thread operation] = [] from rfl, List.append_nil]
    exact h.free howner
  · intro first second hfirst
    refine hfirst.of_began.imp_right ?_
    rintro ⟨rfl, hended⟩
    exact ⟨hended, by simp [begun, hseen]⟩

theorem Linear.lock {operation : Operation L α} {stay : Section L β}
    {next : Except Failure β → ControllerScript L α} (h : Linear hw start turns shared history)
    (hthread : shared.threads thread = .outside operation (.call (.enter stay) next))
    (howner : shared.owner = none) :
    Linear hw start turns
      { shared.setThread thread
          (.inside operation stay (shared.controller.routine stay) next) with
        owner := some thread }
      (history ++ [.locked thread]) := by
  obtain ⟨hworld, hcalls⟩ := h.free howner
  refine h.step thread ?_ (by simp [Event.thread]) ?_ (.inr ⟨rfl, rfl⟩) ?_ rfl nofun ?_
  · exact fun other hother => if_neg hother
  · have hstanding := h.standing thread
    cases hstanding with
    | idle hidle | inside hidle => rw [hthread] at hidle; cases hidle
    | settled houtside hsettled => rw [hthread] at houtside; cases houtside; cases hsettled
    | pending houtside hpending hsame hseen =>
      rw [hthread] at houtside
      cases houtside
      refine .inside (if_pos rfl) hpending hsame
        (?_ : hw.effect _ _ = (hw.effect _ _).after []) ?_ ?_
      · rw [h.controller, hworld]
        rfl
      · simpa [calls, Event.isCall, progress] using hcalls
      · rw [seenBy_append, hseen]
        simp [seenBy, Event.isLock, progress]
  · intro other
    have hnone : ¬IsInside (shared.threads other) := by simp [← h.owner, howner]
    by_cases hother : other = thread
    · subst hother
      simp [IsInside]
    · simp [hother, Ne.symm hother, hnone]
  · exact fun hfirst => .inl (hfirst.of_append (by simp [Event.isBegin]))

theorem Linear.moveOutside {operation : Operation L α} {rest : ControllerScript L α}
    (h : Linear hw start turns shared history)
    (hthread : shared.threads thread = .outside operation rest) :
    Linear hw start turns (shared.moveOutside thread operation rest).1
      (history ++ (shared.moveOutside thread operation rest).2) := by
  have hbefore : ¬IsInside (shared.threads thread) := by simp [hthread, IsInside]
  have hstanding := h.standing thread
  cases hstanding with
  | idle hidle | inside hidle => rw [hthread] at hidle; cases hidle
  | pending houtside hpending hsame hseen =>
    rw [hthread] at houtside
    cases houtside
    have hlock {β : Type} {stay : Section L β} {next : Except Failure β → ControllerScript L α}
        (hrest : rest = .call (.enter stay) next) :
        Linear hw start turns (shared.moveOutside thread operation rest).1
          (history ++ (shared.moveOutside thread operation rest).2) := by
      subst hrest
      rcases howner : shared.owner with _ | owner
      · simp only [Shared.moveOutside, howner]
        exact h.lock hthread howner
      · simp only [Shared.moveOutside, howner, List.append_nil]
        exact h
    cases hpending with
    | last => exact hlock rfl
    | checks => exact hlock rfl
  | settled houtside hsettled hseen =>
    rw [hthread] at houtside
    cases houtside
    cases hsettled with
    | finish =>
      refine h.setThread hbefore id [.returned thread operation _]
        (by simp [Event.thread]) rfl (by simp [Event.isBegin]) ?_
      refine .idle (if_pos rfl) ?_
      rw [seenBy_append, hseen]
      simp [seenBy, Event.thread, Event.isLock]
    | note hsettled =>
      refine h.setThread hbefore id [] (by simp) rfl (by simp) ?_
      exact .settled (if_pos rfl) hsettled (by rwa [List.append_nil])

/-- What an operation comes to in its turn, by its effect. -/
theorem inTurn_effect (thread : Nat) {operation : Operation L α} {outcome : Outcome α}
    {state : W × Controller L} {made : List (Asked L)}
    (hname : (inTurn hw start turns).1.2.name = start.2.name)
    (heffect : Controller.effect hw (operation.script start.2.name) (inTurn hw start turns).1 =
      ⟨outcome, state, made⟩) :
    inTurn hw start (turns ++ [⟨thread, operation⟩]) =
      (state, (inTurn hw start turns).2 ++
        (progress thread operation made ++ [ending thread operation outcome])) := by
  obtain ⟨houtcome, hworld, hasked⟩ := Effect.mk.inj heffect
  rw [inTurn_snoc, hname, hworld, turnEvents, hname, houtcome, hasked]

/-- A thread gives the lock back. -/
theorem Linear.owner_put {state : Thread L} (h : Linear hw start turns shared history)
    (hinside : IsInside (shared.threads thread)) (hstate : ¬IsInside state) (world : W)
    (controller : Controller L) (other : Nat) :
    (shared.put thread state world controller none).owner = some other ↔
      IsInside ((shared.put thread state world controller none).threads other) := by
  by_cases hother : other = thread
  · subst hother
    simp [put, hstate]
  · have hout : ¬IsInside (shared.threads other) := fun hin => hother (h.alone hinside hin)
    simp [put, hother, hout]

/-- A step of the thread that has the lock, in which its operation takes place. -/
theorem Linear.takePlace {operation : Operation L α} {outcome : Outcome α} {world : W}
    {controller : Controller L} {made : List (Asked L)} {state : Thread L}
    (h : Linear hw start turns shared history) (hinside : IsInside (shared.threads thread))
    (hstate : ¬IsInside state)
    (heffect : Controller.effect hw (operation.script start.2.name) (inTurn hw start turns).1 =
      ⟨outcome, (world, controller), made⟩)
    (hname : controller.name = start.2.name) (hevents : ∀ event ∈ events, event.thread = thread)
    (hbegin : ∀ event ∈ events, event.isBegin = false)
    (hcalls : calls (history ++ events) =
      calls (inTurn hw start turns).2 ++ calls (progress thread operation made))
    (hstanding : ∀ past', past'.2 = (inTurn hw start turns).2 ++
        (progress thread operation made ++ [ending thread operation outcome]) →
      Standing hw start.2.name past' (shared.put thread state world controller none)
        (history ++ events) thread) :
    Linear hw start (turns ++ [⟨thread, operation⟩])
      (shared.put thread state world controller none) (history ++ events) := by
  have hturn := inTurn_effect thread (h.controller ▸ h.name) heffect
  have hturnEvents : ∀ event ∈ progress thread operation made ++
      [ending thread operation outcome], event.thread = thread := by
    intro event hevent
    obtain hprogress | hending := List.mem_append.1 hevent
    · exact (thread_of_progress thread operation made hprogress).1
    · rw [List.mem_singleton.1 hending, thread_ending]
  constructor
  case standing =>
    intro other
    by_cases hother : other = thread
    · rw [hother, hturn]
      exact hstanding _ rfl
    refine (h.standing other).other (if_neg hother) (seenBy_of_thread hevents hother) ?_
      fun hin => absurd (h.alone hinside hin) hother
    rw [hturn, seenBy_append, seenBy_of_thread hturnEvents hother, List.append_nil]
  case owner => exact h.owner_put hinside hstate world controller
  case controller => rw [hturn]; rfl
  case name => exact hname
  case free =>
    rintro -
    refine ⟨by rw [hturn]; rfl, ?_⟩
    rw [hcalls, hturn, calls_append, calls_append, calls_ending, List.append_nil]
  case ended =>
    intro first second hfirst
    rw [hturn, ended_append]
    exact Nat.lt_add_right _ (h.ended (hfirst.of_append hbegin))
  case precedes =>
    intro first second hfirst hsecond
    have hbefore := hfirst.of_append hbegin
    rw [hturn] at hsecond ⊢
    rcases Nat.lt_or_ge second.number (begun second.thread (inTurn hw start turns).2) with
      hold | hnew
    · exact (h.precedes hbefore hold).append _
    -- the second operation is the one that takes place
    by_cases hother : second.thread = thread
    · refine ⟨(inTurn hw start turns).2, _, _, operation, by rw [hother]; rfl, ?_, h.ended hbefore⟩
      rw [hother] at hsecond hnew ⊢
      rw [begun_append, begun_append, begun_progress, begun_ending] at hsecond
      omega
    · rw [begun_append, begun, begun, seenBy_of_thread hturnEvents hother] at hsecond
      exact absurd hsecond (Nat.not_lt.2 hnew)

theorem leave_name (controller : Controller L) (stay : Section L β) (outcome : Outcome β) :
    (controller.leave stay outcome).name = controller.name := by
  rcases controller with ⟨name, pair | _ | _⟩ <;> rfl

/-- With its last stay an operation has taken place. -/
theorem Linear.unlock {operation : Operation L α} {stay : Section L β} {answer : Except Failure β}
    {next : Except Failure β → ControllerScript L α} {result : Except Failure α}
    {made : List (Asked L)} (h : Linear hw start turns shared history)
    (hthread : shared.threads thread = .inside operation stay (.finish answer) next)
    (hsettled : Settled result (next answer))
    (hsame : SameEffect hw (.call (.enter stay) next) (operation.script start.2.name))
    (hprogress : hw.effect ((inTurn hw start turns).1.2.routine stay) (inTurn hw start turns).1.1 =
      ⟨.ofExcept answer, shared.world, made⟩)
    (hcalls : calls history =
      calls (inTurn hw start turns).2 ++ calls (progress thread operation made))
    (hseen : seenBy thread history =
      seenBy thread (inTurn hw start turns).2 ++ progress thread operation made) :
    Linear hw start (turns ++ [⟨thread, operation⟩])
      (shared.put thread (.outside operation (next answer)) shared.world
        (shared.controller.leave stay (.ofExcept answer)) none)
      (history ++ [.unlocked thread stay answer]) := by
  have heffect : Controller.effect hw (operation.script start.2.name) (inTurn hw start turns).1 =
      ⟨.ofExcept result,
        (shared.world, shared.controller.leave stay (.ofExcept answer)), made⟩ := by
    rw [← hsame, ← h.controller, Controller.effect_answered next hprogress, hsettled.effect]
    simp [Effect.after]
  refine h.takePlace (isInside_of_eq hthread) id heffect (by rw [leave_name, h.name])
    (by simp [Event.thread]) (by simp [Event.isBegin]) ?_ fun past' hpast =>
      .settled (if_pos rfl) hsettled ?_
  · rw [calls_append, hcalls]
    simp [calls, Event.isCall]
  · rw [hpast, seenBy_append, seenBy_append, seenBy_append, seenBy_progress, seenBy_ending, hseen]
    cases result <;> simp [seenBy, Event.isLock, ending, Outcome.ofExcept]

/-- To find out that the lines are there has no effect: the operation is still to take place. -/
theorem Linear.unlock_ready {operation : Operation L α}
    {next : Except Failure Unit → ControllerScript L α} {made : List (Asked L)}
    (h : Linear hw start turns shared history)
    (hthread : shared.threads thread = .inside operation .ready (.finish (.ok ())) next)
    (hready : Pending hw (next (.ok ())))
    (hsame : SameEffect hw (next (.ok ())) (operation.script start.2.name))
    (hprogress : hw.effect ((inTurn hw start turns).1.2.routine .ready) (inTurn hw start turns).1.1 =
      ⟨.done (), shared.world, made⟩)
    (hcalls : calls history =
      calls (inTurn hw start turns).2 ++ calls (progress thread operation made))
    (hseen : seenBy thread history =
      seenBy thread (inTurn hw start turns).2 ++ progress thread operation made) :
    Linear hw start turns
      (shared.put thread (.outside operation (next (.ok ()))) shared.world
        (shared.controller.leave .ready (.done ())) none)
      (history ++ [.unlocked thread .ready (.ok ())]) := by
  have hinside := isInside_of_eq hthread
  obtain ⟨hworld, rfl⟩ : (inTurn hw start turns).1.1 = shared.world ∧ made = [] := by
    rcases hcustody : (inTurn hw start turns).1.2 with ⟨name, pair | _ | _⟩
    all_goals
      rw [hcustody] at hprogress
      obtain ⟨-, hworld, hmade⟩ := Effect.mk.inj hprogress
      exact ⟨hworld, hmade.symm⟩
  have hcontroller : shared.controller.leave .ready (.done ()) = shared.controller := by
    rcases hcustody : shared.controller with ⟨name, pair | _ | _⟩ <;> rfl
  rw [hcontroller]
  have hcallsEq : calls (history ++ [.unlocked thread .ready (.ok ())]) =
      calls (inTurn hw start turns).2 := by
    rw [calls_append, hcalls]
    simp [calls, Event.isCall, progress]
  refine h.step thread (fun other hother => if_neg hother) (by simp [Event.thread]) ?_
    (.inl hinside) ?_ rfl (fun _ => ⟨hworld, hcallsEq⟩)
    fun hfirst => .inl (hfirst.of_append (by simp [Event.isBegin]))
  · refine .pending (if_pos rfl) hready hsame ?_
    rw [seenBy_append, hseen]
    simp [seenBy, Event.isLock, progress]
  · exact h.owner_put hinside id shared.world shared.controller

/-- Under the lock a call is answered, and the stay goes on. -/
theorem Linear.answered {operation : Operation L α} {stay : Section L β}
    {request : LineCall L γ} {rest : Except Failure γ → LineScript L β}
    {next : Except Failure β → ControllerScript L α} {world : W} {log : Log}
    (h : Linear hw start turns shared history) (answer : Except Failure γ)
    (hthread : shared.threads thread = .inside operation stay (.call request rest) next)
    (hperform : hw.perform request shared.world = ⟨.ofExcept answer, world, log⟩) :
    Linear hw start turns
      (shared.put thread (.inside operation stay (rest answer) next) world shared.controller
        shared.owner)
      (history ++ [.called thread request]) := by
  have hinside := isInside_of_eq hthread
  have howner := (h.owner thread).2 hinside
  refine h.step thread (fun other hother => if_neg hother) (by simp [Event.thread]) ?_
    (.inl hinside) ?_ rfl (fun hfree => ?_)
    fun hfirst => .inl (hfirst.of_append (by simp [Event.isBegin]))
  · have hstanding := h.standing thread
    cases hstanding with
    | idle hother | pending hother | settled hother => rw [hthread] at hother; cases hother
    | @inside _ _ _ _ _ _ made hin hpending hsame hprogress hcalls hseen =>
      rw [hthread] at hin
      cases hin
      rw [hw.effect_answered rest hperform, Effect.after_after] at hprogress
      refine .inside (if_pos rfl) hpending hsame hprogress ?_ ?_
      · rw [calls_append, hcalls]
        simp [calls, progress, Event.isCall]
      · rw [seenBy_append, hseen]
        simp [seenBy, progress, Event.thread, Event.isLock]
  · intro other
    by_cases hother : other = thread
    · subst hother
      simp [put, howner, IsInside]
    · simp [put, hother, h.owner]
  · rw [put, howner] at hfree
    cases hfree

/-- With a crash under the lock an operation has taken place. -/
theorem Linear.crashed {operation : Operation L α} {stay : Section L β}
    {request : LineCall L γ} {rest : Except Failure γ → LineScript L β}
    {next : Except Failure β → ControllerScript L α} {message : String} {world : W} {log : Log}
    (h : Linear hw start turns shared history)
    (hthread : shared.threads thread = .inside operation stay (.call request rest) next)
    (hperform : hw.perform request shared.world = ⟨.crashed message, world, log⟩) :
    Linear hw start (turns ++ [⟨thread, operation⟩])
      (shared.put thread .idle world (shared.controller.leave stay (.crashed message)) none)
      (history ++ [.called thread request, .crashed thread]) := by
  have hstanding := h.standing thread
  cases hstanding with
  | idle hother | pending hother | settled hother => rw [hthread] at hother; cases hother
  | @inside _ _ _ _ _ _ made hin hpending hsame hprogress hcalls hseen =>
    rw [hthread] at hin
    cases hin
    rw [hw.effect_crashed rest hperform] at hprogress
    have heffect : Controller.effect hw (operation.script start.2.name) (inTurn hw start turns).1 =
        ⟨.crashed message, (world, shared.controller.leave stay (.crashed message)),
          made ++ [⟨_, request⟩]⟩ := by
      rw [← hsame, ← h.controller, Controller.effect_crashed next hprogress]
    refine h.takePlace (isInside_of_eq hthread) id heffect (by rw [leave_name, h.name])
      (by simp [Event.thread]) (by simp [Event.isBegin]) ?_ fun past' hpast => .idle (if_pos rfl) ?_
    · rw [calls_append, hcalls]
      simp [calls, progress, List.filter, Event.isCall]
    · rw [hpast, seenBy_append, seenBy_append, seenBy_append, seenBy_progress, seenBy_ending, hseen]
      simp [seenBy, progress, ending, Event.thread, Event.isLock]

theorem Linear.moveInside {operation : Operation L α} {stay : Section L β} {rest : LineScript L β}
    {next : Except Failure β → ControllerScript L α} (h : Linear hw start turns shared history)
    (hthread : shared.threads thread = .inside operation stay rest next) :
    ∃ turns', Linear hw start turns' (shared.moveInside hw thread operation stay next rest).1
      (history ++ (shared.moveInside hw thread operation stay next rest).2) := by
  cases rest with
  | call request rest =>
    rcases hperform : hw.perform request shared.world with ⟨answer | failure | message, world, log⟩
    · refine ⟨turns, ?_⟩
      simp only [Shared.moveInside, hperform]
      exact h.answered (.ok answer) hthread hperform
    · refine ⟨turns, ?_⟩
      simp only [Shared.moveInside, hperform]
      exact h.answered (.error failure) hthread hperform
    · refine ⟨turns ++ [⟨thread, operation⟩], ?_⟩
      simp only [Shared.moveInside, hperform]
      exact h.crashed hthread hperform
  | finish answer =>
    have hstanding := h.standing thread
    cases hstanding with
    | idle hother | pending hother | settled hother => rw [hthread] at hother; cases hother
    | @inside _ _ _ _ _ _ made hin hpending hsame hprogress hcalls hseen =>
      rw [hthread] at hin
      cases hin
      rw [Hardware.effect_finish, Effect.after, List.append_nil] at hprogress
      cases hpending with
      | last hlast =>
        obtain ⟨result, hsettled⟩ := hlast answer
        exact ⟨_, h.unlock hthread hsettled hsame hprogress hcalls hseen⟩
      | checks hfailed hready hskip =>
        cases answer with
        | error failure =>
          obtain ⟨result, hsettled⟩ := hfailed failure
          exact ⟨_, h.unlock hthread hsettled hsame hprogress hcalls hseen⟩
        | ok answer =>
          have hsame' := fun state => (hskip state).trans (hsame state)
          exact ⟨turns, h.unlock_ready hthread hready hsame' hprogress hcalls hseen⟩

/-- Whatever moves next, at most one more operation takes place. -/
theorem Linear.move (h : Linear hw start turns shared history) (next : Move L) :
    ∃ turns', Linear hw start turns' (shared.move hw next).1
      (history ++ (shared.move hw next).2) := by
  have hstay : Linear hw start turns shared (history ++ []) := by rwa [List.append_nil]
  cases next with
  | begin thread operation =>
    cases hthread : shared.threads thread with
    | idle =>
      simp only [Shared.move, hthread]
      exact ⟨turns, h.begin hthread operation⟩
    | outside | inside =>
      simp only [Shared.move, hthread]
      exact ⟨turns, hstay⟩
  | advance thread =>
    cases hthread : shared.threads thread with
    | idle =>
      simp only [Shared.move, hthread]
      exact ⟨turns, hstay⟩
    | outside operation rest =>
      simp only [Shared.move, hthread]
      exact ⟨turns, h.moveOutside hthread⟩
    | inside operation stay rest next =>
      simp only [Shared.move, hthread]
      exact h.moveInside hthread

theorem Linear.run (h : Linear hw start turns shared history) (moves : List (Move L)) :
    ∃ turns', Linear hw start turns' (shared.run hw moves).1
      (history ++ (shared.run hw moves).2) := by
  induction moves generalizing turns shared history with
  | nil => exact ⟨turns, by rwa [Shared.run, List.append_nil]⟩
  | cons first rest ih =>
    obtain ⟨turns', hmove⟩ := h.move first
    obtain ⟨turns'', hrest⟩ := ih hmove
    exact ⟨turns'', by rwa [List.append_assoc] at hrest⟩

/-- Before anything has begun, nothing has taken place. -/
theorem linear_nil (hfree : shared.owner = none) (hidle : ∀ thread, shared.threads thread = .idle) :
    Linear hw (shared.world, shared.controller) [] shared [] where
  standing thread := .idle (hidle thread) rfl
  owner thread := by simp [hfree, hidle, IsInside]
  controller := rfl
  name := rfl
  free _ := ⟨rfl, rfl⟩
  ended h := by obtain ⟨before, after, _, _, heq, -⟩ := h; simp at heq
  precedes h := by obtain ⟨before, after, _, _, heq, -⟩ := h; simp at heq

/-- Once nobody is in an operation, the operations that have taken place explain the history. -/
theorem Linear.explains (h : Linear hw start turns shared history)
    (hidle : ∀ thread, shared.threads thread = .idle) :
    Explains hw start turns shared history := by
  have hfree : shared.owner = none := by
    cases howner : shared.owner with
    | none => rfl
    | some thread =>
      have hinside := (h.owner thread).1 howner
      rw [hidle] at hinside
      exact hinside.elim
  have hseen (thread : Nat) : seenBy thread history = seenBy thread (inTurn hw start turns).2 := by
    have hstanding := h.standing thread
    cases hstanding with
    | idle _ hseen => exact hseen
    | pending hthread | settled hthread | inside hthread => rw [hidle] at hthread; cases hthread
  obtain ⟨hworld, hcalls⟩ := h.free hfree
  refine ⟨Prod.ext hworld h.controller, hcalls.symm, fun thread => (hseen thread).symm,
    fun hfirst => h.precedes hfirst ?_⟩
  obtain ⟨before, after, _, operation, rfl, hnumber, -⟩ := hfirst
  rw [begun, ← hseen, ← begun, begun_append, hnumber, begun, ← List.singleton_append]
  simp [seenBy, Event.thread, Event.isLock, Event.isBegin]

end Invariant

/-- Whatever threads do with a controller at the same time, and whatever its lines make of the
calls, it is as if each operation were carried out as a whole, one after the other, and not out of
turn. -/
theorem linearizable (hw : Hardware W L) {shared : Shared W L} (hfree : shared.owner = none)
    (hidle : ∀ thread, shared.threads thread = .idle) (moves : List (Move L))
    (hdone : ∀ thread, (shared.run hw moves).1.threads thread = .idle) :
    ∃ turns, Explains hw (shared.world, shared.controller) turns (shared.run hw moves).1
      (shared.run hw moves).2 := by
  obtain ⟨turns, hlinear⟩ := (linear_nil hfree hidle).run moves
  exact ⟨turns, hlinear.explains hdone⟩

/-- A shutdown between the two stays of a store takes place first, and the store fails. -/
theorem linearizable_storeGap :
    let reset : MemoryLine := ⟨"reset-line", .activeHigh⟩
    let bootSelect : MemoryLine := ⟨"boot-select-line", .activeHigh⟩
    let bank : MemoryBank :=
      { MemoryBank.empty with
        lines := [("reset-line", ⟨.high, .activeHigh, true⟩),
          ("boot-select-line", ⟨.low, .activeHigh, true⟩)] }
    let shared : Shared MemoryBank MemoryLine := opened "x8h7_reset" ⟨reset, bootSelect⟩ bank
    let moves := [
      .begin 0 (.request (.store "1")), .advance 0, .advance 0,
      .begin 1 .shutdown, .advance 1, .advance 1, .advance 1, .advance 1,
      .advance 0, .advance 1, .advance 0, .advance 0, .advance 1]
    let history := [
      .began 0 (.request (.store "1")), .locked 0, .unlocked 0 .ready (.ok ()),
      .began 1 .shutdown, .locked 1, .called 1 (.set reset .low), .called 1 (.set bootSelect .high),
      .unlocked 1 .surrender (.ok (⟨reset, bootSelect⟩, .ok ())), .locked 0,
      .unlocked 0 (.drive .release) (.error (.notReady
        "x8h7_reset has no lines: the device is not attached")),
      .returned 0 (.request (.store "1")) (.error (.notReady
        "x8h7_reset has no lines: the device is not attached")),
      .returned 1 .shutdown (.ok ⟨reset, bootSelect⟩)]
    let result := shared.run memoryHardware moves
    result.2 = history ∧
      ∃ turns, Explains memoryHardware (bank, shared.controller) turns result.1 history := by
  intro reset bootSelect bank shared moves history result
  have hhistory : result.2 = history := by rfl
  have hdone (thread : Nat) : result.1.threads thread = .idle := by
    match thread with
    | 0 => rfl
    | 1 => rfl
    | _ + 2 => rfl
  refine ⟨hhistory, ?_⟩
  rw [← hhistory]
  exact linearizable memoryHardware rfl (fun _ => rfl) moves hdone

end Shared

end CoprocReset
