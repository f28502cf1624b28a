import CoprocReset.Proofs.Lifecycle.Calls

/-!
# The order of a lifecycle's calls

`Event` is what can be written down about the calls of a lifecycle, and `Stage` is how far it has
come with its lines. `Step` says which event may come next at a stage and where it leads, so that
`Steps` from `Stage.idle` spells the language of all histories. Two facts hold along every history:

* `Steps.acquired_eq`: the lines acquired are the lines released, one by one and in that order,
  and after them the lines in hand;
* `Steps.trail`: what has just happened at a stage, back to the call that led there.
-/

namespace CoprocReset

namespace Lifecycle

/-- The two things that a lifecycle can be told to do. -/
inductive Verb where
  | attach
  | detach
  deriving DecidableEq, Repr

namespace Verb

/-- The verb in words. -/
def name : Verb → String
  | .attach => "attach"
  | .detach => "detach"

/-- The phase in which a lifecycle can be told so. -/
def phase : Verb → Phase
  | .attach => .unattached
  | .detach => .attached

end Verb

/-- An entry in the history of a lifecycle: a call that it makes, with the answer, or the begin or
end of a call made to it. -/
inductive Event (L : Type) where
  | called (verb : Verb)
  | acquire (request : LineRequest) (answer : Except Failure L)
  | set (line : L) (level : Level) (answer : Except Failure Unit)
  | wait (ms : Nat) (answer : Except Failure Unit)
  | release (line : L) (answer : Except Failure Unit)
  | publish (answer : Except Failure Unit)
  | unpublish (answer : Except Failure Unit)
  | returned (verb : Verb) (outcome : Outcome Unit)

namespace Event

variable {L : Type}

/-- A call made to the lifecycle begins or ends. -/
def isMark : Event L → Bool
  | .called _ | .returned _ _ => true
  | _ => false

/-- The line that the event is a call on. -/
def line? : Event L → Option L
  | .set line _ _ => some line
  | .release line _ => some line
  | _ => none

/-- The line that the event hands out. -/
def acquired? : Event L → Option L
  | .acquire _ (.ok line) => some line
  | _ => none

/-- The line that the event gives back. -/
def released? : Event L → Option L
  | .release line _ => some line
  | _ => none

end Event

/-- The lines handed out in a history. -/
def acquired {L : Type} (history : List (Event L)) : List L := history.filterMap Event.acquired?

/-- The lines given back in a history. -/
def released {L : Type} (history : List (Event L)) : List L := history.filterMap Event.released?

theorem filterMap_snoc {α β : Type} (f : α → Option β) (as : List α) (a : α) :
    (as ++ [a]).filterMap f = as.filterMap f ++ (f a).toList := by
  cases h : f a <;> simp [h]

theorem acquired_snoc {L : Type} (history : List (Event L)) (event : Event L) :
    acquired (history ++ [event]) = acquired history ++ event.acquired?.toList :=
  filterMap_snoc ..

theorem released_snoc {L : Type} (history : List (Event L)) (event : Event L) :
    released (history ++ [event]) = released history ++ event.released?.toList :=
  filterMap_snoc ..

/-- A call of the startup. -/
inductive StartupCall (L : Type) where
  | set (line : L) (level : Level)
  | wait (ms : Nat)

/-- The call with its answer. -/
def StartupCall.event {L : Type} (answer : Except Failure Unit) : StartupCall L → Event L
  | .set line level => .set line level answer
  | .wait ms => .wait ms answer

/-- The calls of the startup in their order. -/
def startupCalls {L : Type} (settle : SettleWindow) (pair : LinePair L) : List (StartupCall L) :=
  [.set pair.reset .low, .set pair.bootSelect .high, .wait settle.least, .set pair.reset .high,
    .set pair.bootSelect .low]

/-- How far a lifecycle has come with its lines. -/
inductive Stage (L : Type) where
  /-- At rest, without a line. -/
  | idle
  /-- Told to detach without being attached. -/
  | refusingDetach
  | attaching
  | resetInHand (reset : L)
  /-- The second line was refused, the first has to be given back. -/
  | givingBack (reset : L)
  /-- Both lines are in hand, some calls of the startup are left. -/
  | starting (pair : LinePair L) (left : List (StartupCall L))
  | published (pair : LinePair L)
  /-- At rest, with the lines in the hands of the controller. -/
  | attached (pair : LinePair L)
  /-- Told to attach while attached. -/
  | refusingAttach (pair : LinePair L)
  | detaching (pair : LinePair L)
  /-- The reset line has to be forced. -/
  | forcing (verb : Verb) (pair : LinePair L)
  | forcingBootSelect (verb : Verb) (pair : LinePair L)
  | releasing (verb : Verb) (pair : LinePair L)
  | releasingBootSelect (verb : Verb) (bootSelect : L)
  /-- Without a line again, about to return. -/
  | ended (verb : Verb)

/-- The lines in hand at a stage, the reset line first. -/
def Stage.lines {L : Type} : Stage L → List L
  | .resetInHand reset | .givingBack reset => [reset]
  | .starting pair _ | .published pair | .attached pair | .refusingAttach pair | .detaching pair
  | .forcing _ pair | .forcingBootSelect _ pair | .releasing _ pair => [pair.reset, pair.bootSelect]
  | .releasingBootSelect _ bootSelect => [bootSelect]
  | .idle | .refusingDetach | .attaching | .ended _ => []

variable {W L P : Type} (lifecycle : Lifecycle W L P)

/-- What may come next, and where it leads. -/
inductive Step : Stage L → Event L → Stage L → Prop
  | attachCalled : Step .idle (.called .attach) .attaching
  | detachRefused : Step .idle (.called .detach) .refusingDetach
  | refusedDetach (failure : Failure) :
    Step .refusingDetach (.returned .detach (.failed failure)) .idle
  | resetRefused (failure : Failure) :
    Step .attaching (.acquire lifecycle.resetRequest (.error failure)) (.ended .attach)
  | resetAcquired (reset : L) :
    Step .attaching (.acquire lifecycle.resetRequest (.ok reset)) (.resetInHand reset)
  | bootSelectRefused (reset : L) (failure : Failure) :
    Step (.resetInHand reset) (.acquire lifecycle.bootSelectRequest (.error failure))
      (.givingBack reset)
  | bootSelectAcquired (reset bootSelect : L) :
    Step (.resetInHand reset) (.acquire lifecycle.bootSelectRequest (.ok bootSelect))
      (.starting ⟨reset, bootSelect⟩ (startupCalls lifecycle.target.settle ⟨reset, bootSelect⟩))
  | givenBack (reset : L) (answer : Except Failure Unit) :
    Step (.givingBack reset) (.release reset answer) (.ended .attach)
  | goneOn (pair : LinePair L) (call : StartupCall L) (left : List (StartupCall L)) :
    Step (.starting pair (call :: left)) (call.event (.ok ())) (.starting pair left)
  | brokenOff (pair : LinePair L) (call : StartupCall L) (left : List (StartupCall L))
    (failure : Failure) :
    Step (.starting pair (call :: left)) (call.event (.error failure)) (.releasing .attach pair)
  | published (pair : LinePair L) : Step (.starting pair []) (.publish (.ok ())) (.published pair)
  | notPublished (pair : LinePair L) (failure : Failure) :
    Step (.starting pair []) (.publish (.error failure)) (.forcing .attach pair)
  | attachDone (pair : LinePair L) :
    Step (.published pair) (.returned .attach (.done ())) (.attached pair)
  | attachRefused (pair : LinePair L) :
    Step (.attached pair) (.called .attach) (.refusingAttach pair)
  | refusedAttach (pair : LinePair L) (failure : Failure) :
    Step (.refusingAttach pair) (.returned .attach (.failed failure)) (.attached pair)
  | detachCalled (pair : LinePair L) : Step (.attached pair) (.called .detach) (.detaching pair)
  | unpublished (pair : LinePair L) (answer : Except Failure Unit) :
    Step (.detaching pair) (.unpublish answer) (.forcing .detach pair)
  | resetForced (verb : Verb) (pair : LinePair L) :
    Step (.forcing verb pair) (.set pair.reset .low (.ok ())) (.forcingBootSelect verb pair)
  | resetNotForced (verb : Verb) (pair : LinePair L) (failure : Failure) :
    Step (.forcing verb pair) (.set pair.reset .low (.error failure)) (.releasing verb pair)
  | bootSelectForced (verb : Verb) (pair : LinePair L) (answer : Except Failure Unit) :
    Step (.forcingBootSelect verb pair) (.set pair.bootSelect .high answer) (.releasing verb pair)
  | resetReleased (verb : Verb) (pair : LinePair L) (answer : Except Failure Unit) :
    Step (.releasing verb pair) (.release pair.reset answer)
      (.releasingBootSelect verb pair.bootSelect)
  | bootSelectReleased (verb : Verb) (bootSelect : L) (answer : Except Failure Unit) :
    Step (.releasingBootSelect verb bootSelect) (.release bootSelect answer) (.ended verb)
  | attachFailed (failure : Failure) :
    Step (.ended .attach) (.returned .attach (.failed failure)) .idle
  | detachEnded (outcome : Outcome Unit) :
    Step (.ended .detach) (.returned .detach outcome) .idle

/-- A row of events leads from one stage to another. -/
inductive Steps : Stage L → List (Event L) → Stage L → Prop
  | nil (stage : Stage L) : Steps stage [] stage
  | cons {first middle last : Stage L} {event : Event L} {events : List (Event L)}
    (step : lifecycle.Step first event middle) (steps : Steps middle events last) :
    Steps first (event :: events) last

variable {lifecycle} {first middle last : Stage L} {event : Event L}
  {events later : List (Event L)}

theorem Steps.append (h : lifecycle.Steps first events middle)
    (h' : lifecycle.Steps middle later last) : lifecycle.Steps first (events ++ later) last := by
  induction h with
  | nil => exact h'
  | cons step _ ih => exact .cons step (ih h')

theorem Steps.snoc (h : lifecycle.Steps first events middle)
    (step : lifecycle.Step middle event last) : lifecycle.Steps first (events ++ [event]) last :=
  h.append (.cons step (.nil _))

theorem Steps.split (h : lifecycle.Steps first (events ++ later) last) :
    ∃ middle, lifecycle.Steps first events middle ∧ lifecycle.Steps middle later last := by
  induction events generalizing first with
  | nil => exact ⟨first, .nil _, h⟩
  | cons event events ih =>
    obtain _ | ⟨step, steps⟩ := h
    obtain ⟨middle, h₁, h₂⟩ := ih steps
    exact ⟨middle, .cons step h₁, h₂⟩

/-- What holds of the empty history and is kept by every event holds of every history. -/
theorem Steps.keep {I : List (Event L) → Stage L → Prop} (hnil : I [] first)
    (hstep : ∀ {events stage event next}, I events stage → lifecycle.Step stage event next →
      I (events ++ [event]) next)
    (h : lifecycle.Steps first events last) : I events last := by
  suffices ∀ {past : List (Event L)} {stage}, I past stage →
      lifecycle.Steps stage events last → I (past ++ events) last from this hnil h
  clear h hnil
  intro past stage hpast h
  induction h generalizing past with
  | nil => simpa using hpast
  | cons step _ ih => simpa using ih (hstep hpast step)

/-! ## The lines in hand -/

@[simp] theorem StartupCall.acquired?_event (call : StartupCall L) (answer : Except Failure Unit) :
    (call.event answer).acquired? = none := by
  cases call <;> rfl

@[simp] theorem StartupCall.released?_event (call : StartupCall L) (answer : Except Failure Unit) :
    (call.event answer).released? = none := by
  cases call <;> rfl

theorem Step.lines_eq (h : lifecycle.Step first event last) :
    ∃ kept, first.lines = event.released?.toList ++ kept ∧
      last.lines = kept ++ event.acquired?.toList := by
  cases h with
  | goneOn | brokenOff => simp [Stage.lines]
  | _ => simp [Stage.lines, Event.released?, Event.acquired?]

/-- The lines acquired so far are the lines released so far, in the same order, and the lines in
hand. -/
theorem Steps.acquired_eq (h : lifecycle.Steps .idle events last) :
    acquired events = released events ++ last.lines := by
  refine h.keep (I := fun events stage => acquired events = released events ++ stage.lines) rfl ?_
  intro events stage event next hI hstep
  obtain ⟨kept, hlines, hnext⟩ := hstep.lines_eq
  calc acquired (events ++ [event])
      = released events ++ stage.lines ++ event.acquired?.toList := by rw [acquired_snoc, hI]
    _ = released events ++ event.released?.toList ++ (kept ++ event.acquired?.toList) := by
        rw [hlines]; simp only [List.append_assoc]
    _ = released (events ++ [event]) ++ next.lines := by rw [released_snoc, hnext]

/-! ## The way to a stage -/

/-- A call and the startup of a pair of lines, complete and without a failure. -/
def broughtUp (lifecycle : Lifecycle W L P) (pair : LinePair L) : List (Event L) :=
  .called .attach ::
    .acquire lifecycle.resetRequest (.ok pair.reset) ::
    .acquire lifecycle.bootSelectRequest (.ok pair.bootSelect) ::
    (startupCalls lifecycle.target.settle pair).map (StartupCall.event (.ok ()))

/-- What has just happened at a stage. -/
def Trail (lifecycle : Lifecycle W L P) (history : List (Event L)) : Stage L → Prop
  | .attaching => [.called .attach] <:+ history
  | .resetInHand reset =>
    [.called .attach, .acquire lifecycle.resetRequest (.ok reset)] <:+ history
  | .starting pair left => ∃ made, made ++ left = startupCalls lifecycle.target.settle pair ∧
    .called .attach ::
      .acquire lifecycle.resetRequest (.ok pair.reset) ::
      .acquire lifecycle.bootSelectRequest (.ok pair.bootSelect) ::
      made.map (StartupCall.event (.ok ())) <:+ history
  | .published pair => lifecycle.broughtUp pair ++ [.publish (.ok ())] <:+ history
  | .attached pair | .refusingAttach pair | .detaching pair =>
    ∃ marks, (∀ mark ∈ marks, mark.isMark) ∧
      lifecycle.broughtUp pair ++ .publish (.ok ()) :: marks <:+ history
  | _ => True

theorem Steps.trail (h : lifecycle.Steps .idle events last) : lifecycle.Trail events last := by
  refine h.keep (I := fun events stage => lifecycle.Trail events stage)
    (show lifecycle.Trail [] .idle from trivial) ?_
  intro events stage event next hI hstep
  cases hstep with
  | attachCalled => exact List.suffix_append _ _
  | resetAcquired reset => exact List.suffix_append_self_iff.2 hI
  | bootSelectAcquired reset bootSelect => exact ⟨[], rfl, List.suffix_append_self_iff.2 hI⟩
  | goneOn pair call left =>
    obtain ⟨made, hmade, hsuffix⟩ := hI
    refine ⟨made ++ [call], by simpa using hmade, ?_⟩
    simpa using List.suffix_append_self_iff.2 hsuffix
  | published pair =>
    obtain ⟨made, hmade, hsuffix⟩ := hI
    rw [List.append_nil] at hmade
    subst hmade
    exact List.suffix_append_self_iff.2 hsuffix
  | attachDone pair =>
    refine ⟨[.returned .attach (.done ())], by simp [Event.isMark], ?_⟩
    simpa using List.suffix_append_self_iff.2 hI
  | attachRefused pair | refusedAttach pair | detachCalled pair =>
    obtain ⟨marks, hmarks, hsuffix⟩ := hI
    refine ⟨marks ++ [_], ?_, by simpa using List.suffix_append_self_iff.2 hsuffix⟩
    simpa [or_imp, forall_and, Event.isMark] using hmarks
  | _ => trivial

end Lifecycle

end CoprocReset
