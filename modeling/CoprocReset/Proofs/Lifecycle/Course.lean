import CoprocReset.Proofs.Lifecycle.History

/-!
# The course of a lifecycle

A course is any finite row of attachments and detachments, of requests through any handle, and of
changes that others make to the world and to what the publisher keeps. `Reachable` has the stations
on the way, `Course` the histories with them. Calls on hardware and publisher may fail whenever they
like; a course goes on as long as none has crashed.

Between any two steps the device is unattached or attached, and the books agree with the history
(`Course.settled`).
-/

namespace CoprocReset

namespace Lifecycle

variable {W L P : Type}

/-- What a lifecycle finds around it: the worlds that it may begin in, and what others may make of a
world between two of its calls. -/
structure Surroundings (W : Type) where
  begins : W → Prop
  changes : W → W → Prop

/-- Any world, and any change. -/
def Surroundings.any {W : Type} : Surroundings W := ⟨fun _ => True, fun _ _ => True⟩

/-- The stations that a lifecycle comes to. -/
inductive Reachable (lifecycle : Lifecycle W L P) (around : Surroundings W) :
    Station W L P → Prop
  | initial (world : W) (publisher : P) (hworld : around.begins world) :
    Reachable lifecycle around (.initial world publisher)
  | perform (verb : Verb) {station : Station W L P} (h : Reachable lifecycle around station)
    (hcalm : ∀ message, (lifecycle.perform verb station).outcome ≠ .crashed message) :
    Reachable lifecycle around (lifecycle.perform verb station).world
  | request {α : Type} (handle : Handle) (request : Request α) {station : Station W L P}
    (h : Reachable lifecycle around station) :
    Reachable lifecycle around (Station.request lifecycle.hardware handle request station).world
  | elsewhere (world : W) (publisher : P) {station : Station W L P}
    (h : Reachable lifecycle around station) (hworld : around.changes station.world world) :
    Reachable lifecycle around { station with world, publisher }

/-- The stations that a lifecycle comes to, with its history up to there. -/
inductive Course (lifecycle : Lifecycle W L P) (around : Surroundings W) :
    Station W L P → List (Event L) → Prop
  | initial (world : W) (publisher : P) (hworld : around.begins world) :
    Course lifecycle around (.initial world publisher) []
  | perform (verb : Verb) {station : Station W L P} {history : List (Event L)}
    (h : Course lifecycle around station history)
    (hcalm : ∀ message, (lifecycle.perform verb station).outcome ≠ .crashed message) :
    Course lifecycle around (lifecycle.record verb (station, history)).world.1
      (lifecycle.record verb (station, history)).world.2
  | request {α : Type} (handle : Handle) (request : Request α) {station : Station W L P}
    {history : List (Event L)} (h : Course lifecycle around station history) :
    Course lifecycle around (Station.request lifecycle.hardware handle request station).world
      history
  | elsewhere (world : W) (publisher : P) {station : Station W L P} {history : List (Event L)}
    (h : Course lifecycle around station history) (hworld : around.changes station.world world) :
    Course lifecycle around { station with world, publisher } history

variable {lifecycle : Lifecycle W L P} {around : Surroundings W} {station : Station W L P}
  {history : List (Event L)}

theorem record_outcome (hcalm : lifecycle.hardware.Calm) (verb : Verb) (station : Station W L P)
    (history : List (Event L)) :
    (lifecycle.record verb (station, history)).outcome =
      (lifecycle.perform verb station).outcome :=
  congrArg Run.outcome (record_eq hcalm verb station history)

theorem record_world (hcalm : lifecycle.hardware.Calm) (verb : Verb) (station : Station W L P)
    (history : List (Event L)) :
    (lifecycle.record verb (station, history)).world.1 = (lifecycle.perform verb station).world :=
  congrArg Run.world (record_eq hcalm verb station history)

/-- Every station that a lifecycle comes to has a history. -/
theorem Reachable.course (hcalm : lifecycle.hardware.Calm)
    (h : lifecycle.Reachable around station) :
    ∃ history, lifecycle.Course around station history := by
  induction h with
  | initial world publisher hworld => exact ⟨[], .initial world publisher hworld⟩
  | perform verb h hdone ih =>
    obtain ⟨history, hcourse⟩ := ih
    exact ⟨_, record_world hcalm verb _ history ▸ hcourse.perform verb hdone⟩
  | request handle request h ih =>
    obtain ⟨history, hcourse⟩ := ih
    exact ⟨history, hcourse.request handle request⟩
  | elsewhere world publisher h hworld ih =>
    obtain ⟨history, hcourse⟩ := ih
    exact ⟨history, hcourse.elsewhere world publisher hworld⟩

/-- Between two calls the history has led to a stage that the books agree with. -/
def Settled (lifecycle : Lifecycle W L P) (station : Station W L P) (history : List (Event L)) :
    Prop :=
  ∃ rest, lifecycle.Steps .idle history rest ∧ AtRest station.books rest

theorem Settled.record (h : lifecycle.Settled station history) (verb : Verb) :
    (lifecycle.record verb).Yields (station, history) fun _ later =>
      lifecycle.Settled later.1 later.2 := by
  obtain ⟨rest, hsteps, hrest⟩ := h
  obtain ⟨begun, hbegin, hleads⟩ := leads_script lifecycle verb hrest
  refine yields_record.2 ((hleads station _ .idle rfl (hsteps.snoc hbegin)).mono ?_)
  rintro result ⟨later, record⟩ ⟨last, hlast, next, hreturn, hnext⟩
  exact ⟨next, hlast.snoc hreturn, hnext⟩

/-- Along every course the books agree with the history. -/
theorem Course.settled (hcalm : lifecycle.hardware.Calm)
    (h : lifecycle.Course around station history) : lifecycle.Settled station history := by
  induction h with
  | initial world publisher hworld => exact ⟨.idle, .nil _, .unattached rfl rfl⟩
  | perform verb h hdone ih => exact (ih.record verb).after (record_outcome hcalm .. ▸ hdone)
  | @request α handle request station history h ih =>
    obtain ⟨rest, hsteps, hrest⟩ := ih
    have hbooks : (Station.request lifecycle.hardware handle request station).world.books =
        station.books :=
      (Station.request_leaves hcalm lifecycle.hardware.keeps_true handle request trivial).2
    exact ⟨rest, hsteps, hbooks ▸ hrest⟩
  | elsewhere world publisher h hworld ih => exact ih

end Lifecycle

end CoprocReset
