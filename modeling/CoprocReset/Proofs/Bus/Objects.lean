import CoprocReset.Bus.Objects
import CoprocReset.Proofs.Publisher

/-!
# Which objects belong to a station

A table is `Foreign` to a station if no path serves one of its controllers, and it `Serves` one if
the path does and no other path serves any. Publishing leads from the first to the second if the
name is one of an attribute and its path is free (`delivers_publish`), and changes nothing otherwise
(`delivers_publish_refused`). Taking the attribute away leads back (`delivers_unpublish`). A call
never changes who is served where, and one that reaches no controller of the station changes at most
a stranger (`call_world`).
-/

namespace CoprocReset.Bus

namespace ObjectTable

/-- No path serves a controller of the station. -/
def Foreign (table : ObjectTable) : Prop :=
  ∀ path handle, (table.object path).server ≠ some (.station handle)

/-- The path serves the controller, and no other path serves one of the station. -/
structure Serves (table : ObjectTable) (path : String) (handle : Handle) : Prop where
  served : (table.object path).server = some (.station handle)
  only : ∀ other handle', (table.object other).server = some (.station handle') → other = path

/-- The name is one of an attribute, and its path serves none yet. -/
def Admits (table : ObjectTable) (attributeName : String) : Prop :=
  attributePath attributeName = .ok (pathOf attributeName) ∧
    (table.object (pathOf attributeName)).server = none

/-- The table with one server at the path. -/
def withServer (table : ObjectTable) (path : String) (server : Server) : ObjectTable :=
  table.put path { table.object path with server := some server }

variable {table : ObjectTable} {path other : String} {handle : Handle} {server : Server}

theorem server_withServer (table : ObjectTable) (path other : String) (server : Server) :
    ((table.withServer path server).object other).server =
      if other = path then some server else (table.object other).server := by
  rw [withServer, object_put]
  split <;> rfl

theorem Foreign.withServer (h : table.Foreign) (path : String) (handle : Handle) :
    (table.withServer path (.station handle)).Serves path handle := by
  constructor
  · rw [server_withServer, if_pos rfl]
  · intro other handle' hother
    rw [server_withServer] at hother
    split at hother
    · assumption
    · exact absurd hother (h other handle')

/-- A stranger that is served at its path as before makes no difference. -/
theorem Foreign.stranger (h : table.Foreign) (path : String) (bank : MemoryBank)
    (controller : Controller MemoryLine) :
    (table.withServer path (.stranger bank controller)).Foreign := by
  intro other handle hother
  rw [server_withServer] at hother
  split at hother
  · cases hother
  · exact h other handle hother

theorem Serves.stranger (h : table.Serves path handle) (hne : other ≠ path) (bank : MemoryBank)
    (controller : Controller MemoryLine) :
    (table.withServer other (.stranger bank controller)).Serves path handle := by
  constructor
  · rw [server_withServer, if_neg hne.symm, h.served]
  · intro last handle' hlast
    rw [server_withServer] at hlast
    split at hlast
    · cases hlast
    · exact h.only last handle' hlast

/-- Without its attribute an object may still serve a neighbour. -/
theorem Serves.vacated (h : table.Serves path handle) (object : BusObject)
    (hobject : object.server = none) : (table.put path object).Foreign := by
  intro other handle' hother
  rw [object_put] at hother
  split at hother
  · rw [hobject] at hother
    cases hother
  · next hne => exact hne (h.only other handle' hother)

/-- An object that goes takes all below it with it. -/
theorem Serves.prune (h : table.Serves path handle) : (table.prune path).Foreign := by
  intro other handle' hother
  rw [object_prune] at hother
  split at hother
  · cases hother
  · next hne => exact hne (.inl (h.only other handle' hother))

end ObjectTable

/-! ## Publishing and taking away -/

section Publishing

variable {table : ObjectTable} {attributeName path : String} {handle : Handle}

theorem exec_publish {W L : Type} (hw : Hardware W L) (attributeName : String) (handle : Handle) :
    Publisher.exec hw (busPublisher.publish attributeName handle) =
      (publish attributeName handle).on Station.publisherPart :=
  Script.exec_ask ..

theorem exec_unpublish {W L : Type} (hw : Hardware W L) (attributeName : String) :
    Publisher.exec hw (busPublisher.unpublish attributeName) =
      (unpublish attributeName).on Station.publisherPart :=
  Script.exec_ask ..

theorem attributePath_eq (h : attributePath attributeName = .ok path) :
    path = pathOf attributeName := by
  rw [attributePath] at h
  split at h <;> cases h
  rfl

theorem delivers_publish (h : table.Admits attributeName) :
    (publish attributeName handle).Delivers table fun result later =>
      result = .ok () ∧ later = table.withServer (pathOf attributeName) (.station handle) := by
  obtain ⟨hpath, hfree⟩ := h
  rw [publish, hpath]
  refine .bind ((Action.delivers_ofExcept _).2 (.world_bind ?_))
  simp only [ObjectTable.serve, hfree, Option.isSome_none, Bool.false_eq_true, if_false, if_true]
  exact .update_bind ((Action.delivers_note _ _).2 ⟨rfl, rfl⟩)

/-- Why an attribute is not published: there is no path for the name, or it is taken. -/
def publishRefusal (attributeName : String) : Failure :=
  match attributePath attributeName with
  | .error failure => failure
  | .ok path => .internal (attributeName ++ " is already published at " ++ path)

/-- A name that is none of an attribute, or a path that serves one already: the table stays as it
is. -/
theorem delivers_publish_refused (h : ¬ table.Admits attributeName) :
    (publish attributeName handle).Delivers table fun result later =>
      result = .error (publishRefusal attributeName) ∧ later = table := by
  rw [publish, publishRefusal]
  cases hpath : attributePath attributeName with
  | error failure => exact .bind ((Action.delivers_ofExcept _).2 ⟨rfl, rfl⟩)
  | ok path =>
    obtain rfl := attributePath_eq hpath
    have hserved : (table.object (pathOf attributeName)).server.isSome = true := by
      rw [Option.isSome_iff_ne_none]
      exact fun hfree => h ⟨hpath, hfree⟩
    refine .bind ((Action.delivers_ofExcept _).2 (.world_bind ?_))
    simp only [ObjectTable.serve_of_served _ hserved, Bool.false_eq_true, if_false]
    exact .update_bind ((Action.delivers_fail _).2 ⟨rfl, rfl⟩)

/-- Whether or not the object goes with it, the attribute is gone. -/
theorem delivers_unpublish (hpath : attributePath attributeName = .ok (pathOf attributeName))
    (h : table.Serves (pathOf attributeName) handle) :
    (unpublish attributeName).Delivers table fun _ later => later.Foreign := by
  rw [unpublish, hpath]
  refine .bind ((Action.delivers_ofExcept _).2 (.world_bind ?_))
  simp only [ObjectTable.vacate, h.served, Option.isNone_some, Bool.false_eq_true, if_false]
  by_cases hneighbour : (table.object (pathOf attributeName)).neighbour = true
  · simp only [hneighbour, if_true, Bool.false_eq_true, if_false]
    exact .update_bind ((Action.delivers_fail _).2 (h.vacated _ rfl))
  · simp only [hneighbour, Bool.false_eq_true, if_false, if_true]
    exact .update_bind ((Action.delivers_note _ _).2 h.prune)

end Publishing

/-! ## Calls -/

section Calls

variable {W L α : Type} {hw : Hardware W L}

/-- A call to a path that serves no controller of the station comes to nothing, or to something at
one stranger. -/
theorem call_world (hw : Hardware W L) {path : String} (call : InterfaceCall α)
    {station : Station W L ObjectTable}
    (h : ∀ handle, (station.publisher.object path).server ≠ some (.station handle)) :
    let later := (Bus.call hw path call station).world
    later = station ∨ ∃ bank controller bank' controller',
      (station.publisher.object path).server = some (.stranger bank controller) ∧
        later = { station with
          publisher := station.publisher.withServer path (.stranger bank' controller') } := by
  rw [Bus.call, Action.bind_done (rfl : Action.world station = ⟨.done station, station, []⟩)]
  dsimp only
  split
  · cases hserver : (station.publisher.object path).server with
    | none => exact .inl rfl
    | some server =>
      dsimp only
      split
      · cases server with
        | station handle => exact absurd hserver (h handle)
        | stranger bank controller => exact .inr ⟨bank, controller, _, _, rfl, rfl⟩
      · exact .inl rfl
  · exact .inl rfl

/-- A request by name is a call to the path of the name, if it leads to one. -/
theorem request_world (hw : Hardware W L) (attributeName : String) (call : InterfaceCall α)
    (station : Station W L ObjectTable) :
    let later := (Bus.request hw attributeName call station).world
    later = station ∨ later = (Bus.call hw (pathOf attributeName) call station).world := by
  rw [Bus.request, requestPath, checkPath]
  split
  · refine .inr ?_
    dsimp only
    rw [← map_eq_pure_bind, Action.map_apply]
  · exact .inl rfl

end Calls

end CoprocReset.Bus
