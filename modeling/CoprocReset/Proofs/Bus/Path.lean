import CoprocReset.Client.Run
import CoprocReset.Proofs.Bus.Objects

/-!
# Which paths the bus and its clients use

`IsElement` says what the elements of an object path are made of, and `WellFormed` that a path is a
row of elements with a slash before each; the two tests of the library decide them
(`isPathElement_iff`, `isObjectPath_iff`). An attribute is published under every name that is an
element and under no other. A client makes a path of its own from the name that it was given, and
that is the same one (`Client.objectPath_eq_pathOf`). Two names never have one path (`pathOf_inj`),
so a client with another name does not come to the object of the attribute, even if it asks for a
path that is well formed.
-/

namespace CoprocReset.Bus

variable {attributeName other path : String} {cs : List Char}

/-! ## Object paths -/

/-- An ASCII letter, an ASCII digit or the underscore. -/
def IsElementChar (c : Char) : Prop :=
  ('A' ≤ c ∧ c ≤ 'Z') ∨ ('a' ≤ c ∧ c ≤ 'z') ∨ ('0' ≤ c ∧ c ≤ '9') ∨ c = '_'

/-- An element of an object path. -/
def IsElement (cs : List Char) : Prop := cs ≠ [] ∧ ∀ c ∈ cs, IsElementChar c

/-- One or more elements, each after a slash. -/
def WellFormed (path : String) : Prop :=
  ∃ elements ≠ [], (∀ cs ∈ elements, IsElement cs) ∧ path.toList = elements.flatMap ('/' :: ·)

theorem isPathChar_iff {c : Char} : isPathChar c = true ↔ IsElementChar c := by
  have hupper : c.isUpper = decide ('A' ≤ c ∧ c ≤ 'Z') := rfl
  have hlower : c.isLower = ('a' ≤ c && c ≤ 'z') := rfl
  have halpha : c.isAlpha = (c.isUpper || c.isLower) := rfl
  have hdigit : c.isDigit = ('0' ≤ c && c ≤ '9') := rfl
  have halphanum : c.isAlphanum = (c.isAlpha || c.isDigit) := rfl
  simp [isPathChar, IsElementChar, halphanum, halpha, hupper, hlower, hdigit, or_assoc]

theorem isPathElement_iff : isPathElement cs = true ↔ IsElement cs := by
  simp [isPathElement, IsElement, isPathChar_iff]

theorem IsElement.no_slash (h : IsElement cs) : '/' ∉ cs := by
  intro hslash
  exact absurd (isPathChar_iff.2 (h.2 _ hslash)) (by decide)

theorem cons_intercalate {elements : List (List Char)} (h : elements ≠ []) :
    '/' :: ['/'].intercalate elements = elements.flatMap ('/' :: ·) := by
  induction elements with
  | nil => exact absurd rfl h
  | cons first rest ih =>
    cases rest with
    | nil => simp
    | cons second rest =>
      rw [List.intercalate_cons_cons, List.flatMap_cons, ← ih (by simp)]
      simp

/-- Apart from the root, a path is one if it is well formed. -/
theorem isObjectPath_iff : isObjectPath path = true ↔ path = "/" ∨ WellFormed path := by
  constructor
  · intro h
    rw [isObjectPath] at h
    split at h
    · next htext => exact .inl (String.toList_inj.1 htext)
    · next rest _ htext =>
      have hne := List.splitOn_ne_nil '/' rest
      refine .inr ⟨rest.splitOn '/', hne, fun cs hcs => ?_, ?_⟩
      · exact isPathElement_iff.1 (List.all_eq_true.1 h cs hcs)
      · rw [htext, ← cons_intercalate hne, List.intercalate_splitOn]
    · cases h
  · rintro (rfl | ⟨elements, hne, helements, htext⟩)
    · rfl
    · rw [isObjectPath, htext, ← cons_intercalate hne]
      split
      · rfl
      · next rest _ hrest =>
        obtain ⟨-, rfl⟩ := List.cons.inj hrest
        rw [List.splitOn_intercalate '/' (fun cs hcs => (helements cs hcs).no_slash) hne,
          List.all_eq_true]
        exact fun cs hcs => isPathElement_iff.2 (helements cs hcs)
      · next hslash => exact absurd rfl (hslash _)

/-! ## Paths of names -/

theorem toList_pathOf (attributeName : String) :
    (pathOf attributeName).toList = "/org/arduino/x8h7rstd/".toList ++ attributeName.toList := by
  rw [pathOf, String.toList_append, String.toList_append]
  rfl

theorem pathOf_inj : pathOf attributeName = pathOf other ↔ attributeName = other := by
  refine ⟨fun h => ?_, fun h => h ▸ rfl⟩
  have htext := congrArg String.toList h
  rw [toList_pathOf, toList_pathOf] at htext
  exact String.toList_inj.1 (List.append_cancel_left htext)

/-- No path of a name is the root. -/
theorem isObjectPath_pathOf_iff :
    isObjectPath (pathOf attributeName) = true ↔ WellFormed (pathOf attributeName) := by
  rw [isObjectPath_iff, or_iff_right]
  intro h
  have hlength := congrArg (fun path => path.toList.length) h
  rw [toList_pathOf, List.length_append] at hlength
  change 22 + attributeName.toList.length = 1 at hlength
  omega

/-- A name that is an element is the last element of its path. -/
theorem wellFormed_pathOf (h : IsElement attributeName.toList) :
    WellFormed (pathOf attributeName) := by
  refine ⟨["org".toList, "arduino".toList, "x8h7rstd".toList, attributeName.toList], by simp,
    ?_, ?_⟩
  · have helement (text : String) (htext : isPathElement text.toList = true) :
        IsElement text.toList := isPathElement_iff.1 htext
    simp only [List.forall_mem_cons]
    exact ⟨helement "org" (by decide), helement "arduino" (by decide),
      helement "x8h7rstd" (by decide), h, by simp⟩
  · rw [toList_pathOf]
    simp only [List.flatMap_cons, List.flatMap_nil, List.append_nil]
    rfl

/-- An attribute is published exactly under a name that is an element. -/
theorem attributePath_eq_ok_iff :
    attributePath attributeName = .ok path ↔
      IsElement attributeName.toList ∧ path = pathOf attributeName := by
  rw [attributePath]
  split
  · next h => simp [isPathElement_iff.1 h, eq_comm]
  · next h => simp [mt isPathElement_iff.2 h]

theorem attributePath_refused (h : ¬ IsElement attributeName.toList) :
    attributePath attributeName = .error (.argument (Text.quote attributeName ++
      " is not a valid attribute name: only ASCII letters, digits and '_' are allowed")) := by
  rw [attributePath, if_neg (mt isPathElement_iff.1 h)]

/-- A client may go wherever its path is well formed. -/
theorem requestPath_of_wellFormed (h : WellFormed (Client.objectPath attributeName)) :
    Client.requestPath attributeName = .ok (Client.objectPath attributeName) := by
  rw [Client.requestPath, checkPath, if_pos (isObjectPath_iff.2 (.inr h))]

theorem requestPath_refused (h : ¬ WellFormed (Client.objectPath attributeName)) :
    Client.requestPath attributeName = .error .invalidPath := by
  rw [Client.objectPath_eq_pathOf] at h
  rw [Client.requestPath, checkPath, Client.objectPath_eq_pathOf,
    if_neg (mt isObjectPath_pathOf_iff.1 h)]

/-- A client with the name of an attribute makes all the calls of its errand. -/
theorem dialogue_eq (h : attributePath attributeName = .ok path) (errand : Client.Errand) :
    errand.dialogue attributeName = errand.calls attributeName := by
  have hformed : WellFormed (Client.objectPath attributeName) := by
    rw [Client.objectPath_eq_pathOf]
    exact wellFormed_pathOf (attributePath_eq_ok_iff.1 h).1
  rw [Client.Errand.dialogue, requestPath_of_wellFormed hformed]

/-! ## Who comes where -/

/-- To publish an attribute makes no difference to what any other path serves. -/
theorem object_publish (h : path ≠ pathOf other) (handle : Handle) (table : ObjectTable) :
    (publish other handle table).world.object path = table.object path := by
  by_cases hadmits : table.Admits other
  · obtain ⟨_, -, -, hworld⟩ :
        (publish other handle).Delivers table fun result later =>
          result = .ok () ∧ later = table.withServer (pathOf other) (.station handle) :=
      delivers_publish hadmits
    rw [hworld, ObjectTable.withServer, ObjectTable.object_put, if_neg h]
  · obtain ⟨_, -, -, hworld⟩ :
        (publish other handle).Delivers table fun result later =>
          result = .error (publishRefusal other) ∧ later = table :=
      delivers_publish_refused hadmits
    rw [hworld]

/-- A client carries its errand out at the path of its name, or makes no call at all. -/
theorem carryOut_eq {W L : Type} (hw : Hardware W L) (attributeName : String)
    (errand : Client.Errand) :
    (WellFormed (Client.objectPath attributeName) →
      Client.carryOut hw ⟨attributeName, errand⟩ =
        (errand.calls attributeName).run
          (Client.perform hw (Client.objectPath attributeName))) ∧
    (¬ WellFormed (Client.objectPath attributeName) →
      Client.carryOut hw ⟨attributeName, errand⟩ = pure (.error (.declined .invalidPath))) := by
  refine ⟨fun h => ?_, fun h => ?_⟩
  · rw [Client.carryOut, Client.Errand.dialogue, requestPath_of_wellFormed h]
  · rw [Client.carryOut, Client.Errand.dialogue, requestPath_refused h]
    rfl

/-- The daemon and its clients agree on the paths: an attribute of a proper name is published where
a client with that name goes, and nowhere else. Under any other name there is no attribute, and a
client has no path, or one at which no attribute is published under whatever name. -/
theorem paths_agree (attributeName : String) :
    (pathOf attributeName = "/org/arduino/x8h7rstd/" ++ attributeName ∧
      Client.objectPath attributeName = pathOf attributeName) ∧
    (IsElement attributeName.toList →
      attributePath attributeName = .ok (pathOf attributeName) ∧
        WellFormed (pathOf attributeName) ∧
        Client.requestPath attributeName = .ok (pathOf attributeName)) ∧
    (¬ IsElement attributeName.toList →
      attributePath attributeName = .error (.argument (Text.quote attributeName ++
        " is not a valid attribute name: only ASCII letters, digits and '_' are allowed")) ∧
      (¬ WellFormed (Client.objectPath attributeName) ∧
          Client.requestPath attributeName = .error .invalidPath ∨
        WellFormed (Client.objectPath attributeName) ∧
          Client.requestPath attributeName = .ok (Client.objectPath attributeName) ∧
          ∀ other, attributePath other ≠ .ok (Client.objectPath attributeName))) ∧
    (∀ other, attributePath other = .ok (pathOf attributeName) → other = attributeName) ∧
    (∀ other ≠ attributeName, ∀ handle table,
      (publish other handle table).world.object (Client.objectPath attributeName) =
        table.object (Client.objectPath attributeName)) ∧
    ∀ {W L : Type} (hw : Hardware W L) (errand : Client.Errand),
      (WellFormed (Client.objectPath attributeName) →
        Client.carryOut hw ⟨attributeName, errand⟩ =
          (errand.calls attributeName).run
            (Client.perform hw (Client.objectPath attributeName))) ∧
      (¬ WellFormed (Client.objectPath attributeName) →
        Client.carryOut hw ⟨attributeName, errand⟩ = pure (.error (.declined .invalidPath))) := by
  have hother {other : String} (h : attributePath other = .ok (pathOf attributeName)) :
      other = attributeName := (pathOf_inj.1 (attributePath_eq_ok_iff.1 h).2).symm
  have hclient := Client.objectPath_eq_pathOf attributeName
  refine ⟨⟨?_, hclient⟩, fun h => ?_, fun h => ⟨attributePath_refused h, ?_⟩, fun other => hother,
    fun other hne => ?_, fun hw => carryOut_eq hw attributeName⟩
  · rw [← String.toList_inj, toList_pathOf, String.toList_append]
  · have hformed := wellFormed_pathOf h
    exact ⟨attributePath_eq_ok_iff.2 ⟨h, rfl⟩, hformed,
      hclient ▸ requestPath_of_wellFormed (hclient ▸ hformed)⟩
  · by_cases hformed : WellFormed (Client.objectPath attributeName)
    · refine .inr ⟨hformed, requestPath_of_wellFormed hformed, fun other hpublished => ?_⟩
      rw [hclient] at hpublished
      obtain rfl := hother hpublished
      exact h (attributePath_eq_ok_iff.1 hpublished).1
    · exact .inl ⟨hformed, requestPath_refused hformed⟩
  · rw [hclient]
    exact object_publish fun heq => hne (pathOf_inj.1 heq).symm

example : attributePath "x8h7_reset" = .ok "/org/arduino/x8h7rstd/x8h7_reset" := by rfl
example : Client.requestPath "x8h7/reset" = .ok "/org/arduino/x8h7rstd/x8h7/reset" := by rfl
example : Client.requestPath "x8h7-reset" = .error .invalidPath := by rfl

end CoprocReset.Bus
