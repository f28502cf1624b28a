import CoprocReset.Target.Basic

/-!
# The registry of targets

A registry keeps targets under texts that say what they are compatible with, each a list of
components between commas. A request is answered by a text that has every component of the
request, whatever their order (`answers_iff`). The texts are in increasing order, each once; a
later registration replaces an earlier one of the same text.
-/

namespace CoprocReset

/-- Targets by what they are compatible with, in increasing order. -/
structure Registry where
  entries : List (String × Target)
  ordered : entries.Pairwise fun first second => first.1 < second.1

namespace Registry

/-- The registry of no target. -/
def empty : Registry := ⟨[], .nil⟩

/-- The components between the commas. -/
def components (compatible : String) : List (List Char) := compatible.toList.splitOn ','

/-- Whether a registered text has every component of the requested one. -/
def answers (registered requested : String) : Bool :=
  (components requested).all fun component => component ∈ components registered

/-- The entries with the target under the text, in its place. -/
def put (compatible : String) (target : Target) : List (String × Target) → List (String × Target)
  | [] => [(compatible, target)]
  | entry :: rest =>
    if compatible < entry.1 then (compatible, target) :: entry :: rest
    else if compatible = entry.1 then (compatible, target) :: rest
    else entry :: put compatible target rest

theorem mem_put {compatible : String} {target : Target} {entries : List (String × Target)}
    {entry : String × Target} (h : entry ∈ put compatible target entries) :
    entry = (compatible, target) ∨ entry ∈ entries := by
  induction entries with
  | nil => simpa [put] using h
  | cons first rest ih =>
    rw [put] at h
    split at h
    · simpa using h
    · split at h
      · rcases List.mem_cons.1 h with h | h <;> simp [h]
      · rcases List.mem_cons.1 h with h | h
        · simp [h]
        · rcases ih h with h | h <;> simp [h]

theorem pairwise_put (compatible : String) (target : Target) {entries : List (String × Target)}
    (ordered : entries.Pairwise fun first second => first.1 < second.1) :
    (put compatible target entries).Pairwise fun first second => first.1 < second.1 := by
  induction entries with
  | nil => simp [put]
  | cons first rest ih =>
    obtain ⟨below, ordered⟩ := List.pairwise_cons.1 ordered
    rw [put]
    split
    · next h =>
      refine List.pairwise_cons.2 ⟨fun entry he => ?_, List.pairwise_cons.2 ⟨below, ordered⟩⟩
      rcases List.mem_cons.1 he with rfl | he
      · exact h
      · exact String.lt_trans h (below entry he)
    · split
      · next h => exact List.pairwise_cons.2 ⟨fun entry he => h ▸ below entry he, ordered⟩
      · next hlt hne =>
        refine List.pairwise_cons.2 ⟨fun entry he => ?_, ih ordered⟩
        rcases mem_put he with rfl | he
        · exact Std.lt_of_le_of_ne (String.not_lt.1 hlt) (Ne.symm hne)
        · exact below entry he

/-- The registry with the target under the text. -/
def register (registry : Registry) (compatible : String) (target : Target) : Registry where
  entries := put compatible target registry.entries
  ordered := pairwise_put compatible target registry.ordered

/-- The registered texts in increasing order. -/
def compatibles (registry : Registry) : List String := registry.entries.map (·.1)

/-- The target that answers the request. -/
def find? (registry : Registry) (requested : String) : Option Target :=
  (registry.entries.find? fun entry => answers entry.1 requested).map (·.2)

/-- The target that answers the request; without one the request was wrong. -/
def lookup (registry : Registry) (requested : String) : Except Failure Target :=
  match registry.find? requested with
  | some target => .ok target
  | none =>
    .error (.argument
      ("x8h7rstd could not match '" ++ requested ++ "' to a known reset target."))

/-- All targets that come with the library. -/
def builtin : Registry := empty.register Target.portentaCompatible Target.portenta

/-- Only the set of requested components counts. -/
theorem answers_iff (registered requested : String) :
    answers registered requested ↔
      ∀ component ∈ components requested, component ∈ components registered := by
  simp [answers]

end Registry

end CoprocReset
