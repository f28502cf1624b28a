import CoprocReset.Proofs.Action
import CoprocReset.Proofs.Files.Access

/-!
# Files that are written one after the other

`writeAll` gives files their texts until one is refused. Which one that is can be told beforehand,
as no text makes a difference to how another is received (`firstRefusal?`). Those before it are in
their files afterwards, and nothing else has changed (`delivers_writeAll`).

`Rewritten` says of two trees that they differ in nothing but files to which some paths lead.
-/

namespace CoprocReset.Files

/-- A text for a file that is there. -/
structure Write where
  path : Path
  text : String
  deriving DecidableEq, Repr

namespace FileTree

/-- Why the file does not take the text. -/
def refusal? (tree : FileTree) (w : Write) : Option Failure :=
  match tree.write w.path false w.text with
  | .ok _ => none
  | .error cause => some (.ioWrite w.path w.text cause)

/-- Why the first of the files that do not take their texts does not. -/
def firstRefusal? (tree : FileTree) (writes : List Write) : Option Failure :=
  writes.findSome? tree.refusal?

/-- The texts that come before the first refusal. -/
def taken (tree : FileTree) (writes : List Write) : List Write :=
  writes.takeWhile fun w => (tree.refusal? w).isNone

/-- The path leads to the place. -/
def LeadsTo (tree : FileTree) (path : Path) (place : Location) : Prop :=
  ∃ entry, tree.find path = .ok (place, entry)

/-- `later` is the tree with other texts in files to which some of the paths lead. -/
structure Rewritten (tree : FileTree) (paths : List Path) (later : FileTree) : Prop where
  leadsTo_iff {path : Path} {place : Location} : later.LeadsTo path place ↔ tree.LeadsTo path place
  refusal?_eq (w : Write) : later.refusal? w = tree.refusal? w
  entryAt_eq {place : Location} (h : ∀ path ∈ paths, ¬ tree.LeadsTo path place) :
    later.entryAt place = tree.entryAt place
  find_eq {path : Path} (h : ∀ other ∈ paths, other.Apart path) : later.find path = tree.find path

variable {tree middle later : FileTree} {paths paths' : List Path} {w : Write}
  {writes : List Write} {failure : Failure}

theorem leads_iff {path : Path} :
    tree.leads path = true ↔ ∃ place, tree.LeadsTo path place := by
  rw [leads]
  cases hfind : tree.find path with
  | error cause => simp [LeadsTo, hfind, Except.isOk, Except.toBool]
  | ok found => exact iff_of_true rfl ⟨found.1, found.2, hfind⟩

@[simp] theorem taken_nil : tree.taken [] = [] := rfl

theorem firstRefusal?_cons_refused (h : tree.refusal? w = some failure) :
    tree.firstRefusal? (w :: writes) = some failure := by
  simp [firstRefusal?, h]

theorem firstRefusal?_cons_taken (h : tree.refusal? w = none) :
    tree.firstRefusal? (w :: writes) = tree.firstRefusal? writes := by
  simp [firstRefusal?, h]

theorem taken_cons_refused (h : tree.refusal? w = some failure) :
    tree.taken (w :: writes) = [] := by
  simp [taken, h]

theorem taken_cons_taken (h : tree.refusal? w = none) :
    tree.taken (w :: writes) = w :: tree.taken writes := by
  simp [taken, h]

theorem firstRefusal?_eq_none_iff :
    tree.firstRefusal? writes = none ↔ ∀ w ∈ writes, tree.refusal? w = none :=
  List.findSome?_eq_none_iff

theorem firstRefusal?_congr (h : ∀ w ∈ writes, later.refusal? w = tree.refusal? w) :
    later.firstRefusal? writes = tree.firstRefusal? writes := by
  induction writes with
  | nil => rfl
  | cons w writes ih =>
    obtain ⟨hw, hwrites⟩ := List.forall_mem_cons.1 h
    have hrest : writes.findSome? later.refusal? = writes.findSome? tree.refusal? := ih hwrites
    rw [firstRefusal?, firstRefusal?, List.findSome?_cons, List.findSome?_cons, hw, hrest]

namespace Rewritten

theorem refl (tree : FileTree) : tree.Rewritten [] tree where
  leadsTo_iff := Iff.rfl
  refusal?_eq _ := rfl
  entryAt_eq _ := rfl
  find_eq _ := rfl

theorem mono (h : tree.Rewritten paths later) (hsubset : paths ⊆ paths') :
    tree.Rewritten paths' later where
  leadsTo_iff := h.leadsTo_iff
  refusal?_eq := h.refusal?_eq
  entryAt_eq hplace := h.entryAt_eq fun path hpath => hplace path (hsubset hpath)
  find_eq hapart := h.find_eq fun other hother => hapart other (hsubset hother)

theorem trans (h : tree.Rewritten paths middle) (h' : middle.Rewritten paths' later) :
    tree.Rewritten (paths ++ paths') later where
  leadsTo_iff := h'.leadsTo_iff.trans h.leadsTo_iff
  refusal?_eq w := (h'.refusal?_eq w).trans (h.refusal?_eq w)
  entryAt_eq hplace := by
    refine (h'.entryAt_eq fun path hpath hleads => ?_).trans
      (h.entryAt_eq fun path hpath => hplace path (List.mem_append_left _ hpath))
    exact hplace path (List.mem_append_right _ hpath) (h.leadsTo_iff.1 hleads)
  find_eq hapart :=
    (h'.find_eq fun other hother => hapart other (List.mem_append_right _ hother)).trans
      (h.find_eq fun other hother => hapart other (List.mem_append_left _ hother))

theorem holdsText {path : Path} {text : String} (h : tree.Rewritten paths later)
    (hapart : ∀ other ∈ paths, other.Apart path) (htext : tree.HoldsText path text) :
    later.HoldsText path text := by
  rwa [HoldsText, h.find_eq hapart]

theorem firstRefusal?_eq (h : tree.Rewritten paths later) (writes : List Write) :
    later.firstRefusal? writes = tree.firstRefusal? writes :=
  firstRefusal?_congr fun w _ => h.refusal?_eq w

theorem taken_eq (h : tree.Rewritten paths later) (writes : List Write) :
    later.taken writes = tree.taken writes := by
  rw [taken, taken, funext h.refusal?_eq]

end Rewritten

/-! ## One file -/

/-- A file takes any text, and nothing else takes one. -/
theorem refusal?_eq_none_iff (htext : w.text ≠ "") :
    tree.refusal? w = none ↔ tree.HoldsFile w.path := by
  constructor
  · intro h
    obtain hfile | ⟨failure, hrun⟩ := write_cases tree w.path htext
    · exact hfile
    · rw [refusal?] at h
      rw [Files.write] at hrun
      split at h
      · next heq => simp [heq] at hrun
      · cases h
  · rintro ⟨place, bytes, hfind⟩
    simp [refusal?, FileTree.write, findForWriting, hfind, Entry.replaced, bind, Except.bind, pure,
      Except.pure]

/-- A refusal is the end of it. -/
theorem delivers_refused (h : tree.refusal? w = some failure) :
    (Files.write w.path false w.text).Delivers tree fun result later =>
      result = .error failure ∧ later = tree := by
  have hrun : Files.write w.path false w.text tree = ⟨.failed failure, tree, []⟩ := by
    cases hwrite : tree.write w.path false w.text with
    | ok later => simp [refusal?, hwrite] at h
    | error cause =>
      obtain rfl : .ioWrite w.path w.text cause = failure := by simpa [refusal?, hwrite] using h
      simp [Files.write, hwrite]
  exact ⟨.error failure, congrArg Run.outcome hrun, rfl, congrArg Run.world hrun⟩

section Put

variable {path : Path} {place : Location} {bytes : ByteArray}

theorem refresh_fst (place : Location) (bytes : ByteArray) (found : Location × Entry) :
    (refresh place bytes found).1 = found.1 := by
  obtain ⟨there, _ | _ | _⟩ := found <;> simp only [refresh] <;> split <;> rfl

theorem refresh_of_ne {found : Location × Entry} (h : found.1 ≠ place) :
    refresh place bytes found = found := by
  obtain ⟨there, _ | _ | _⟩ := found <;> simp [refresh, show there ≠ place from h]

/-- A file with another text is as good as it was. -/
theorem refusal?_put (hfile : tree.entryAt place = some (.file bytes)) (bytes' : ByteArray)
    (w : Write) : (tree.put place (.file bytes')).refusal? w = tree.refusal? w := by
  rw [refusal?, refusal?, FileTree.write, FileTree.write, findForWriting, findForWriting,
    if_neg Bool.false_ne_true, if_neg Bool.false_ne_true, find_put hfile]
  rcases hfind : tree.find w.path with cause | ⟨there, entry⟩
  case error => rfl
  cases entry with
  | directory => rfl
  | file bytes =>
    by_cases hplace : there = place <;>
      simp [Except.map, refresh, hplace, bind, Except.bind, Entry.replaced, pure, Except.pure]
  | fullDevice =>
    have hplace : there ≠ place := by
      rintro rfl
      have hdevice := entryAt_of_find hfind
      simp [hfile] at hdevice
    by_cases htext : w.text = "" <;>
      simp [Except.map, refresh, hplace, bind, Except.bind, Entry.replaced, pure, Except.pure,
        htext]

theorem rewritten_put (h : tree.find path = .ok (place, .file bytes)) (bytes' : ByteArray) :
    tree.Rewritten [path] (tree.put place (.file bytes')) := by
  have hfile := entryAt_of_find h
  refine ⟨fun {other there} => ?_, refusal?_put hfile bytes', fun {there} hplace => ?_,
    fun {other} hapart => ?_⟩
  · rw [LeadsTo, LeadsTo, find_put hfile]
    rcases tree.find other with cause | found
    · simp [Except.map]
    · simp [Except.map, Prod.ext_iff, refresh_fst]
  · have hne : there ≠ place := fun heq => hplace path (List.mem_singleton_self _) ⟨_, heq ▸ h⟩
    rw [entryAt_put _ _ _ _ (ne_nil_of_file hfile), if_neg hne]
  · rw [find_put hfile]
    rcases hother : tree.find other with cause | ⟨there, entry⟩
    · rfl
    · have hne := (hapart path (List.mem_singleton_self _) tree _ _ _ _ h hother).symm
      exact congrArg Except.ok (refresh_of_ne hne)

end Put

/-- A text that is taken is in its file. -/
theorem delivers_taken (h : tree.refusal? w = none) (htext : w.text ≠ "") :
    (Files.write w.path false w.text).Delivers tree fun result later =>
      result = .ok () ∧ later.HoldsText w.path w.text ∧ tree.Rewritten [w.path] later := by
  obtain ⟨place, bytes, hfind⟩ := (refusal?_eq_none_iff htext).1 h
  have hrun := write_eq_put hfind w.text
  refine ⟨.ok (), congrArg Run.outcome hrun, rfl, ?_⟩
  rw [hrun]
  refine ⟨⟨place, ?_⟩, rewritten_put hfind _⟩
  rw [find_put (entryAt_of_find hfind), hfind]
  simp [Except.map, refresh]

end FileTree

/-! ## Several files -/

/-- Gives files their texts until one is refused. -/
def writeAll : List Write → Action FileTree Unit
  | [] => pure ()
  | w :: writes => do
    write w.path false w.text
    writeAll writes

/-- The texts before the first refusal are in their files afterwards. -/
theorem delivers_writeAll {writes : List Write}
    (hapart : writes.Pairwise fun w w' => w.path.Apart w'.path) (htext : ∀ w ∈ writes, w.text ≠ "")
    (tree : FileTree) :
    (writeAll writes).Delivers tree fun result later =>
      result = (tree.firstRefusal? writes).elim (.ok ()) .error ∧
        (∀ w ∈ tree.taken writes, later.HoldsText w.path w.text) ∧
        tree.Rewritten ((tree.taken writes).map Write.path) later := by
  induction writes generalizing tree with
  | nil => exact (Action.delivers_pure _).2 ⟨rfl, by simp, .refl tree⟩
  | cons w writes ih =>
    obtain ⟨hw, hwrites⟩ := List.pairwise_cons.1 hapart
    cases hrefusal : tree.refusal? w with
    | some failure =>
      refine .bind ((FileTree.delivers_refused hrefusal).mono ?_)
      rintro _ _ ⟨rfl, rfl⟩
      rw [FileTree.firstRefusal?_cons_refused hrefusal, FileTree.taken_cons_refused hrefusal]
      exact ⟨rfl, by simp, .refl _⟩
    | none =>
      refine .bind ((FileTree.delivers_taken hrefusal (htext w List.mem_cons_self)).mono ?_)
      rintro _ middle ⟨rfl, hheld, hmiddle⟩
      rw [FileTree.firstRefusal?_cons_taken hrefusal, FileTree.taken_cons_taken hrefusal,
        ← hmiddle.firstRefusal?_eq, ← hmiddle.taken_eq]
      refine (ih hwrites (fun w' hw' => htext w' (List.mem_cons_of_mem _ hw')) middle).mono ?_
      rintro result later ⟨rfl, hlater, hrewritten⟩
      refine ⟨rfl, List.forall_mem_cons.2 ⟨hrewritten.holdsText ?_ hheld, hlater⟩,
        hmiddle.trans hrewritten⟩
      -- the files that come later are not this one
      rintro _ hpath
      obtain ⟨w', hw', rfl⟩ := List.mem_map.1 hpath
      exact (hw w' ((List.takeWhile_prefix _).subset hw')).symm

end CoprocReset.Files
