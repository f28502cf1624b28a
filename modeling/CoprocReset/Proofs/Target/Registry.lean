import CoprocReset.Assoc
import CoprocReset.Proofs.Text.ByteOrder
import CoprocReset.Target.Registry

/-!
# What is found in a registry

After any row of registrations the registry has each text once, in the order of the bytes, with
the target of its last registration (`mem_entries_registered`). `IsComponent` says which characters
stand between the commas of a text, without a word on how a text is split (`mem_components_iff`).

A registry may be searched in any order (`lookupIn`), and `lookup` is the search in the order of
the texts. Whichever order it is, a search comes to the target of a text that has every component
of the request, or there is no such text (`lookupIn_cases`); where there is only one such text, the
order makes no difference (`lookupIn_eq_of_unique`).
-/

namespace CoprocReset.Registry

variable {entries order order' history : List (String × Target)} {registry : Registry}
  {text requested other : String} {component : List Char} {target : Target}

/-! ## Components -/

/-- With a comma put before and after the text, the characters stand between two commas, and there
is no comma among them. -/
def IsComponent (component : List Char) (text : String) : Prop :=
  ',' ∉ component ∧ ',' :: (component ++ [',']) <:+: ',' :: (text.toList ++ [','])

/-- The registered text has every component of the request. -/
def Covers (registered requested : String) : Prop :=
  ∀ component, IsComponent component requested → IsComponent component registered

theorem Covers.refl (text : String) : Covers text text := fun _ h => h

theorem not_mem_of_mem_splitOn {cs : List Char} (h : component ∈ cs.splitOn ',') :
    ',' ∉ component := by
  induction cs generalizing component with
  | nil =>
    obtain rfl : component = [] := by simpa using h
    exact List.not_mem_nil
  | cons c cs ih =>
    obtain ⟨first, others, hsplit⟩ := List.exists_cons_of_ne_nil (List.splitOn_ne_nil ',' cs)
    rw [List.splitOn_cons_eq_if_modifyHead] at h
    split at h
    · rcases List.mem_cons.1 h with rfl | h
      · exact List.not_mem_nil
      · exact ih h
    · next hc =>
      rw [hsplit] at h ih
      rcases List.mem_cons.1 h with rfl | h
      · rw [List.mem_cons, not_or]
        exact ⟨fun heq => hc (beq_iff_eq.2 heq.symm), ih List.mem_cons_self⟩
      · exact ih (List.mem_cons_of_mem _ h)

/-- What is between the commas determines a text. -/
theorem eq_of_splitOn_eq {cs ds : List Char} (h : cs.splitOn ',' = ds.splitOn ',') : cs = ds := by
  simpa using congrArg [','].intercalate h

/-- Commas around a text add an empty component at either end. -/
theorem splitOn_enclosed (cs : List Char) :
    (',' :: (cs ++ [','])).splitOn ',' = [] :: (cs.splitOn ',' ++ [[]]) := by
  have hend : (cs ++ [',']).splitOn ',' = cs.splitOn ',' ++ [[]] :=
    List.splitOn_append_cons_self cs []
  rw [← hend]
  exact List.splitOn_append_cons_self_of_not_mem (List.not_mem_nil) _

/-- What stands between two commas is a component of its own. -/
theorem splitOn_between {cs before after : List Char} (h : ',' ∉ component)
    (hcs : cs = before ++ ',' :: (component ++ [',']) ++ after) :
    cs.splitOn ',' = before.splitOn ',' ++ component :: after.splitOn ',' := by
  have htext : cs = before ++ ',' :: (component ++ ',' :: after) := by simp [hcs]
  rw [htext, List.splitOn_append_cons_self, List.splitOn_append_cons_self_of_not_mem h]

theorem mem_components_iff : component ∈ components text ↔ IsComponent component text := by
  rw [components, IsComponent]
  constructor
  · intro h
    have hcomma := not_mem_of_mem_splitOn h
    refine ⟨hcomma, ?_⟩
    obtain ⟨before, after, hsplit⟩ := List.append_of_mem h
    have hbefore : ∀ cs ∈ [] :: before, ',' ∉ cs := by
      refine List.forall_mem_cons.2 ⟨List.not_mem_nil, fun cs hcs => ?_⟩
      exact not_mem_of_mem_splitOn (hsplit ▸ List.mem_append_left _ hcs)
    have hafter : ∀ cs ∈ after ++ [[]], ',' ∉ cs := by
      refine List.forall_mem_append.2 ⟨fun cs hcs => ?_, by simp⟩
      exact not_mem_of_mem_splitOn (hsplit ▸ List.mem_append_right _ (List.mem_cons_of_mem _ hcs))
    refine ⟨[','].intercalate ([] :: before), [','].intercalate (after ++ [[]]),
      eq_of_splitOn_eq ?_⟩
    rw [splitOn_between hcomma rfl, splitOn_enclosed, hsplit,
      List.splitOn_intercalate ',' hbefore (by simp), List.splitOn_intercalate ',' hafter (by simp)]
    simp
  · rintro ⟨hcomma, before, after, htext⟩
    have hsplit := splitOn_between hcomma htext.symm
    rw [splitOn_enclosed] at hsplit
    -- the component is neither what is before the first comma nor what is after the last
    obtain ⟨first, others, hbefore⟩ := List.exists_cons_of_ne_nil (List.splitOn_ne_nil ',' before)
    rw [hbefore, List.cons_append] at hsplit
    obtain ⟨-, hsplit⟩ := List.cons.inj hsplit
    obtain hnil | ⟨others', last, hafter⟩ := List.eq_nil_or_concat (after.splitOn ',')
    · exact absurd hnil (List.splitOn_ne_nil ',' after)
    · rw [hafter, List.concat_eq_append, ← List.cons_append, ← List.append_assoc] at hsplit
      obtain ⟨hsplit, -⟩ := List.append_inj' hsplit rfl
      rw [hsplit]
      simp

theorem answers_iff_covers : answers text requested = true ↔ Covers text requested := by
  simp only [answers_iff, mem_components_iff]
  rfl

/-! ## Registrations -/

/-- The registry after the registrations. -/
def registered (history : List (String × Target)) : Registry :=
  history.foldl (fun registry entry => registry.register entry.1 entry.2) empty

/-- The text was registered, the last time with the target. -/
def LastRegistered (history : List (String × Target)) (text : String) (target : Target) : Prop :=
  ∃ earlier later, history = earlier ++ (text, target) :: later ∧ ∀ entry ∈ later, entry.1 ≠ text

theorem lookup_cons_eq (entry : String × Target) (entries : List (String × Target))
    (text : String) :
    (entry :: entries).lookup text =
      if text = entry.1 then some entry.2 else entries.lookup text := by
  by_cases h : text = entry.1
  · subst h
    rw [List.lookup_cons_self, if_pos rfl]
  · have hbeq : (text == entry.1) = false := by simpa using h
    rw [List.lookup_cons, hbeq, if_neg h]

theorem lookup_put (text other : String) (target : Target) (entries : List (String × Target)) :
    (put text target entries).lookup other =
      if other = text then some target else entries.lookup other := by
  induction entries with
  | nil => rw [put, lookup_cons_eq]
  | cons entry entries ih =>
    rw [put]
    split
    · rw [lookup_cons_eq]
    · split
      · next heq =>
        rw [lookup_cons_eq, lookup_cons_eq, heq]
        split <;> rfl
      · next hne =>
        rw [lookup_cons_eq, lookup_cons_eq, ih]
        by_cases h : other = text <;> simp [h, hne]

/-- An entry is what is found under its text, as there is one for each text. -/
theorem mem_entries_iff : (text, target) ∈ registry.entries ↔
    registry.entries.lookup text = some target := by
  obtain ⟨entries, ordered⟩ := registry
  induction entries with
  | nil => simp
  | cons entry entries ih =>
    obtain ⟨hbelow, ordered⟩ := List.pairwise_cons.1 ordered
    dsimp only
    rw [lookup_cons_eq, List.mem_cons]
    by_cases h : text = entry.1
    · have hnot : (text, target) ∉ entries := fun hmem =>
        absurd (h ▸ hbelow (text, target) hmem) (String.lt_irrefl text)
      rw [if_pos h, or_iff_left hnot, Prod.ext_iff, Option.some_inj]
      exact ⟨fun heq => heq.2.symm, fun heq => ⟨h, heq.symm⟩⟩
    · have hne : (text, target) ≠ entry := fun heq => h (congrArg Prod.fst heq)
      rw [if_neg h, or_iff_right hne]
      exact ih ordered

theorem lookup_entries_foldl (registry : Registry) (history : List (String × Target))
    (text : String) :
    (history.foldl (fun registry entry => registry.register entry.1 entry.2)
      registry).entries.lookup text =
      (history.reverse.lookup text).or (registry.entries.lookup text) := by
  induction history generalizing registry with
  | nil => rfl
  | cons entry history ih =>
    have hput : (registry.register entry.1 entry.2).entries.lookup text =
        if text = entry.1 then some entry.2 else registry.entries.lookup text := lookup_put ..
    rw [List.foldl_cons, ih, hput, List.reverse_cons, List.lookup_append, Option.or_assoc,
      lookup_cons_eq]
    by_cases h : text = entry.1 <;> simp [h]

theorem lookup_entries_registered (history : List (String × Target)) (text : String) :
    (registered history).entries.lookup text = history.reverse.lookup text := by
  rw [registered, lookup_entries_foldl]
  exact Option.or_none

theorem lastRegistered_iff :
    LastRegistered history text target ↔ history.reverse.lookup text = some target := by
  rw [List.lookup_eq_some_iff]
  constructor
  · rintro ⟨earlier, later, rfl, hlater⟩
    refine ⟨later.reverse, earlier.reverse, by simp, fun entry hentry => ?_⟩
    have hne := hlater entry (List.mem_reverse.1 hentry)
    simpa using hne.symm
  · rintro ⟨later, earlier, hhistory, hlater⟩
    refine ⟨earlier.reverse, later.reverse, by simpa using congrArg List.reverse hhistory,
      fun entry hentry => ?_⟩
    have hne := hlater entry (List.mem_reverse.1 hentry)
    exact fun heq => absurd heq.symm (by simpa using hne)

/-- A registry has the last registrations. -/
theorem mem_entries_registered :
    (text, target) ∈ (registered history).entries ↔ LastRegistered history text target := by
  rw [mem_entries_iff, lookup_entries_registered, lastRegistered_iff]

theorem mem_compatibles_iff :
    text ∈ registry.compatibles ↔ ∃ target, (text, target) ∈ registry.entries := by
  simp [compatibles]

theorem mem_compatibles_registered :
    text ∈ (registered history).compatibles ↔ ∃ target, (text, target) ∈ history := by
  rw [mem_compatibles_iff]
  constructor
  · rintro ⟨target, hentry⟩
    obtain ⟨earlier, later, rfl, -⟩ := mem_entries_registered.1 hentry
    exact ⟨target, by simp⟩
  · rintro ⟨target, hentry⟩
    cases hlast : history.reverse.lookup text with
    | some last => exact ⟨last, mem_entries_registered.2 (lastRegistered_iff.2 hlast)⟩
    | none =>
      have hne := List.lookup_eq_none_iff.1 hlast _ (List.mem_reverse.2 hentry)
      simp at hne

/-- Only the order of the registrations of one text counts. -/
theorem lastRegistered_congr {history' : List (String × Target)}
    (h : history'.filter (·.1 = text) = history.filter (·.1 = text)) :
    LastRegistered history' text target ↔ LastRegistered history text target := by
  have hkept (history : List (String × Target)) :
      (history.reverse.filter fun entry => entry.1 = text).lookup text =
        history.reverse.lookup text := by
    rw [Assoc.lookup_filter (fun name => decide (name = text)) text]
    simp
  rw [lastRegistered_iff, lastRegistered_iff, ← hkept, ← hkept history, List.filter_reverse,
    List.filter_reverse, h]

/-! ## Searches -/

/-- The target that answers the request, if the entries are searched in the order. -/
def lookupIn (order : List (String × Target)) (requested : String) : Except Failure Target :=
  match (order.find? fun entry => answers entry.1 requested).map (·.2) with
  | some target => .ok target
  | none =>
    .error (.argument
      ("x8h7rstd could not match '" ++ requested ++ "' to a known reset target."))

theorem lookup_eq_lookupIn (registry : Registry) (requested : String) :
    registry.lookup requested = lookupIn registry.entries requested := rfl

/-- The first entry with every component of the request is found, if there is any. -/
theorem lookupIn_cases (order : List (String × Target)) (requested : String) :
    (∃ entry ∈ order, Covers entry.1 requested ∧ lookupIn order requested = .ok entry.2) ∨
      (∀ entry ∈ order, ¬ Covers entry.1 requested) ∧
        lookupIn order requested = .error (.argument
          ("x8h7rstd could not match '" ++ requested ++ "' to a known reset target.")) := by
  cases hfind : order.find? fun entry => answers entry.1 requested with
  | some entry =>
    refine .inl ⟨entry, List.mem_of_find?_eq_some hfind, ?_, ?_⟩
    · have hanswers : answers entry.1 requested = true := by simpa using List.find?_some hfind
      exact answers_iff_covers.1 hanswers
    · rw [lookupIn, hfind]
      rfl
  | none =>
    refine .inr ⟨fun entry hentry hcovers => ?_, ?_⟩
    · exact List.find?_eq_none.1 hfind entry hentry (answers_iff_covers.2 hcovers)
    · rw [lookupIn, hfind]
      rfl

theorem lookupIn_ok_iff : (∃ target, lookupIn order requested = .ok target) ↔
    ∃ entry ∈ order, Covers entry.1 requested := by
  obtain ⟨entry, hentry, hcovers, hfound⟩ | ⟨hnone, hrefused⟩ := lookupIn_cases order requested
  · exact ⟨fun _ => ⟨entry, hentry, hcovers⟩, fun _ => ⟨entry.2, hfound⟩⟩
  · refine ⟨?_, fun ⟨entry, hentry, hcovers⟩ => absurd hcovers (hnone entry hentry)⟩
    rintro ⟨target, hfound⟩
    rw [hrefused] at hfound
    cases hfound

/-- Every order goes through the registered texts. -/
theorem lookupIn_ok_iff_of_perm (hperm : order.Perm registry.entries) :
    (∃ target, lookupIn order requested = .ok target) ↔
      ∃ text ∈ registry.compatibles, Covers text requested := by
  rw [lookupIn_ok_iff]
  simp [compatibles, hperm.mem_iff]

theorem mem_compatibles_of_perm (hperm : order.Perm registry.entries) {entry : String × Target}
    (h : entry ∈ order) : entry.1 ∈ registry.compatibles :=
  mem_compatibles_iff.2 ⟨entry.2, hperm.mem_iff.1 h⟩

/-- Only which components are requested counts. -/
theorem toOption_lookupIn_congr
    (h : ∀ component, IsComponent component other ↔ IsComponent component requested) :
    (lookupIn order other).toOption = (lookupIn order requested).toOption := by
  have hanswers : (fun entry : String × Target => answers entry.1 other) =
      fun entry => answers entry.1 requested := by
    funext entry
    rw [Bool.eq_iff_iff, answers_iff_covers, answers_iff_covers, Covers, Covers]
    simp only [h]
  rw [lookupIn, lookupIn, hanswers]
  cases order.find? fun entry => answers entry.1 requested <;> rfl

/-- Where at most one entry has every component, the order of the search makes no difference. -/
theorem lookupIn_eq_of_unique (hsame : ∀ entry, entry ∈ order' ↔ entry ∈ order)
    (hunique : ∀ entry ∈ order, ∀ entry' ∈ order, Covers entry.1 requested →
      Covers entry'.1 requested → entry = entry') :
    lookupIn order' requested = lookupIn order requested := by
  obtain ⟨entry, hentry, hcovers, hfound⟩ | ⟨hnone, hrefused⟩ := lookupIn_cases order requested <;>
    obtain ⟨entry', hentry', hcovers', hfound'⟩ | ⟨hnone', hrefused'⟩ :=
      lookupIn_cases order' requested
  · rw [hfound, hfound', hunique entry hentry entry' ((hsame _).1 hentry') hcovers hcovers']
  · exact absurd hcovers (hnone' entry ((hsame _).2 hentry))
  · exact absurd hcovers' (hnone entry' ((hsame _).1 hentry'))
  · rw [hrefused, hrefused']

/-- After every row of registrations, and in whichever order the entries are searched: a lookup
succeeds exactly if a registered text has every component of the request, and comes to the target
under which such a text was registered last. -/
theorem lookup_by_components (history : List (String × Target)) :
    let registry := registered history
    registry.compatibles.Pairwise (fun first second => Text.bytes first < Text.bytes second) ∧
    (∀ text, text ∈ registry.compatibles ↔ ∃ target, (text, target) ∈ history) ∧
    (∀ text target, (text, target) ∈ registry.entries ↔ LastRegistered history text target) ∧
    (∀ requested, registry.lookup requested = lookupIn registry.entries requested) ∧
    ∀ order, order.Perm registry.entries → ∀ requested,
      ((∃ target, lookupIn order requested = .ok target) ↔
        ∃ text ∈ registry.compatibles, Covers text requested) ∧
      (∀ target, lookupIn order requested = .ok target →
        ∃ text, LastRegistered history text target ∧ Covers text requested) ∧
      ((∀ text ∈ registry.compatibles, ¬ Covers text requested) →
        lookupIn order requested = .error (.argument
          ("x8h7rstd could not match '" ++ requested ++ "' to a known reset target."))) ∧
      (∀ other, (∀ component, IsComponent component other ↔ IsComponent component requested) →
        (lookupIn order other).toOption = (lookupIn order requested).toOption) ∧
      (requested ∈ registry.compatibles → ∃ target, lookupIn order requested = .ok target) ∧
      (∀ more order', order'.Perm (registered (history ++ more)).entries →
        (∃ target, lookupIn order requested = .ok target) →
        ∃ target, lookupIn order' requested = .ok target) ∧
      ∀ history' order', order'.Perm (registered history').entries →
        (∀ text, history'.filter (·.1 = text) = history.filter (·.1 = text)) →
        (∀ text ∈ registry.compatibles, ∀ other ∈ registry.compatibles,
          Covers text requested → Covers other requested → text = other) →
        lookupIn order' requested = lookupIn order requested := by
  intro registry
  refine ⟨?_, fun text => mem_compatibles_registered, fun text target => mem_entries_registered,
    lookup_eq_lookupIn registry, fun order hperm requested => ⟨lookupIn_ok_iff_of_perm hperm,
      fun target hfound => ?_, fun hnone => ?_, fun other => toOption_lookupIn_congr,
      fun hself => ?_, fun more order' hperm' hfound => ?_,
      fun history' order' hperm' hhistory hunique => ?_⟩⟩
  · exact List.pairwise_map.2 (registry.ordered.imp Text.bytes_lt)
  · obtain ⟨entry, hentry, hcovers, hfound'⟩ | ⟨-, hrefused⟩ := lookupIn_cases order requested
    · obtain rfl : entry.2 = target := Except.ok.inj (hfound'.symm.trans hfound)
      exact ⟨entry.1, mem_entries_registered.1 (hperm.mem_iff.1 hentry), hcovers⟩
    · rw [hrefused] at hfound
      cases hfound
  · obtain ⟨entry, hentry, hcovers, -⟩ | ⟨-, hrefused⟩ := lookupIn_cases order requested
    · exact absurd hcovers (hnone entry.1 (mem_compatibles_of_perm hperm hentry))
    · exact hrefused
  · exact (lookupIn_ok_iff_of_perm hperm).2 ⟨requested, hself, .refl requested⟩
  · obtain ⟨text, htext, hcovers⟩ := (lookupIn_ok_iff_of_perm hperm).1 hfound
    obtain ⟨target, hentry⟩ := mem_compatibles_registered.1 htext
    exact (lookupIn_ok_iff_of_perm hperm').2
      ⟨text, mem_compatibles_registered.2 ⟨target, List.mem_append_left _ hentry⟩, hcovers⟩
  · refine lookupIn_eq_of_unique (fun entry => ?_)
      fun entry hentry entry' hentry' hcovers hcovers' => ?_
    · rw [hperm.mem_iff, hperm'.mem_iff]
      exact mem_entries_registered.trans
        ((lastRegistered_congr (hhistory entry.1)).trans mem_entries_registered.symm)
    · have htext := hunique _ (mem_compatibles_of_perm hperm hentry) _
        (mem_compatibles_of_perm hperm hentry') hcovers hcovers'
      have hfirst := mem_entries_iff.1 (hperm.mem_iff.1 hentry)
      have hsecond := mem_entries_iff.1 (hperm.mem_iff.1 hentry')
      exact Prod.ext htext (Option.some.inj (hfirst.symm.trans (htext ▸ hsecond)))

example : builtin.lookup "x8h7rst,portenta" = .ok Target.portenta := by rfl

end CoprocReset.Registry
