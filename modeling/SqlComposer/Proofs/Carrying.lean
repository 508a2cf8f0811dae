import SqlComposer.Proofs.OrScope
import SqlComposer.Proofs.Recording
import SqlComposer.Proofs.Refusals
import Mathlib.Data.List.Forall2

/-!
Relations between texts that carry over to what is written with them. Clauses whose texts are
related make related lists, groups and or-scopes, and so do the joins and the inline views that
they filter. With one text on both sides a relation is a property that all texts of a statement
have.
-/
namespace SqlComposer

open Condition (Clause OrScope Target Terms)

theorem is_empty_of_related {α β : Type} {related : α → β → Prop} {firsts : List α}
    {seconds : List β} (each : List.Forall₂ related firsts seconds) :
    seconds.isEmpty = firsts.isEmpty := by
  cases each <;> rfl

/-- A text that closes what stands before it: it starts with a space, a comma or a parenthesis. -/
def Breaks (text : String) : Prop := ∃ c ∈ [' ', ',', ')'], text.toList.head? = some c

instance (text : String) : Decidable (Breaks text) := List.decidableBEx _ _

/-- A relation that is kept behind a given text and across one that closes what stands before it. A
given text is written by both sides as it is. -/
structure Carries (related : String → String → Prop) (given : String → Prop) : Prop where
  fixed : ∀ text : String, '#' ∉ text.toList → given text
  append : ∀ {first second}, given first → given second → given (first ++ second)
  same : ∀ {text}, given text → related text text
  behind : ∀ {before first second}, given before → related first second →
    related (before ++ first) (before ++ second)
  across : ∀ {first second between third fourth}, related first second → given between →
    Breaks between → related third fourth →
    related (first ++ between ++ third) (second ++ between ++ fourth)

section

variable {related : String → String → Prop} {given : String → Prop}

theorem Carries.closed (carries : Carries related given) {first second closing : String}
    (holds : related first second) (fits : given closing) (breaks : Breaks closing) :
    related (first ++ closing) (second ++ closing) := by
  have nothing : related "" "" := carries.same (carries.fixed "" (by decide))
  simpa using carries.across holds fits breaks nothing

theorem Carries.enclosed (carries : Carries related given) {first second : String}
    (holds : related first second) : related ("(" ++ first ++ ")") ("(" ++ second ++ ")") := by
  have opened := carries.behind (carries.fixed "(" (by decide)) holds
  exact carries.closed opened (carries.fixed ")" (by decide)) (by decide)

theorem Carries.join (carries : Carries related given) {connector : String}
    (fits : given connector) (breaks : Breaks connector) {firsts seconds : List String}
    (each : List.Forall₂ related firsts seconds) :
    related (Text.join connector firsts) (Text.join connector seconds) := by
  induction each with
  | nil => exact carries.same (carries.fixed "" (by decide))
  | @cons first second firsts seconds here later ih =>
      cases later with
      | nil => exact here
      | cons _ _ => exact carries.across here fits breaks ih

/-- Clauses of the same and-part whose texts are related. -/
structure Alike (related : String → String → Prop) (first second : Clause) : Prop where
  part : second.andPart? = first.andPart?
  texts : related first.sql second.sql

theorem Carries.joined (carries : Carries related given) {connector : String}
    (fits : given connector) (breaks : Breaks connector) {firsts seconds : List Clause}
    (each : List.Forall₂ (Alike related) firsts seconds) :
    related (Clause.joined connector firsts) (Clause.joined connector seconds) := by
  refine carries.join fits breaks ?_
  rw [List.forall₂_map_left_iff, List.forall₂_map_right_iff]
  exact each.imp fun _ _ alike => alike.texts

theorem Carries.conjoined (carries : Carries related given) {firsts seconds : List Clause}
    (each : List.Forall₂ (Alike related) firsts seconds) :
    related (Clause.joined " and " firsts) (Clause.joined " and " seconds) :=
  carries.joined (carries.fixed _ (by decide)) (by decide) each

theorem Carries.group (carries : Carries related given) {firsts seconds : List Clause}
    (each : List.Forall₂ (Alike related) firsts seconds) :
    related (Condition.groupText firsts) (Condition.groupText seconds) :=
  Condition.group_text_related each (fun _ _ alike => alike.texts)
    (carries.enclosed (carries.conjoined each))

theorem Carries.disjunction (carries : Carries related given) {firsts seconds : List String}
    (each : List.Forall₂ related firsts seconds) :
    related (Condition.disjunction firsts) (Condition.disjunction seconds) :=
  Condition.disjunction_related each
    (carries.enclosed (carries.join (carries.fixed " or " (by decide)) (by decide) each))

/-- The clause that a closed or-scope leaves. -/
theorem Carries.flatten (carries : Carries related given) {firsts seconds : List Clause}
    (each : List.Forall₂ (Alike related) firsts seconds) :
    Alike related (Condition.flatten firsts) (Condition.flatten seconds) := by
  refine ⟨rfl, carries.disjunction ?_⟩
  rw [List.forall₂_map_left_iff, List.forall₂_map_right_iff]
  have groups := Condition.term_groups_related (fun _ _ alike => alike.part) each
  exact groups.imp fun _ _ => carries.group

/-- Maps with the same keys in the same order and related values. -/
def MapsAlike {κ ν : Type} (alike : ν → ν → Prop) (first second : OrderedMap κ ν) : Prop :=
  List.Forall₂ (fun entry other => other.1 = entry.1 ∧ alike entry.2 other.2) first.entries
    second.entries

namespace MapsAlike

variable {κ ν : Type} [DecidableEq κ] {alike : ν → ν → Prop} {first second : OrderedMap κ ν}

omit [DecidableEq κ] in
theorem keys (maps : MapsAlike alike first second) : second.keys = first.keys := by
  obtain ⟨entries⟩ := first
  obtain ⟨others⟩ := second
  change List.Forall₂ _ entries others at maps
  change others.map Prod.fst = entries.map Prod.fst
  induction maps with
  | nil => rfl
  | cons here _ ih => rw [List.map_cons, List.map_cons, ih, here.1]

omit [DecidableEq κ] in
theorem size (maps : MapsAlike alike first second) : second.size = first.size := by
  rw [OrderedMap.size_eq_length_keys, OrderedMap.size_eq_length_keys, maps.keys]

omit [DecidableEq κ] in
theorem values (maps : MapsAlike alike first second) :
    List.Forall₂ alike first.values second.values := by
  rw [OrderedMap.values, OrderedMap.values, List.forall₂_map_left_iff, List.forall₂_map_right_iff]
  exact List.Forall₂.imp (fun _ _ entry => entry.2) maps

/-- A lookup finds related values, or nothing in either map. -/
theorem find? (maps : MapsAlike alike first second) (key : κ) :
    Option.Rel alike (first.find? key) (second.find? key) := by
  obtain ⟨entries⟩ := first
  obtain ⟨others⟩ := second
  change List.Forall₂ _ entries others at maps
  induction maps with
  | nil => exact .none
  | @cons entry other entries others here _ ih =>
      by_cases same : entry.1 = key
      · have also : other.1 = key := here.1.trans same
        simpa [OrderedMap.find?, same, also] using here.2
      · have also : other.1 ≠ key := fun equal => same (here.1.symm.trans equal)
        simpa [OrderedMap.find?, same, also] using ih

theorem insert (maps : MapsAlike alike first second) (key : κ) {value other : ν}
    (holds : alike value other) : MapsAlike alike (first.insert key value) (second.insert key other)
    := by
  obtain ⟨entries⟩ := first
  obtain ⟨others⟩ := second
  change List.Forall₂ _ entries others at maps
  change List.Forall₂ _ (OrderedMap.insertEntry key value entries)
    (OrderedMap.insertEntry key other others)
  induction maps with
  | nil => exact .cons ⟨rfl, holds⟩ .nil
  | @cons entry another entries others here later ih =>
      rw [OrderedMap.insertEntry, OrderedMap.insertEntry, here.1]
      split_ifs
      · exact .cons ⟨rfl, holds⟩ later
      · exact .cons here ih

end MapsAlike

/-- Terms for the same lists, with related clauses. -/
abbrev TermsAlike (related : String → String → Prop) (first second : Terms) : Prop :=
  MapsAlike (List.Forall₂ (Alike related)) first second

theorem TermsAlike.push {first second : Terms} (terms : TermsAlike related first second)
    (target : Target) {clause other : Clause} (alike : Alike related clause other) :
    TermsAlike related (first.push target clause) (second.push target other) := by
  rw [Condition.push_eq_insert, Condition.push_eq_insert]
  refine MapsAlike.insert terms target (List.rel_append ?_ (.cons alike .nil))
  have found := MapsAlike.find? terms target
  unfold Terms.clauses
  generalize OrderedMap.find? first target = left at found ⊢
  generalize OrderedMap.find? second target = right at found ⊢
  cases found with
  | none => exact .nil
  | some clauses => exact clauses

/-- Clauses for the same lists, one by one. -/
abbrev EntriesAlike (related : String → String → Prop) (firsts seconds : List (Target × Clause)) :
    Prop :=
  List.Forall₂ (fun entry other => other.1 = entry.1 ∧ Alike related entry.2 other.2) firsts seconds

theorem TermsAlike.push_all {firsts seconds : List (Target × Clause)}
    (entries : EntriesAlike related firsts seconds) {first second : Terms}
    (terms : TermsAlike related first second) :
    TermsAlike related (firsts.foldl (fun terms entry => terms.push entry.1 entry.2) first)
      (seconds.foldl (fun terms entry => terms.push entry.1 entry.2) second) := by
  induction entries generalizing first second with
  | nil => exact terms
  | @cons entry other firsts seconds here _ ih =>
      obtain ⟨target, clause⟩ := entry
      obtain ⟨_, another⟩ := other
      obtain ⟨rfl, alike⟩ := here
      exact ih (terms.push _ alike)

theorem TermsAlike.reflected (carries : Carries related given) {first second : Terms}
    (terms : TermsAlike related first second) :
    EntriesAlike related first.reflected second.reflected := by
  obtain ⟨entries⟩ := first
  obtain ⟨others⟩ := second
  change List.Forall₂ _ entries others at terms
  unfold Terms.reflected EntriesAlike
  induction terms with
  | nil => exact .nil
  | @cons entry other entries others here _ ih =>
      have empty := is_empty_of_related here.2
      simp only [List.filter_cons, empty]
      split_ifs
      · exact .cons ⟨here.1, carries.flatten here.2⟩ ih
      · exact ih

/-- Or-scopes at the same point, with related clauses in every frame. -/
structure ScopesAlike (related : String → String → Prop) (first second : OrScope) : Prop where
  part : second.andPart? = first.andPart?
  parts : second.andParts = first.andParts
  frames : List.Forall₂ (TermsAlike related) first.frames second.frames

theorem ScopesAlike.is_open {first second : OrScope} (scopes : ScopesAlike related first second) :
    second.isOpen = first.isOpen := by
  rw [OrScope.isOpen, OrScope.isOpen, is_empty_of_related scopes.frames]

theorem ScopesAlike.term {first second : OrScope} (scopes : ScopesAlike related first second)
    {clause other : Clause} (alike : Alike related clause other) :
    Alike related (first.term clause) (second.term other) := by
  unfold OrScope.term
  rw [scopes.part]
  cases first.andPart? with
  | none => exact alike
  | some identity => exact ⟨rfl, alike.texts⟩

theorem ScopesAlike.push {first second : OrScope} (scopes : ScopesAlike related first second)
    (target : Target) {clause other : Clause} (alike : Alike related clause other) :
    Together (ScopesAlike related) (first.push target clause) (second.push target other) := by
  have term := scopes.term alike
  have frames := scopes.frames
  unfold OrScope.push
  generalize first.frames = left at frames ⊢
  generalize second.frames = right at frames ⊢
  cases frames with
  | nil => exact .refused
  | cons frame outer =>
      exact .accepted ⟨scopes.part, scopes.parts, .cons (TermsAlike.push frame target term) outer⟩

theorem ScopesAlike.open_scope {first second : OrScope}
    (scopes : ScopesAlike related first second) :
    Together (ScopesAlike related) first.openScope second.openScope := by
  unfold OrScope.openScope
  rw [scopes.part]
  split_ifs
  · exact .refused
  · exact .accepted ⟨rfl, scopes.parts, .cons .nil scopes.frames⟩

theorem ScopesAlike.begin_and_part {first second : OrScope}
    (scopes : ScopesAlike related first second) :
    Together (ScopesAlike related) first.beginAndPart second.beginAndPart := by
  unfold OrScope.beginAndPart
  rw [is_empty_of_related scopes.frames, scopes.part, scopes.parts]
  split_ifs
  · exact .refused
  · exact .refused
  · exact .accepted ⟨rfl, rfl, scopes.frames⟩

theorem ScopesAlike.end_and_part {first second : OrScope}
    (scopes : ScopesAlike related first second) :
    Together (ScopesAlike related) first.endAndPart second.endAndPart := by
  unfold OrScope.endAndPart
  rw [scopes.part]
  cases first.andPart? with
  | none => exact .refused
  | some identity => exact .accepted ⟨rfl, scopes.parts, scopes.frames⟩

/-- Closing gives the scope around, or the lists themselves, clauses that are alike. -/
theorem ScopesAlike.close_scope (carries : Carries related given) {first second : OrScope}
    (scopes : ScopesAlike related first second) :
    Together (fun closed other => ScopesAlike related closed.1 other.1 ∧
      EntriesAlike related closed.2 other.2) first.closeScope second.closeScope := by
  obtain ⟨frames, andPart?, andParts⟩ := first
  obtain ⟨others, _, _⟩ := second
  obtain ⟨rfl, rfl, each⟩ := scopes
  change List.Forall₂ _ frames others at each
  unfold OrScope.closeScope
  dsimp only
  split_ifs
  · exact .refused
  · cases each with
    | nil => exact .refused
    | cons frame outer =>
        have reflected := TermsAlike.reflected carries frame
        cases outer with
        | nil => exact .accepted ⟨⟨rfl, rfl, .nil⟩, reflected⟩
        | cons around rest =>
            exact .accepted ⟨⟨rfl, rfl, .cons (TermsAlike.push_all reflected around) rest⟩, .nil⟩

theorem Carries.given_join (carries : Carries related given) {connector : String}
    (fits : given connector) {texts : List String} (each : ∀ text ∈ texts, given text) :
    given (Text.join connector texts) := by
  induction texts with
  | nil => exact carries.fixed "" (by decide)
  | cons text rest ih =>
      rw [List.forall_mem_cons] at each
      cases rest with
      | nil => exact each.1
      | cons _ _ => exact carries.append (carries.append each.1 fits) (ih each.2)

end

end SqlComposer
