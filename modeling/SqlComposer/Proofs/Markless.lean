import SqlComposer.Proofs.Carrying
import SqlComposer.Proofs.Layout
import SqlComposer.Proofs.Replacement

/-!
Texts without marks of sub-queries, and what is written with them. A mark begins with a dash and has
none of the characters that a statement puts between its parts, so that no mark comes about where
two parts meet.
-/
namespace SqlComposer.SubQuery

open Condition (Clause)

/-- No mark begins in the text, neither one of a begin nor one of an end. -/
def Markless (text : String) : Prop :=
  ∀ stem ∈ [beginStem, endStem], Text.hasMark stem text.toList = false

instance (text : String) : Decidable (Markless text) := List.decidableBAll _ _

theorem markless_iff {text : String} :
    Markless text ↔ ∀ stem ∈ [beginStem, endStem], ¬ stem <:+: text.toList := by
  refine forall₂_congr fun stem _ => ?_
  rw [← Text.has_mark_iff, Bool.not_eq_true]

theorem Markless.layout {sql : String} (free : Markless sql) : layout sql = .ok sql :=
  layout_of_no_marks (free _ List.mem_cons_self)
    (free _ (List.mem_cons_of_mem _ List.mem_cons_self))

/-- A begin mark without the end of its identity is refused. -/
theorem layout_of_unterminated {sql : String} {before marked : List Char}
    (shape : sql.toList = before ++ (beginStem ++ marked)) (dashless : '-' ∉ before)
    (endless : Text.cutAt? identityEnd marked = none) :
    layout sql = .error (.illegalState (.unterminatedBegin (String.ofList marked))) := by
  have begun : Text.cutAt? beginStem sql.toList = some (before, marked) := by
    rw [shape]
    exact cut_at_of_silent (silent_of_no_dash begin_is_stem dashless _)
  have clean : Text.hasMark endStem before = false := by
    rw [← Bool.not_eq_true, Text.has_mark_iff]
    exact fun present => dashless (present.subset (by decide))
  have kept : withoutEnd before = .ok before := by
    rw [withoutEnd, clean]
    rfl
  rw [layout, layoutFrom]
  split
  · next cut => rw [begun] at cut; cases cut
  · next cut =>
      rw [begun] at cut
      obtain ⟨rfl, rfl⟩ := Prod.mk.inj (Option.some.inj cut)
      rw [kept]
      dsimp only
      split
      · rfl
      · next found => rw [endless] at found; cases found

theorem markless_of_dashless {text : String} (dashless : '-' ∉ text.toList) : Markless text := by
  rw [markless_iff]
  intro stem among present
  have dash : '-' ∈ stem := by
    simp only [List.mem_cons, List.not_mem_nil, or_false] at among
    rcases among with rfl | rfl <;> decide
  exact dashless (present.subset dash)

/-- No mark reaches from a text without dashes into the text behind it. -/
theorem Markless.behind {before text : String} (dashless : '-' ∉ before.toList)
    (free : Markless text) : Markless (before ++ text) := by
  rw [markless_iff] at free ⊢
  intro stem among
  obtain ⟨later, starts⟩ : ∃ later, stem = '-' :: later := by
    simp only [List.mem_cons, List.not_mem_nil, or_false] at among
    rcases among with rfl | rfl <;> exact ⟨_, rfl⟩
  rw [String.toList_append]
  generalize before.toList = chars at dashless
  induction chars with
  | nil => exact free stem among
  | cons c chars ih =>
      rw [List.mem_cons, not_or] at dashless
      rw [List.cons_append, List.infix_cons_iff, not_or]
      refine ⟨fun present => ?_, ih dashless.2⟩
      rw [starts] at present
      exact dashless.1 (List.cons_prefix_cons.mp present).1

/-- A text that is empty or closes what stands before it. -/
def Opens (text : String) : Prop := text = "" ∨ Breaks text

theorem Markless.append {before text : String} (first : Markless before) (opens : Opens text)
    (second : Markless text) : Markless (before ++ text) := by
  rcases opens with rfl | ⟨c, closing, head⟩
  · rwa [String.append_empty]
  · rw [markless_iff] at *
    intro stem among present
    obtain ⟨rest, shape⟩ := List.head?_eq_some_iff.mp head
    have apart : c ∉ stem.tail := by
      simp only [List.mem_cons, List.not_mem_nil, or_false] at among closing
      rcases among with rfl | rfl <;> rcases closing with rfl | rfl | rfl <;> decide
    rw [String.toList_append, shape] at present
    rcases Text.infix_apart apart present with early | late
    · exact first stem among early
    · exact second stem among (shape ▸ late)

theorem breaks_append {first : String} (breaks : Breaks first) (second : String) :
    Breaks (first ++ second) := by
  obtain ⟨c, closing, head⟩ := breaks
  exact ⟨c, closing, by rw [String.toList_append, List.head?_append, head]; rfl⟩

theorem Opens.append {first second : String} (opens : Opens first) (others : Opens second) :
    Opens (first ++ second) := by
  rcases opens with rfl | breaks
  · rwa [String.empty_append]
  · exact .inr (breaks_append breaks second)

/-- Two texts with a fixed text between them. -/
theorem Markless.across {before between text : String} (first : Markless before)
    (breaks : Breaks between) (dashless : '-' ∉ between.toList) (second : Markless text) :
    Markless (before ++ between ++ text) := by
  rw [String.append_assoc]
  exact first.append (.inr (breaks_append breaks text)) (second.behind dashless)

theorem markless_join {connector : String} (breaks : Breaks connector)
    (dashless : '-' ∉ connector.toList) {texts : List String}
    (free : ∀ text ∈ texts, Markless text) : Markless (Text.join connector texts) := by
  induction texts with
  | nil => exact markless_of_dashless List.not_mem_nil
  | cons text rest ih =>
      rw [List.forall_mem_cons] at free
      cases rest with
      | nil => exact free.1
      | cons next more => exact free.1.across breaks dashless (ih free.2)

theorem opens_of_parts {parts : List String} (each : ∀ part ∈ parts, Opens part) :
    Opens (String.join parts) := by
  induction parts with
  | nil => exact .inl rfl
  | cons part rest ih =>
      rw [List.forall_mem_cons] at each
      rw [String.join_cons]
      exact each.1.append (ih each.2)

theorem markless_parts {parts : List String}
    (free : ∀ part ∈ parts, Markless part ∧ Opens part) : Markless (String.join parts) := by
  induction parts with
  | nil => exact markless_of_dashless List.not_mem_nil
  | cons part rest ih =>
      rw [List.forall_mem_cons] at free
      rw [String.join_cons]
      exact free.1.1.append (opens_of_parts fun other member => (free.2 other member).2)
        (ih free.2)

theorem markless_clauses {clauses : List Clause}
    (free : ∀ clause ∈ clauses, Markless clause.sql) :
    Markless (Clause.joined " and " clauses) := by
  refine markless_join (by decide) (by decide) fun text member => ?_
  obtain ⟨clause, among, rfl⟩ := List.mem_map.mp member
  exact free clause among

end SqlComposer.SubQuery
