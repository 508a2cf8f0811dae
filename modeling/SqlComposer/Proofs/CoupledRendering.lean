import SqlComposer.Proofs.Alongside
import SqlComposer.Proofs.Rendering

/-!
Writing two coupled statements. What they select, order and lock is the same; whatever is written
from their clauses is related, as long as texts that are related stay so when they are written one
after another. So both statements are written or refused, and what is written is related.
-/
namespace SqlComposer

open Condition (Clause)

/-- A relation between texts that are put together in the same way. -/
structure Congruent (related : String → String → Prop) : Prop where
  same : ∀ text, related text text
  append : ∀ {first second third fourth}, related first second → related third fourth →
    related (first ++ third) (second ++ fourth)

theorem Congruent.carries {related : String → String → Prop} (congruent : Congruent related) :
    Carries related fun _ => True where
  fixed _ _ := trivial
  append _ _ := trivial
  same _ := congruent.same _
  behind _ := congruent.append (congruent.same _)
  across first _ _ third := congruent.append (congruent.append first (congruent.same _)) third

/-- The likeness of statements with related texts and any names. -/
def textLikeness (related : String → String → Prop)
    (branches : UnionBranch → UnionBranch → Prop) : Likeness where
  texts := related
  given _ := True
  admits _ := True
  branches := branches

theorem Congruent.carried {related : String → String → Prop} (congruent : Congruent related)
    (branches : UnionBranch → UnionBranch → Prop) :
    (textLikeness related branches).Carried related where
  carries := congruent.carries
  texts _ _ holds := holds
  admitted _ _ := congruent.same _

theorem Congruent.joined {α : Type} {related : String → String → Prop}
    (congruent : Congruent related) {alike : α → α → Prop} {write : α → String}
    (each : ∀ first second, alike first second → related (write first) (write second))
    {firsts seconds : List α} (list : List.Forall₂ alike firsts seconds) :
    related (String.join (firsts.map write)) (String.join (seconds.map write)) := by
  induction list with
  | nil => exact congruent.same _
  | cons here _ ih =>
      rw [List.map_cons, List.map_cons, String.join_cons, String.join_cons]
      exact congruent.append (each _ _ here) ih

namespace Statement

section

variable {likeness : Likeness} {first second : Statement}
  (coupled : Coupled likeness first second)

include coupled

theorem Coupled.same_selection : SameSelection first second := by
  have union := coupled.has_union
  have tables := coupled.alias_table
  cases coupled
  exact ⟨rfl, rfl, union, rfl, rfl, tables, rfl, rfl, rfl, rfl⟩

theorem Coupled.order_clause : second.orderClause = first.orderClause := by
  have union := coupled.has_union
  have aliases := coupled.same_selection.select_aliases
  cases coupled
  unfold orderClause
  rw [union, aliases]
  rfl

theorem Coupled.table_hint : second.tableHint = first.tableHint := by
  cases coupled
  rfl

theorem Coupled.suffix : second.suffix = first.suffix := by
  cases coupled
  rfl

end

theorem table_hint_breaks {statement : Statement} {hint : String}
    (hinted : statement.tableHint = .ok hint) : hint = "" ∨ Breaks hint := by
  obtain ⟨lock, written, rfl⟩ := map_eq_ok hinted
  unfold lockText at written
  split_ifs at written
  · revert written
    cases statement.dialect with
    | sqlServer =>
        intro written
        obtain rfl := Except.ok.inj written
        exact .inr (by decide)
    | sqlite | msAccess => exact nofun
    | _ =>
        intro written
        obtain rfl := Except.ok.inj written
        exact .inl rfl
  · obtain rfl := Except.ok.inj written
    exact .inl rfl

section

variable {related : String → String → Prop} (congruent : Congruent related)
  {branches : UnionBranch → UnionBranch → Prop} {first second : Statement}
  (coupled : Coupled (textLikeness related branches) first second)

include congruent coupled

theorem Coupled.tables {hint : String} (breaks : hint = "" ∨ Breaks hint) :
    related (first.fromClause hint) (second.fromClause hint) :=
  coupled.from_clause (congruent.carried branches) trivial trivial breaks

theorem Coupled.where_clause : related first.whereClause second.whereClause := by
  have filters := coupled.joined_conditions congruent.carries
  obtain ⟨mains, _, _, _, _⟩ := coupled
  unfold whereClause
  dsimp only
  rw [is_empty_of_related mains]
  split_ifs
  · exact congruent.same _
  · exact congruent.append (congruent.same _) filters

theorem Coupled.where_template (whereGap conditionGap : String) :
    related (first.whereTemplate whereGap conditionGap)
      (second.whereTemplate whereGap conditionGap) := by
  have filters := coupled.joined_conditions congruent.carries
  obtain ⟨mains, _, _, _, _⟩ := coupled
  unfold whereTemplate
  dsimp only
  rw [is_empty_of_related mains]
  split_ifs
  · exact congruent.same _
  · exact congruent.append (congruent.same _) filters

end

/-- Branches that keep duplicates both or not, and whose texts stay related when they are filled. -/
structure BranchesAlike (related : String → String → Prop) (branch other : UnionBranch) : Prop where
  keeps : other.keepsDuplicates = branch.keepsDuplicates
  text : related branch.text other.text
  filled : ∀ select, related (branch.filled select) (other.filled select)

section

variable {related : String → String → Prop} (congruent : Congruent related)
  {first second : Statement}
  (coupled : Coupled (textLikeness related (BranchesAlike related)) first second)

include congruent coupled

theorem Coupled.union_clause (select : String) :
    related (first.unionClause select) (second.unionClause select) := by
  refine congruent.joined (fun branch other alike => ?_) coupled.branches
  have connector : other.connector = branch.connector := by
    rw [UnionBranch.connector, UnionBranch.connector, alike.keeps]
  rw [connector]
  exact congruent.append (congruent.same _) (alike.filled select)

theorem Coupled.union_gapped : related first.unionGapped second.unionGapped := by
  have unions : related first.unionTemplate second.unionTemplate := by
    refine congruent.joined (fun branch other alike => ?_) coupled.branches
    have connector : other.connector = branch.connector := by
      rw [UnionBranch.connector, UnionBranch.connector, alike.keeps]
    rw [connector]
    exact congruent.append (congruent.same _) alike.text
  have tables := coupled.tables congruent (.inl rfl)
  exact congruent.append (congruent.append tables (coupled.where_template congruent _ _)) unions

theorem Coupled.aggregate_of_union (function : String) {union other : String}
    (unions : related union other) :
    Together related (first.aggregateOfUnion function union)
      (second.aggregateOfUnion function other) := by
  have specified := coupled.same_selection.only_specified
  have aliases := coupled.same_selection.select_aliases
  have source : related (" from (" ++ union ++ ") " ++ mainAlias)
      (" from (" ++ other ++ ") " ++ mainAlias) :=
    congruent.append (congruent.append (congruent.append (congruent.same _) unions)
      (congruent.same _)) (congruent.same _)
  cases coupled
  unfold aggregateOfUnion
  dsimp only
  split_ifs
  · exact .accepted (congruent.append (congruent.same _) source)
  · rw [specified, aliases]
    refine (together_self _).bind fun column _ same => ?_
    obtain rfl := same
    refine (together_self _).bind fun aliases _ same => ?_
    obtain rfl := same
    cases aliases.find? column with
    | none => exact .refused
    | some aliasName => exact .accepted (congruent.append (congruent.same _) source)

theorem Coupled.body {hint : String} (breaks : hint = "" ∨ Breaks hint) :
    related (first.fromClause hint ++ first.whereClause)
      (second.fromClause hint ++ second.whereClause) :=
  congruent.append (coupled.tables congruent breaks) (coupled.where_clause congruent)

/-- The statement from its select clause up to its unions. -/
theorem Coupled.selected {hint : String} (breaks : hint = "" ∨ Breaks hint)
    (select plain : String) :
    related (select ++ (first.fromClause hint ++ first.whereClause) ++ first.unionClause plain)
      (select ++ (second.fromClause hint ++ second.whereClause) ++ second.unionClause plain) :=
  congruent.append (congruent.append (congruent.same _) (coupled.body congruent breaks))
    (coupled.union_clause congruent plain)

omit congruent in
theorem Coupled.table_hints :
    Together (fun hint other => hint = other ∧ (hint = "" ∨ Breaks hint)) first.tableHint
      second.tableHint := by
  rw [coupled.table_hint]
  cases hinted : first.tableHint with
  | error refusal => exact .refused
  | ok hint => exact .accepted ⟨rfl, table_hint_breaks hinted⟩

/-- Two coupled statements are written or refused both, and what is written is related. -/
theorem Coupled.marked : Together related first.marked second.marked := by
  have whole := @Coupled.selected related congruent first second coupled
  have aggregates := @Coupled.aggregate_of_union related congruent first second coupled
  have hints := coupled.table_hints
  have closing := fun {written other : String} (holds : related written other) (text : String) =>
    congruent.append holds (congruent.same text)
  have same : second.selectHint = first.selectHint ∧ second.selectType = first.selectType ∧
      second.dialect = first.dialect := by
    cases coupled
    exact ⟨rfl, rfl, rfl⟩
  unfold Statement.marked
  rw [coupled.scopes.is_open, coupled.same_selection.select_columns, coupled.order_clause,
    coupled.suffix, coupled.has_union, same.1, same.2.1, same.2.2]
  simp only [coupled.same_selection.select_clause_of]
  cases first.orScope.isOpen with
  | true => exact .refused
  | false =>
      refine (together_self _).bind ?_
      rintro columns _ rfl
      refine (together_self _).bind ?_
      rintro plain _ rfl
      refine hints.bind ?_
      rintro hint _ ⟨rfl, breaks⟩
      refine (together_self _).bind ?_
      rintro order _ rfl
      refine (together_self _).bind ?_
      rintro suffix _ rfl
      have plainly := whole breaks plain plain
      cases first.selectType.function? with
      | some function =>
          dsimp only
          split_ifs
          · exact aggregates function plainly
          · exact .accepted (closing (closing plainly order) suffix)
      | none =>
          dsimp only
          split_ifs
          · have opened := congruent.append
              (congruent.same ("select" ++ first.selectHint ++ " * from (")) plainly
            have enclosed :=
              closing (closing (closing (closing opened ") ") mainAlias) order) suffix
            refine .accepted ?_
            simpa only [String.append_assoc] using enclosed
          · refine (together_self _).bind ?_
            rintro select _ rfl
            exact .accepted (closing (closing (whole breaks select plain) order) suffix)

end

end Statement
end SqlComposer
