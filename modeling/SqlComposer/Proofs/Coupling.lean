import SqlComposer.Proofs.Carrying
import SqlComposer.Proofs.Figures
import SqlComposer.Statement.Unions

/-!
Statements that differ in their texts alone. What two such statements have in common is a
`Likeness`: a relation between their texts, and conditions on the names, the fixed conditions and
the union branches of both. From the lists of clauses it passes to the from clause and the where
clause.
-/
namespace SqlComposer

open Condition (Clause OrScope)

/-- What the texts of two statements have in common. -/
structure Likeness where
  texts : String → String → Prop
  /-- Names that both statements write as they are. -/
  given : String → Prop
  /-- Fixed conditions that both statements have. -/
  admits : String → Prop
  branches : UnionBranch → UnionBranch → Prop

variable {likeness : Likeness}

/-- A join whose names and fixed condition a likeness allows. -/
structure Join.Given (likeness : Likeness) (join : Join) : Prop where
  table : likeness.given join.table.text
  aliasName : likeness.given join.foreignAlias
  pairs : ∀ pair ∈ join.pairs, likeness.given pair.1.text ∧ likeness.given pair.2.text
  fixed : ∀ condition, join.fixedCondition? = some condition → likeness.admits condition

theorem Join.Given.changed {join : Join} (given : join.Given likeness)
    (inlineClauses onClauses : List Clause) (isInner : Bool) :
    ({ join with inlineClauses, onClauses, isInner } : Join).Given likeness :=
  ⟨given.table, given.aliasName, given.pairs, given.fixed⟩

/-- One join with clauses that are alike. -/
inductive JoinsAlike (likeness : Likeness) (join : Join) : Join → Prop where
  | of {inlineClauses onClauses : List Clause}
      (inlines : List.Forall₂ (Alike likeness.texts) join.inlineClauses inlineClauses)
      (ons : List.Forall₂ (Alike likeness.texts) join.onClauses onClauses)
      (given : join.Given likeness) :
      JoinsAlike likeness join { join with inlineClauses, onClauses }

section

variable {related : String → String → Prop} {given : String → Prop}

theorem Carries.table_reference (carries : Carries related given) {table : TableName}
    {aliasName : String} (named : given table.text) (aliased : given aliasName)
    {firsts seconds : List Clause} (each : List.Forall₂ (Alike related) firsts seconds) :
    related (tableReference table aliasName firsts) (tableReference table aliasName seconds) := by
  have inner := carries.conjoined each
  have space : given " " := carries.fixed " " (by decide)
  unfold tableReference
  rw [is_empty_of_related each]
  split_ifs
  · exact carries.same (carries.append (carries.append named space) aliased)
  · have opened := carries.append (carries.fixed "(select * from " (by decide)) named
    have renamed := carries.append (carries.append opened space)
      (carries.fixed inlineAlias (by decide))
    have head := carries.append renamed (carries.fixed " where " (by decide))
    exact carries.across (carries.behind head inner) (carries.fixed ") " (by decide)) (by decide)
      (carries.same aliased)

/-- Clauses written one after another behind a text, each after `and`. -/
theorem Carries.followed (carries : Carries related given) {firsts seconds : List Clause}
    (each : List.Forall₂ (Alike related) firsts seconds) {first second : String}
    (holds : related first second) :
    related (first ++ String.join (firsts.map fun clause => " and " ++ clause.sql))
      (second ++ String.join (seconds.map fun clause => " and " ++ clause.sql)) := by
  induction each generalizing first second with
  | nil => simpa [String.join] using holds
  | cons here _ ih =>
      have connector : given " and " := carries.fixed " and " (by decide)
      have longer := ih (carries.across holds connector (by decide) here.texts)
      rw [List.map_cons, List.map_cons, String.join_cons, String.join_cons]
      simpa only [String.append_assoc] using longer

end

/-- A relation that carries over, with the names of a likeness given, and contains it. -/
structure Likeness.Carried (likeness : Likeness) (related : String → String → Prop) : Prop where
  carries : Carries related likeness.given
  texts : ∀ first second, likeness.texts first second → related first second
  admitted : ∀ condition, likeness.admits condition → related condition condition

namespace Likeness.Carried

variable {related : String → String → Prop} (carried : likeness.Carried related)

include carried

theorem alike {firsts seconds : List Clause}
    (each : List.Forall₂ (Alike likeness.texts) firsts seconds) :
    List.Forall₂ (Alike related) firsts seconds :=
  each.imp fun _ _ alike => ⟨alike.part, carried.texts _ _ alike.texts⟩

theorem on_condition {first second : Join} (joins : JoinsAlike likeness first second) :
    related first.onCondition second.onCondition := by
  obtain ⟨_, ons, names⟩ := joins
  have carries := carried.carries
  have pairs : likeness.given (Text.join " and "
      (first.pairs.map fun pair => pair.1.text ++ " = " ++ pair.2.text)) := by
    refine carries.given_join (carries.fixed _ (by decide)) fun text member => ?_
    obtain ⟨pair, present, rfl⟩ := List.mem_map.mp member
    have both := names.pairs pair present
    exact carries.append (carries.append both.1 (carries.fixed _ (by decide))) both.2
  unfold Join.onCondition
  refine carries.followed (carried.alike ons) ?_
  cases fixed : first.fixedCondition? with
  | none => exact carries.same (carries.append pairs (carries.fixed "" (by decide)))
  | some condition =>
      have admitted := carried.admitted condition (names.fixed condition fixed)
      exact carries.behind pairs (carries.behind (carries.fixed _ (by decide)) admitted)

theorem join_sql {first second : Join} (joins : JoinsAlike likeness first second) :
    related first.sql second.sql := by
  have condition := carried.on_condition joins
  obtain ⟨inlines, _, names⟩ := joins
  have carries := carried.carries
  have reference := carries.table_reference names.table names.aliasName (carried.alike inlines)
  have word : likeness.given (if first.isInner then "inner join " else "left outer join ") := by
    split_ifs <;> exact carries.fixed _ (by decide)
  exact carries.across (carries.behind word reference) (carries.fixed " on " (by decide))
    (by decide) condition

/-- Joins written one after another behind a text, with a text that closes each. -/
theorem joined {firsts seconds : List Join}
    (each : List.Forall₂ (JoinsAlike likeness) firsts seconds) {closing : String}
    (fits : likeness.given closing) (breaks : closing = "" ∨ Breaks closing)
    {first second : String} (holds : related first second) :
    related (first ++ String.join (firsts.map fun join => " " ++ join.sql ++ closing))
      (second ++ String.join (seconds.map fun join => " " ++ join.sql ++ closing)) := by
  have carries := carried.carries
  induction each generalizing first second with
  | nil => simpa [String.join] using holds
  | cons here _ ih =>
      have behind := carries.across holds (carries.fixed " " (by decide)) (by decide)
        (carried.join_sql here)
      rw [List.map_cons, List.map_cons, String.join_cons, String.join_cons]
      rcases breaks with rfl | breaks
      · simpa only [String.append_assoc, String.append_empty] using ih behind
      · simpa only [String.append_assoc] using ih (carries.closed behind fits breaks)

end Likeness.Carried

namespace Statement

/-- Two statements that are alike but for their clauses, joins and branches, which a likeness
relates one by one. -/
inductive Coupled (likeness : Likeness) (statement : Statement) : Statement → Prop where
  | of {conditions baseInline : List Clause} {joins : OrderedMap String Join} {orScope : OrScope}
      {unions : List UnionBranch}
      (mains : List.Forall₂ (Alike likeness.texts) statement.conditions conditions)
      (inlines : List.Forall₂ (Alike likeness.texts) statement.baseInline baseInline)
      (joined : MapsAlike (JoinsAlike likeness) statement.joins joins)
      (scopes : ScopesAlike likeness.texts statement.orScope orScope)
      (branches : List.Forall₂ likeness.branches statement.unions unions) :
      Coupled likeness statement
        { statement with conditions, baseInline, joins, orScope, unions }

theorem hash_not_in_base_alias (statement : Statement) : '#' ∉ statement.baseAlias.toList := by
  unfold baseAlias
  cases statement.level with
  | zero => decide
  | succ level =>
      change '#' ∉ ("sub" ++ toString (level + 1) ++ "loc").toList
      intro member
      rw [String.toList_append, String.toList_append, List.mem_append, List.mem_append] at member
      rcases member with (word | digit) | word
      · exact absurd word (by decide)
      · exact absurd (chars_of_nat _ _ digit) (by decide)
      · exact absurd word (by decide)

theorem from_clause_eq (statement : Statement) (hint : String) :
    statement.fromClause hint =
      " from " ++ String.ofList
          (if statement.dialect.joinsInParentheses then List.replicate statement.joins.size '('
            else []) ++
        tableReference statement.table.sqlName statement.baseAlias statement.baseInline ++ hint ++
        String.join (statement.joins.values.map fun join =>
          " " ++ join.sql ++ if statement.dialect.joinsInParentheses then ")" else "") := by
  unfold fromClause
  exact String.append_empty

theorem Coupled.from_clause {related : String → String → Prop} (carried : likeness.Carried related)
    {first second : Statement} (coupled : Coupled likeness first second)
    (named : likeness.given first.table.sqlName.text) {hint : String}
    (hinted : likeness.given hint) (breaks : hint = "" ∨ Breaks hint) :
    related (first.fromClause hint) (second.fromClause hint) := by
  obtain ⟨_, inlines, joined, _, _⟩ := coupled
  have carries := carried.carries
  have aliased := carries.fixed first.baseAlias (hash_not_in_base_alias first)
  have reference := carries.table_reference named aliased (carried.alike inlines)
  rw [from_clause_eq, from_clause_eq]
  dsimp only
  rw [joined.size]
  refine carried.joined joined.values ?_ ?_ ?_
  · split_ifs <;> exact carries.fixed _ (by decide)
  · split_ifs
    · exact .inr (by decide)
    · exact .inl rfl
  · have opened : likeness.given (" from " ++ String.ofList
        (if first.dialect.joinsInParentheses then List.replicate first.joins.size '('
          else [])) := by
      refine carries.append (carries.fixed _ (by decide)) (carries.fixed _ ?_)
      rw [String.toList_ofList]
      split_ifs <;> simp
    have behind := carries.behind opened reference
    rcases breaks with rfl | breaks
    · rw [String.append_empty, String.append_empty]
      exact behind
    · exact carries.closed behind hinted breaks

theorem Coupled.joined_conditions (carries : Carries likeness.texts likeness.given)
    {first second : Statement} (coupled : Coupled likeness first second) :
    likeness.texts (Clause.joined " and " first.conditions)
      (Clause.joined " and " second.conditions) := by
  obtain ⟨mains, _, _, _, _⟩ := coupled
  exact carries.conjoined mains

theorem Coupled.branches {first second : Statement} (coupled : Coupled likeness first second) :
    List.Forall₂ likeness.branches first.unions second.unions := by
  obtain ⟨_, _, _, _, branches⟩ := coupled
  exact branches

end Statement

end SqlComposer
