import SqlComposer.Proofs.CoupledRendering
import SqlComposer.Proofs.DirectForm
import SqlComposer.Proofs.ExchangedParts
import SqlComposer.Proofs.TemplatePath

/-!
Two runs that differ in an embedded value alone. A value with none of the marks that are looked for
in a branch or in a statement is data and nothing else: both runs render or neither does, and the
two statements differ in the literals of the value. A mark inside a value is read like any other.
-/
namespace SqlComposer

open Condition (Holder Key LikeOption)
open SubQuery (LaidAlike Parted QuotelessMarks StandAlike Unmarking)

/-- The marks that are looked for in union branches and in whole statements. -/
def readMarks : List (List Char) :=
  [SubQuery.beginStem, SubQuery.endStem, Template.unionSelectGap.toList,
    Template.unionWhereGap.toList, Template.unionConditionGap.toList]

/-- A value that is not empty and holds none of the marks. -/
structure MarkFree (value : String) : Prop where
  filled : value.isEmpty = false
  unmarked : ∀ mark ∈ readMarks, Text.hasMark mark value.toList = false

instance : DecidablePred MarkFree := fun value =>
  decidable_of_iff
    (value.isEmpty = false ∧ ∀ mark ∈ readMarks, Text.hasMark mark value.toList = false)
    ⟨fun ⟨filled, unmarked⟩ => ⟨filled, unmarked⟩, fun free => ⟨free.filled, free.unmarked⟩⟩

theorem plain_of_read {mark : List Char} (read : mark ∈ readMarks) : IsPlainMark mark := by
  have each : ∀ mark ∈ readMarks, mark ≠ [] ∧ '\'' ∉ mark ∧ '\\' ∉ mark := by decide
  obtain ⟨filled, quoteless, slashless⟩ := each mark read
  exact ⟨filled, quoteless, slashless⟩

theorem MarkFree.absent {value : String} (free : MarkFree value) {mark : List Char}
    (read : mark ∈ readMarks) : ¬ mark <:+: value.toList := by
  rw [← Text.has_mark_iff, free.unmarked mark read]
  exact Bool.false_ne_true

/-- Texts that are the same but for the literals of a value. -/
def SameButLiterals (old new first second : String) : Prop :=
  Exchanged old new first.toList second.toList

theorem same_but_literals_congruent (old new : String) : Congruent (SameButLiterals old new) where
  same text := .same _
  append first second := by
    unfold SameButLiterals
    rw [String.toList_append, String.toList_append]
    exact Exchanged.append first second

section

variable {old new : String} (oldFree : MarkFree old) (newFree : MarkFree new)

include oldFree newFree

theorem unread_of_mark_free {mark : List Char} (read : mark ∈ readMarks) : IsUnread old new mark :=
  ⟨plain_of_read read, oldFree.absent read, newFree.absent read⟩

theorem unmarking_of_mark_free : Unmarking old new :=
  ⟨unread_of_mark_free oldFree newFree (by decide),
    unread_of_mark_free oldFree newFree (by decide)⟩

/-- A mark with a space before it is not in a value that the mark itself is not in. -/
theorem spaced_unread {mark : List Char} (read : mark ∈ readMarks) :
    IsUnread old new (' ' :: mark) := by
  have unread := unread_of_mark_free oldFree newFree read
  have inside : mark <:+: ' ' :: mark := (List.suffix_cons ' ' mark).isInfix
  refine ⟨⟨List.cons_ne_nil _ _, ?_, ?_⟩, fun present => unread.old (inside.trans present),
    fun present => unread.new (inside.trans present)⟩
  · simp [unread.quoteless]
  · simp [unread.slashless]

omit oldFree newFree in
theorem replaced_same_but_literals {mark first second : String}
    (unread : IsUnread old new mark.toList) (replacement : String)
    (exchanged : SameButLiterals old new first second) :
    SameButLiterals old new (Text.replace first mark replacement)
      (Text.replace second mark replacement) := by
  unfold SameButLiterals Text.replace
  rw [String.toList_ofList, String.toList_ofList]
  exact Exchanged.replaced unread _ exchanged

/-- A branch is filled in the same way whatever the value is. -/
theorem branches_alike {branch other : UnionBranch}
    (keeps : other.keepsDuplicates = branch.keepsDuplicates)
    (exchanged : SameButLiterals old new branch.text other.text) :
    Statement.BranchesAlike (SameButLiterals old new) branch other := by
  refine ⟨keeps, exchanged, fun select => ?_⟩
  have unread : ∀ {mark}, mark ∈ readMarks → IsUnread old new mark :=
    unread_of_mark_free oldFree newFree
  have spaced : IsUnread old new (" " ++ Template.unionWhereGap).toList :=
    spaced_unread oldFree newFree
      (show Template.unionWhereGap.toList ∈ readMarks by decide)
  have replaced := @replaced_same_but_literals old new
  exact replaced (unread (by decide)) "" (replaced (unread (by decide)) "" (replaced spaced ""
    (replaced (unread (by decide)) select exchanged)))

end

namespace Statement

/-- An equal condition with a value embedded as a literal, and the one with another value. -/
inductive ComparesWith (old new : String) : Operation → Operation → Prop where
  | condition (column : ColumnRef) {holder : Holder} (embedded : holder.binding = .embedded)
      (option? : Option LikeOption) :
      ComparesWith old new (.addCondition column .equal (holder.set .equal (.text old)) option?)
        (.addCondition column .equal (holder.set .equal (.text new)) option?)
  | baseInline (name : String) {holder : Holder} (embedded : holder.binding = .embedded)
      (option? : Option LikeOption) :
      ComparesWith old new (.addBaseInline name .equal (holder.set .equal (.text old)) option?)
        (.addBaseInline name .equal (holder.set .equal (.text new)) option?)
  | joinCondition (aliasName name : String) {holder : Holder}
      (embedded : holder.binding = .embedded) (option? : Option LikeOption) (isOn : Bool) :
      ComparesWith old new
        (.addJoinCondition aliasName name .equal (holder.set .equal (.text old)) option? isOn)
        (.addJoinCondition aliasName name .equal (holder.set .equal (.text new)) option? isOn)

/-- What is alike in two runs that differ in a value. -/
def valueLikeness (old new : String) : Likeness :=
  textLikeness (SameButLiterals old new) (BranchesAlike (SameButLiterals old new))

theorem equal_clauses_of_text {value : String} (filled : value.isEmpty = false)
    (mode : Condition.Mode) (column : ColumnRef) {holder : Holder}
    (embedded : holder.binding = .embedded) :
    Key.equal.clauses mode column (holder.set .equal (.text value)) none =
      .ok [.bound column .equal (mode.dialect.textLiteral value) none] := by
  have binding : (holder.set .equal (.text value)).binding = .embedded := embedded
  have held := holder.value_of_set .equal (.text value)
  have fitting : (none : Option LikeOption).isSome = true → Key.equal.isLike = true := nofun
  exact Key.clauses_of_embedded rfl rfl fitting mode column binding held filled

theorem compares_alike_values {old new : String} (oldFilled : old.isEmpty = false)
    (newFilled : new.isEmpty = false) (dialect : Dialect) (column : ColumnRef) {holder : Holder}
    (embedded : holder.binding = .embedded) (option? : Option LikeOption) :
    ComparesAlike (valueLikeness old new) dialect column .equal
      (holder.set .equal (.text old)) (holder.set .equal (.text new)) option? := by
  intro mode _
  cases option? with
  | some option => exact .refused
  | none =>
      rw [equal_clauses_of_text oldFilled mode column embedded,
        equal_clauses_of_text newFilled mode column embedded]
      refine .accepted (.cons ⟨rfl, ?_⟩ .nil)
      have literals : SameButLiterals old new (mode.dialect.textLiteral old)
          (mode.dialect.textLiteral new) := by
        unfold SameButLiterals Dialect.textLiteral
        rw [String.toList_ofList, String.toList_ofList]
        exact Exchanged.literals mode.dialect
      have congruent := same_but_literals_congruent old new
      exact congruent.append (congruent.same _) literals

theorem matches_of_compares_with {old new : String} (oldFilled : old.isEmpty = false)
    (newFilled : new.isEmpty = false) {statement : Statement} {operation other : Operation}
    (compares : ComparesWith old new operation other) :
    Matches (valueLikeness old new) statement operation other := by
  cases compares with
  | condition column embedded option? =>
      exact ⟨_, rfl, compares_alike_values oldFilled newFilled _ _ embedded option?⟩
  | baseInline name embedded option? =>
      exact ⟨_, rfl, fun _ _ => compares_alike_values oldFilled newFilled _ _ embedded option?⟩
  | joinCondition aliasName name embedded option? isOn =>
      exact ⟨_, rfl, fun _ _ _ _ =>
        compares_alike_values oldFilled newFilled _ _ embedded option?⟩

/-- Whatever does not involve the value is the same operation on both sides. -/
theorem matches_same {related : String → String → Prop} (congruent : Congruent related)
    {statement : Statement} (operation : Operation) :
    Matches (textLikeness related (BranchesAlike related)) statement operation operation := by
  have given : ∀ join : Join, join.Given (textLikeness related (BranchesAlike related)) :=
    fun _ => ⟨trivial, trivial, fun _ _ => ⟨trivial, trivial⟩, fun _ _ => trivial⟩
  have compares : ∀ {dialect column key holder option?},
      ComparesAlike (textLikeness related (BranchesAlike related)) dialect column key holder holder
        option? := by
    intro dialect column key holder option? mode _
    cases key.clauses mode column holder option? with
    | error refusal => exact .refused
    | ok clauses =>
        exact .accepted (List.forall₂_same.mpr fun clause _ => ⟨rfl, congruent.same _⟩)
  have branches : ∀ branch : UnionBranch, BranchesAlike related branch branch :=
    fun _ => ⟨rfl, congruent.same _, fun _ => congruent.same _⟩
  cases operation with
  | join aliasName property => exact ⟨rfl, fun added _ => given added⟩
  | addCondition column key holder option? => exact ⟨holder, rfl, compares⟩
  | addConditionText text => exact ⟨rfl, congruent.same text⟩
  | addBaseInline name key holder option? => exact ⟨holder, rfl, fun _ _ => compares⟩
  | addJoinCondition aliasName name key holder option? isOn =>
      exact ⟨holder, rfl, fun _ _ _ _ => compares⟩
  | addUnionText text keepsDuplicates => exact ⟨rfl, branches _⟩
  | addUnion branch keepsDuplicates => exact ⟨branch, rfl, branches _⟩
  | _ => exact rfl

/-- Two runs of the same registrations, of the statement and of its branches, that differ in a value
of their equal conditions. -/
inductive RunsWith (old new : String) : Schema → Statement → Statement → Prop where
  | new {schema : Schema} {settings : Settings} {tableName : String} {purpose : Purpose}
      {statement : Statement}
      (created : ofTable schema settings tableName purpose = .ok statement) :
      RunsWith old new schema statement statement
  | withResolver {schema : Schema} {statement other : Statement}
      (runs : RunsWith old new schema statement other) (resolver : FixedCondition.Resolver) :
      RunsWith old new schema { statement with resolver } { other with resolver }
  | nested {schema : Schema} {outer statement : Statement} {tableName : String}
      {purpose : Purpose} (reached : Reachable schema outer)
      (created : outer.nested tableName purpose = .ok statement) :
      RunsWith old new schema statement statement
  | after {schema : Schema} {statement other : Statement}
      (runs : RunsWith old new schema statement other) (operation : Operation) :
      RunsWith old new schema (statement.after operation) (other.after operation)
  | compare {schema : Schema} {statement other : Statement} {operation another : Operation}
      (runs : RunsWith old new schema statement other)
      (compares : ComparesWith old new operation another) :
      RunsWith old new schema (statement.after operation) (other.after another)
  | union {schema branchSchema : Schema} {statement other branch another : Statement}
      (runs : RunsWith old new schema statement other)
      (branchRuns : RunsWith old new branchSchema branch another) (keepsDuplicates : Bool) :
      RunsWith old new schema (statement.after (.addUnion branch keepsDuplicates))
        (other.after (.addUnion another keepsDuplicates))

theorem RunsWith.coupled {old new : String} (oldFree : MarkFree old)
    (newFree : MarkFree new) {schema : Schema} {statement other : Statement}
    (runs : RunsWith old new schema statement other) :
    Coupled (valueLikeness old new) statement other := by
  have congruent := same_but_literals_congruent old new
  induction runs with
  | new created => exact coupled_of_created created
  | withResolver _ resolver ih => exact ih.with_resolver resolver
  | nested _ created => exact coupled_of_created (create_of_nested created)
  | after _ operation ih => exact ih.after congruent.carries (matches_same congruent operation)
  | compare _ compares ih =>
      exact ih.after congruent.carries
        (matches_of_compares_with oldFree.filled newFree.filled compares)
  | union _ _ keepsDuplicates ih branchCoupled =>
      have gapped := branchCoupled.union_gapped congruent
      have texts := congruent.append (congruent.same Template.unionSelectGap) gapped
      exact ih.after congruent.carries
        ⟨_, rfl, branches_alike oldFree newFree rfl texts⟩

/-- No literal stands in a mark of the statement. -/
def MarksQuoteless (statement : Statement) : Prop :=
  ∀ sql parts, statement.marked = .ok sql → Parted 0 sql.toList parts → QuotelessMarks parts

/-- What two statements have in common that differ in a value. The parts of both are the same but
for the literals of the value. Where they stand in the same columns, as the only part of a statement
without sub-queries does, the whole is. -/
def RendersAlike (old new : String) (first second : Statement) (sql other : String) : Prop :=
  ∃ text textOther parts others, first.marked = .ok text ∧ second.marked = .ok textOther ∧
    Parted 0 text.toList parts ∧ Parted 0 textOther.toList others ∧
    sql.toList = SubQuery.shownText parts ∧ other.toList = SubQuery.shownText others ∧
    List.Forall₂ (SubQuery.PartExchanged old new) parts others ∧
    (StandAlike old new parts others ∨ Text.hasMark SubQuery.beginStem text.toList = false →
      SameButLiterals old new sql other)

/-- A run with one value is rendered when the run with another one is, and the statements are the
same but for the literals of the value. -/
theorem render_of_exchanged_value {old new : String} (oldFree : MarkFree old)
    (newFree : MarkFree new) {schema : Schema} {statement other : Statement}
    (runs : RunsWith old new schema statement other) (quoteless : statement.MarksQuoteless)
    (quotelessOther : other.MarksQuoteless) :
    Together (RendersAlike old new statement other) statement.render other.render := by
  have congruent := same_but_literals_congruent old new
  have unread := unmarking_of_mark_free oldFree newFree
  have written := (runs.coupled oldFree newFree).marked congruent
  rw [render_eq, render_eq]
  cases marked : statement.marked with
  | error refusal =>
      rw [marked] at written
      generalize other.marked = result at written ⊢
      cases written
      exact .refused
  | ok text =>
      rw [marked] at written
      cases markedOther : other.marked with
      | error refusal =>
          rw [markedOther] at written
          cases written
      | ok textOther =>
          rw [markedOther] at written
          obtain ⟨exchanged⟩ := written
          have laid := SubQuery.layout_exchanged unread exchanged
            (fun parts => quoteless text parts marked)
            (fun parts => quotelessOther textOther parts markedOther)
          refine laid.mono fun sql sqlOther alike => ?_
          obtain ⟨parted, partedOther, shown, shownOther, each⟩ := alike
          refine ⟨text, textOther, _, _, marked, markedOther, parted, partedOther, shown,
            shownOther, each, fun alike => ?_⟩
          unfold SameButLiterals
          rw [shown, shownOther]
          refine SubQuery.shown_text_exchanged each (alike.elim id fun unmarked => ?_)
          exact SubQuery.stand_alike_of_unmarked parted partedOther unmarked each

theorem after_union {statement branch : Statement}
    (allowed : statement.purpose.forbids .union = false)
    (unranked : statement.order.hasManual = false) (keepsDuplicates : Bool) :
    statement.after (.addUnion branch keepsDuplicates) =
      { statement with
        unions := statement.unions ++
          [⟨Template.unionSelectGap ++ branch.unionGapped, keepsDuplicates⟩] } := by
  rw [after, Registration.perform_eq_outcome]
  change (Registration.outcome (addUnionText (Template.unionSelectGap ++ branch.unionGapped)
    keepsDuplicates) statement).2 = _
  unfold addUnionText
  rw [Registration.outcome_bind, Registration.outcome_allow, allowed, branch_text_not_blank]
  change (Registration.outcome (get >>= _) statement).2 = _
  rw [Registration.outcome_bind_get, unranked]
  rfl

theorem marks_quoteless_of_hash_free {statement : Statement} {sql : String}
    (written : statement.marked = .ok sql) (free : HashFree sql) : statement.MarksQuoteless := by
  intro text parts marked parted chars member
  obtain rfl := Except.ok.inj (written.symm.trans marked)
  cases parted with
  | plain _ _ => simp at member
  | pair begun _ _ _ _ _ =>
      have begins : '#' ∈ sql.toList := by
        rw [Text.eq_of_cutAt? begun]
        exact List.mem_append_left _ (List.mem_append_right _ (by decide))
      exact absurd begins free

def withMemberId (value : String) : Operation :=
  .addCondition (.qualified "dflocal" ⟨"MEMBER_ID"⟩) .equal
    (({} : Holder).set .equal (.text value)) none

/-- All members, and once more the one with an identity. -/
def membersWith (value : String) : Statement :=
  newMember.after (.addUnion (newMember.after (withMemberId value)) false)

theorem members_run_with (old new : String) :
    RunsWith old new memberSchema (membersWith old) (membersWith new) := by
  have created : RunsWith old new memberSchema newMember newMember :=
    .new (show ofTable memberSchema {} "MEMBER" .normalUse = .ok newMember from rfl)
  have compares : ComparesWith old new (withMemberId old) (withMemberId new) :=
    .condition _ rfl none
  exact .union created (.compare created compares) false

def memberSelect : String := "select dflocal.MEMBER_ID as c1, dflocal.INVITER_ID as c2"

def memberTables : String := " from MEMBER dflocal"

theorem member_tables_eq : newMember.fromClause "" = memberTables := by decide +kernel

/-- The branch before it is filled. -/
def memberBranch (tables operand : String) : UnionBranch where
  text := Template.unionSelectGap ++ (tables ++ (" where " ++ Template.unionConditionGap ++
    ("dflocal.MEMBER_ID" ++ " = " ++ operand)) ++ "")
  keepsDuplicates := false

theorem members_with_eq {value : String} (filled : value.isEmpty = false) :
    membersWith value =
      { newMember with
        unions := [memberBranch memberTables (Dialect.mysql.textLiteral value)] } := by
  have clauses := equal_clauses_of_text filled newMember.conditionMode
    (.qualified "dflocal" ⟨"MEMBER_ID"⟩) (show ({} : Holder).binding = .embedded from rfl)
  have registered : newMember.after (withMemberId value) =
      { newMember with
        conditions := [.bound (.qualified "dflocal" ⟨"MEMBER_ID"⟩) .equal
          (Dialect.mysql.textLiteral value) none] } := by
    rw [withMemberId, after_condition, clauses]
    rfl
  have column : (ColumnRef.qualified "dflocal" ⟨"MEMBER_ID"⟩).text ++ " " ++ "=" ++ " " =
      "dflocal.MEMBER_ID" ++ " = " := by decide +kernel
  rw [membersWith, after_union rfl rfl, registered, memberBranch, ← member_tables_eq, ← column]
  rfl

theorem marked_of_branch (branch : UnionBranch) :
    ({ newMember with unions := [branch] } : Statement).marked =
      .ok (memberSelect ++ memberTables ++ (branch.connector ++ branch.filled memberSelect)) := by
  have selected : selectClauseOf { newMember with unions := [branch] }
      (giveAliases true 1 newMember.baseEntries) "" = .ok memberSelect := by rfl
  have written : ({ newMember with unions := [branch] } : Statement).marked = (do
      let select ← selectClauseOf { newMember with unions := [branch] }
        (giveAliases true 1 newMember.baseEntries) ""
      return select ++ (newMember.fromClause "" ++ "") ++
        String.join [branch.connector ++ branch.filled select] ++ "" ++ "") := by rfl
  rw [written, selected, member_tables_eq]
  change Except.ok (memberSelect ++ (memberTables ++ "") ++ _ ++ "" ++ "") = _
  simp [String.join_cons]

/-- A statement of all members and of the one whose identity is an operand. -/
def memberText (select tables operand : String) : String :=
  select ++ tables ++ (" union " ++ (select ++ tables ++ " where dflocal.MEMBER_ID = " ++ operand))

section

variable {select tables : String} (selects : select = memberSelect) (names : tables = memberTables)

include selects names

set_option maxRecDepth 2000 in
theorem plain_branch_filled {operand : String} (plain : operand ∈ ["'x'", "'o''k'"]) :
    (memberBranch tables operand).filled select =
      select ++ tables ++ " where dflocal.MEMBER_ID = " ++ operand := by
  have selectChars : select.toList = _ :=
    (congrArg String.toList selects).trans String.toList_ofList
  have tableChars : tables.toList = _ := (congrArg String.toList names).trans String.toList_ofList
  apply String.toList_injective
  simp only [memberBranch, UnionBranch.filled, Template.closeGaps, Template.to_list_replace,
    String.toList_append, selectChars, tableChars]
  revert operand
  decide +kernel

/-- The select clause goes into the literal as well. -/
theorem marked_branch_filled :
    (memberBranch tables "'#df:unionSelectClause#'").filled select =
      select ++ tables ++ " where dflocal.MEMBER_ID = " ++ ("'" ++ select ++ "'") := by
  have selectChars : select.toList = _ :=
    (congrArg String.toList selects).trans String.toList_ofList
  have tableChars : tables.toList = _ := (congrArg String.toList names).trans String.toList_ofList
  apply String.toList_injective
  simp only [memberBranch, UnionBranch.filled, Template.closeGaps, Template.to_list_replace,
    String.toList_append, selectChars, tableChars]
  decide +kernel

end

theorem members_with_marked {value operand : String} (filled : value.isEmpty = false)
    (branch : (memberBranch memberTables (Dialect.mysql.textLiteral value)).filled memberSelect =
      memberSelect ++ memberTables ++ " where dflocal.MEMBER_ID = " ++ operand) :
    (membersWith value).marked = .ok (memberText memberSelect memberTables operand) := by
  rw [members_with_eq filled, marked_of_branch, branch]
  rfl

theorem hash_free_member_text {operand : String} (free : HashFree operand) :
    HashFree (memberText memberSelect memberTables operand) := by
  have head : HashFree (memberSelect ++ memberTables) :=
    .append (by decide +kernel) (by decide +kernel)
  have compared :=
    (head.append (show HashFree " where dflocal.MEMBER_ID = " by decide)).append free
  exact head.append ((show HashFree " union " by decide).append compared)

theorem members_with_rendered {value operand : String} (filled : value.isEmpty = false)
    (branch : (memberBranch memberTables (Dialect.mysql.textLiteral value)).filled memberSelect =
      memberSelect ++ memberTables ++ " where dflocal.MEMBER_ID = " ++ operand)
    (free : HashFree operand) :
    (membersWith value).MarksQuoteless ∧
      (membersWith value).render = .ok (memberText memberSelect memberTables operand) := by
  have marked := members_with_marked filled branch
  have whole := hash_free_member_text free
  exact ⟨marks_quoteless_of_hash_free marked whole,
    render_of_marked marked (layout_of_unmarked whole.unmarked)⟩

theorem members_rendered_with_quote :
    (membersWith "x").render = .ok (memberText memberSelect memberTables "'x'") ∧
      (membersWith "o'k").render = .ok (memberText memberSelect memberTables "'o''k'") ∧
      Together (RendersAlike "x" "o'k" (membersWith "x") (membersWith "o'k"))
        (membersWith "x").render (membersWith "o'k").render := by
  obtain ⟨quoteless, rendered⟩ := members_with_rendered (show "x".isEmpty = false by decide)
    (plain_branch_filled rfl rfl (show "'x'" ∈ _ by decide)) (by decide)
  obtain ⟨quotelessOther, renderedOther⟩ :=
    members_with_rendered (show "o'k".isEmpty = false by decide)
      (plain_branch_filled rfl rfl (show "'o''k'" ∈ _ by decide)) (by decide)
  exact ⟨rendered, renderedOther,
    render_of_exchanged_value (by decide) (by decide) (members_run_with _ _) quoteless
      quotelessOther⟩

/-- What differs has the new literal in it. -/
theorem literal_of_exchanged {old new : String} {first second : List Char}
    (exchanged : Exchanged old new first second) :
    second = first ∨ ∃ dialect : Dialect, dialect.quotedChars new.toList <:+: second := by
  cases exchanged with
  | same chars => exact .inl rfl
  | literal before dialect _ => exact .inr ⟨dialect, List.infix_append' before _ _⟩

theorem member_text_injective {select tables operand other : String}
    (same : memberText select tables operand = memberText select tables other) :
    operand = other := by
  have chars := congrArg String.toList same
  simp only [memberText, String.toList_append, List.append_cancel_left_eq] at chars
  exact String.toList_injective chars

theorem hash_free_select_literal : HashFree ("'" ++ memberSelect ++ "'") :=
  (HashFree.append (by decide) (show HashFree memberSelect by decide +kernel)).append (by decide)

theorem marked_value_lost :
    ¬ SameButLiterals "x" Template.unionSelectGap (memberText memberSelect memberTables "'x'")
      (memberText memberSelect memberTables ("'" ++ memberSelect ++ "'")) := by
  intro exchanged
  rcases literal_of_exchanged exchanged with same | ⟨dialect, present⟩
  · have literals := member_text_injective (String.toList_injective same)
    exact absurd literals (by decide +kernel)
  · have hash : '#' ∈ dialect.quotedChars Template.unionSelectGap.toList := by
      cases dialect <;> decide
    exact hash_free_member_text hash_free_select_literal (present.subset hash)

/-- The mark of the select clause is filled inside a literal, so the value does not get through. -/
theorem select_mark_in_value_filled :
    RunsWith "x" Template.unionSelectGap memberSchema (membersWith "x")
        (membersWith Template.unionSelectGap) ∧
      (membersWith "x").render = .ok (memberText memberSelect memberTables "'x'") ∧
      (membersWith Template.unionSelectGap).render =
        .ok (memberText memberSelect memberTables ("'" ++ memberSelect ++ "'")) ∧
      ¬ SameButLiterals "x" Template.unionSelectGap
        (memberText memberSelect memberTables "'x'")
        (memberText memberSelect memberTables ("'" ++ memberSelect ++ "'")) := by
  obtain ⟨_, rendered⟩ := members_with_rendered (show "x".isEmpty = false by decide)
    (plain_branch_filled rfl rfl (show "'x'" ∈ _ by decide)) (by decide)
  obtain ⟨_, renderedOther⟩ :=
    members_with_rendered (show Template.unionSelectGap.isEmpty = false by decide)
      (marked_branch_filled rfl rfl) hash_free_select_literal
  exact ⟨members_run_with _ _, rendered, renderedOther, marked_value_lost⟩

end Statement
end SqlComposer
