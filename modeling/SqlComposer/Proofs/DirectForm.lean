import SqlComposer.Proofs.Forest
import SqlComposer.Proofs.Reachability
import SqlComposer.Proofs.Unqualified

/-!
Deletes that use the where clause of a statement as it is. A run of comparisons and or-scopes and
the same run on bare columns go on side by side, clause by clause; so the where clause of a delete
is the one that was registered on bare columns. Marks of sub-queries are taken out of the delete
afterwards, wherever they stand.
-/
namespace SqlComposer

open Condition (Clause Holder Key LikeOption OrScope Target Terms)

namespace Operation

/-- The same operation on a column without its qualifier. -/
def unqualified : Operation → Operation
  | addCondition column key holder option? =>
      addCondition (.unqualified column.column) key holder option?
  | operation => operation

/-- Comparisons of columns that an alias qualifies, and the moves of or-scopes. -/
inductive IsKeyed (aliasName : String) : Operation → Prop where
  | condition {column : ColumnName} {key : Key} {holder : Holder} {option? : Option LikeOption}
      (quoteless : '\'' ∉ column.text.toList)
      (absent : Text.hasMark aliasName.toList column.text.toList = false)
      (harmless : Statement.Harmless aliasName.toList key holder) :
      IsKeyed aliasName (addCondition (.qualified aliasName column) key holder option?)
  | openOrScope : IsKeyed aliasName openOrScope
  | closeOrScope : IsKeyed aliasName closeOrScope
  | beginAndPart : IsKeyed aliasName beginAndPart
  | endAndPart : IsKeyed aliasName endAndPart

end Operation

namespace Statement

open Registration

/-- Terms for the where clause, clause by clause. -/
def TermsUnqualify (name : List Char) (terms bare : Terms) : Prop :=
  List.Forall₂
    (fun entry other => entry.1 = Target.main ∧ other.1 = Target.main ∧
      List.Forall₂ (Unqualifies name) entry.2 other.2)
    terms.entries bare.entries

structure ScopeUnqualifies (name : List Char) (scope bare : OrScope) : Prop where
  part : bare.andPart? = scope.andPart?
  parts : bare.andParts = scope.andParts
  frames : List.Forall₂ (TermsUnqualify name) scope.frames bare.frames

/-- Two statements that go back to the same one, with the same conditions on qualified and on bare
columns. -/
inductive Mirrors (name : List Char) (origin : Statement) : Statement → Statement → Prop where
  | both {conditions bares : List Clause} {scope bareScope : OrScope}
      (clauses : List.Forall₂ (Unqualifies name) conditions bares)
      (scopes : ScopeUnqualifies name scope bareScope) :
      Mirrors name origin { origin with conditions, orScope := scope }
        { origin with conditions := bares, orScope := bareScope }

/-- A clause for the where clause, put into the innermost scope when one is open. -/
def placeMain (statement : Statement) (clause : Clause) : Statement :=
  match statement.orScope.frames with
  | [] => { statement with conditions := statement.conditions ++ [clause] }
  | frame :: outer =>
    { statement with
      orScope := { statement.orScope with
        frames := frame.push .main (statement.orScope.term clause) :: outer } }

theorem register_main (clause : Clause) (statement : Statement) :
    outcome (registerClause .main clause) statement = (.ok (), statement.placeMain clause) := by
  rw [registerClause, outcome_bind_get, placeMain]
  cases frames : statement.orScope.frames with
  | nil =>
      have closed : statement.orScope.isOpen = false := by rw [OrScope.isOpen, frames]; rfl
      rw [closed]
      rfl
  | cons frame outer =>
      have opened : statement.orScope.isOpen = true := by rw [OrScope.isOpen, frames]; rfl
      rw [opened, if_pos rfl, outcome_bind_lift, OrScope.push, frames]
      rfl

theorem register_all_main (clauses : List Clause) (statement : Statement) :
    outcome (registerClauses (clauses.map fun clause => (.main, clause))) statement =
      (.ok (), clauses.foldl placeMain statement) := by
  induction clauses generalizing statement with
  | nil => rfl
  | cons clause rest ih =>
      rw [List.map_cons, registerClauses, outcome_bind, register_main]
      exact ih (statement.placeMain clause)

theorem after_condition (statement : Statement) (column : ColumnRef) (key : Key) (holder : Holder)
    (option? : Option LikeOption) :
    statement.after (.addCondition column key holder option?) =
      if statement.purpose.forbids .condition then statement
      else
        match key.clauses statement.conditionMode column holder option? with
        | .ok clauses => clauses.foldl placeMain statement
        | .error _ => statement := by
  rw [after, perform_eq_outcome]
  change (outcome (compare .main column key holder option?) statement).2 = _
  rw [compare, outcome_bind, outcome_allow]
  cases statement.purpose.forbids .condition with
  | true => rfl
  | false =>
      simp only [Bool.false_eq_true, if_false]
      rw [outcome_bind_get, outcome_bind_lift]
      cases key.clauses statement.conditionMode column holder option? with
      | error refusal => rfl
      | ok clauses =>
          dsimp only
          rw [register_all_main]

theorem after_condition_text {statement : Statement} {text : String}
    (worded : Text.isBlank text = false) (allowed : statement.purpose.forbids .condition = false) :
    statement.after (.addConditionText text) = statement.placeMain (.text text) := by
  rw [after, perform_eq_outcome]
  change (outcome (addConditionText text) statement).2 = _
  rw [addConditionText, worded]
  change (outcome (allow .condition >>= fun _ => registerClause .main (.text text)) statement).2 = _
  rw [outcome_bind, outcome_allow, allowed]
  change (outcome (registerClause .main (.text text)) statement).2 = _
  rw [register_main]

/-- The statement after a move of its or-scope that registers no clause. -/
def movedScope (statement : Statement) (moved : Except ClauseError OrScope) : Statement :=
  match moved with
  | .ok orScope => { statement with orScope }
  | .error _ => statement

theorem after_scope_move {operation : Operation} {move : OrScope → Except ClauseError OrScope}
    (registers : operation.registration = do
      let statement ← get
      let orScope ← move statement.orScope
      set { statement with orScope }) (statement : Statement) :
    statement.after operation = statement.movedScope (move statement.orScope) := by
  rw [after, perform_eq_outcome, registers, outcome_bind_get, outcome_bind_lift]
  cases move statement.orScope <;> rfl

theorem after_close (statement : Statement) :
    statement.after .closeOrScope =
      match statement.orScope.closeScope with
      | .ok (orScope, reflected) =>
        (outcome (registerClauses reflected) { statement with orScope }).2
      | .error _ => statement := by
  rw [after, perform_eq_outcome]
  change (outcome closeOrScope statement).2 = _
  rw [closeOrScope, outcome_bind_get, outcome_bind_lift]
  cases statement.orScope.closeScope with
  | error refusal => rfl
  | ok closed =>
      dsimp only
      rw [outcome_bind]
      rfl

section

variable {name : List Char} {origin statement bare : Statement}

theorem terms_push_unqualify {terms bareTerms : Terms}
    (unqualify : TermsUnqualify name terms bareTerms) {clause bareClause : Clause}
    (unqualifies : Unqualifies name clause bareClause) :
    TermsUnqualify name (terms.push .main clause) (bareTerms.push .main bareClause) := by
  obtain ⟨entries⟩ := terms
  obtain ⟨bareEntries⟩ := bareTerms
  change List.Forall₂ _ entries bareEntries at unqualify
  change List.Forall₂ _ (OrderedMap.alterEntry _ _ _ entries)
    (OrderedMap.alterEntry _ _ _ bareEntries)
  cases unqualify with
  | nil => exact .cons ⟨rfl, rfl, .cons unqualifies .nil⟩ .nil
  | cons first rest =>
      rw [OrderedMap.alterEntry, OrderedMap.alterEntry, if_pos first.1, if_pos first.2.1]
      have longer := List.rel_append first.2.2 (List.Forall₂.cons unqualifies .nil)
      exact .cons ⟨rfl, rfl, longer⟩ rest

theorem terms_push_all_unqualify {clauses bares : List Clause}
    (each : List.Forall₂ (Unqualifies name) clauses bares) {terms bareTerms : Terms}
    (unqualify : TermsUnqualify name terms bareTerms) :
    TermsUnqualify name (terms.pushAll (clauses.map fun clause => (.main, clause)))
      (bareTerms.pushAll (bares.map fun clause => (.main, clause))) := by
  induction each generalizing terms bareTerms with
  | nil => exact unqualify
  | cons first rest ih => exact ih (terms_push_unqualify unqualify first)

theorem reflected_unqualify (base : BaseName name) {terms bareTerms : Terms}
    (unqualify : TermsUnqualify name terms bareTerms) :
    ∃ clauses bares : List Clause,
      terms.reflected = (clauses.map fun clause => (.main, clause)) ∧
        bareTerms.reflected = (bares.map fun clause => (.main, clause)) ∧
          List.Forall₂ (Unqualifies name) clauses bares := by
  obtain ⟨entries⟩ := terms
  obtain ⟨bareEntries⟩ := bareTerms
  change List.Forall₂ _ entries bareEntries at unqualify
  induction unqualify with
  | nil => exact ⟨[], [], rfl, rfl, .nil⟩
  | @cons entry bareEntry entries bareEntries first rest ih =>
      obtain ⟨clauses, bares, reflected, bareReflected, each⟩ := ih
      obtain ⟨target, own⟩ := entry
      obtain ⟨bareTarget, bareOwn⟩ := bareEntry
      obtain ⟨rfl, rfl, terms⟩ := first
      have flat := flatten_unqualifies base terms
      unfold Terms.reflected at reflected bareReflected ⊢
      cases terms with
      | nil => exact ⟨clauses, bares, reflected, bareReflected, each⟩
      | cons here later =>
          refine ⟨_ :: clauses, _ :: bares, ?_, ?_, .cons flat each⟩
          · rw [List.map_cons, ← reflected]
            rfl
          · rw [List.map_cons, ← bareReflected]
            rfl

theorem ScopeUnqualifies.is_open {scope bareScope : OrScope}
    (scopes : ScopeUnqualifies name scope bareScope) : bareScope.isOpen = scope.isOpen := by
  have together := scopes.frames
  unfold OrScope.isOpen
  generalize scope.frames = frames at together ⊢
  generalize bareScope.frames = bareFrames at together ⊢
  cases together <;> rfl

theorem Mirrors.place (mirrors : Mirrors name origin statement bare) {clause bareClause : Clause}
    (unqualifies : Unqualifies name clause bareClause) :
    Mirrors name origin (statement.placeMain clause) (bare.placeMain bareClause) := by
  cases mirrors with
  | @both conditions bares scope bareScope clauses scopes =>
      obtain ⟨frames, _, _⟩ := scope
      obtain ⟨bareFrames, andPart?, andParts⟩ := bareScope
      obtain ⟨rfl, rfl, together⟩ := scopes
      change List.Forall₂ _ frames bareFrames at together
      cases together with
      | nil =>
          have longer := List.rel_append clauses (List.Forall₂.cons unqualifies .nil)
          exact .both longer ⟨rfl, rfl, .nil⟩
      | cons first outer =>
          have term : ∀ part?, Unqualifies name (OrScope.term ⟨[], part?, andParts⟩ clause)
              (OrScope.term ⟨[], part?, andParts⟩ bareClause) := by
            intro part?
            cases part? with
            | none => exact unqualifies
            | some identity => exact ⟨rfl, unqualifies.strips⟩
          have pushed := terms_push_unqualify first (term andPart?)
          exact .both clauses ⟨rfl, rfl, .cons pushed outer⟩

theorem Mirrors.place_all {clauses bares : List Clause}
    (each : List.Forall₂ (Unqualifies name) clauses bares)
    (mirrors : Mirrors name origin statement bare) :
    Mirrors name origin (clauses.foldl placeMain statement) (bares.foldl placeMain bare) := by
  induction each generalizing statement bare with
  | nil => exact mirrors
  | cons first rest ih => exact ih (mirrors.place first)

theorem Mirrors.moved_scope {scope bareScope : Except ClauseError OrScope}
    (moved : Together (ScopeUnqualifies name) scope bareScope)
    (mirrors : Mirrors name origin statement bare) :
    Mirrors name origin (statement.movedScope scope) (bare.movedScope bareScope) := by
  cases moved with
  | refused => exact mirrors
  | accepted scopes =>
      cases mirrors with
      | both clauses _ => exact .both clauses scopes

theorem ScopeUnqualifies.open_scope {scope bareScope : OrScope}
    (scopes : ScopeUnqualifies name scope bareScope) :
    Together (ScopeUnqualifies name) scope.openScope bareScope.openScope := by
  unfold OrScope.openScope
  rw [scopes.part]
  split_ifs
  · exact .refused
  · exact .accepted ⟨rfl, scopes.parts, .cons .nil scopes.frames⟩

theorem ScopeUnqualifies.begin_and_part {scope bareScope : OrScope}
    (scopes : ScopeUnqualifies name scope bareScope) :
    Together (ScopeUnqualifies name) scope.beginAndPart bareScope.beginAndPart := by
  have opened : bareScope.frames.isEmpty = scope.frames.isEmpty := by
    simpa [OrScope.isOpen] using scopes.is_open
  unfold OrScope.beginAndPart
  rw [opened, scopes.part, scopes.parts]
  split_ifs
  · exact .refused
  · exact .refused
  · exact .accepted ⟨rfl, rfl, scopes.frames⟩

theorem ScopeUnqualifies.end_and_part {scope bareScope : OrScope}
    (scopes : ScopeUnqualifies name scope bareScope) :
    Together (ScopeUnqualifies name) scope.endAndPart bareScope.endAndPart := by
  unfold OrScope.endAndPart
  rw [scopes.part]
  cases scope.andPart? with
  | none => exact .refused
  | some identity => exact .accepted ⟨rfl, scopes.parts, scopes.frames⟩

theorem Mirrors.close_scope (base : BaseName name) (mirrors : Mirrors name origin statement bare) :
    Mirrors name origin (statement.after .closeOrScope) (bare.after .closeOrScope) := by
  rw [after_close, after_close]
  cases mirrors with
  | @both conditions bares scope bareScope clauses scopes =>
      obtain ⟨frames, andPart?, _⟩ := scope
      obtain ⟨bareFrames, _, _⟩ := bareScope
      have together := scopes.frames
      have same := scopes.part
      change List.Forall₂ _ frames bareFrames at together
      dsimp only at same
      subst same
      unfold OrScope.closeScope
      dsimp only
      split_ifs
      · exact .both clauses scopes
      · cases together with
        | nil => exact .both clauses scopes
        | cons first outer =>
            obtain ⟨reflected, bareReflected, shape, bareShape, each⟩ :=
              reflected_unqualify base first
            cases outer with
            | nil =>
                dsimp only
                rw [shape, bareShape, register_all_main, register_all_main]
                exact Mirrors.place_all each (.both clauses ⟨rfl, scopes.parts, .nil⟩)
            | cons second rest =>
                have pushed := terms_push_all_unqualify each second
                rw [← shape, ← bareShape] at pushed
                exact .both clauses ⟨rfl, scopes.parts, .cons pushed rest⟩

theorem Mirrors.add_condition {aliasName : String} (base : BaseName aliasName.toList)
    {column : ColumnName} {key : Key} {holder : Holder} (quoteless : '\'' ∉ column.text.toList)
    (absent : Text.hasMark aliasName.toList column.text.toList = false)
    (harmless : Harmless aliasName.toList key holder) (option? : Option LikeOption)
    (mirrors : Mirrors aliasName.toList origin statement bare) :
    Mirrors aliasName.toList origin
      (statement.after (.addCondition (.qualified aliasName column) key holder option?))
      (bare.after (.addCondition (.unqualified column) key holder option?)) := by
  have strips : Strips aliasName.toList (ColumnRef.qualified aliasName column).text.toList
      (ColumnRef.unqualified column).text.toList := by
    have whole := strips_qualified base absent quoteless
    simpa [ColumnRef.qualified, ColumnRef.unqualified, ColumnRef.text, String.toList_append]
      using whole
  have modes : bare.conditionMode = statement.conditionMode ∧ bare.purpose = statement.purpose := by
    cases mirrors with
    | both clauses scopes =>
        simp [conditionMode, dialect, scopes.is_open, OrScope.inAndPart, scopes.part]
  have together := clauses_together base strips key statement.conditionMode harmless option?
  rw [after_condition, after_condition, modes.1, modes.2]
  generalize key.clauses statement.conditionMode _ holder option? = outcome at together ⊢
  generalize key.clauses statement.conditionMode _ holder option? = bareOutcome at together ⊢
  split_ifs
  · exact mirrors
  · cases together with
    | refused => exact mirrors
    | accepted each => exact mirrors.place_all each

/-- One operation on the qualified columns and on the bare ones. -/
theorem Mirrors.after {aliasName : String} (base : BaseName aliasName.toList)
    (mirrors : Mirrors aliasName.toList origin statement bare) {operation : Operation}
    (keyed : operation.IsKeyed aliasName) :
    Mirrors aliasName.toList origin (statement.after operation)
      (bare.after operation.unqualified) := by
  have scopes : ScopeUnqualifies aliasName.toList statement.orScope bare.orScope := by
    cases mirrors with
    | both _ scopes => exact scopes
  cases keyed with
  | condition quoteless absent harmless =>
      exact mirrors.add_condition base quoteless absent harmless _
  | openOrScope =>
      change Mirrors _ _ (statement.after .openOrScope) (bare.after .openOrScope)
      rw [after_scope_move rfl, after_scope_move rfl]
      exact mirrors.moved_scope scopes.open_scope
  | closeOrScope => exact mirrors.close_scope base
  | beginAndPart =>
      change Mirrors _ _ (statement.after .beginAndPart) (bare.after .beginAndPart)
      rw [after_scope_move rfl, after_scope_move rfl]
      exact mirrors.moved_scope scopes.begin_and_part
  | endAndPart =>
      change Mirrors _ _ (statement.after .endAndPart) (bare.after .endAndPart)
      rw [after_scope_move rfl, after_scope_move rfl]
      exact mirrors.moved_scope scopes.end_and_part

/-- A whole run on the qualified columns and on the bare ones. -/
theorem Mirrors.after_all {aliasName : String} (base : BaseName aliasName.toList)
    (mirrors : Mirrors aliasName.toList origin statement bare) {operations : List Operation}
    (keyed : ∀ operation ∈ operations, operation.IsKeyed aliasName) :
    Mirrors aliasName.toList origin (statement.afterAll operations)
      (bare.afterAll (operations.map Operation.unqualified)) := by
  induction operations generalizing statement bare with
  | nil => exact mirrors
  | cons operation rest ih =>
      have stepped := mirrors.after base (keyed operation List.mem_cons_self)
      exact ih stepped fun later member => keyed later (List.mem_cons_of_mem _ member)

theorem strip_alias_of_strips {aliasName text bare : String}
    (strips : Strips aliasName.toList text.toList bare.toList) :
    stripAlias aliasName text = bare := by
  have whole := strips none [] rfl rfl
  rw [List.append_nil, stripFrom, List.append_nil] at whole
  rw [stripAlias, String.toList_append]
  change String.ofList (stripFrom (aliasName.toList ++ ['.']) none false 0 text.toList) = bare
  rw [whole, String.ofList_toList]

theorem Mirrors.strips_where_clause (base : BaseName name)
    (mirrors : Mirrors name origin statement bare) :
    Strips name statement.whereClause.toList bare.whereClause.toList := by
  cases mirrors with
  | both clauses _ =>
      have joined := strips_joined base " and " (by decide) (by decide) (by decide) (fun _ => rfl)
        clauses
      have clause := Strips.after_quiet base " where ".toList (by decide) (fun _ => rfl) joined
      cases clauses with
      | nil => exact (verbatim_of_quiet base rfl).strips
      | cons first rest => simpa [whereClause, String.toList_append] using clause.strips

theorem Mirrors.table (mirrors : Mirrors name origin statement bare) :
    statement.table = origin.table := by
  cases mirrors with
  | both _ _ => rfl

theorem Mirrors.update_where (mirrors : Mirrors origin.baseAlias.toList origin statement bare)
    (direct : origin.needsSubQuery = false) (closed : statement.orScope.isOpen = false) :
    statement.updateWhere = .ok bare.whereClause := by
  have strips := mirrors.strips_where_clause (base_alias_name origin)
  have same : statement.baseAlias = origin.baseAlias ∧ statement.needsSubQuery = false := by
    cases mirrors with
    | both _ _ => exact ⟨rfl, direct⟩
  rw [updateWhere, closed, same.2, same.1, strip_alias_of_strips strips]
  rfl

/-- After a run of comparisons the where clause of a delete is the one of the run on bare columns,
whatever the values are. The delete is that clause as it is unless the text has marks in it. -/
theorem delete_of_keyed_run {schema : Schema} {settings : Settings}
    {resolver : FixedCondition.Resolver} {tableName : String} {purpose : Purpose} {level : Nat}
    {origin : Statement}
    (created : create schema settings resolver tableName purpose level = .ok origin)
    (operations : List Operation)
    (keyed : ∀ operation ∈ operations, operation.IsKeyed origin.baseAlias)
    (closed : (origin.afterAll operations).orScope.isOpen = false) :
    let bare := origin.afterAll (operations.map Operation.unqualified)
    let direct := "delete from " ++ origin.table.sqlName.text ++ bare.whereClause
    (origin.afterAll operations).updateWhere = .ok bare.whereClause ∧
      (origin.afterAll operations).renderDelete = SubQuery.layout direct ∧
      (Text.hasMark SubQuery.beginStem direct.toList = false →
        Text.hasMark SubQuery.endStem direct.toList = false →
        (origin.afterAll operations).renderDelete = .ok direct) := by
  intro bare direct
  have base := base_alias_name origin
  have start : Mirrors origin.baseAlias.toList origin origin origin := by
    obtain ⟨table, _, rfl⟩ := create_eq_ok created
    exact .both .nil ⟨rfl, rfl, .nil⟩
  have simple : origin.needsSubQuery = false := by
    obtain ⟨table, _, rfl⟩ := create_eq_ok created
    rfl
  have mirrors := start.after_all base keyed
  have selected := mirrors.update_where simple closed
  have rendered : (origin.afterAll operations).renderDelete = SubQuery.layout direct := by
    rw [renderDelete, selected, mirrors.table]
    rfl
  refine ⟨selected, rendered, ?_⟩
  intro noBegin noEnd
  rw [rendered]
  exact SubQuery.layout_of_no_marks noBegin noEnd

end

/-- A comparison of the name of a member with a text. -/
def nameIs (text : String) : Operation :=
  .addCondition (.qualified "dflocal" ⟨"MEMBER_NAME"⟩) .equal
    (({} : Holder).set .equal (.text text)) none

theorem name_is_keyed (text : String) : (nameIs text).IsKeyed "dflocal" := by
  refine .condition (by decide) (by decide) ⟨?_, ?_⟩
  · intro value found
    cases found
    trivial
  · intro location bound
    cases bound

/-- The alias stays where a text has it. -/
theorem delete_of_text_with_alias :
    (newMember.afterAll [.openOrScope, nameIs "dflocal.'a", nameIs "b", .closeOrScope]).renderDelete
      = .ok "delete from MEMBER where (MEMBER_NAME = 'dflocal.''a' or MEMBER_NAME = 'b')" := by
  have created : create memberSchema {} FixedCondition.resolve "MEMBER" .normalUse 0 =
      .ok newMember := rfl
  refine (delete_of_keyed_run created _ ?_ rfl).2.2 (by decide +kernel) (by decide +kernel)
  intro operation member
  simp only [List.mem_cons, List.not_mem_nil, or_false] at member
  rcases member with rfl | rfl | rfl | rfl
  · exact .openOrScope
  · exact name_is_keyed _
  · exact name_is_keyed _
  · exact .closeOrScope

theorem opening_is_plain :
    let opening := "delete from MEMBER where MEMBER_NAME = 'a".toList
    Text.hasMark SubQuery.beginStem opening = false ∧
      Text.hasMark SubQuery.endStem opening = false := by
  decide +kernel

/-- A text with marks in it, laid out as a sub-query would be. -/
def markedDelete : SubQuery.Forest :=
  .enclosed ⟨"delete from MEMBER where MEMBER_NAME = 'a", opening_is_plain.1, opening_is_plain.2⟩
    ⟨"y", by decide⟩ (.text ⟨"b", by decide, by decide⟩) (.text ⟨"c'", by decide, by decide⟩)

theorem delete_loses_marks_of_text :
    let marked := nameIs "a--#df:sqbegin#y#df:idterm#\nb--#df:sqend#y#df:idterm#c"
    let bare := newMember.afterAll [marked.unqualified]
    marked.IsKeyed newMember.baseAlias ∧
      (newMember.afterAll [marked]).renderDelete =
          .ok "delete from MEMBER where MEMBER_NAME = 'abc'" ∧
        (newMember.afterAll [marked]).renderDelete ≠
          .ok ("delete from MEMBER" ++ bare.whereClause) := by
  intro marked bare
  have kept : bare.whereClause =
      " where MEMBER_NAME = 'a--#df:sqbegin#y#df:idterm#\nb--#df:sqend#y#df:idterm#c'" := by
    decide +kernel
  have selected : (newMember.afterAll [marked]).updateWhere = .ok bare.whereClause := by
    have strips : stripAlias "dflocal" (newMember.afterAll [marked]).whereClause =
        bare.whereClause := by decide +kernel
    rw [updateWhere, ← strips]
    rfl
  have laid : (newMember.afterAll [marked]).renderDelete =
      .ok "delete from MEMBER where MEMBER_NAME = 'abc'" := by
    have text : "delete from MEMBER" ++ bare.whereClause = markedDelete.sql := by decide +kernel
    have lines : markedDelete.lay 0 0 = "delete from MEMBER where MEMBER_NAME = 'abc'".toList := by
      decide +kernel
    rw [renderDelete, selected]
    change SubQuery.layout ("delete from MEMBER" ++ bare.whereClause) = _
    rw [text, SubQuery.layout, SubQuery.layout_from_forest, lines]
    rfl
  refine ⟨name_is_keyed _, laid, ?_⟩
  rw [laid, kept]
  decide

end Statement
end SqlComposer
