import SqlComposer.Proofs.FileScopes

/-!
The statement of a query file as a whole. When it is built, no or-scope is left open, every list
holds the clauses of the file's own conditions for it, single ones before those of the or-scopes,
and every union entry has become one branch with its own conditions and no others.
-/
namespace SqlComposer

open Condition (Clause ScopeEntry Standing Target entriesFor)

namespace Statement

theorem no_joins_of_same {joins : OrderedMap String Join}
    (same : SameJoins OrderedMap.empty joins) : joins = OrderedMap.empty := by
  have keys := same.1
  rcases joins with ⟨entries⟩
  cases entries with
  | nil => rfl
  | cons entry rest => cases keys

theorem blank_of_new {schema : Schema} {settings : Settings} {resolver : FixedCondition.Resolver}
    {tableName : String} {purpose : Purpose} {level : Nat} {statement : Statement}
    (created : create schema settings resolver tableName purpose level = .ok statement) :
    statement.orScope = {} ∧ statement.joins = OrderedMap.empty ∧ statement.unions = [] ∧
      ∀ target, statement.listOf target = [] := by
  rcases create_eq_ok created with ⟨table, _, rfl⟩
  refine ⟨rfl, rfl, rfl, fun target => ?_⟩
  cases target <;> rfl

/-- A statement can be created for any purpose when it can be for one. -/
theorem create_for {schema : Schema} {settings : Settings} {resolver : FixedCondition.Resolver}
    {tableName : String} {purpose : Purpose} {level : Nat} {statement : Statement}
    (created : create schema settings resolver tableName purpose level = .ok statement)
    (other : Purpose) :
    create schema settings resolver tableName other level =
      .ok { statement with purpose := other } := by
  rcases bind_eq_ok created with ⟨name, named, created⟩
  rcases bind_eq_ok created with ⟨table, found, created⟩
  cases Except.ok.inj created
  exact bind_eq_ok_iff.mpr ⟨name, named, bind_eq_ok_iff.mpr ⟨table, found, rfl⟩⟩

end Statement

namespace QueryFile

open Statement (Continues Reaches Recorded Sound Undisturbed)

/-- A union branch of a file: a new statement with the conditions of one entry and no joins. -/
def UnionEntry.Becomes (fresh : Statement) (entry : UnionEntry) (branch : UnionBranch) : Prop :=
  ∃ each, List.Forall₂ (ConditionEntry.AskedAlone fresh OrderedMap.empty) entry.conditions each ∧
    branch = {
      text := Template.unionSelectGap ++ Statement.unionGapped { fresh with
        conditions := each.flatMap (entriesFor .main)
        baseInline := each.flatMap (entriesFor .baseInline) }
      keepsDuplicates := entry.keepsDuplicates }

/-- Conditions on a new statement fill its lists and do nothing else. -/
theorem conditions_of_new {schema : Schema} {settings : Settings}
    {resolver : FixedCondition.Resolver} {tableName : String} {purpose : Purpose} {level : Nat}
    {fresh inner : Statement}
    (created : Statement.create schema settings resolver tableName purpose level = .ok fresh)
    {conditions : List ConditionEntry}
    (ran : (conditions.forM (addCondition OrderedMap.empty) : Building PUnit) fresh =
      .ok ((), inner)) :
    ∃ each, List.Forall₂ (ConditionEntry.AskedAlone fresh OrderedMap.empty) conditions each ∧
      inner = { fresh with
        conditions := each.flatMap (entriesFor .main)
        baseInline := each.flatMap (entriesFor .baseInline) } := by
  have sound := Statement.new_sound created
  rcases Statement.blank_of_new created with ⟨noScopes, noJoins, _, noClauses⟩
  rcases conditions_asked sound ran with ⟨requests, continues, asked, _, recorded⟩
  rcases recorded.lists_of_closed (by rw [noScopes]) with ⟨orScope, lists⟩
  have known : requestsOf inner OrderedMap.empty (inner.modeWithin false false) conditions =
      .ok requests := by
    have mode : inner.conditionMode = inner.modeWithin false false := by
      unfold Statement.modeWithin Statement.conditionMode
      rw [orScope, noScopes]
      rfl
    rw [← mode]
    exact asked
  have shape : inner = { fresh with
      conditions := inner.listOf .main
      baseInline := inner.listOf .baseInline } := by
    rcases recorded.frame with ⟨_, _, joins, _, rfl, same⟩
    rw [noJoins] at same
    cases Statement.no_joins_of_same same
    simp [Statement.listOf, ← noJoins, ← orScope]
  have back : inner.Continues fresh := by
    rw [shape]
    exact ⟨sound, ⟨rfl, rfl, rfl, rfl, rfl⟩, fun _ join found => ⟨join, found, rfl⟩⟩
  rcases each_asked_alone (requests_of_all_continues back known) with ⟨each, alone, gathered⟩
  refine ⟨each, alone, ?_⟩
  rw [shape, lists, lists, noClauses, noClauses, gathered, gathered]
  rfl

/-- Branches that have been added, and nothing else. -/
structure Joined (before after : Statement) (branches : List UnionBranch) : Prop where
  continues : before.Continues after
  lists : ∀ target, after.listOf target = before.listOf target
  orScope : after.orScope = before.orScope
  unions : after.unions = before.unions ++ branches

theorem union_joined {schema : Schema} {settings : Settings} {table : String} {entry : UnionEntry}
    {before after : Statement} (sound : before.Sound)
    (ran : addUnion schema settings table entry before = .ok ((), after)) :
    ∃ fresh branch, Statement.ofTable schema settings table .unionQuery = .ok fresh ∧
      entry.Becomes fresh branch ∧ Joined before after [branch] := by
  rcases bind_lift_built.mp ran with ⟨fresh, created, ran⟩
  rcases bind_lift_built.mp ran with ⟨⟨_, inner⟩, filled, added⟩
  have new := map_error_ok_iff.mp created
  rcases conditions_of_new new filled with ⟨each, alone, rfl⟩
  have effect := @registered_effect (.addUnion _ entry.keepsDuplicates) _ _ sound added
  have continues := effect.continues sound
  refine ⟨fresh, _, new, ⟨each, alone, rfl⟩, ?_⟩
  cases effect with
  | recorded recording => cases recording
  | addUnion =>
      apply Joined.mk continues _ rfl rfl
      intro target
      cases target <;> rfl

theorem unions_joined {schema : Schema} {settings : Settings} {table : String}
    {fresh : Statement} (created : Statement.ofTable schema settings table .unionQuery = .ok fresh)
    {entries : List UnionEntry} {before after : Statement} (sound : before.Sound)
    (ran : (entries.forM (addUnion schema settings table) : Building PUnit) before =
      .ok ((), after)) :
    ∃ branches, List.Forall₂ (UnionEntry.Becomes fresh) entries branches ∧
      Joined before after branches := by
  induction entries generalizing before with
  | nil =>
      rw [for_m_nil_built.mp ran]
      exact ⟨[], .nil, sound.continues, fun _ => rfl, rfl, (List.append_nil _).symm⟩
  | cons entry rest ih =>
      rcases for_m_cons_built.mp ran with ⟨middle, first, ran⟩
      rcases union_joined sound first with ⟨same, branch, again, becomes, here⟩
      cases Except.ok.inj (again.symm.trans created)
      rcases ih here.continues.sound ran with ⟨branches, others, later⟩
      refine ⟨branch :: branches, .cons becomes others, here.continues.trans later.continues,
        fun target => (later.lists target).trans (here.lists target),
        later.orScope.trans here.orScope, ?_⟩
      rw [later.unions, here.unions, List.append_assoc]
      rfl

/-- The forest of a file, entry by entry. -/
theorem lists_of_forest {query : Query} {host : Statement} {names : JoinNames}
    {forest : List ScopeEntry} (known : query.forest host names = .ok forest) :
    ∃ singles scopes,
      List.Forall₂ (ConditionEntry.AskedAlone host names) query.conditions singles ∧
      List.Forall₂ (OrScopeEntry.AskedTogether host names) query.orScopes scopes ∧
      ∀ target, ScopeEntry.list forest target = singles.flatMap (entriesFor target) ++
        scopes.flatMap fun terms => ScopeEntry.clauses target (.scope terms) := by
  rcases bind_eq_ok known with ⟨requests, own, known⟩
  rcases bind_eq_ok known with ⟨scopes, opened, whole⟩
  rcases each_asked_alone own with ⟨singles, alone, gathered⟩
  refine ⟨singles, scopes, alone, (forall_of_map_m opened).imp fun _ _ => asked_together, ?_⟩
  intro target
  rw [pure_ok_iff.mp whole, ← gathered, ScopeEntry.list, List.map_append, List.flatten_append,
    ← ScopeEntry.list, Condition.list_of_clauses, List.map_map]
  rfl

/-- What a built statement owes to the description in its file. -/
structure Described (query : Query) (start fresh built : Statement) (names : JoinNames)
    (forest : List ScopeEntry) : Prop where
  continues : start.Continues built
  named : joinNames? built OrderedMap.empty query.joins = some names
  asked : query.forest built names = .ok forest
  follows : built.Follows ⟨forest, [], none⟩
  unions : List.Forall₂ (UnionEntry.Becomes fresh) query.unions built.unions

theorem query_described {query : Query} {schema : Schema} {settings : Settings}
    {start fresh built : Statement} (sound : start.Sound) (follows : start.Follows {})
    (noUnions : start.unions = [])
    (created : Statement.ofTable schema settings query.table .unionQuery = .ok fresh)
    (ran : addQuery schema settings query start = .ok ((), built)) :
    ∃ names forest, Described query start fresh built names forest := by
  rcases query_run ran with ⟨run⟩
  have first := each_quietly parameter_quietly _ sound run.parameters
  rcases join_entries_quietly first.sound run.joins with ⟨second, known⟩
  have third := each_quietly (column_quietly run.names) _ second.sound run.columns
  have before := (first.trans second).trans third
  rcases forest_reached third.sound (follows.of_same before.lists before.orScope) run.conditions
    run.orScopes with ⟨forest, asked, fourth⟩
  rcases unions_joined created fourth.continues.sound run.unions with ⟨branches, becomes, fifth⟩
  have after := run.arranges.undisturbed fifth.continues.sound
  have later := fifth.continues.trans after.toContinues
  have whole := third.toContinues.trans (fourth.continues.trans later)
  refine ⟨run.names, forest, (first.trans second).toContinues.trans whole,
    join_names_of_continues whole second.sound.tree known, forest_of_continues later asked, ?_, ?_⟩
  · exact (fourth.follows.of_same fifth.lists fifth.orScope).of_same after.lists after.orScope
  · rw [after.unions, fifth.unions, fourth.unions, before.unions, noUnions, List.nil_append]
    exact becomes

/-- A file that is accepted takes a new statement through all the steps of its query. -/
theorem steps_of_file {file : QueryFile} {settings : Settings} {built : Statement}
    (ran : file.statement settings = .ok built) :
    ∃ start, Statement.ofTable file.schema settings file.query.table .normalUse = .ok start ∧
      addQuery file.schema settings file.query start = .ok ((), built) := by
  unfold QueryFile.statement at ran
  dsimp only at ran
  split_ifs at ran
  · cases ran
  rcases bind_eq_ok ran with ⟨start, created, ran⟩
  rcases bind_eq_ok ran with ⟨⟨_, last⟩, described, same⟩
  obtain rfl : built = last := pure_ok_iff.mp same
  exact ⟨start, map_error_ok_iff.mp created, described⟩

/-- A statement that is built from a file is a later state of a new one and is described by it. -/
theorem file_described {file : QueryFile} {settings : Settings} {built : Statement}
    (ran : file.statement settings = .ok built) :
    ∃ start names forest,
      Statement.ofTable file.schema settings file.query.table .normalUse = .ok start ∧
        Described file.query start { start with purpose := .unionQuery } built names forest := by
  rcases steps_of_file ran with ⟨start, new, described⟩
  rcases Statement.blank_of_new new with ⟨_, _, noUnions, _⟩
  rcases query_described (Statement.new_sound new) (Statement.new_follows new) noUnions
    (Statement.create_for new .unionQuery) described with ⟨names, forest, known⟩
  exact ⟨start, names, forest, new, known⟩

/-- A statement that is built from a file has no or-scope open. Its lists hold, in file order, one
clause for each single condition that is not ignored and one for each or-scope that has such a
condition for the list, and it has one union branch for each union entry of the file. -/
theorem conditions_of_file (file : QueryFile) (settings : Settings) {built : Statement}
    (ran : file.statement settings = .ok built) :
    built.orScope.isOpen = false ∧ built.orScope.inAndPart = false ∧
      ∃ start names singles scopes,
        Statement.ofTable file.schema settings file.query.table .normalUse = .ok start ∧
        Statement.SameOrigin start built ∧
        joinNames? built OrderedMap.empty file.query.joins = some names ∧
        List.Forall₂ (ConditionEntry.AskedAlone built names) file.query.conditions singles ∧
        List.Forall₂ (OrScopeEntry.AskedTogether built names) file.query.orScopes scopes ∧
        (∀ target, built.listOf target = singles.flatMap (entriesFor target) ++
          scopes.flatMap fun terms => ScopeEntry.clauses target (.scope terms)) ∧
        List.Forall₂ (UnionEntry.Becomes { start with purpose := .unionQuery })
          file.query.unions built.unions := by
  rcases file_described ran with
    ⟨start, names, forest, new, continues, known, asked, follows, unions⟩
  rcases follows.scopes.open_iff with ⟨closed, outside⟩
  rcases lists_of_forest asked with ⟨singles, scopes, alone, together, lists⟩
  refine ⟨closed, outside, start, names, singles, scopes, new, continues.origin, known, alone,
    together, ?_, unions⟩
  intro target
  rw [follows.lists, lists]

def memberCondition (column key : String) : ConditionEntry where
  column
  key
  value? := none
  like? := none
  ignoresCase := false
  bind? := none
  inline? := none
  on? := none

/-- Members with their inviters: single conditions for three lists, one of them ignored, an or-scope
with an and-part, and a union branch. -/
def invitedFile : QueryFile where
  settings := {}
  schema := Statement.memberSchema
  query := {
    table := "MEMBER"
    select? := none
    columns := []
    parameters := []
    joins := [⟨"inviter", none, "inviter", true, false⟩]
    conditions := [
      { memberCondition "MEMBER_ID" "equal" with value? := some (.text "3") },
      memberCondition "MEMBER_ID" "greaterThan",
      { memberCondition "INVITER_ID" "isNotNull" with inline? := some "base" },
      { memberCondition "MEMBER_ID" "isNull" with on? := some "inviter" }]
    orScopes := [⟨[memberCondition "MEMBER_ID" "isNull"],
      [[memberCondition "INVITER_ID" "isNull", memberCondition "inviter.MEMBER_ID" "isNull"]]⟩]
    unions := [⟨true, [memberCondition "MEMBER_ID" "isNull"]⟩]
    orders := []
    fetch? := none
    isLocked := false
    update? := none
    isDelete := false }

def clauseTexts (built : Statement) (targets : List Target) : List (List String) :=
  targets.map fun target => (built.listOf target).map Clause.sql

theorem invited_file_built :
    ∃ built, invitedFile.statement {} = .ok built ∧ built.orScope.isOpen = false ∧
      built.unions.length = 1 ∧
      clauseTexts built [.main, .baseInline, .joinOn "dfrelation_MEMBER_0"] =
        [["dflocal.MEMBER_ID = '3'",
            "(dflocal.MEMBER_ID is null or (dflocal.INVITER_ID is null " ++
              "and dfrelation_MEMBER_0.MEMBER_ID is null))"],
          ["dfinlineloc.INVITER_ID is not null"], ["dfrelation_MEMBER_0.MEMBER_ID is null"]] ∧
      (memberCondition "MEMBER_ID" "greaterThan").Ignored := by
  have shown : ((invitedFile.statement {}).map fun built =>
        clauseTexts built [.main, .baseInline, .joinOn "dfrelation_MEMBER_0"]).toOption =
      some [["dflocal.MEMBER_ID = '3'",
          "(dflocal.MEMBER_ID is null or (dflocal.INVITER_ID is null " ++
            "and dfrelation_MEMBER_0.MEMBER_ID is null))"],
        ["dfinlineloc.INVITER_ID is not null"], ["dfrelation_MEMBER_0.MEMBER_ID is null"]] := by
    decide +kernel
  have ignored := (ignored_iff (memberCondition "MEMBER_ID" "greaterThan")).mpr
    ⟨.greaterThan, rfl, rfl, .inl rfl⟩
  cases ran : invitedFile.statement {} with
  | error problem =>
      rw [ran] at shown
      cases shown
  | ok built =>
      rw [ran] at shown
      rcases conditions_of_file invitedFile {} ran with
        ⟨closed, _, _, _, _, _, _, _, _, _, _, _, unions⟩
      exact ⟨built, rfl, closed, unions.length_eq.symm, Option.some.inj shown, ignored⟩

end QueryFile
end SqlComposer
