import SqlComposer.Proofs.FromScope
import SqlComposer.Proofs.HashFree
import SqlComposer.Proofs.Window

/-!
The query block that a lock ends. A statement is a select from its tables, around which Oracle puts
two more blocks to restrict the rows; what stands behind the statement stands behind the outermost
block and sees the aliases of that block alone.
-/
namespace SqlComposer

/-- A select from tables, or from another block under an alias, with the text behind its source. -/
inductive QueryBlock where
  | tables (select : String) (source : List FromPart) (rest : String)
  | nested (select : String) (inner : QueryBlock) (aliasName rest : String)

namespace QueryBlock

def text : QueryBlock → String
  | .tables select source rest => select ++ String.join (source.map FromPart.text) ++ rest
  | .nested select inner aliasName rest =>
      select ++ " from (" ++ inner.text ++ ") " ++ aliasName ++ rest

/-- The aliases that a block brings in. Those of the blocks inside it are not among them. -/
def aliases : QueryBlock → List String
  | .tables _ source _ => source.foldl FromPart.bind []
  | .nested _ _ aliasName _ => [aliasName]

end QueryBlock

namespace Statement

/-- The outermost block of a select without unions, up to the text of its lock. -/
def outerBlock (statement : Statement) (columns : List SelectColumn) (order lockHint : String) :
    QueryBlock :=
  let source := statement.fromParts lockHint
  if statement.dialect = .oracle ∧ statement.fetch.isEffective = true then
    let plain := QueryBlock.tables (statement.listSelect columns "") source
      (statement.whereClause ++ order)
    let stop : Int64 := statement.fetch.pageStart + statement.fetch.size
    .nested "select *" (.nested "select plain.*, rownum rn" plain "plain" "") "ext"
      s!" where ext.rn > {statement.fetch.pageStart.toInt} and ext.rn <= {stop.toInt}"
  else
    .tables (statement.listSelect columns statement.paging.hint) source
      (statement.whereClause ++ order ++ statement.paging.suffix)

theorem outer_block_text {statement : Statement} (listed : statement.selectType = .columns)
    (single : statement.hasUnion = false) (columns : List SelectColumn) (order : String)
    (lock : LockText) :
    (statement.outerBlock columns order lock.hint).text ++ lock.suffix =
      statement.assembled columns order lock statement.paging := by
  have none : statement.unions = [] := by simpa [hasUnion] using single
  have nothing : statement.unionClause (statement.listSelect columns "") = "" := by
    rw [unionClause, none]
    rfl
  rw [assembled, single, Bool.false_and, if_neg Bool.false_ne_true, nothing, from_clause_of_parts,
    outerBlock]
  split_ifs with wrapped
  · have paged := paging_of_window listed wrapped.2
    rw [wrapped.1] at paged
    rw [paged]
    have worded : ∀ text : String, toString text = text := fun _ => rfl
    rw [← String.toList_inj]
    simp [QueryBlock.text, Dialect.paging, RowWindow.stop, listSelect, String.toList_append,
      worded]
  · simp only [QueryBlock.text, String.append_empty, String.append_assoc]

theorem bound_by_joins (closing : String) (joins : List Join) (known : List String) :
    (joins.flatMap (Join.parts closing)).foldl FromPart.bind known =
      known ++ joins.map Join.foreignAlias := by
  induction joins generalizing known with
  | nil => simp
  | cons join rest ih =>
      rw [List.flatMap_cons, List.foldl_append, Join.bound_by_parts, ih, List.append_assoc]
      rfl

theorem aliases_of_from_parts (statement : Statement) (lockHint : String) :
    (statement.fromParts lockHint).foldl FromPart.bind [] =
      statement.baseAlias :: statement.joins.values.map Join.foreignAlias := by
  rw [fromParts, List.foldl_append, bound_by_joins]
  rfl

theorem base_alias_ne_outer (statement : Statement) : statement.baseAlias ≠ "ext" := by
  intro same
  obtain ⟨rest, shape⟩ := statement.base_alias_shape
  rw [same] at shape
  cases level : statement.level <;> simp [level, aliasStem] at shape

theorem outer_aliases_cases (statement : Statement) (columns : List SelectColumn)
    (order lockHint : String) :
    statement.baseAlias ∈ (statement.outerBlock columns order lockHint).aliases ↔
      ¬ (statement.dialect = .oracle ∧ statement.fetch.isEffective = true) := by
  unfold outerBlock
  split_ifs with wrapped
  · simpa [QueryBlock.aliases, wrapped] using statement.base_alias_ne_outer
  · rw [QueryBlock.aliases, aliases_of_from_parts]
    exact iff_of_true List.mem_cons_self wrapped

/-- Only the lock of Oracle names an alias, that of the base table. -/
theorem lock_alias {dialect : Dialect} {lock : LockText} {aliasName named : String}
    (accepted : dialect.lock aliasName = .ok lock)
    (names : lock.suffix = " for update of " ++ named) :
    dialect = .oracle ∧ named = aliasName := by
  have chars := congrArg String.toList names
  cases dialect with
  | oracle =>
      obtain rfl := (Except.ok.inj accepted).symm
      rw [String.toList_append, String.toList_append] at chars
      exact ⟨rfl, String.toList_inj.mp (List.append_cancel_left chars).symm⟩
  | sqlite | msAccess => cases accepted
  | _ =>
      obtain rfl := (Except.ok.inj accepted).symm
      simp [String.toList_append] at chars

/-- Without unions a select ends with its lock behind the outermost block of it, and the alias that
the lock names is one of that block exactly when no window makes Oracle wrap the select. -/
theorem lock_alias_in_scope_iff {statement : Statement} (listed : statement.selectType = .columns)
    (single : statement.hasUnion = false) {sql : String} (rendered : statement.render = .ok sql) :
    ∃ columns order lock, statement.selectColumns = .ok columns ∧
      statement.orderClause = .ok order ∧ statement.lockText = .ok lock ∧
      SubQuery.layout ((statement.outerBlock columns order lock.hint).text ++ lock.suffix) =
        .ok sql ∧
      ∀ aliasName, lock.suffix = " for update of " ++ aliasName →
        aliasName = statement.baseAlias ∧
        (aliasName ∈ (statement.outerBlock columns order lock.hint).aliases ↔
          statement.fetch.isEffective = false) := by
  obtain ⟨text, marked, laid⟩ := bind_eq_ok rendered
  obtain ⟨columns, order, lock, made, ordered, locked, windowed⟩ :=
    marked_with_window listed marked
  have whole := Except.ok.inj (marked.symm.trans (windowed statement.fetch))
  refine ⟨columns, order, lock, made, ordered, locked, ?_, fun aliasName names => ?_⟩
  · rw [outer_block_text listed single, ← laid, whole]
    rfl
  · obtain ⟨oracle, rfl⟩ : statement.dialect = .oracle ∧ aliasName = statement.baseAlias := by
      unfold lockText at locked
      split_ifs at locked
      · exact lock_alias locked names
      · obtain rfl := (Except.ok.inj locked).symm
        have chars := congrArg String.toList names
        simp [LockText.none, String.toList_append] at chars
    rw [outer_aliases_cases, Bool.eq_false_iff]
    exact ⟨rfl, not_congr ⟨fun wrapped => wrapped.2, fun effective => ⟨oracle, effective⟩⟩⟩

/-- Members to be locked, in Oracle. -/
def lockedMembers : Statement := (memberIn .oracle).after .lock

def lockedMembersText : String :=
  "select dflocal.MEMBER_ID as c1, dflocal.INVITER_ID as c2 from MEMBER dflocal " ++
    "for update of dflocal"

theorem locked_members_in_scope :
    ∃ (columns : List SelectColumn) (order : String) (lock : LockText),
      SubQuery.layout ((lockedMembers.outerBlock columns order lock.hint).text ++ lock.suffix) =
          .ok lockedMembersText ∧
        lock.suffix = " for update of dflocal" ∧
        "dflocal" ∈ (lockedMembers.outerBlock columns order lock.hint).aliases := by
  have written : lockedMembers.marked = .ok lockedMembersText := by decide +kernel
  obtain ⟨columns, order, lock, _, _, locked, laid, scope⟩ :=
    lock_alias_in_scope_iff rfl rfl (render_of_hashless written
      (HashFree.append (hash_free_of_chars (by decide)) (hash_free_of_chars (by decide))))
  obtain rfl := Except.ok.inj (locked.symm.trans
    (show lockedMembers.lockText = .ok ⟨"", " for update of dflocal"⟩ from rfl))
  exact ⟨columns, order, _, laid, rfl, (scope "dflocal" rfl).2.mpr rfl⟩

/-- The first of the members to be locked. -/
def lockedFirst : Statement := lockedMembers.after (.fetchFirst 1)

def lockedFirstColumns : List SelectColumn :=
  [⟨"dflocal.MEMBER_ID", "dflocal.MEMBER_ID", "c1"⟩,
    ⟨"dflocal.INVITER_ID", "dflocal.INVITER_ID", "c2"⟩]

def lockedFirstText : String :=
  "select * from (select plain.*, rownum rn from (select dflocal.MEMBER_ID as c1, " ++
    "dflocal.INVITER_ID as c2 from MEMBER dflocal) plain) ext where ext.rn > 0 and ext.rn <= 1 " ++
    "for update of dflocal"

/-- The lock of a restricted select names an alias that only the innermost of its blocks brings
in. -/
theorem lock_names_inner_alias :
    lockedFirst.selectColumns = .ok lockedFirstColumns ∧
      lockedFirst.lockText = .ok ⟨"", " for update of dflocal"⟩ ∧
      lockedFirst.render = .ok lockedFirstText ∧
      (lockedFirst.outerBlock lockedFirstColumns "" "").text ++ " for update of dflocal" =
        lockedFirstText ∧
      (lockedFirst.outerBlock lockedFirstColumns "" "").aliases = ["ext"] := by
  have written : lockedFirst.marked = .ok lockedFirstText := by decide +kernel
  have hashless : HashFree lockedFirstText :=
    ((hash_free_of_chars (by decide)).append (hash_free_of_chars (by decide))).append
      (hash_free_of_chars (by decide))
  have rendered := render_of_hashless written hashless
  exact ⟨rfl, rfl, rendered, by decide +kernel, rfl⟩

end Statement
end SqlComposer
