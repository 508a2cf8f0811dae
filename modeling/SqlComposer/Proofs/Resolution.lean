import SqlComposer.Proofs.Composition
import SqlComposer.Proofs.DirectForm
import SqlComposer.Proofs.Token

/-!
Which table a column belongs to, in a statement and in the delete of its rows. Columns are looked up
from the innermost select outwards. The delete writes the columns of the base table bare, also in
the selects that its conditions embed, so a table of such a select takes a column over whenever it
has one of the same name.
-/
namespace SqlComposer

/-- Whether a table has a column, by the names that are written in statements. -/
def Schema.hasColumn (schema : Schema) (table column : String) : Bool :=
  schema.tables.values.any fun declared =>
    Text.sameIgnoringCase declared.sqlName.text table &&
      declared.columns.any fun each => Text.sameIgnoringCase each.sqlName.text column

namespace Statement

/-- A table of a from clause and the name by which its columns are qualified. -/
structure Source where
  table : String
  exposed : String

/-- Where a column is taken from: how deep the select is embedded, the position in its from clause,
and the table there. -/
structure Place where
  depth : Nat
  position : Nat
  table : String
  deriving DecidableEq

/-- A qualified column is looked for under the qualifier, a bare one in the tables that have it. -/
def Source.answers (schema : Schema) (qualifier? : Option String) (column : String)
    (source : Source) : Bool :=
  match qualifier? with
  | some qualifier => source.exposed == qualifier
  | none => schema.hasColumn source.table column

/-- The only candidate. Several of them are an ambiguity, which is refused. -/
def onlyPlace (schema : Schema) (column : String) (depth : Nat) :
    List (Source × Nat) → Option Place
  | [(source, position)] =>
    if schema.hasColumn source.table column then some ⟨depth, position, source.table⟩ else none
  | _ => none

def candidates (schema : Schema) (qualifier? : Option String) (column : String)
    (sources : List Source) : List (Source × Nat) :=
  sources.zipIdx.filter fun (source, _) => source.answers schema qualifier? column

/-- Looks a column up in the from clauses around it, the innermost of which stands first. The search
ends at the first one that answers. -/
def resolve (schema : Schema) (qualifier? : Option String) (column : String) :
    List (List Source) → Option Place
  | [] => none
  | sources :: outer =>
    let found := candidates schema qualifier? column sources
    if found.isEmpty then resolve schema qualifier? column outer
    else onlyPlace schema column outer.length found

/-- A text with what is known of its parts: the columns and the tables it refers to, and the selects
embedded in it. -/
inductive Reading where
  | nil
  | other (token : Token) (rest : Reading)
  | column (qualifier? : Option String) (name : String) (rest : Reading)
  /-- A table of a from clause, with its alias and what stands before that. -/
  | source (table : String) (renamed? : Option (List Token × String)) (rest : Reading)
  | select (body rest : Reading)

namespace Reading

def tokens : Reading → List Token
  | nil => []
  | other token rest => token :: rest.tokens
  | column none name rest => lex name.toList ++ rest.tokens
  | column (some qualifier) name rest =>
    lex qualifier.toList ++ .symbol '.' :: (lex name.toList ++ rest.tokens)
  | source table none rest => lex table.toList ++ rest.tokens
  | source table (some (between, aliasName)) rest =>
    lex table.toList ++ (between ++ (lex aliasName.toList ++ rest.tokens))
  | select body rest => body.tokens ++ rest.tokens

/-- The tables of a select, without those of the selects embedded in it. -/
def sources : Reading → List Source
  | nil => []
  | other _ rest | column _ _ rest | select _ rest => rest.sources
  | source table renamed? rest => ⟨table, (renamed?.map Prod.snd).getD table⟩ :: rest.sources

/-- Where the columns of a text are taken from, one after another. -/
def places (schema : Schema) : Reading → List (List Source) → List (Option Place)
  | nil, _ => []
  | other _ rest, scopes | source _ _ rest, scopes => rest.places schema scopes
  | column qualifier? name rest, scopes =>
    resolve schema qualifier? name scopes :: rest.places schema scopes
  | select body rest, scopes =>
    body.places schema (body.sources :: scopes) ++ rest.places schema scopes

def unqualified (aliasName : String) : Reading → Reading
  | nil => nil
  | other token rest => other token (rest.unqualified aliasName)
  | column qualifier? name rest =>
    column (if qualifier? = some aliasName then none else qualifier?) name
      (rest.unqualified aliasName)
  | source table renamed? rest => source table renamed? (rest.unqualified aliasName)
  | select body rest => select (body.unqualified aliasName) (rest.unqualified aliasName)

end Reading

def lacks (name : List Char) (tokens : List Token) : Bool := !tokens.contains (.word name)

/-- Whether a name has no other use in a text than to qualify columns. -/
def Reading.reserves (aliasName : String) : Reading → Bool
  | nil => true
  | other token rest => lacks aliasName.toList [token] && rest.reserves aliasName
  | column qualifier? name rest =>
    (qualifier? == some aliasName ||
        qualifier?.all fun qualifier => lacks aliasName.toList (lex qualifier.toList)) &&
      lacks aliasName.toList (lex name.toList) && rest.reserves aliasName
  | source table renamed? rest =>
    lacks aliasName.toList (lex table.toList) &&
      (renamed?.all fun (between, exposed) =>
        lacks aliasName.toList between && lacks aliasName.toList (lex exposed.toList)) &&
      rest.reserves aliasName
  | select body rest => body.reserves aliasName && rest.reserves aliasName

/-- Whether one of the given tables has a column. -/
def isHidden (schema : Schema) (column : String) (scopes : List (List Source)) : Bool :=
  scopes.any fun sources => sources.any fun source => schema.hasColumn source.table column

/-- Whether no column with the alias has a namesake in the selects that it is embedded in. -/
def Reading.isClear (schema : Schema) (aliasName : String) : Reading → List (List Source) → Bool
  | nil, _ => true
  | other _ rest, inner | source _ _ rest, inner => rest.isClear schema aliasName inner
  | column qualifier? name rest, inner =>
    !(qualifier? == some aliasName && isHidden schema name inner) &&
      rest.isClear schema aliasName inner
  | select body rest, inner =>
    body.isClear schema aliasName (body.sources :: inner) && rest.isClear schema aliasName inner

theorem drop_of_lacks {name : List Char} {tokens : List Token}
    (absent : lacks name tokens = true) (rest : List Token) :
    dropQualifiers name (tokens ++ rest) = tokens ++ dropQualifiers name rest := by
  induction tokens with
  | nil => rfl
  | cons token tokens ih =>
      have parts : ¬ Token.word name = token ∧ lacks name tokens = true := by
        simpa [lacks] using absent
      rw [List.cons_append, drop_other (Ne.symm parts.1), ih parts.2]
      rfl

theorem lex_base {name : List Char} (base : BaseName name) : lex name = [.word name] := by
  obtain ⟨word, rest, start⟩ := base
  cases name with
  | nil => rcases start with shape | shape <;> cases shape
  | cons c name =>
      have whole : lex (c :: name ++ []) = .word (c :: name) :: lex [] := lex_word word rfl
      rwa [List.append_nil] at whole

section

variable {aliasName : String} (base : BaseName aliasName.toList)

include base

theorem drop_base_qualifier (rest : List Token) :
    dropQualifiers aliasName.toList (lex aliasName.toList ++ .symbol '.' :: rest) =
      dropQualifiers aliasName.toList rest := by
  rw [lex_base base, List.singleton_append, dropQualifiers, if_pos ⟨rfl, rfl⟩]

/-- Taking the alias away from the tokens of a text gives the text with bare columns. -/
theorem drop_of_reading {reading : Reading} (reserved : reading.reserves aliasName = true)
    (rest : List Token) :
    dropQualifiers aliasName.toList (reading.tokens ++ rest) =
      (reading.unqualified aliasName).tokens ++ dropQualifiers aliasName.toList rest := by
  induction reading generalizing rest with
  | nil => rfl
  | other token later ih =>
      simp only [Reading.reserves, Bool.and_eq_true] at reserved
      have kept := drop_of_lacks reserved.1 (later.tokens ++ rest)
      rw [ih reserved.2] at kept
      exact kept
  | column qualifier? name later ih =>
      simp only [Reading.reserves, Bool.and_eq_true, Bool.or_eq_true, beq_iff_eq] at reserved
      obtain ⟨⟨qualified, named⟩, reservedLater⟩ := reserved
      have kept := drop_of_lacks named (later.tokens ++ rest)
      rw [ih reservedLater] at kept
      cases qualifier? with
      | none => simpa [Reading.tokens, Reading.unqualified] using kept
      | some qualifier =>
          by_cases same : qualifier = aliasName
          · subst same
            simpa [Reading.tokens, Reading.unqualified, drop_base_qualifier base] using kept
          · have other : lacks aliasName.toList (lex qualifier.toList) = true := by
              simpa [same] using qualified
            have point : Token.symbol '.' ≠ .word aliasName.toList := by simp
            simp [Reading.tokens, Reading.unqualified, same, drop_of_lacks other,
              drop_other point, kept]
  | source table renamed? later ih =>
      simp only [Reading.reserves, Bool.and_eq_true] at reserved
      obtain ⟨⟨table, renamed⟩, reservedLater⟩ := reserved
      cases renamed? with
      | none => simp [Reading.tokens, Reading.unqualified, drop_of_lacks table, ih reservedLater]
      | some pair =>
          obtain ⟨between, exposed⟩ := pair
          simp only [Option.all_some, Bool.and_eq_true] at renamed
          simp [Reading.tokens, Reading.unqualified, drop_of_lacks table, drop_of_lacks renamed.1,
            drop_of_lacks renamed.2, ih reservedLater]
  | select body later ihBody ihLater =>
      simp only [Reading.reserves, Bool.and_eq_true] at reserved
      simp [Reading.tokens, Reading.unqualified, ihBody reserved.1, ihLater reserved.2]

theorem ne_of_lacks {name : String}
    (absent : lacks aliasName.toList (lex name.toList) = true) : name ≠ aliasName := by
  rintro rfl
  simp [lacks, lex_base base] at absent

theorem sources_of_reserves {reading : Reading} (reserved : reading.reserves aliasName = true) :
    ∀ source ∈ reading.sources, source.exposed ≠ aliasName := by
  induction reading with
  | nil => simp [Reading.sources]
  | other _ later ih | column _ _ later ih =>
      simp only [Reading.reserves, Bool.and_eq_true] at reserved
      exact ih reserved.2
  | source table renamed? later ih =>
      simp only [Reading.reserves, Bool.and_eq_true] at reserved
      obtain ⟨⟨tableName, renamed⟩, reservedLater⟩ := reserved
      have here : (renamed?.map Prod.snd).getD table ≠ aliasName := by
        cases renamed? with
        | none => exact ne_of_lacks base tableName
        | some pair =>
            simp only [Option.all_some, Bool.and_eq_true] at renamed
            exact ne_of_lacks base renamed.2
      intro source member
      rcases List.mem_cons.mp member with rfl | laterMember
      · exact here
      · exact ih reservedLater source laterMember
  | select _ later _ ih =>
      simp only [Reading.reserves, Bool.and_eq_true] at reserved
      exact ih reserved.2

end

section

variable {schema : Schema} {column : String}

theorem candidates_empty_iff (qualifier? : Option String) (sources : List Source) :
    (candidates schema qualifier? column sources).isEmpty = true ↔
      ∀ source ∈ sources, source.answers schema qualifier? column = false := by
  rw [List.isEmpty_iff, candidates, List.filter_eq_nil_iff]
  constructor
  · intro silent source member
    obtain ⟨position, inside, rfl⟩ := List.mem_iff_getElem.mp member
    have placed : (sources[position], position) ∈ sources.zipIdx :=
      List.mem_zipIdx_iff_getElem?.mpr (List.getElem?_eq_getElem inside)
    simpa using silent (sources[position], position) placed
  · intro silent placed member
    simpa using silent placed.1 (List.fst_mem_of_mem_zipIdx member)

theorem resolve_outside {qualifier? : Option String} {sources : List Source}
    (silent : ∀ source ∈ sources, source.answers schema qualifier? column = false)
    (outer : List (List Source)) :
    resolve schema qualifier? column (sources :: outer) =
      resolve schema qualifier? column outer := by
  rw [resolve]
  exact if_pos ((candidates_empty_iff qualifier? sources).mpr silent)

theorem resolve_here {qualifier? : Option String} {sources : List Source}
    (found : ¬ ∀ source ∈ sources, source.answers schema qualifier? column = false)
    (outer : List (List Source)) :
    resolve schema qualifier? column (sources :: outer) =
      onlyPlace schema column outer.length (candidates schema qualifier? column sources) := by
  rw [resolve]
  exact if_neg fun empty => found ((candidates_empty_iff qualifier? sources).mp empty)

theorem depth_of_only_place {depth : Nat} {found : List (Source × Nat)} {place : Place}
    (only : onlyPlace schema column depth found = some place) : place.depth = depth := by
  unfold onlyPlace at only
  split at only
  · split_ifs at only
    cases only
    rfl
  · cases only

/-- A name to which only the outermost select answers. -/
theorem resolve_outermost {qualifier? : Option String} {inner : List (List Source)}
    (silent : ∀ sources ∈ inner, ∀ source ∈ sources,
      source.answers schema qualifier? column = false)
    {base : Source} (answers : base.answers schema qualifier? column = true) :
    resolve schema qualifier? column (inner ++ [[base]]) =
      if schema.hasColumn base.table column then some ⟨0, 0, base.table⟩ else none := by
  induction inner with
  | nil =>
      have found : ¬ ∀ source ∈ [base], source.answers schema qualifier? column = false := by
        simp [answers]
      rw [List.nil_append, resolve_here found]
      simp [candidates, answers, onlyPlace]
  | cons sources inner ih =>
      rw [List.cons_append, resolve_outside (silent sources List.mem_cons_self)]
      exact ih fun later member => silent later (List.mem_cons_of_mem _ member)

/-- What is found in an embedded select is not found outside of it. -/
theorem depth_of_hidden {inner : List (List Source)} (hidden : isHidden schema column inner = true)
    {outer : List (List Source)} {place : Place}
    (found : resolve schema none column (inner ++ outer) = some place) :
    outer.length ≤ place.depth := by
  induction inner with
  | nil => cases hidden
  | cons sources inner ih =>
      rw [List.cons_append] at found
      by_cases silent : ∀ source ∈ sources, source.answers schema none column = false
      · have absent : (sources.any fun source => schema.hasColumn source.table column) = false :=
          List.any_eq_false.mpr fun source member => Bool.not_eq_true _ ▸ silent source member
        rw [isHidden, List.any_cons, absent] at hidden
        rw [resolve_outside silent] at found
        exact ih hidden found
      · rw [resolve_here silent] at found
        rw [depth_of_only_place found, List.length_append]
        omega

/-- A column that is found without the name of the base table is found whatever that name is. -/
theorem resolve_renamed {qualifier? : Option String} {table aliasName : String}
    (other : qualifier? ≠ some aliasName) (exposed : String) {inner : List (List Source)}
    (found : (resolve schema qualifier? column (inner ++ [[⟨table, aliasName⟩]])).isSome = true) :
    resolve schema qualifier? column (inner ++ [[⟨table, exposed⟩]]) =
      resolve schema qualifier? column (inner ++ [[⟨table, aliasName⟩]]) := by
  induction inner with
  | nil =>
      cases qualifier? with
      | none =>
          by_cases has : schema.hasColumn table column = true <;>
            simp [resolve, candidates, Source.answers, onlyPlace, has]
      | some qualifier =>
          have different : aliasName ≠ qualifier := fun same => other (by rw [same])
          simp [resolve, candidates, Source.answers, different] at found
  | cons sources inner ih =>
      rw [List.cons_append] at found ⊢
      by_cases silent : ∀ source ∈ sources, source.answers schema qualifier? column = false
      · rw [resolve_outside silent] at found
        rw [resolve_outside silent, ih found, List.cons_append, resolve_outside silent]
      · rw [resolve_here silent, List.cons_append, resolve_here silent, List.length_append,
          List.length_append]
        rfl

end

theorem sources_of_unqualified (aliasName : String) (reading : Reading) :
    (reading.unqualified aliasName).sources = reading.sources := by
  induction reading with
  | nil => rfl
  | other _ _ ih | column _ _ _ ih | select _ _ _ ih => exact ih
  | source table renamed? later ih => rw [Reading.unqualified, Reading.sources, ih, Reading.sources]

theorem length_of_unqualified (schema : Schema) (aliasName : String) (reading : Reading)
    (bareScopes scopes : List (List Source)) :
    ((reading.unqualified aliasName).places schema bareScopes).length =
      (reading.places schema scopes).length := by
  induction reading generalizing bareScopes scopes with
  | nil => rfl
  | other _ later ih | source _ _ later ih => exact ih bareScopes scopes
  | column _ _ later ih => exact congrArg Nat.succ (ih bareScopes scopes)
  | select body later ihBody ihLater =>
      rw [Reading.unqualified, Reading.places, Reading.places, List.length_append,
        List.length_append, ihBody, ihLater]

/-- A column of the base table is found again without its qualifier unless it is hidden. -/
theorem resolve_bare_iff {schema : Schema} {column table aliasName : String} (exposed : String)
    {inner : List (List Source)} (free : ∀ sources ∈ inner, ∀ source ∈ sources,
      source.exposed ≠ aliasName)
    (found : (resolve schema (some aliasName) column
      (inner ++ [[⟨table, aliasName⟩]])).isSome = true) :
    resolve schema none column (inner ++ [[⟨table, exposed⟩]]) =
        resolve schema (some aliasName) column (inner ++ [[⟨table, aliasName⟩]]) ↔
      isHidden schema column inner = false := by
  have qualified : resolve schema (some aliasName) column (inner ++ [[⟨table, aliasName⟩]]) =
      if schema.hasColumn table column then some ⟨0, 0, table⟩ else none := by
    refine resolve_outermost (fun sources outer source member => ?_) (beq_self_eq_true _)
    exact beq_false_of_ne (free sources outer source member)
  rw [qualified] at found ⊢
  have has : schema.hasColumn table column = true := by
    by_contra missing
    rw [if_neg missing] at found
    cases found
  rw [if_pos has]
  cases hidden : isHidden schema column inner with
  | true =>
      refine iff_of_false (fun same => ?_) Bool.noConfusion
      have deep := depth_of_hidden hidden same
      simp at deep
  | false =>
      refine iff_of_true ?_ rfl
      have silent : ∀ sources ∈ inner, ∀ source ∈ sources,
          source.answers schema none column = false := by
        intro sources outer source member
        rw [isHidden, List.any_eq_false] at hidden
        have level := hidden sources outer
        rw [Bool.not_eq_true, List.any_eq_false] at level
        exact Bool.not_eq_true _ ▸ level source member
      have answers : (Source.mk table exposed).answers schema none column = true := has
      rw [resolve_outermost silent answers, if_pos has]

/-- The columns of a text are taken from the same tables without an alias as with it exactly when
none of them has a namesake in the selects around it. -/
theorem places_unqualified_iff {schema : Schema} {table aliasName : String}
    (base : BaseName aliasName.toList) (exposed : String) {reading : Reading}
    (reserved : reading.reserves aliasName = true) {inner : List (List Source)}
    (free : ∀ sources ∈ inner, ∀ source ∈ sources, source.exposed ≠ aliasName)
    (found : ∀ place? ∈ reading.places schema (inner ++ [[⟨table, aliasName⟩]]),
      place?.isSome = true) :
    (reading.unqualified aliasName).places schema (inner ++ [[⟨table, exposed⟩]]) =
        reading.places schema (inner ++ [[⟨table, aliasName⟩]]) ↔
      reading.isClear schema aliasName inner = true := by
  -- Entering a select puts its tables before those of `inner`; the base table stays outermost.
  induction reading generalizing inner with
  | nil => exact iff_of_true rfl rfl
  | other _ later ih | source _ _ later ih =>
      simp only [Reading.reserves, Bool.and_eq_true] at reserved
      exact ih reserved.2 free found
  | column qualifier? name later ih =>
      simp only [Reading.reserves, Bool.and_eq_true] at reserved
      rw [Reading.places, List.forall_mem_cons] at found
      rw [Reading.unqualified, Reading.places, Reading.places, Reading.isClear, List.cons.injEq,
        Bool.and_eq_true, ih reserved.2 free found.2]
      refine and_congr_left fun _ => ?_
      by_cases same : qualifier? = some aliasName
      · subst same
        simp [resolve_bare_iff exposed free found.1]
      · rw [if_neg same, resolve_renamed same exposed found.1]
        simp [same]
  | select body later ihBody ihLater =>
      simp only [Reading.reserves, Bool.and_eq_true] at reserved
      rw [Reading.places, List.forall_mem_append] at found
      have freeInside : ∀ sources ∈ body.sources :: inner, ∀ source ∈ sources,
          source.exposed ≠ aliasName :=
        List.forall_mem_cons.mpr ⟨sources_of_reserves base reserved.1, free⟩
      have inside := ihBody reserved.1 freeInside found.1
      rw [Reading.unqualified, Reading.places, Reading.places, Reading.isClear, Bool.and_eq_true,
        sources_of_unqualified, ← inside, ← ihLater reserved.2 free found.2]
      constructor
      · intro same
        -- As many columns are looked up with the alias as without it, so the halves match.
        exact List.append_inj same (length_of_unqualified ..)
      · rintro ⟨sameBody, sameLater⟩
        exact congrArg₂ _ sameBody sameLater

def selectScopes (statement : Statement) : List (List Source) :=
  [[⟨statement.table.sqlName.text, statement.baseAlias⟩]]

/-- The table of a delete or an update, which goes by its own name. -/
def updateScopes (statement : Statement) : List (List Source) :=
  [[⟨statement.table.sqlName.text, statement.table.sqlName.text⟩]]

theorem from_of_direct {statement : Statement} (direct : statement.needsSubQuery = false)
    (hint : String) : statement.fromClause hint =
      " from " ++ statement.table.sqlName.text ++ " " ++ statement.baseAlias ++ hint := by
  have parts : (statement.joins.isEmpty = true ∧ statement.hasUnion = false) ∧
      statement.baseInline.isEmpty = true := by
    simpa [needsSubQuery, hasJoin] using direct
  have unjoined : statement.joins.entries = [] := List.isEmpty_iff.mp parts.1.1
  have base : tableReference statement.table.sqlName statement.baseAlias statement.baseInline =
      statement.table.sqlName.text ++ " " ++ statement.baseAlias := if_pos parts.2
  rw [← String.toList_inj]
  simp [fromClause, OrderedMap.size, OrderedMap.values, unjoined, base, fromHint,
    String.toList_append]

/-- The where clause as it is written behind the from clause of a statement. -/
theorem marked_of_direct {statement : Statement} (direct : statement.needsSubQuery = false)
    {sql : String} (written : statement.marked = .ok sql) :
    ∃ select hint behind, sql = select ++ (" from " ++ statement.table.sqlName.text ++ " " ++
      statement.baseAlias ++ hint ++ statement.whereClause) ++ behind := by
  have single : statement.hasUnion = false := by
    have parts : (statement.hasJoin = false ∧ statement.hasUnion = false) ∧
        statement.baseInline.isEmpty = true := by
      simpa [needsSubQuery] using direct
    exact parts.1.2
  obtain ⟨columns, plain, order, lock, composed⟩ := composed_of_marked written
  have direct := from_of_direct direct lock.hint
  let behind := statement.unionClause plain ++ order ++ (statement.paging.suffix ++ lock.suffix)
  cases composed.shape with
  | single _ _ =>
      refine ⟨plain, lock.hint, behind, ?_⟩
      simp only [behind, body, direct, String.append_assoc]
  | list _ _ =>
      refine ⟨statement.listSelect columns statement.selectHint, lock.hint, behind, ?_⟩
      simp only [behind, body, direct, String.append_assoc]
  | aggregate union _ _ =>
      rw [single] at union
      cases union
  | enclosed _ encloses =>
      rw [single] at encloses
      cases encloses

/-- The conditions of a direct delete or update take every column from the table that the statement
takes it from exactly when no column of the base table has a namesake in the selects around it. The
conditions stand behind the from clause of the one, and behind the table name of the other. -/
theorem direct_places_kept_iff {statement : Statement} (closed : statement.orScope.isOpen = false)
    (direct : statement.needsSubQuery = false) {reading : Reading}
    (reads : reading.tokens = lex statement.whereClause.toList)
    (reserved : reading.reserves statement.baseAlias = true)
    (found : ∀ place? ∈ reading.places statement.schema statement.selectScopes,
      place?.isSome = true) :
    let bare := reading.unqualified statement.baseAlias
    let table := statement.table.sqlName.text
    (∀ sql, statement.marked = .ok sql → ∃ select hint behind, sql =
        select ++ (" from " ++ table ++ " " ++ statement.baseAlias ++ hint ++
          statement.whereClause) ++ behind) ∧
      ∃ text : String, bare.tokens = lex text.toList ∧
        statement.renderDelete = SubQuery.layout ("delete from " ++ table ++ text) ∧
        (∀ columns assignments, columns.isEmpty = false →
          statement.assignments columns.entries = .ok assignments →
            statement.renderUpdate columns = SubQuery.layout
              ("update " ++ table ++ " set " ++ Text.join ", " assignments ++ text)) ∧
        (bare.places statement.schema statement.updateScopes =
            reading.places statement.schema statement.selectScopes ↔
          reading.isClear statement.schema statement.baseAlias [] = true) := by
  intro bare table
  have base := base_alias_name statement
  let text := stripAlias statement.baseAlias statement.whereClause
  have selected : statement.updateWhere = .ok text := by
    rw [updateWhere, closed, direct]
    rfl
  have stripped : bare.tokens = lex text.toList := by
    have dropped := drop_of_reading base reserved []
    rw [List.append_nil] at dropped
    rw [lex_strip_alias base, ← reads, dropped]
    exact (List.append_nil _).symm
  refine ⟨fun sql written => marked_of_direct direct written, text, stripped, ?_, ?_, ?_⟩
  · rw [renderDelete, selected]
    rfl
  · intro columns assignments filled assigned
    rw [renderUpdate, filled, assigned, selected]
    rfl
  · have outermost : ∀ sources ∈ ([] : List (List Source)), ∀ source ∈ sources,
        source.exposed ≠ statement.baseAlias := by simp
    exact places_unqualified_iff base table reserved outermost found

/-- A stretch of text without columns and tables. -/
def Reading.plain (text : String) (rest : Reading) : Reading :=
  (lex text.toList).foldr Reading.other rest

def purchaseTable : Table where
  name := "PURCHASE"
  sqlName := ⟨"PURCHASE"⟩
  columns := [⟨"PURCHASE_ID", ⟨"PURCHASE_ID"⟩, true⟩, ⟨"MEMBER_ID", ⟨"MEMBER_ID"⟩, false⟩]

def purchaseSchema : Schema :=
  { memberSchema with tables := ⟨[("MEMBER", memberTable), ("PURCHASE", purchaseTable)]⟩ }

def hasPurchaseBy (column : String) : String :=
  "exists (select sub1loc.PURCHASE_ID from PURCHASE sub1loc where sub1loc.MEMBER_ID = dflocal." ++
    column ++ ")"

/-- The members with a purchase by the member that a column names. -/
def purchasesBy (column : String) : Statement :=
  { newMember with schema := purchaseSchema }.after (.addConditionText (hasPurchaseBy column))

theorem purchases_by_eq (column : String) : purchasesBy column =
    { newMember with schema := purchaseSchema, conditions := [.text (hasPurchaseBy column)] } := by
  have worded : ∀ text, Text.isBlank (text ++ ")") = false := by
    intro text
    rw [Text.isBlank, List.all_eq_false, String.toList_append]
    exact ⟨')', List.mem_append_right _ (by decide), by decide⟩
  exact after_condition_text (worded _) rfl

def readPurchasesBy (column : String) : Reading :=
  .plain " where exists (" <|
    .select
      (.plain "select " <| .column (some "sub1loc") "PURCHASE_ID" <|
        .plain " from " <| .source "PURCHASE" (some ([.symbol ' '], "sub1loc")) <|
        .plain " where " <| .column (some "sub1loc") "MEMBER_ID" <|
        .plain " = " <| .column (some "dflocal") column .nil) <|
    .plain ")" .nil

theorem inviter_kept_in_purchases :
    let statement := purchasesBy "INVITER_ID"
    let reading := readPurchasesBy "INVITER_ID"
    (reading.unqualified "dflocal").places statement.schema statement.updateScopes =
      reading.places statement.schema statement.selectScopes := by
  rw [purchases_by_eq]
  intro statement reading
  have reads : reading.tokens = lex statement.whereClause.toList := by decide +kernel
  have reserved : reading.reserves statement.baseAlias = true := by decide +kernel
  have found : ∀ place? ∈ reading.places statement.schema statement.selectScopes,
      place?.isSome = true := by decide +kernel
  obtain ⟨_, _, _, _, _, same⟩ := direct_places_kept_iff rfl rfl reads reserved found
  exact same.mpr (by decide +kernel)

/-- The member that a purchase is compared with becomes the member of the purchase itself. -/
theorem member_captured_in_purchases :
    let statement := purchasesBy "MEMBER_ID"
    let reading := readPurchasesBy "MEMBER_ID"
    let bare := reading.unqualified "dflocal"
    let captured := " where exists (select sub1loc.PURCHASE_ID from PURCHASE sub1loc " ++
      "where sub1loc.MEMBER_ID = MEMBER_ID)"
    ofTable purchaseSchema {} "MEMBER" .normalUse =
        .ok { newMember with schema := purchaseSchema } ∧
      reading.tokens = lex statement.whereClause.toList ∧
      reading.places statement.schema statement.selectScopes =
        [some ⟨1, 0, "PURCHASE"⟩, some ⟨1, 0, "PURCHASE"⟩, some ⟨0, 0, "MEMBER"⟩] ∧
      statement.renderDelete = .ok ("delete from MEMBER" ++ captured) ∧
      bare.tokens = lex captured.toList ∧
      bare.places statement.schema statement.updateScopes =
        [some ⟨1, 0, "PURCHASE"⟩, some ⟨1, 0, "PURCHASE"⟩, some ⟨1, 0, "PURCHASE"⟩] := by
  rw [purchases_by_eq]
  intro statement reading bare captured
  have stripped : stripAlias "dflocal" statement.whereClause = captured := by decide +kernel
  have selected : statement.updateWhere = .ok captured := by
    rw [updateWhere, ← stripped]
    rfl
  refine ⟨rfl, by decide +kernel, by decide +kernel, ?_, by decide +kernel, by decide +kernel⟩
  rw [renderDelete, selected]
  exact SubQuery.layout_of_no_marks (by decide +kernel) (by decide +kernel)

end Statement
end SqlComposer
