import SqlComposer.Condition.Clause
import SqlComposer.OrderedMap

/-!
Or-scopes. While a scope is open, clauses become its terms instead of entries of their lists; when
it closes, the terms for each list are joined by `or` into one clause. Scopes nest, and inside a
scope the clauses of an and-part are joined by `and` into one term.
-/
namespace SqlComposer.Condition

inductive Target where
  | main
  | baseInline
  | joinInline (aliasName : String)
  | joinOn (aliasName : String)
  deriving DecidableEq

abbrev Terms : Type := OrderedMap Target (List Clause)

/-- The open scopes, the innermost first. -/
structure OrScope where
  frames : List Terms := []
  andPart? : Option Nat := none
  andParts : Nat := 0
  deriving DecidableEq

/-- Neighbouring clauses of the same and-part form one group, every other clause a group of its
own. -/
def termGroups : List Clause → List (List Clause)
  | [] => []
  | clause :: rest =>
    match termGroups rest with
    | (next :: group) :: groups =>
      if clause.andPart?.isSome ∧ clause.andPart? = next.andPart? then
        (clause :: next :: group) :: groups
      else [clause] :: (next :: group) :: groups
    | groups => [clause] :: groups

def groupText : List Clause → String
  | [clause] => clause.sql
  | clauses => "(" ++ Clause.joined " and " clauses ++ ")"

def disjunction : List String → String
  | [term] => term
  | terms => "(" ++ Text.join " or " terms ++ ")"

def flatten (clauses : List Clause) : Clause :=
  .text (disjunction ((termGroups clauses).map groupText))

def Terms.push (terms : Terms) (target : Target) (clause : Clause) : Terms :=
  OrderedMap.alter terms target [] (· ++ [clause])

def Terms.reflected (terms : Terms) : List (Target × Clause) :=
  (terms.entries.filter fun entry => !entry.2.isEmpty).map fun entry => (entry.1, flatten entry.2)

namespace OrScope

def isOpen (scope : OrScope) : Bool := !scope.frames.isEmpty

def inAndPart (scope : OrScope) : Bool := scope.andPart?.isSome

def openScope (scope : OrScope) : Except ClauseError OrScope :=
  if scope.andPart?.isSome then .error (.unsupported .orScopeInAndPart)
  else .ok { scope with frames := OrderedMap.empty :: scope.frames }

def beginAndPart (scope : OrScope) : Except ClauseError OrScope :=
  if scope.frames.isEmpty then .error (.illegalState .andPartOutsideOrScope)
  else if scope.andPart?.isSome then .error (.illegalState .andPartAlreadyOpen)
  else
    .ok { scope with andPart? := some (scope.andParts + 1), andParts := scope.andParts + 1 }

def endAndPart (scope : OrScope) : Except ClauseError OrScope :=
  match scope.andPart? with
  | some _ => .ok { scope with andPart? := none }
  | none => .error (.illegalState .noAndPart)

def term (scope : OrScope) (clause : Clause) : Clause :=
  match scope.andPart? with
  | some identity => .andPart clause identity
  | none => clause

def push (scope : OrScope) (target : Target) (clause : Clause) : Except ClauseError OrScope :=
  match scope.frames with
  | [] => .error (.illegalState .noOrScope)
  | frame :: outer =>
    .ok { scope with frames := frame.push target (scope.term clause) :: outer }

/-- Closes the innermost scope. Its clauses become terms of the scope around it; those of an
outermost scope are returned for the lists themselves. -/
def closeScope (scope : OrScope) : Except ClauseError (OrScope × List (Target × Clause)) :=
  if scope.andPart?.isSome then .error (.illegalState .andPartStillOpen)
  else
    match scope.frames with
    | [] => .error (.illegalState .noOrScope)
    | [frame] => .ok ({ scope with frames := [] }, frame.reflected)
    | frame :: outer :: rest =>
      let outer := frame.reflected.foldl (fun terms entry => terms.push entry.1 entry.2) outer
      .ok ({ scope with frames := outer :: rest }, [])

end OrScope
end SqlComposer.Condition
