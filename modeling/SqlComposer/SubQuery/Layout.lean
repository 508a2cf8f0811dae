import SqlComposer.Error
import SqlComposer.SubQuery.Marks

/-!
The layout of statements with sub-queries in them. The marks go away, and every line of a marked
sub-query but its first moves right to the column at which the begin mark stood. Marked sub-queries
nest to any depth.
-/
namespace SqlComposer.SubQuery

/-- The column at which a text ends that starts at `column`. -/
def columnAfter (column : Nat) (chars : List Char) : Nat :=
  chars.foldl (fun column c => if c = '\n' then 0 else column + 1) column

/-- A text with every line but the first moved right by `column` spaces. -/
def indentLines (column : Nat) (chars : List Char) : List Char :=
  chars.flatMap fun c => if c = '\n' then '\n' :: List.replicate column ' ' else [c]

def dropLineBreak : List Char → List Char
  | '\n' :: chars => chars
  | chars => chars

def withoutEnd (chars : List Char) : Except ClauseError (List Char) :=
  if Text.hasMark endStem chars then .error (.illegalState .endWithoutBegin) else .ok chars

theorem length_dropLineBreak (chars : List Char) :
    (dropLineBreak chars).length ≤ chars.length := by
  unfold dropLineBreak; split <;> simp

def layoutFrom (column : Nat) (chars : List Char) : Except ClauseError (List Char) :=
  match _begun : Text.cutAt? beginStem chars with
  | none => withoutEnd chars
  | some (before, marked) =>
    match withoutEnd before with
    | .error refusal => .error refusal
    | .ok before =>
      match _named : Text.cutAt? identityEnd marked with
      | none => .error (.illegalState (.unterminatedBegin (String.ofList marked)))
      | some (identity, rest) =>
        match _closed : closeAt? (beginMark identity) (endMark identity) 0 0 rest with
        | none => .error (.illegalState (.beginWithoutEnd (String.ofList identity)))
        | some (body, after) =>
          match layoutFrom 0 (dropLineBreak body) with
          | .error refusal => .error refusal
          | .ok inner =>
            let begins := columnAfter column before
            let indented := indentLines begins inner
            (layoutFrom (columnAfter begins indented) after).map fun rest =>
              before ++ indented ++ rest
termination_by chars.length
decreasing_by
  all_goals
    have begun := Text.length_of_cutAt? _begun
    have named := Text.length_of_cutAt? _named
    have closed := congrArg List.length (eq_of_closeAt? _closed)
    have broken := length_dropLineBreak body
    have stem : beginStem.length = 14 := by decide
    simp only [List.length_append] at closed
    omega

def layout (sql : String) : Except ClauseError String :=
  (layoutFrom 0 sql.toList).map String.ofList

end SqlComposer.SubQuery
