import SqlComposer.Text.Blank
import SqlComposer.Text.Marks

/-!
Statements with gaps. A mark stands where the where clause, its first condition or the select
clause of a union branch is still to come, and `fill` closes the gaps.
-/
namespace SqlComposer.Template

def whereGap : String := "#df:whereClause#"

def conditionGap : String := "#df:whereFirstCondition#"

def unionSelectGap : String := "#df:unionSelectClause#"

def unionWhereGap : String := "#df:unionWhereClause#"

def unionConditionGap : String := "#df:unionWhereFirstCondition#"

/-- A text without a gap for a where clause, the space before it and the gap before a condition. -/
def closeGaps (whereGap conditionGap text : String) : String :=
  let spaced := Text.replace text (" " ++ whereGap) ""
  Text.replace (Text.replace spaced whereGap "") conditionGap ""

/-- A text with a condition in the gap for a where clause or before the first condition. -/
def addCondition (whereGap conditionGap condition text : String) : String :=
  let added := Text.replace text whereGap ("where " ++ condition)
  Text.replace added conditionGap (condition ++ " and ")

/-- The statement made of a select clause and a template, with a condition in the gaps for it. A
blank condition takes the gaps away. -/
def fill (template select condition : String) : String :=
  let condition := Text.trim condition
  let filled :=
    if condition.isEmpty then
      closeGaps unionWhereGap unionConditionGap (closeGaps whereGap conditionGap template)
    else
      addCondition unionWhereGap unionConditionGap condition
        (addCondition whereGap conditionGap condition template)
  select ++ Text.replace filled unionSelectGap select

end SqlComposer.Template
