/-!
What a statement is built for. The purpose is fixed when the statement is created and rules out
some of the registrations.
-/
namespace SqlComposer

inductive Purpose where
  | normalUse
  | unionQuery
  | existsReferrer
  | inReferrer
  | derivedReferrer
  | scalarSelect
  | scalarCondition
  | columnQuery
  | varyingUpdate
  deriving DecidableEq

namespace Purpose

def all : List Purpose :=
  [normalUse, unionQuery, existsReferrer, inReferrer, derivedReferrer, scalarSelect,
    scalarCondition, columnQuery, varyingUpdate]

def words : Purpose → String
  | normalUse => "normal use"
  | unionQuery => "union query"
  | existsReferrer => "exists referrer"
  | inReferrer => "in referrer"
  | derivedReferrer => "derived referrer"
  | scalarSelect => "scalar select"
  | scalarCondition => "scalar condition"
  | columnQuery => "column query"
  | varyingUpdate => "varying update"

def forbidsRelationSelect : Purpose → Bool
  | normalUse => false
  | _ => true

/-- Every other purpose has room for one specified column. -/
def forbidsSecondColumn : Purpose → Bool
  | normalUse | unionQuery => false
  | _ => true

def forbidsRelationColumn : Purpose → Bool
  | normalUse => false
  | _ => true

def forbidsDerivedColumn : Purpose → Bool
  | normalUse => false
  | _ => true

/-- The purposes that are about columns alone carry no condition of their own. -/
def forbidsCondition : Purpose → Bool
  | columnQuery | varyingUpdate => true
  | _ => false

def forbidsOrder : Purpose → Bool
  | normalUse | columnQuery => false
  | _ => true

def forbidsUnion : Purpose → Bool
  | normalUse => false
  | _ => true

def forbidsPaging : Purpose → Bool
  | normalUse => false
  | _ => true

def isSubQuery : Purpose → Bool
  | existsReferrer | inReferrer | derivedReferrer | scalarCondition => true
  | _ => false

end Purpose

/-- The registrations that a purpose can rule out. -/
inductive Restricted where
  | relationSelect
  | relationColumn
  | secondColumn
  | derivedColumn
  | condition
  | order
  | union
  | paging
  deriving DecidableEq

def Restricted.words : Restricted → String
  | relationSelect => "Setup-select"
  | relationColumn => "Specifying a relation column"
  | secondColumn => "Specifying two or more columns"
  | derivedColumn => "A deriving sub-query"
  | condition => "A query condition"
  | order => "Order-by"
  | union => "A union query"
  | paging => "Paging"

def Purpose.forbids (purpose : Purpose) : Restricted → Bool
  | .relationSelect => purpose.forbidsRelationSelect
  | .relationColumn => purpose.forbidsRelationColumn
  | .secondColumn => purpose.forbidsSecondColumn
  | .derivedColumn => purpose.forbidsDerivedColumn
  | .condition => purpose.forbidsCondition
  | .order => purpose.forbidsOrder
  | .union => purpose.forbidsUnion
  | .paging => purpose.forbidsPaging

end SqlComposer
