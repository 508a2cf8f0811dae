import SqlComposer.Order.Element
import SqlComposer.OrderedMap

/-!
The order of a statement: its elements, the changes to them, and their text.
-/
namespace SqlComposer

/-- The elements of an order, the most significant first. -/
structure Order where
  elements : List Order.Element := []
  deriving DecidableEq

namespace Order

def hasManual (order : Order) : Bool :=
  order.elements.any fun element => element.manual?.isSome

def addPath (order : Order) (path : String) (direction : Direction) : Except ClauseError Order :=
  (Element.ofPath path direction).map fun elements => ⟨order.elements ++ elements⟩

def addDerived (order : Order) (name : String) (direction : Direction) : Order :=
  ⟨order.elements ++ [{ alias? := none, column := name, direction, isDerived := true }]⟩

/-- Turns every direction round when the path names exactly the present columns; otherwise the path
replaces the order. -/
def reverseOrReplace (order : Order) (path : String) (direction : Direction) :
    Except ClauseError Order :=
  (Element.ofPath path direction).map fun elements =>
    if elements.map Element.fullName = order.elements.map Element.fullName then
      ⟨order.elements.map fun element => { element with direction := element.direction.reverse }⟩
    else ⟨elements⟩

def changeLast (order : Order) (change : Element → Element) : Except ClauseError Order :=
  match order.elements.getLast? with
  | none => .error (.illegalState .noOrderElement)
  | some last => .ok ⟨order.elements.dropLast ++ [change last]⟩

def placeNulls (order : Order) (place : NullPlace) : Except ClauseError Order :=
  order.changeLast fun element => { element with nulls? := some place }

def rankManually (order : Order) (literals : List String) : Except ClauseError Order :=
  if literals.isEmpty then .error (.illegalArgument .emptyManualOrder)
  else order.changeLast fun element => { element with manual? := some literals }

/-- The name under which an element's column is known in the statement: its select alias when the
statement is a union or the column is derived, its own name otherwise. -/
def elementColumn (aliases : OrderedMap String String) (isUnion : Bool) (element : Element) :
    Except ClauseError String :=
  if isUnion || element.isDerived then
    match aliases.find? element.fullName with
    | some aliasName => .ok aliasName
    | none => .error (.illegalState (.orderNotSelected element.fullName))
  else .ok element.fullName

def sql (order : Order) (dialect : Dialect) (aliases : OrderedMap String String)
    (isUnion : Bool) : Except ClauseError String :=
  if order.elements.isEmpty then .ok ""
  else if isUnion && aliases.isEmpty then .error (.illegalState .noSelectAliases)
  else if isUnion && order.hasManual then .error (.unsupported .manualOrderOfUnion)
  else
    (order.elements.mapM fun element =>
      (elementColumn aliases isUnion element).map (element.sql dialect)).map fun texts =>
        "order by " ++ Text.join ", " texts

end Order
end SqlComposer
