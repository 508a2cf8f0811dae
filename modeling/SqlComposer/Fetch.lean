import SqlComposer.Error

/-!
The rows to fetch: where they start, how many make a page, and which page is wanted. All numbers are
64-bit integers, and a page is accepted only when the position after its last row is one as well.
-/
namespace SqlComposer

structure FetchScope where
  start : Int64 := 0
  size : Int64 := 0
  /-- The page, counted from one. -/
  page : Int64 := 1
  isSet : Bool := false
  isSuppressed : Bool := false
  deriving DecidableEq

namespace FetchScope

def isEffective (fetch : FetchScope) : Bool :=
  fetch.isSet && !fetch.isSuppressed

def pageStart (fetch : FetchScope) : Int64 :=
  fetch.start + fetch.size * (fetch.page - 1)

/-- The position right after the last row of the page. -/
def pageStop (fetch : FetchScope) : Int64 :=
  fetch.pageStart + fetch.size

/-- Whether an integer is a 64-bit one. -/
def fits (number : Int) : Bool :=
  Int64.minValue.toInt ≤ number && number ≤ Int64.maxValue.toInt

/-- Refuses a page whose rows, or whose end, cannot be counted. -/
def checkRange (start size page : Int64) : Except ClauseError Unit :=
  let rows := size.toInt * page.toInt
  if fits rows && fits (rows + start.toInt) then .ok ()
  else .error (.illegalArgument (.pageRange page.toInt size.toInt start.toInt))

end FetchScope
end SqlComposer
