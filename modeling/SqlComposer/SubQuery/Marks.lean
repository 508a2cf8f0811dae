import SqlComposer.Text.Marks

/-!
Marks around a sub-query that is put into a clause of another statement. The marks carry an
identity, so that an end mark is found although sub-queries nest.
-/
namespace SqlComposer.SubQuery

def beginStem : List Char := "--#df:sqbegin#".toList

def endStem : List Char := "--#df:sqend#".toList

def identityEnd : List Char := "#df:idterm#".toList

def beginMark (identity : List Char) : List Char := beginStem ++ identity ++ identityEnd

def endMark (identity : List Char) : List Char := endStem ++ identity ++ identityEnd

/-- A sub-query between the marks of an identity; a line break comes after the begin mark. -/
def encloseChars (identity body : List Char) : List Char :=
  beginMark identity ++ '\n' :: body ++ endMark identity

def enclose (identity body : String) : String :=
  String.ofList (encloseChars identity.toList body.toList)

/-- The text up to the end mark that closes a pair and the text after that mark. Pairs of the same
identity inside are counted by `depth`; the first `skipped` characters belong to a mark already
counted. -/
def closeAt? (opening closing : List Char) : Nat → Nat → List Char →
    Option (List Char × List Char)
  | _, _, [] => none
  | depth, skipped + 1, c :: chars =>
    (closeAt? opening closing depth skipped chars).map fun (body, after) => (c :: body, after)
  | depth, 0, c :: chars =>
    match Text.afterMark? closing (c :: chars) with
    | some after =>
      match depth with
      | 0 => some ([], after)
      | depth + 1 =>
        (closeAt? opening closing depth (closing.length - 1) chars).map fun (body, after) =>
          (c :: body, after)
    | none =>
      match Text.afterMark? opening (c :: chars) with
      | some _ =>
        (closeAt? opening closing (depth + 1) (opening.length - 1) chars).map fun (body, after) =>
          (c :: body, after)
      | none =>
        (closeAt? opening closing depth 0 chars).map fun (body, after) => (c :: body, after)

theorem eq_of_closeAt? {opening closing chars body after : List Char} {depth skipped : Nat}
    (found : closeAt? opening closing depth skipped chars = some (body, after)) :
    chars = body ++ closing ++ after := by
  fun_induction closeAt? opening closing depth skipped chars generalizing body with
  | case1 => simp at found
  | case2 depth skipped c chars ih =>
    simp only [Option.map_eq_some_iff, Prod.mk.injEq] at found
    obtain ⟨⟨body', after'⟩, found, rfl, rfl⟩ := found
    simp [ih found]
  | case3 c chars after' matched =>
    simp only [Option.some.injEq, Prod.mk.injEq] at found
    obtain ⟨rfl, rfl⟩ := found
    simpa using Text.afterMark?_eq_some_iff.1 matched
  | case4 c chars after' matched depth ih =>
    simp only [Option.map_eq_some_iff, Prod.mk.injEq] at found
    obtain ⟨⟨body', after''⟩, found, rfl, rfl⟩ := found
    simp [ih found]
  | case5 depth c chars unmatched after' matched ih =>
    simp only [Option.map_eq_some_iff, Prod.mk.injEq] at found
    obtain ⟨⟨body', after''⟩, found, rfl, rfl⟩ := found
    simp [ih found]
  | case6 depth c chars unmatched unopened ih =>
    simp only [Option.map_eq_some_iff, Prod.mk.injEq] at found
    obtain ⟨⟨body', after''⟩, found, rfl, rfl⟩ := found
    simp [ih found]

end SqlComposer.SubQuery
