import TagQuery.Json
import TagQuery.Json.Reader
import TagQuery.Query
import TagQuery.Text.Quoted

/-!
# Privacy locks

A privacy lock is a query that is saved with the data base and hides all that it
does not match.  It is saved as a table of texts: the label, the description, the
list of categories, and the match text of each under a key that no other key can
be taken for.
-/

namespace TagQuery

namespace Lock

def labelKey : String := "label"

def descriptionKey : String := "description"

def categoriesKey : String := "categories"

/-- The key of the match text of a category. -/
def categoryKey (category : String) : String :=
  "category:" ++ category

/-- Why a lock cannot be restored. -/
inductive Problem where
  /-- The list of categories cannot be read. -/
  | malformedCategories (problem : Json.Problem)
  /-- A category is listed but has no match text. -/
  | missingCategory (category : String)
  deriving DecidableEq, Repr

def missingMessage (category : String) : String :=
  "category " ++ Text.quoted category ++ " is listed but has no match text"

/-- What can be restored of a saved lock, and the problem that keeps the rest from it. -/
structure Contents where
  label : Option String
  description : Option String
  /-- Categories in the order of the list, with their match texts. -/
  texts : List (String × String)
  problem : Option Problem

namespace Contents

/-- How many changes restore the contents. -/
def changes (contents : Contents) : Nat :=
  contents.label.toList.length + contents.description.toList.length + contents.texts.length

end Contents

/-- The match texts of the listed categories, up to the first that has none. -/
def listedTexts (saved : TextTable) : List String → List (String × String) × Option Problem
  | [] => ([], none)
  | category :: categories =>
    match saved[categoryKey category]? with
    | none => ([], some (.missingCategory category))
    | some text =>
      let (texts, problem) := listedTexts saved categories
      ((category, text) :: texts, problem)

/-- The match texts of a saved lock; without a list of categories there are none. -/
def savedTexts (saved : TextTable) : List (String × String) × Option Problem :=
  match saved[categoriesKey]? with
  | none => ([], none)
  | some list =>
    match Json.Reader.whole (.list .string) list with
    | .error problem => ([], some (.malformedCategories problem))
    | .ok categories => listedTexts saved categories

/-- What can be restored of a saved lock. -/
def contents (saved : TextTable) : Contents :=
  let (texts, problem) := savedTexts saved
  ⟨saved[labelKey]?, saved[descriptionKey]?, texts, problem⟩

end Lock

namespace SearchQuery

/-- The query as a privacy lock is saved. -/
def toLock (q : SearchQuery) : TextTable :=
  let attributes : TextTable := .ofList
    [(Lock.labelKey, q.filters.label),
      (Lock.descriptionKey, q.filters.description),
      (Lock.categoriesKey, (Json.arr (q.texts.keys.map .str)).compact)]
  attributes ∪ .ofList (q.texts.toList.map fun (category, text) =>
    (Lock.categoryKey category, text))

/--
The query of a saved lock, and the last generation drawn after `drawn`: one for
the query and one for each change, also for those before a problem.
-/
def ofLock (saved : TextTable) (drawn : Nat) : Except Lock.Problem SearchQuery × Nat :=
  let contents := Lock.contents saved
  let last := drawn + 1 + contents.changes
  match contents.problem with
  | some problem => (.error problem, last)
  | none =>
    let label := contents.label.getD ""
    let description := contents.description.getD ""
    let texts := contents.texts.foldl (fun texts (category, text) =>
      setText texts category text) ∅
    (.ok { withRange last .unbounded label description with texts }, last)

end SearchQuery

end TagQuery
