import TagQuery.Hierarchy
import TagQuery.MatchText
import TagQuery.Matcher

/-!
# Matchers of match texts

A match text becomes one matcher.  Values are expanded with all that their
groups hold, so that the matcher stands on its own.  The reserved marker turns
an alternative into "these and no other", or, where nothing stands beside it,
into "no tag at all"; a negation mark on it negates the whole alternative.
-/

namespace TagQuery.Matcher

/-- One child stands for itself; more are put into a container, and none makes nothing. -/
def container? (make : List Matcher → Matcher) : List Matcher → Option Matcher
  | [] => none
  | [child] => some child
  | children => some (make children)

/-- The matcher of a single term. -/
def ofTerm (term : ExactTerm) : Matcher :=
  if term.negated then .not (.value term.value) else .value term.value

/-- A term with its value expanded. -/
def expand (groups : Hierarchy) (category : String) (term : Term) : ExactTerm :=
  ⟨⟨category, term.value, groups.membersOf category term.value⟩, term.negated⟩

/-- The matcher of an alternative. -/
def ofBranch? (groups : Hierarchy) (category : String) (terms : List Term) :
    Option Matcher :=
  let markers := terms.filter (·.value = noneMarker)
  let leaves := (terms.filter (·.value ≠ noneMarker)).map (expand groups category)
  if markers.isEmpty then container? .and (leaves.map ofTerm)
  else
    let constraint := if leaves.isEmpty then .noTag category else .exact category leaves
    some (if markers.any (·.negated) then .not constraint else constraint)

/-- The matcher of the match text of a category; there is none if nothing is asked. -/
def ofText? (groups : Hierarchy) (category text : String) : Option Matcher :=
  container? .or ((MatchText.parse text).filterMap (ofBranch? groups category))

/-- The matchers of the match texts of several categories, in the order of their names. -/
def ofTexts (groups : Hierarchy) (texts : TextTable) : List Matcher :=
  texts.toList.filterMap fun (category, text) => ofText? groups category text

end TagQuery.Matcher
