import Stencil.Expr.Basic

/-!
# Issues

What can go wrong with a single placeholder. An issue does not end a render; the
placeholder is left open, or a directive is passed over.

## Main definitions

* `Complaint`: the causes of issues
* `Complaint.kind`, `Complaint.message`: their kinds and their wording
* `Issue`: a complaint about a placeholder
-/

namespace Stencil

/-- The kinds of issues. -/
inductive IssueKind where
  /-- No value was found. -/
  | unresolvedReference
  /-- A condition, an assignment or the head of a loop is wrong. -/
  | expressionEvaluation
  /-- A directive is not known. -/
  | unsupportedDirective
  deriving DecidableEq, Repr

/-- The wording of a kind. -/
def IssueKind.name : IssueKind → Text
  | .unresolvedReference => "unresolved reference"
  | .expressionEvaluation => "expression evaluation error"
  | .unsupportedDirective => "unsupported directive"

/-- Why a placeholder was not filled as it should have been. -/
inductive Complaint where
  /-- A path leads to no value. -/
  | unresolvedPath (path : Text)
  /-- A name has no value. -/
  | unknownName (name : Text)
  /-- The value is an object. -/
  | objectAsText
  /-- A directive is not known. -/
  | unknownDirective (name : Text)
  /-- An assignment is not written as one. -/
  | malformedAssignment
  /-- The head of a loop is not written as one. -/
  | malformedLoop
  /-- The right-hand side of an assignment has no value. -/
  | failedAssignment (error : ExprError)
  /-- A condition has no value. -/
  | failedCondition (condition : Text) (error : ExprError)
  deriving DecidableEq, Repr

namespace Complaint

/-- The kind of a complaint. -/
def kind : Complaint → IssueKind
  | unresolvedPath _ | unknownName _ | objectAsText => .unresolvedReference
  | unknownDirective _ => .unsupportedDirective
  | malformedAssignment | malformedLoop | failedAssignment _ | failedCondition _ _ =>
    .expressionEvaluation

/-- The wording of a complaint. -/
def message : Complaint → Text
  | unresolvedPath path => path.ticked ++ " could not be resolved".toList
  | unknownName name => "no value named ".toList ++ name.ticked
  | objectAsText => "an object cannot be rendered as text"
  | unknownDirective name => name.ticked ++ " is not a known directive".toList
  | malformedAssignment => "expected `set <name> = <expression>`"
  | malformedLoop => "expected `for <item> in <list>`"
  | failedAssignment error => error.message
  | failedCondition condition error =>
    "condition ".toList ++ condition.ticked ++ " failed: ".toList ++ error.message

end Complaint

/-- A complaint about a placeholder. -/
structure Issue where
  /-- The directive of the placeholder. -/
  placeholder : Text
  /-- What is wrong. -/
  complaint : Complaint
  deriving DecidableEq, Repr

/-- An issue as one line of text. -/
def Issue.line (issue : Issue) : Text :=
  issue.complaint.kind.name ++ " in `".toList ++ ['{', '{', ' '] ++ issue.placeholder ++
    [' ', '}', '}', '\x60'] ++ ": ".toList ++ issue.complaint.message

end Stencil
