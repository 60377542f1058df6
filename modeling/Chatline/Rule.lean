import Chatline.Failure
import Chatline.Rule.Pattern
import Chatline.Text.Blank
import Chatline.Text.Case
/-!
# Validation rules

A rule is a predicate on texts under a label that users see. Every argument
has one; the rule that accepts everything is the usual one.
-/

namespace Chatline

/-- A labelled predicate on texts. A predicate of the host's may fail. -/
structure Rule where
  /-- The noun that users see; empty for the rule that accepts everything. -/
  label : String
  /-- Whether a text satisfies the rule. -/
  accepts : String → Except Failure Bool

namespace Rule

/-- The rule of a predicate, under a label without blanks at its ends. -/
def ofPredicate (label : String) (accepts : String → Except Failure Bool) : Rule :=
  ⟨Text.stripped label, accepts⟩

/-- The rule of a pattern. -/
def ofPattern (label : String) (pattern : Pattern) : Rule :=
  ofPredicate label fun s => .ok (pattern.fits s.toList)

/-- The rule that accepts every text. -/
def always : Rule := ofPredicate "" fun _ => .ok true

/-- Whole numbers. -/
def integer : Rule := ofPattern "Number" Pattern.wholeNumber

/-- E-mail addresses. -/
def email : Rule := ofPattern "Email" Pattern.mailAddress

/-- A letter followed by letters and digits. -/
def alphanumeric : Rule := ofPattern "Alphanumeric string" Pattern.alphanumeric

/-- The label as it reads inside a sentence. -/
def errorLabel (rule : Rule) : String := Text.lowered rule.label

/-- The unambiguous form of a rule. -/
def shown (rule : Rule) : String := Detail.ruleForm rule.label

end Rule

end Chatline
