import Chatline.Fault
import Chatline.Text.Case
/-!
# Reporting a fault

A fault without an error sink is put on the console as a report: a header that
names the program, the code and the title, then the message, then the hint, if
there is one. A fault may ask for colours, and for a panel around the body;
either choice changes the styling alone and never a character.
-/

namespace Chatline

/-- How the host wants faults to be reported. -/
structure Theme where
  /-- The program that the header names. -/
  program : Detail
  /-- The host's styles, by the part they are for. -/
  styles : Ledger String Style
  /-- What the host shows instead of the numbers of codes. -/
  codes : Ledger FaultCode Datum
  /-- What the runtime prints for objects. -/
  objects : ObjectForms

namespace Theme

/-- The theme of a host that asks for nothing. -/
def standard : Theme := ⟨.text "parley", [], [], .plain⟩

/-- The styles of the parts of a report where the host gives none. -/
def standardStyles : Ledger String String :=
  [("prog-name", "bold #E6E6F0"), ("code", "bold #00E5FF"), ("error-title", "bold #FF4DA6"),
   ("error-message", "#C8C8D0"), ("hint-arrow", "#9CE19C dim"), ("hint", "italic #9CE19C")]

/-- The style of a part: the host's, or else the standard one. -/
def style (theme : Theme) (part : String) : Style :=
  match theme.styles.value? part with
  | some style => style
  | none => .named ((standardStyles.value? part).getD "")

/-- What is shown for a code: the host's label, or else its number. -/
def codeText (theme : Theme) (code : FaultCode) : String :=
  match theme.codes.value? code with
  | some label => label.display
  | none => toString code.number

end Theme

/-- How the parts of a report are laid out. -/
inductive Layout where
  /-- The header above the body. -/
  | group
  /-- A panel around the body with the header as its title, to the left. -/
  | panel
deriving Repr, DecidableEq

/-- A fault as it is put on the console. -/
structure Report where
  /-- How header and body are laid out. -/
  layout : Layout
  /-- The line that names the program, the code and the title. -/
  header : Styled
  /-- The message and, after it, the hint. -/
  body : List Styled
deriving Repr, DecidableEq

namespace Fault

/-- A part of a report: nothing for what counts as false, a styled text as it
is, and anything else through its form in a sentence. Without colours only the
characters are left. -/
def fragment (theme : Theme) (colorful : Bool) (detail : Detail) (style : Style) : Styled :=
  if detail.truthy then
    if colorful then
      match detail with
      | .styled t => t
      | detail => Styled.ofString (detail.display theme.objects) style
    else Styled.ofString (detail.display theme.objects) .none
  else Styled.empty

/-- What is shown for the code of a fault: that of the detail `code` if there
is one, or else that of its kind; nothing for a detail that is no code. -/
def codeShown (theme : Theme) (fault : Fault) : String :=
  match fault.option? "code" with
  | some (.code code) => theme.codeText code
  | some _ => ""
  | none => (fault.kind.code?.map theme.codeText).getD ""

/-- The title of a fault: the detail `title` if there is one, which must be a
text, or else that of its kind. -/
def titleShown (fault : Fault) : Except Mismatch String :=
  match fault.option? "title" with
  | some (.datum (.text title)) => .ok title
  | some detail => .error (.noAttribute detail.typeName "title")
  | none => .ok fault.kind.title

/-- The header of a report under a title. -/
def header (theme : Theme) (fault : Fault) (title : String) (colorful : Bool) : Styled :=
  Styled.assemble
    [.plain "[ ", .styled (fragment theme colorful theme.program (theme.style "prog-name")),
     .plain " — ",
     .styled (fragment theme colorful (.text (fault.codeShown theme)) (theme.style "code")),
     .plain " | ",
     .styled (fragment theme colorful (.text (Text.titled title)) (theme.style "error-title")),
     .plain " ]"]

/-- The hint line of a report. -/
def hintLine (theme : Theme) (colorful : Bool) (hint : Detail) : Styled :=
  Styled.assemble
    [.styled (fragment theme colorful (.text " → ") (theme.style "hint-arrow")),
     .styled (fragment theme colorful hint (theme.style "hint"))]

/-- The hint of a fault, unless it counts as false. -/
def hint? (fault : Fault) : Option Detail :=
  match fault.option? "hint" with
  | some hint => if hint.truthy then some hint else none
  | none => none

/-- The report of a fault under a title. -/
def reportAs (theme : Theme) (fault : Fault) (title : String) : Report :=
  let colorful := fault.flag "colorful"
  { layout := if fault.flag "fancy" then .panel else .group
    header := fault.header theme title colorful
    body := fragment theme colorful (.text fault.message) (theme.style "error-message") ::
      (fault.hint?.map (hintLine theme colorful)).toList }

/-- The report of a fault; there is none if its title is no text. -/
def report (theme : Theme) (fault : Fault) : Except Mismatch Report :=
  fault.titleShown.map (fault.reportAs theme)

end Fault

end Chatline
