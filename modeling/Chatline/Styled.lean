/-!
# Styled text

A styled text is a plain text with a style for the whole of it and spans that
style parts of it. `Styled.assemble` joins parts into one text and keeps the
style of each styled part as a span over exactly its characters.
-/

namespace Chatline

/-- A style by its name. One that is blank styles nothing, whatever its name. -/
structure Style where
  /-- The name. -/
  name : String
  /-- Whether it is no style at all. -/
  isBlank : Bool
deriving Repr, DecidableEq

namespace Style

/-- The style of a name; the empty name is none. -/
def named (name : String) : Style := ⟨name, name.isEmpty⟩

/-- No style. -/
def none : Style := named ""

end Style

/-- A style over the characters from `start` up to `stop`. -/
structure StyleSpan where
  /-- The first character of the span. -/
  start : Nat
  /-- The character after the last one of the span. -/
  stop : Nat
  /-- The style of the span. -/
  style : String
deriving Repr, DecidableEq

/-- A text with its styles. -/
structure Styled where
  /-- The characters. -/
  plain : String
  /-- The style of the whole text. -/
  style : Style
  /-- The styles of parts of the text, in the order they were added. -/
  spans : List StyleSpan
deriving Repr, DecidableEq

/-- A part that a styled text is assembled from. -/
inductive Part where
  /-- Characters without a style. -/
  | plain (s : String)
  /-- A styled text. -/
  | styled (t : Styled)

namespace Styled

/-- The control characters that a display would act upon: bell, backspace,
vertical tab, form feed and carriage return. -/
def isControl (c : Char) : Bool :=
  let n := c.toNat
  n == 7 || n == 8 || n == 11 || n == 12 || n == 13

/-- A string without its control characters. -/
def printable (s : String) : String := String.ofList (s.toList.filter (!isControl ·))

/-- A string as a styled text, without its control characters. -/
def ofString (s : String) (style : Style) : Styled := ⟨printable s, style, []⟩

/-- The empty text. -/
def empty : Styled := ⟨"", .none, []⟩

/-- A span moved to the right. -/
def shift (distance : Nat) (span : StyleSpan) : StyleSpan :=
  ⟨span.start + distance, span.stop + distance, span.style⟩

/-- The spans that a text contributes when it is appended after `offset`
characters: one for its own style, if it has one, and its own spans. -/
def spansAt (offset : Nat) (t : Styled) : List StyleSpan :=
  (if t.style.isBlank then [] else [⟨offset, offset + t.plain.length, t.style.name⟩]) ++
    t.spans.map (shift offset)

/-- The text with one more part; an empty part adds nothing. -/
def append (t : Styled) : Part → Styled
  | .plain s => { t with plain := t.plain ++ printable s }
  | .styled part =>
    if part.plain = "" then t
    else ⟨t.plain ++ part.plain, t.style, t.spans ++ spansAt t.plain.length part⟩

/-- The parts as one text. -/
def assemble (parts : List Part) : Styled := parts.foldl append empty

end Styled

end Chatline
