import Chatline.Fault.Report
import Chatline.Proofs.Ledger
import Mathlib.Data.List.Induction
/-!
# Styling of reports

A fault may ask for colours and for a panel. Neither changes a character of its report:
what is shown is fixed by the fault and the theme, part by part, before anything is styled.
Without colours nothing is styled at all, and with colours each span of a line lies over
the characters of one of the parts that the line was assembled from (`report_styling`).
Control characters are dropped from each part, so the places of the later ones are counted
after that. A hint may be an object: what is printed for it is up to the theme, and may be
anything.
-/

namespace Chatline

/-! ## Lines made of stretches -/

/-- A stretch of a line: its characters, and the style of the span over them, if there is
one. -/
structure Stretch where
  /-- The characters. -/
  text : String
  /-- The style of a span over them. -/
  style : Option String

/-- The characters of some stretches, side by side. -/
def Stretch.chars (stretches : List Stretch) : List Char := stretches.flatMap (·.text.toList)

/-- **That a span lies over a stretch** of a line: over all its characters, where they
stand in the line, and no others. -/
structure StyleSpan.Over (span : StyleSpan) (line : String) (before : List Stretch)
    (stretch : Stretch) : Prop where
  /-- It starts behind the stretches before. -/
  start : span.start = (Stretch.chars before).length
  /-- It is as long as the stretch. -/
  stop : span.stop = span.start + stretch.text.length
  /-- What it covers are the characters of the stretch. -/
  covers : (line.toList.drop span.start).take (span.stop - span.start) = stretch.text.toList

/-- **A marked line**: stretches side by side, with a span over each of them that has a
style and any characters. -/
structure Styled.Marked (t : Styled) (stretches : List Stretch) : Prop where
  /-- The line has no style of its own. -/
  unstyled : t.style = .none
  /-- Its characters are those of the stretches. -/
  chars : t.plain.toList = Stretch.chars stretches
  /-- Its spans lie over the stretches that have a style. -/
  spans : ∀ span, span ∈ t.spans ↔ ∃ before stretch after,
    stretches = before ++ stretch :: after ∧ stretch.text ≠ "" ∧ stretch.style = some span.style ∧
      span.Over t.plain before stretch
  /-- They come in order, and none begins before the last one has ended. -/
  inOrder : t.spans.Pairwise fun a b => a.stop ≤ b.start

/-- What a part adds to a line. -/
def Part.stretch : Part → Stretch
  | .plain s => ⟨Styled.printable s, none⟩
  | .styled t => ⟨t.plain, if t.style.isBlank then none else some t.style.name⟩

namespace Styled

variable {t : Styled} {part : Part} {stretches before after : List Stretch} {stretch last : Stretch}
variable {span : StyleSpan} {line more : String}

@[simp] theorem chars_append (more : List Stretch) :
    Stretch.chars (stretches ++ more) = Stretch.chars stretches ++ Stretch.chars more :=
  List.flatMap_append

@[simp] theorem chars_cons :
    Stretch.chars (stretch :: stretches) = stretch.text.toList ++ Stretch.chars stretches :=
  List.flatMap_cons

/-- A stretch with one more behind it stands before that one or is that one. -/
theorem append_singleton_eq_iff :
    stretches ++ [last] = before ++ stretch :: after ↔
      (∃ earlier, after = earlier ++ [last] ∧ stretches = before ++ stretch :: earlier) ∨
        after = [] ∧ stretch = last ∧ before = stretches := by
  constructor
  · intro h
    rcases List.eq_nil_or_concat after with rfl | ⟨earlier, x, rfl⟩
    · obtain ⟨hbefore, hlast⟩ := List.append_inj' h rfl
      cases hlast
      exact Or.inr ⟨rfl, rfl, hbefore.symm⟩
    · rw [List.concat_eq_append, ← List.cons_append, ← List.append_assoc] at h
      obtain ⟨hstretches, hlast⟩ := List.append_inj' h rfl
      cases hlast
      exact Or.inl ⟨earlier, List.concat_eq_append, hstretches⟩
  · rintro (⟨earlier, rfl, rfl⟩ | ⟨rfl, rfl, rfl⟩)
    · rw [List.append_assoc, List.cons_append]
    · rfl

/-- A span that starts and ends with a stretch covers it. -/
theorem over_of_bounds (after : List Stretch)
    (hline : line.toList = Stretch.chars (before ++ stretch :: after))
    (hstart : span.start = (Stretch.chars before).length)
    (hstop : span.stop = span.start + stretch.text.length) : span.Over line before stretch := by
  refine ⟨hstart, hstop, ?_⟩
  have hlength : span.stop - span.start = stretch.text.toList.length := by
    rw [hstop, Nat.add_sub_cancel_left, String.length_toList]
  rw [hline, hlength, hstart, chars_append, List.drop_left, chars_cons, List.take_left]

/-- Spans lie over a stretch whatever is put behind it. -/
theorem over_append_iff (hline : line.toList = Stretch.chars (before ++ stretch :: after)) :
    span.Over (line ++ more) before stretch ↔ span.Over line before stretch := by
  constructor
  · intro h
    exact over_of_bounds after hline h.start h.stop
  · intro h
    refine over_of_bounds (after ++ [⟨more, none⟩]) ?_ h.start h.stop
    rw [String.toList_append, hline]
    simp [Stretch.chars]

/-! ## Assembling -/

/-- The span that a stretch brings along when it is put behind some characters. -/
def bringing (offset : Nat) (stretch : Stretch) : List StyleSpan :=
  if stretch.text = "" then []
  else stretch.style.toList.map fun style => ⟨offset, offset + stretch.text.length, style⟩

/-- One more part puts its stretch behind the line. -/
theorem append_eq (h : ∀ u, part = .styled u → u.spans = []) :
    t.append part =
      ⟨t.plain ++ part.stretch.text, t.style, t.spans ++ bringing t.plain.length part.stretch⟩ := by
  cases part with
  | plain s => by_cases hs : printable s = "" <;> simp [append, Part.stretch, bringing]
  | styled u =>
    have hspans := h u rfl
    by_cases hempty : u.plain = ""
    · simp [append, Part.stretch, bringing, hempty]
    · cases hblank : u.style.isBlank <;>
        simp [append, Part.stretch, bringing, hempty, spansAt, hspans, hblank]

theorem mem_bringing {offset : Nat} :
    span ∈ bringing offset stretch ↔ stretch.text ≠ "" ∧ stretch.style = some span.style ∧
      span.start = offset ∧ span.stop = span.start + stretch.text.length := by
  rw [bringing]
  split
  · next hempty => simp [hempty]
  · next hne =>
    obtain ⟨start, stop, style⟩ := span
    cases stretch.style with
    | none => simp
    | some style' =>
      simp only [Option.toList_some, List.map_singleton, List.mem_singleton, StyleSpan.mk.injEq,
        ne_eq, hne, not_false_eq_true, true_and, Option.some.injEq]
      constructor
      · rintro ⟨rfl, rfl, rfl⟩
        exact ⟨rfl, rfl, rfl⟩
      · rintro ⟨rfl, rfl, rfl⟩
        exact ⟨rfl, rfl, rfl⟩

/-- **One more part keeps a line marked.** -/
theorem Marked.append (h : t.Marked stretches) (hpart : ∀ u, part = .styled u → u.spans = []) :
    (t.append part).Marked (stretches ++ [part.stretch]) := by
  have hlength : t.plain.length = (Stretch.chars stretches).length := by
    rw [← h.chars, String.length_toList]
  rw [append_eq hpart]
  refine ⟨h.unstyled, ?_, fun span => ?_, ?_⟩
  · rw [String.toList_append, h.chars]
    simp [Stretch.chars]
  · rw [List.mem_append, h.spans]
    simp only [append_singleton_eq_iff]
    constructor
    · rintro (⟨before, stretch, after, hsplit, htext, hstyle, hover⟩ | hnew)
      · refine ⟨before, stretch, _, Or.inl ⟨after, rfl, hsplit⟩, htext, hstyle, ?_⟩
        exact (over_append_iff (hsplit ▸ h.chars)).2 hover
      · obtain ⟨htext, hstyle, hstart, hstop⟩ := mem_bringing.1 hnew
        refine ⟨stretches, _, [], Or.inr ⟨rfl, rfl, rfl⟩, htext, hstyle, ?_⟩
        refine over_of_bounds [] ?_ (hstart.trans hlength) hstop
        rw [String.toList_append, h.chars]
        simp [Stretch.chars]
    · rintro ⟨before, stretch, after, ⟨earlier, rfl, hsplit⟩ | ⟨rfl, rfl, rfl⟩, htext, hstyle,
        hover⟩
      · refine Or.inl ⟨before, stretch, earlier, hsplit, htext, hstyle, ?_⟩
        exact (over_append_iff (hsplit ▸ h.chars)).1 hover
      · exact Or.inr (mem_bringing.2 ⟨htext, hstyle, hover.start.trans hlength.symm, hover.stop⟩)
  · refine List.pairwise_append.2 ⟨h.inOrder, ?_, fun a ha b hb => ?_⟩
    · rw [bringing]
      split
      · exact List.Pairwise.nil
      · cases part.stretch.style with
        | none => exact List.Pairwise.nil
        | some style => exact List.pairwise_singleton _ _
    · obtain ⟨before, stretch, after, rfl, -, -, hover⟩ := (h.spans a).1 ha
      obtain ⟨-, -, hstart, -⟩ := mem_bringing.1 hb
      -- the span ends with its stretch, and the new one starts behind all stretches
      rw [hstart, hlength, hover.stop, hover.start, chars_append, chars_cons]
      simp only [List.length_append, String.length_toList]
      omega

/-- **An assembled line is marked** as its parts say, as long as these bring no spans. -/
theorem marked_assemble {parts : List Part}
    (h : ∀ part ∈ parts, ∀ u, part = .styled u → u.spans = []) :
    (assemble parts).Marked (parts.map Part.stretch) := by
  have hempty : empty.Marked [] :=
    ⟨rfl, rfl, fun span => by simp [empty], List.Pairwise.nil⟩
  -- by induction from the right, since each part is put behind those before it
  rw [assemble]
  induction parts using List.reverseRecOn with
  | nil => exact hempty
  | append_singleton parts part ih =>
    rw [List.foldl_concat, List.map_append]
    refine Marked.append (ih fun p hp => ?_) (h part (by simp))
    exact h p (List.mem_append_left _ hp)

/-- A line of stretches without styles has no spans. -/
theorem Marked.spans_eq_nil (h : t.Marked stretches)
    (hnone : ∀ stretch ∈ stretches, stretch.style = none) : t.spans = [] := by
  refine List.eq_nil_iff_forall_not_mem.2 fun span hspan => ?_
  obtain ⟨before, stretch, after, rfl, -, hstyle, -⟩ := (h.spans span).1 hspan
  rw [hnone stretch (by simp)] at hstyle
  cases hstyle

end Styled

/-! ## Fragments -/

/-- A text in a single style: it has no spans, and no control characters. -/
structure Styled.Single (t : Styled) : Prop where
  /-- There are no spans. -/
  spans : t.spans = []
  /-- There are no control characters. -/
  printable : Styled.printable t.plain = t.plain

namespace Detail

/-- That a detail is a text in a single style, if it is a styled text at all. -/
def Single (detail : Detail) : Prop := ∀ t, detail = .styled t → t.Single

/-- What is shown of a detail: nothing if it counts as false, and its form in a sentence
without control characters if not. -/
def shown (theme : Theme) (detail : Detail) : String :=
  if detail.truthy then Styled.printable (detail.display theme.objects) else ""

/-- The style that a detail is shown in: its own if it is a styled text, and the given one
if not. -/
def styledAs (style : Style) : Detail → Style
  | .styled t => t.style
  | _ => style

/-- A detail as a stretch of a line, coloured or not. -/
def stretch (theme : Theme) (colorful : Bool) (style : Style) (detail : Detail) : Stretch where
  text := detail.shown theme
  style :=
    if colorful && detail.truthy && !(detail.styledAs style).isBlank then
      some (detail.styledAs style).name
    else none

theorem single_text (s : String) : (text s).Single := fun _ h => by cases h

end Detail

namespace Fault

open Styled

variable {theme : Theme} {fault : Fault} {title : String} {colorful : Bool} {detail hint : Detail}
variable {style : Style}

/-- What counts as false is not shown. -/
theorem fragment_of_falsy (h : detail.truthy = false) :
    fragment theme colorful detail style = empty := by
  unfold fragment
  rw [h]
  exact if_neg Bool.false_ne_true

/-- Without colours only the characters are left. -/
theorem fragment_colourless (h : detail.truthy = true) :
    fragment theme false detail style = ofString (detail.display theme.objects) .none := by
  unfold fragment
  rw [h, if_pos rfl]
  exact if_neg Bool.false_ne_true

/-- With colours a styled text is shown as it is, and anything else in the given style. -/
theorem fragment_coloured (hsingle : detail.Single) (h : detail.truthy = true) :
    fragment theme true detail style =
      ofString (detail.display theme.objects) (detail.styledAs style) := by
  unfold fragment
  rw [h, if_pos rfl, if_pos rfl]
  split
  · next t =>
    obtain ⟨hspans, hprintable⟩ := hsingle t rfl
    have hown : ofString ((Detail.styled t).display theme.objects)
        ((Detail.styled t).styledAs style) = ⟨printable t.plain, t.style, []⟩ := rfl
    rw [hown, hprintable, ← hspans]
  · next hother =>
    have hstyle : detail.styledAs style = style := by
      rw [Detail.styledAs]
      exact hother
    rw [hstyle]

/-- **A part of a report**: colours decide on its style, and on nothing else. -/
theorem fragment_eq (h : detail.Single) :
    fragment theme colorful detail style =
      if detail.truthy then
        ofString (detail.display theme.objects) (if colorful then detail.styledAs style else .none)
      else empty := by
  cases htruthy : detail.truthy with
  | false => exact fragment_of_falsy htruthy
  | true =>
    cases colorful with
    | false => exact fragment_colourless htruthy
    | true => exact fragment_coloured h htruthy

theorem fragment_plain (h : detail.Single) :
    (fragment theme colorful detail style).plain = detail.shown theme := by
  rw [fragment_eq h, Detail.shown]
  split <;> rfl

theorem fragment_spans (h : detail.Single) : (fragment theme colorful detail style).spans = [] := by
  rw [fragment_eq h]
  split <;> rfl

theorem fragment_style_colourless (h : detail.Single) :
    (fragment theme false detail style).style = .none := by
  rw [fragment_eq h]
  split <;> rfl

theorem stretch_plain {s : String} (h : printable s = s) : (Part.plain s).stretch = ⟨s, none⟩ := by
  rw [Part.stretch, h]

theorem stretch_fragment (h : detail.Single) :
    (Part.styled (fragment theme colorful detail style)).stretch =
      detail.stretch theme colorful style := by
  have hplain : (fragment theme colorful detail style).plain = detail.shown theme :=
    fragment_plain h
  rw [Part.stretch, Detail.stretch, hplain, fragment_eq h]
  cases detail.truthy with
  | false => cases colorful <;> rfl
  | true =>
    cases colorful with
    | false => rfl
    | true => cases hblank : (detail.styledAs style).isBlank <;> simp [ofString, hblank]

/-! ## The lines of a report -/

/-- What the header of a report is made of. -/
def headerStretches (theme : Theme) (fault : Fault) (title : String) (colorful : Bool) :
    List Stretch :=
  [⟨"[ ", none⟩, theme.program.stretch theme colorful (theme.style "prog-name"),
   ⟨" — ", none⟩,
   (Detail.text (fault.codeShown theme)).stretch theme colorful (theme.style "code"),
   ⟨" | ", none⟩,
   (Detail.text (Text.titled title)).stretch theme colorful (theme.style "error-title"),
   ⟨" ]", none⟩]

/-- What the hint line of a report is made of. -/
def hintStretches (theme : Theme) (colorful : Bool) (hint : Detail) : List Stretch :=
  [(Detail.text " → ").stretch theme colorful (theme.style "hint-arrow"),
   hint.stretch theme colorful (theme.style "hint")]

/-- **The header is marked** as it is made. -/
theorem marked_header (h : theme.program.Single) :
    (fault.header theme title colorful).Marked (headerStretches theme fault title colorful) := by
  have hparts : headerStretches theme fault title colorful = List.map Part.stretch
      [.plain "[ ", .styled (fragment theme colorful theme.program (theme.style "prog-name")),
       .plain " — ",
       .styled (fragment theme colorful (.text (fault.codeShown theme)) (theme.style "code")),
       .plain " | ",
       .styled (fragment theme colorful (.text (Text.titled title)) (theme.style "error-title")),
       .plain " ]"] := by
    simp only [headerStretches, List.map_cons, List.map_nil, stretch_fragment h,
      stretch_fragment (Detail.single_text _)]
    rw [stretch_plain (by decide), stretch_plain (by decide), stretch_plain (by decide),
      stretch_plain (by decide)]
  rw [hparts]
  refine marked_assemble ?_
  simp [fragment_spans h, fragment_spans (Detail.single_text _)]

theorem marked_hintLine (h : hint.Single) :
    (hintLine theme colorful hint).Marked (hintStretches theme colorful hint) := by
  have hparts : hintStretches theme colorful hint = List.map Part.stretch
      [.styled (fragment theme colorful (.text " → ") (theme.style "hint-arrow")),
       .styled (fragment theme colorful hint (theme.style "hint"))] := by
    simp only [hintStretches, List.map_cons, List.map_nil, stretch_fragment h,
      stretch_fragment (Detail.single_text _)]
  rw [hparts]
  refine marked_assemble ?_
  simp [fragment_spans h, fragment_spans (Detail.single_text _)]

/-! ## The flags -/

/-- The fault with the flags that ask for colours and for a panel. -/
def flagged (fault : Fault) (colorful fancy : Detail) : Fault :=
  fault.withOptions [("colorful", colorful), ("fancy", fancy)]

/-- The flags are entered under names of their own. -/
theorem option?_flagged {fancy : Detail} {colorful : Detail} {name : String} :
    (fault.flagged colorful fancy).option? name =
      if "fancy" == name then some fancy else if "colorful" == name then some colorful
      else fault.option? name := by
  have hputs : (fault.flagged colorful fancy).options =
      Ledger.put (Ledger.put fault.options "colorful" colorful) "fancy" fancy := rfl
  rw [option?, hputs, Ledger.value?_put, Ledger.value?_put, option?]

/-- **The report of a flagged fault**: the flags are read, and everything else is as it was. -/
theorem reportAs_flagged {fancy colorful : Detail} :
    (fault.flagged colorful fancy).reportAs theme title =
      { layout := if fancy.truthy then .panel else .group
        header := fault.header theme title colorful.truthy
        body :=
          fragment theme colorful.truthy (.text fault.message) (theme.style "error-message") ::
            (fault.hint?.map (hintLine theme colorful.truthy)).toList } := by
  have hfancy : (fault.flagged colorful fancy).flag "fancy" = fancy.truthy := by
    rw [flag, option?_flagged, if_pos (by decide)]
  have hcolorful : (fault.flagged colorful fancy).flag "colorful" = colorful.truthy := by
    rw [flag, option?_flagged, if_neg (by decide), if_pos (by decide)]
  have hhint : (fault.flagged colorful fancy).hint? = fault.hint? := by
    rw [hint?, option?_flagged, if_neg (by decide), if_neg (by decide), hint?]
  have hcode : (fault.flagged colorful fancy).codeShown theme = fault.codeShown theme := by
    rw [codeShown, option?_flagged, if_neg (by decide), if_neg (by decide), codeShown]
    rfl
  have hmessage : (fault.flagged colorful fancy).message = fault.message := rfl
  rw [reportAs, hfancy, hcolorful, hhint, hmessage, header, hcode, header]

theorem titleShown_flagged {fancy colorful : Detail} :
    (fault.flagged colorful fancy).titleShown = fault.titleShown := by
  rw [titleShown, option?_flagged, if_neg (by decide), if_neg (by decide), titleShown]
  rfl

end Fault

/-! ## Reports -/

namespace Report

open Fault

/-- That two reports show the same characters, line by line. -/
structure SamePlain (report other : Report) : Prop where
  /-- The headers do. -/
  header : report.header.plain = other.header.plain
  /-- The messages do, and the hint lines, if there are any. -/
  body : report.body.map Styled.plain = other.body.map Styled.plain

/-- That nothing in a report is styled. -/
def Unstyled (report : Report) : Prop :=
  ∀ line ∈ report.header :: report.body, line.style = .none ∧ line.spans = []

/-- **That the spans of a report lie over its parts.** -/
structure Marked (report : Report) (theme : Theme) (fault : Fault) (title : String) : Prop where
  /-- The header is marked as it is made. -/
  header : report.header.Marked (headerStretches theme fault title true)
  /-- Without a hint there is only the message. -/
  message : fault.hint? = none → ∃ message, report.body = [message] ∧
    message.plain = Styled.printable fault.message ∧ message.spans = []
  /-- The hint line is marked as it is made, and comes after the message. -/
  hint : ∀ hint, fault.hint? = some hint → ∃ message line, report.body = [message, line] ∧
    message.plain = Styled.printable fault.message ∧ message.spans = [] ∧
      line.Marked (hintStretches theme true hint)

end Report

namespace Fault

open Styled

variable {theme : Theme} {fault : Fault} {title : String} {colorful : Bool} {hint : Detail}

/-- The characters of the header are the same with and without colours. -/
theorem header_plain (h : theme.program.Single) (other : Bool) :
    (fault.header theme title colorful).plain = (fault.header theme title other).plain := by
  refine String.toList_injective ?_
  rw [(marked_header h).chars, (marked_header h).chars]
  simp only [headerStretches, Detail.stretch, Stretch.chars, List.flatMap_cons]

theorem hintLine_plain (h : hint.Single) (other : Bool) :
    (hintLine theme colorful hint).plain = (hintLine theme other hint).plain := by
  refine String.toList_injective ?_
  rw [(marked_hintLine h).chars, (marked_hintLine h).chars]
  simp only [hintStretches, Detail.stretch, Stretch.chars, List.flatMap_cons]

/-- A text is shown without its control characters. -/
theorem fragment_text {s : String} {style : Style} :
    (fragment theme colorful (.text s) style).plain = printable s := by
  rw [fragment_plain (Detail.single_text s), Detail.shown]
  split
  · rfl
  · next hfalsy =>
    have hempty : s = "" := by simpa [Detail.text, Detail.truthy, Datum.truthy] using hfalsy
    rw [hempty]
    rfl

/-- Without colours no stretch has a style. -/
theorem stretch_colourless {detail : Detail} {style : Style} :
    (detail.stretch theme false style).style = none := rfl

theorem header_unstyled (h : theme.program.Single) :
    (fault.header theme title false).style = .none ∧
      (fault.header theme title false).spans = [] := by
  have hmarked : (fault.header theme title false).Marked
      (headerStretches theme fault title false) := marked_header h
  refine ⟨hmarked.unstyled, hmarked.spans_eq_nil ?_⟩
  simp [headerStretches, stretch_colourless]

theorem hintLine_unstyled (h : hint.Single) :
    (hintLine theme false hint).style = .none ∧ (hintLine theme false hint).spans = [] := by
  have hmarked : (hintLine theme false hint).Marked (hintStretches theme false hint) :=
    marked_hintLine h
  refine ⟨hmarked.unstyled, hmarked.spans_eq_nil ?_⟩
  simp [hintStretches, stretch_colourless]

/-- **Colours and panels change no character of a report**, only its styling: whatever two
flags a fault is given, its report shows what it showed before. Without colours nothing in
it is styled, and with colours its spans lie over its parts. -/
theorem report_styling {report : Report} (h : fault.report theme = .ok report)
    (hprogram : theme.program.Single) (hhint : ∀ hint, fault.hint? = some hint → hint.Single)
    (colorful fancy : Detail) :
    ∃ title styled, fault.titleShown = .ok title ∧
      (fault.flagged colorful fancy).report theme = .ok styled ∧
      styled.layout = (if fancy.truthy then .panel else .group) ∧
      styled.SamePlain report ∧
      (colorful.truthy = false → styled.Unstyled) ∧
      (colorful.truthy = true → styled.Marked theme fault title) := by
  cases htitle : fault.titleShown with
  | error mismatch =>
    rw [Fault.report, htitle] at h
    cases h
  | ok title =>
    have hreport : fault.reportAs theme title = report := by
      rw [Fault.report, htitle] at h
      cases h
      rfl
    have hstyled : (fault.flagged colorful fancy).report theme =
        .ok ((fault.flagged colorful fancy).reportAs theme title) := by
      rw [Fault.report, titleShown_flagged, htitle]
      rfl
    have hmessage : (Detail.text fault.message).Single := Detail.single_text _
    refine ⟨title, _, rfl, hstyled, ?_, ⟨?_, ?_⟩, fun hcolorful => ?_, fun hcolorful => ?_⟩
    · rw [reportAs_flagged]
    · rw [← hreport, reportAs_flagged, reportAs]
      exact header_plain hprogram _
    · rw [← hreport, reportAs_flagged, reportAs, List.map_cons, List.map_cons, fragment_text,
        fragment_text]
      cases hthere : fault.hint? with
      | none => rfl
      | some hint => exact congrArg (_ :: [·]) (hintLine_plain (hhint hint hthere) _)
    · rw [reportAs_flagged, hcolorful]
      intro line hline
      rcases List.mem_cons.1 hline with rfl | hbody
      · exact header_unstyled hprogram
      rcases List.mem_cons.1 hbody with rfl | hlines
      · exact ⟨fragment_style_colourless hmessage, fragment_spans hmessage⟩
      · obtain ⟨hint, hthere, rfl⟩ := Option.map_eq_some_iff.1 (Option.mem_toList.1 hlines)
        exact hintLine_unstyled (hhint hint hthere)
    · rw [reportAs_flagged, hcolorful]
      refine ⟨marked_header hprogram, fun hnone => ?_, fun hint hsome => ?_⟩
      · rw [hnone]
        exact ⟨_, rfl, fragment_text, fragment_spans hmessage⟩
      · rw [hsome]
        exact ⟨_, _, rfl, fragment_text, fragment_spans hmessage,
          marked_hintLine (hhint hint hsome)⟩

/-- A fault whose message rings a bell, with a hint in bold. -/
def ringing : Fault where
  kind := .coded .invalidArgument
  message := "no \x07bell"
  options := [("hint", .styled ⟨"use words", .named "bold", []⟩)]

theorem report_styling_ringing :
    ringing.report .standard = .ok (ringing.reportAs .standard "invalid argument") ∧
      Theme.standard.program.Single ∧
      (∀ hint, ringing.hint? = some hint → hint.Single) ∧
      ∃ title styled, ringing.titleShown = .ok title ∧
        (ringing.flagged (.datum (.bool true)) (.datum (.int 0))).report .standard = .ok styled ∧
        styled.layout = .group ∧
        styled.SamePlain (ringing.reportAs .standard "invalid argument") ∧
        styled.Marked .standard ringing title := by
  have hreport : ringing.report .standard =
      .ok (ringing.reportAs .standard "invalid argument") := rfl
  have hprogram : Theme.standard.program.Single := Detail.single_text _
  have hhint : ∀ hint, ringing.hint? = some hint → hint.Single := by
    intro hint hthere t ht
    have hbold : ringing.hint? = some (.styled ⟨"use words", .named "bold", []⟩) := rfl
    rw [hbold] at hthere
    cases hthere
    cases ht
    exact ⟨rfl, by decide⟩
  obtain ⟨title, styled, htitle, hstyled, hlayout, hplain, -, hmarked⟩ :=
    report_styling hreport hprogram hhint (.datum (.bool true)) (.datum (.int 0))
  exact ⟨hreport, hprogram, hhint, title, styled, htitle, hstyled, hlayout, hplain, hmarked rfl⟩

end Fault

end Chatline
