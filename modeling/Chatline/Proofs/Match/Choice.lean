import Chatline.Proofs.Match.Canonical
/-!
# Which options can be chosen

An enum takes the first option whose name is the word up to letter case. Nothing keeps a
host from giving an enum two options of one name up to letter case, and then only the
first of them is ever chosen, by whichever spelling. `enum_choices` says what a word that
names an option does wherever a match comes to an enum, which options can be chosen there
at all, and that all of them can if and only if no two have the same name up to letter
case.
-/

namespace Chatline

open Grammar

/-- The outcome of a match that goes on after some fillings. -/
def Outcome.behind (outcome : Outcome) (fs : List Filling) : Outcome where
  bound := boundBy fs ++ outcome.bound
  remarks := fs.filterMap Filling.remark? ++ outcome.remarks
  result := outcome.result

namespace Grammar

variable {usage : String} {path path' : Path} {g g' children rest : Grammar} {word name : String}
variable {words words' : List String} {fs : List Filling} {f : Filling} {outcome : Outcome}

/-! ## Options and their names -/

/-- The sibling slots with their numbers, each with what it owns. -/
def members : Grammar → List (SlotId × Slot × Grammar)
  | nil => []
  | cons id slot children rest => (id, slot, children) :: rest.members

/-- Looking an option up finds the first sibling of that name. -/
theorem option?_eq_find? (g : Grammar) (word : String) :
    g.option? word = g.members.find? fun o => Text.sameFolded o.2.1.name word := by
  induction g with
  | nil => rfl
  | cons id slot children rest _ ih =>
    rw [option?, members, List.find?_cons, ih]
    cases Text.sameFolded slot.name word <;> rfl

/-- A word and its other spellings name the same option. -/
theorem option?_congr (h : Text.sameFolded name word = true) : g.option? word = g.option? name := by
  have hfold : Text.fold name.toList = Text.fold word.toList := beq_iff_eq.1 h
  rw [option?_eq_find?, option?_eq_find?]
  congr
  funext o
  rw [Text.sameFolded, Text.sameFolded, hfold]

/-- That an option is the first of its name. -/
def IsForemost (g : Grammar) (o : SlotId × Slot × Grammar) : Prop :=
  ∃ before later, g.members = before ++ o :: later ∧
    ∀ e ∈ before, Text.sameFolded e.2.1.name o.2.1.name = false

theorem sameFolded_refl (s : String) : Text.sameFolded s s = true := beq_self_eq_true _

theorem option?_iff_isForemost {o : SlotId × Slot × Grammar} :
    g.option? o.2.1.name = some o ↔ g.IsForemost o := by
  rw [option?_eq_find?, List.find?_eq_some_iff_append]
  simp only [IsForemost, sameFolded_refl, true_and, Bool.not_eq_true']

/-- **The option that a word names** is the first of its name, and no other is. -/
theorem option?_eq_some_iff {o : SlotId × Slot × Grammar} :
    g.option? word = some o ↔ g.IsForemost o ∧ Text.sameFolded o.2.1.name word = true := by
  obtain ⟨oid, option, sub⟩ := o
  constructor
  · intro h
    have hname := (option?_mem h).2
    exact ⟨option?_iff_isForemost.1 ((option?_congr hname).symm.trans h), hname⟩
  · rintro ⟨hforemost, hname⟩
    exact (option?_congr hname).trans (option?_iff_isForemost.2 hforemost)

/-- Every option shares its name with a foremost one. -/
theorem exists_isForemost {o : SlotId × Slot × Grammar} (ho : o ∈ g.members)
    (hname : Text.sameFolded o.2.1.name word = true) : ∃ c, g.option? word = some c := by
  rw [option?_eq_find?]
  cases hfind : g.members.find? fun o => Text.sameFolded o.2.1.name word with
  | some c => exact ⟨c, rfl⟩
  | none => exact absurd hname (List.find?_eq_none.1 hfind o ho)

/-- All options are foremost if and only if different ones have different names. -/
theorem forall_isForemost_iff (g : Grammar) :
    (∀ o ∈ g.members, g.IsForemost o) ↔
      ∀ o ∈ g.members, ∀ p ∈ g.members,
        Text.sameFolded o.2.1.name p.2.1.name = true → o = p := by
  constructor
  · intro h o ho p hp hname
    have hoption := option?_eq_some_iff.2 ⟨h o ho, hname⟩
    rw [option?_iff_isForemost.2 (h p hp)] at hoption
    exact (Option.some.inj hoption).symm
  · intro h o ho
    obtain ⟨c, hc⟩ := exists_isForemost ho (sameFolded_refl _)
    obtain ⟨hforemost, hname⟩ := option?_eq_some_iff.1 hc
    have hmem : c ∈ g.members := by
      obtain ⟨before, later, hsplit, -⟩ := hforemost
      rw [hsplit]
      exact List.mem_append_right _ List.mem_cons_self
    rwa [← h c hmem o ho hname]

/-! ## The places that a match comes to -/

/-- **That a match comes to a place**, with what it filled on the way and the words that are
left there. -/
inductive Comes : Path → Grammar → List String → List Filling → Path → Grammar → List String → Prop
  /-- It starts there. -/
  | here {path : Path} {g : Grammar} {words : List String} : Comes path g words [] path g words
  /-- A word names an option. -/
  | chosen {path path' : Path} {id oid : SlotId} {slot option : Slot}
      {children rest sub g' : Grammar} {word : String} {later words' : List String}
      {fs : List Filling} :
      slot.isEnum = true → children.option? word = some (oid, option, sub) →
      Comes (onward path rest (path ++ [slot.name] ++ [option.name]) sub).1
        (onward path rest (path ++ [slot.name] ++ [option.name]) sub).2 later fs path' g' words' →
      Comes path (cons id slot children rest) (word :: later)
        (⟨path ++ [slot.name], id, slot, children, rest.isEmpty, word :: later, option.name⟩ :: fs)
        path' g' words'
  /-- A word names no option, and the default stands in. -/
  | defaulted {path path' : Path} {id oid : SlotId} {slot option : Slot}
      {children rest sub g' : Grammar} {word : String} {later words' : List String}
      {fs : List Filling} :
      slot.isEnum = true → children.option? word = none →
      standIn? slot children = some (oid, option, sub) →
      Comes (onward path rest (path ++ [slot.name] ++ [option.name]) sub).1
        (onward path rest (path ++ [slot.name] ++ [option.name]) sub).2 (word :: later) fs path' g'
        words' →
      Comes path (cons id slot children rest) (word :: later)
        (⟨path ++ [slot.name], id, slot, children, rest.isEmpty, word :: later, option.name⟩ :: fs)
        path' g' words'
  /-- Any other slot takes its word. -/
  | taken {path path' : Path} {id : SlotId} {slot : Slot} {children rest g' : Grammar}
      {word value : String} {later words' : List String} {fs : List Filling} :
      slot.isEnum = false → (rest.isEmpty && children.isEmpty) = false →
      slot.read word = .ok value →
      Comes (onward path rest (path ++ [slot.name]) children).1
        (onward path rest (path ++ [slot.name]) children).2 later fs path' g' words' →
      Comes path (cons id slot children rest) (word :: later)
        (⟨path ++ [slot.name], id, slot, children, rest.isEmpty, word :: later, value⟩ :: fs)
        path' g' words'

/-- An outcome behind one more filling without a remark. -/
theorem behind_cons (h : f.remark? = none) :
    outcome.behind (f :: fs) = (outcome.behind fs).after f.binding := by
  simp only [Outcome.behind, boundBy, List.map_cons, List.filterMap_cons_none h, Outcome.after,
    List.cons_append]

/-- And with one. -/
theorem behind_cons_noting {remark : String} (h : f.remark? = some remark) :
    outcome.behind (f :: fs) = ((outcome.behind fs).after f.binding).noting remark := by
  simp only [Outcome.behind, boundBy, List.map_cons, List.filterMap_cons_some h, Outcome.after,
    Outcome.noting, List.cons_append]

/-- **What a match gives is what it gives from a place on that it comes to**, behind what it
filled on the way. -/
theorem Comes.walk_eq (h : Comes path g words fs path' g' words') :
    walk usage path g words = (walk usage path' g' words').behind fs := by
  induction h with
  | here => rfl
  | chosen henum hopt _ ih =>
    rw [walk_chosen henum hopt, ih, behind_cons (remark?_of_named rfl hopt)]
    rfl
  | defaulted henum hnone hdef _ ih =>
    rw [walk_defaulted henum hnone hdef, ih,
      behind_cons_noting (remark?_of_unnamed henum rfl hnone)]
    rfl
  | taken henum hsweep hread _ ih =>
    rw [walk_taken henum hsweep, hread, behind_cons (remark?_of_word henum), ← ih]
    rfl

/-- **A place that a match comes to can be come to with any words left**: the words on the
way stay, and the defaults that stood in are written out. -/
theorem Comes.withLeft (h : Comes path g words fs path' g' words') (left : List String) :
    ∃ words₀ fs₀, Comes path g words₀ fs₀ path' g' left := by
  induction h with
  | here => exact ⟨left, [], .here⟩
  | chosen henum hopt _ ih =>
    obtain ⟨words₀, fs₀, hcomes⟩ := ih
    exact ⟨_, _, .chosen henum hopt hcomes⟩
  | defaulted henum _ hdef _ ih =>
    obtain ⟨words₀, fs₀, hcomes⟩ := ih
    exact ⟨_, _, .chosen henum (standIn?_eq_some hdef) hcomes⟩
  | taken henum hsweep hread _ ih =>
    obtain ⟨words₀, fs₀, hcomes⟩ := ih
    exact ⟨_, _, .taken henum hsweep hread hcomes⟩

end Grammar

namespace HubM

variable {hub : Hub} {id : CommandId} {command : Command} {path : Path} {i : SlotId} {slot : Slot}
variable {children rest : Grammar} {word : String} {words later : List String} {fs : List Filling}

/-- **Which options can be chosen.** Let a match of a command come to an enum with a word
left. If the word is the name of an option up to letter case, the first option of that name
is chosen: the enum is bound to its name, and the match goes on in what it owns, if it owns
anything. There are words that choose an option at that place if and only if no option
before it has its name up to letter case; so all of them can be chosen if and only if
different options have different names. -/
theorem enum_choices (hc : hub.commands[id]? = some command) (henum : slot.isEnum = true)
    (hcomes : Comes [] (layOut hub.slots command.arguments) words fs path
      (cons i slot children rest) (word :: later)) :
    (∀ o ∈ children.members, Text.sameFolded o.2.1.name word = true →
      ∃ c, children.option? word = some c ∧ children.IsForemost c ∧
        Text.sameFolded c.2.1.name o.2.1.name = true ∧ (c = o ↔ children.IsForemost o) ∧
        ∀ usage, matchWords id words usage hub = keepMatch command
          (((walk usage (onward path rest (path ++ [slot.name] ++ [c.2.1.name]) c.2.2).1
            (onward path rest (path ++ [slot.name] ++ [c.2.1.name]) c.2.2).2 later).after
              ⟨path ++ [slot.name], i, c.2.1.name⟩).behind fs) [] hub) ∧
    (∀ o ∈ children.members,
      (∃ words' fs' word' later', Comes [] (layOut hub.slots command.arguments) words' fs' path
        (cons i slot children rest) (word' :: later') ∧ children.option? word' = some o) ↔
        children.IsForemost o) ∧
    ((∀ o ∈ children.members, ∃ words' fs' word' later',
      Comes [] (layOut hub.slots command.arguments) words' fs' path
        (cons i slot children rest) (word' :: later') ∧ children.option? word' = some o) ↔
      ∀ o ∈ children.members, ∀ p ∈ children.members,
        Text.sameFolded o.2.1.name p.2.1.name = true → o = p) := by
  have hchosen : ∀ o, (∃ words' fs' word' later',
      Comes [] (layOut hub.slots command.arguments) words' fs' path
        (cons i slot children rest) (word' :: later') ∧ children.option? word' = some o) ↔
        children.IsForemost o := by
    intro o
    constructor
    · rintro ⟨_, _, word', _, -, hopt⟩
      exact (option?_eq_some_iff.1 hopt).1
    · intro hforemost
      obtain ⟨words', fs', hcomes'⟩ := hcomes.withLeft (o.2.1.name :: later)
      exact ⟨words', fs', _, _, hcomes', option?_iff_isForemost.2 hforemost⟩
  refine ⟨fun o ho hname => ?_, fun o _ => hchosen o, ?_⟩
  · obtain ⟨⟨cid, c, sub⟩, hopt⟩ := exists_isForemost ho hname
    obtain ⟨hforemost, -⟩ := option?_eq_some_iff.1 hopt
    have hsame := (option?_congr hname).symm.trans hopt
    refine ⟨_, hopt, hforemost, (option?_eq_some_iff.1 hsame).2, ?_, fun usage => ?_⟩
    · rw [← option?_iff_isForemost, hsame, Option.some.injEq]
    · rw [matchWords_eq hc, hcomes.walk_eq, walk_chosen henum hopt]
  · rw [← forall_isForemost_iff]
    exact forall₂_congr fun o _ => hchosen o

end HubM

open HubM

/-- An enum with two options of one name up to letter case, of which the second owns a
slot. -/
def Hub.twins : Hub where
  slots :=
    [{ name := "mode", isEnum := true, children := [1, 2] }, { name := "read" },
     { name := "READ", children := [3] }, { name := "user" }]
  commands := [{ name := "Mail", aliases := ["mail"], arguments := [0] }]

/-- The two options. -/
def twinOptions : Grammar :=
  cons 1 { name := "read" } nil
    (cons 2 { name := "READ", children := [3] } (cons 3 { name := "user" } nil nil) nil)

/-- The command passes validation, but the name of the second option chooses the first, and
no words choose the second. -/
theorem twins_choose :
    validate 0 Hub.twins = .ok () Hub.twins ∧
      (∃ c, twinOptions.option? "READ" = some c ∧ c.2.1.name = "read" ∧
        matchWords 0 ["READ", "bob"] "" Hub.twins = keepMatch
          { name := "Mail", aliases := ["mail"], arguments := [0] }
          ((Outcome.stop ["bob"]).after ⟨["mode"], 0, "read"⟩) [] Hub.twins) ∧
      ¬ ∀ o ∈ twinOptions.members, ∃ words fs word later,
        Comes [] (layOut Hub.twins.slots [0]) words fs []
            (cons 0 { name := "mode", isEnum := true, children := [1, 2] } twinOptions nil)
            (word :: later) ∧
          twinOptions.option? word = some o := by
  have hcommand : Hub.twins.commands[0]? =
      some { name := "Mail", aliases := ["mail"], arguments := [0] } := rfl
  have hcomes : Comes [] (layOut Hub.twins.slots [0]) ["READ", "bob"] [] []
      (cons 0 { name := "mode", isEnum := true, children := [1, 2] } twinOptions nil)
      ["READ", "bob"] := .here
  obtain ⟨hname, -, hall⟩ := enum_choices hcommand rfl hcomes
  refine ⟨rfl, ?_, fun hchosen => ?_⟩
  · obtain ⟨c, hopt, -, -, -, hmatch⟩ := hname _ (List.mem_cons_of_mem _ List.mem_cons_self)
      (by decide)
    have hfirst : twinOptions.option? "READ" = some (1, { name := "read" }, nil) := rfl
    obtain rfl : (1, { name := "read" }, nil) = c := Option.some.inj (hfirst.symm.trans hopt)
    exact ⟨_, hopt, rfl, hmatch ""⟩
  · have hsame := hall.1 hchosen _ List.mem_cons_self _
      (List.mem_cons_of_mem _ List.mem_cons_self) (by decide)
    exact absurd (congrArg Prod.fst hsame) (by decide)

end Chatline
