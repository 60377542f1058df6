import Chatline.Proofs.Match.Kept
/-!
# What becomes of the words

A match neither loses nor makes up words. The texts that the slots took are the
first words in order, and the others are left over (`Conserved`); only the last
slot of a list may take several words as one text. No text gets past a rule or
an enum (`Filling.Justified`), and words are left over only after an enum or
where there are no slots. `match_conserves` says all this of a command.
-/

namespace Chatline

namespace Grammar

/-- The texts that were taken, in order. -/
def texts (fs : List Filling) : List String := fs.filterMap Filling.took?

/-- **What justifies the value of a filled slot**, by the text that it took. -/
inductive Filling.Justified (f : Filling) : Prop
  /-- A text that is not empty satisfies the rule and is the value. -/
  | word {x : String} : f.took? = some x → f.slot.isEnum = false → x ≠ "" →
      f.slot.rule.accepts x = .ok true → f.value = x → f.Justified
  /-- For an empty text the value is the default, or nothing. -/
  | blank : f.took? = some "" → f.slot.isEnum = false → f.value = f.slot.default.getD "" →
      f.Justified
  /-- The text that an enum took is the name of an option up to letter case, and
  the value is the name itself. -/
  | option {x : String} {o : Slot} : f.took? = some x → f.slot.isEnum = true →
      o ∈ f.children.siblings → Text.sameFolded o.name x = true → f.value = o.name → f.Justified
  /-- Nothing was taken because the words had run out: the slot is optional, and
  has its default or nothing. -/
  | lapsed : f.took? = none → f.waiting = [] → f.slot.optional = true →
      f.value = f.slot.default.getD "" → f.Justified
  /-- Nothing was taken because the word names no option of the enum: the value is
  the name of the option that the default names. -/
  | stoodIn {word d : String} {later : List String} {oid : SlotId} {o : Slot} {sub : Grammar} :
      f.took? = none → f.slot.isEnum = true → f.waiting = word :: later →
      f.children.option? word = none → f.slot.default = some d →
      f.children.option? d = some (oid, o, sub) → f.value = o.name → f.Justified

/-- **Where the words of a match are**: the first ones were taken one by one and
the others are left over, or the last text taken is all the others in one. -/
def Conserved (words : List String) (fs : List Filling) (halt : Halt) : Prop :=
  (∃ k, texts fs = words.take k ∧ halt.left = words.drop k) ∨
  ∃ k f, k + 1 < words.length ∧
    texts fs = words.take k ++ [" ".intercalate (words.drop k)] ∧ halt.left = [] ∧
    fs.getLast? = some f ∧ f.took? = some (" ".intercalate (words.drop k)) ∧
    f.slot.isEnum = false ∧ f.children = nil ∧ f.last = true

/-- The slot that a match looked at last. -/
def lastExamined (fs : List Filling) (halt : Halt) : Option Slot :=
  match halt.passed with
  | some slot => some slot
  | none => fs.getLast?.map Filling.slot

variable {path : Path} {g : Grammar} {word x : String} {words later : List String}
variable {f : Filling} {fs : List Filling} {halt : Halt} {s : Slot}

/-! ## One filling -/

/-- An enum takes the word that names one of its options. -/
theorem took?_of_names (henum : f.slot.isEnum = true) (hw : f.waiting = word :: later)
    {found : SlotId × Slot × Grammar} (hopt : f.children.option? word = some found) :
    f.took? = some word := by
  simp only [Filling.took?, hw, henum, hopt, Option.isSome_some, if_true]

/-- An enum takes nothing when the word names none of its options. -/
theorem took?_of_unnamed (henum : f.slot.isEnum = true) (hw : f.waiting = word :: later)
    (hopt : f.children.option? word = none) : f.took? = none := by
  simp only [Filling.took?, hw, henum, hopt, Option.isSome_none, Bool.false_eq_true, if_true,
    if_false]

/-- The last slot of a list takes all words that wait. -/
theorem took?_of_swept (henum : f.slot.isEnum = false) (hw : f.waiting = word :: later)
    (hlast : (f.last && f.children.isEmpty) = true) :
    f.took? = some (" ".intercalate (word :: later)) := by
  simp only [Filling.took?, hw, henum, hlast, Bool.false_eq_true, if_true, if_false]

/-- Any other slot takes its word. -/
theorem took?_of_taken (henum : f.slot.isEnum = false) (hw : f.waiting = word :: later)
    (hlast : (f.last && f.children.isEmpty) = false) : f.took? = some word := by
  simp only [Filling.took?, hw, henum, hlast, Bool.false_eq_true, if_false]

/-- **No text gets past the rule**: what a slot reads from a text is justified
by it. -/
theorem justified_of_read (htook : f.took? = some x) (henum : f.slot.isEnum = false)
    (hread : f.slot.read x = .ok f.value) : f.Justified := by
  rw [Slot.read] at hread
  split at hread
  · next hx =>
    rw [hx] at htook
    have hvalue : f.slot.fallback = f.value := Except.ok.inj hread
    exact .blank htook henum hvalue.symm
  · next hx =>
    cases haccepts : f.slot.rule.accepts x with
    | error failure => rw [haccepts] at hread; cases hread
    | ok verdict =>
      rw [haccepts] at hread
      cases verdict with
      | false => cases hread
      | true =>
        have hvalue : x = f.value := Except.ok.inj hread
        exact .word htook henum hx haccepts hvalue.symm

/-- What stands in for a word is named by a default. -/
theorem default_of_standIn {children sub : Grammar} {oid : SlotId} {option : Slot}
    (h : standIn? s children = some (oid, option, sub)) :
    ∃ d, s.default = some d ∧ children.option? d = some (oid, option, sub) := by
  have hopt := standIn?_eq_some h
  cases hd : s.default with
  | none =>
    have hempty : s.fallback = "" := by rw [Slot.fallback, hd, Option.getD_none]
    rw [standIn?, if_pos hempty] at h
    cases h
  | some d =>
    rw [Slot.fallback, hd, Option.getD_some] at hopt
    exact ⟨d, rfl, hopt⟩

/-! ## A whole trail -/

/-- **Every filling of a trail is justified.** -/
theorem Trail.justified (h : Trail path g words fs halt) : ∀ f ∈ fs, f.Justified := by
  induction h with
  | ended => simp
  | passed => simp
  | lapsed hopt =>
    intro f hf
    rw [List.mem_singleton] at hf
    subst hf
    exact .lapsed rfl rfl hopt rfl
  | chosen henum hopt _ ih =>
    obtain ⟨hmem, hname⟩ := option?_mem hopt
    exact List.forall_mem_cons.2
      ⟨.option (took?_of_names henum rfl hopt) henum hmem hname rfl, ih⟩
  | defaulted henum hnone hdef _ ih =>
    obtain ⟨d, hd, hopt⟩ := default_of_standIn hdef
    exact List.forall_mem_cons.2
      ⟨.stoodIn (took?_of_unnamed henum rfl hnone) henum rfl hnone hd hopt rfl, ih⟩
  | swept henum hread =>
    intro f hf
    rw [List.mem_singleton] at hf
    subst hf
    exact justified_of_read (took?_of_swept henum rfl rfl) henum hread
  | taken henum hsweep hread _ ih =>
    exact List.forall_mem_cons.2
      ⟨justified_of_read (took?_of_taken henum rfl hsweep) henum hread, ih⟩

/-- A slot that takes its word in front conserves the words. -/
theorem Conserved.take (h : Conserved later fs halt) (htook : f.took? = some word) :
    Conserved (word :: later) (f :: fs) halt := by
  have htexts : texts (f :: fs) = word :: texts fs := List.filterMap_cons_some htook
  rcases h with ⟨k, htaken, hleft⟩ | ⟨k, swept, hk, htaken, hleft, hlast, hf⟩
  · refine Or.inl ⟨k + 1, ?_, ?_⟩
    · rw [htexts, htaken, List.take_succ_cons]
    · rw [hleft, List.drop_succ_cons]
  · refine Or.inr ⟨k + 1, swept, ?_, ?_, hleft, ?_, hf⟩
    · rw [List.length_cons]
      omega
    · rw [htexts, htaken, List.take_succ_cons, List.drop_succ_cons, List.cons_append]
    · rw [List.getLast?_cons, hlast, Option.getD_some]

/-- So does a slot that takes nothing. -/
theorem Conserved.pass (h : Conserved words fs halt) (htook : f.took? = none) :
    Conserved words (f :: fs) halt := by
  have htexts : texts (f :: fs) = texts fs := List.filterMap_cons_none htook
  rcases h with ⟨k, htaken, hleft⟩ | ⟨k, swept, hk, htaken, hleft, hlast, hf⟩
  · exact Or.inl ⟨k, htexts.trans htaken, hleft⟩
  · refine Or.inr ⟨k, swept, hk, htexts.trans htaken, hleft, ?_, hf⟩
    rw [List.getLast?_cons, hlast, Option.getD_some]

/-- One slot that takes all words conserves them. -/
theorem conserved_of_swept (henum : f.slot.isEnum = false) (hw : f.waiting = word :: later)
    (hlast : f.last = true) (hown : f.children = nil) :
    Conserved (word :: later) [f] ⟨[], none⟩ := by
  have hend : (f.last && f.children.isEmpty) = true := by rw [hlast, hown]; rfl
  have htook := took?_of_swept henum hw hend
  have htexts : texts [f] = [" ".intercalate (word :: later)] := List.filterMap_cons_some htook
  cases later with
  | nil =>
    -- a word that is alone is taken as it is
    exact Or.inl ⟨1, htexts, rfl⟩
  | cons next later =>
    refine Or.inr ⟨0, f, ?_, htexts, rfl, rfl, htook, henum, hown, hlast⟩
    simp only [List.length_cons]
    omega

/-- **A match conserves its words.** -/
theorem Trail.conserved (h : Trail path g words fs halt) : Conserved words fs halt := by
  induction h with
  | ended => exact Or.inl ⟨0, rfl, rfl⟩
  | lapsed => exact Or.inl ⟨0, rfl, rfl⟩
  | passed => exact Or.inl ⟨0, rfl, rfl⟩
  | chosen henum hopt _ ih => exact ih.take (took?_of_names henum rfl hopt)
  | defaulted henum hnone _ _ ih => exact ih.pass (took?_of_unnamed henum rfl hnone)
  | swept henum => exact conserved_of_swept henum rfl rfl rfl
  | taken henum hsweep _ _ ih => exact ih.take (took?_of_taken henum rfl hsweep)

/-- A filling in front does not change which slot was looked at last. -/
theorem lastExamined_cons (h : lastExamined fs halt = some s) :
    lastExamined (f :: fs) halt = some s := by
  rw [lastExamined] at h ⊢
  cases hpassed : halt.passed with
  | some slot => rw [hpassed] at h; exact h
  | none =>
    rw [hpassed] at h
    obtain ⟨last, hlast, hslot⟩ := Option.map_eq_some_iff.1 h
    simp only [List.getLast?_cons, hlast, Option.getD_some, Option.map_some, hslot]

/-- Without slots a match ends at once. -/
theorem Trail.nil_inv (h : Trail path nil words fs halt) : fs = [] ∧ halt = ⟨words, none⟩ := by
  cases h
  exact ⟨rfl, rfl⟩

/-- A match that goes on after an enum and leaves words over last looked at an
enum. -/
theorem lastExamined_of_enum (henum : f.slot.isEnum = true) (h : Trail path g words fs halt)
    (hlast : g = nil ∨ ∃ s, lastExamined fs halt = some s ∧ s.isEnum = true) :
    ∃ s, lastExamined (f :: fs) halt = some s ∧ s.isEnum = true := by
  rcases hlast with rfl | ⟨s, hs, hsenum⟩
  · obtain ⟨rfl, rfl⟩ := h.nil_inv
    exact ⟨f.slot, rfl, henum⟩
  · exact ⟨s, lastExamined_cons hs, hsenum⟩

/-- **Words are left over only after an enum**, or where there are no slots. -/
theorem Trail.left_over (h : Trail path g words fs halt) (hleft : halt.left ≠ []) :
    g = nil ∨ ∃ s, lastExamined fs halt = some s ∧ s.isEnum = true := by
  induction h with
  | ended => exact Or.inl rfl
  | lapsed => exact absurd rfl hleft
  | passed henum => exact Or.inr ⟨_, rfl, henum⟩
  | chosen henum _ htrail ih => exact Or.inr (lastExamined_of_enum henum htrail (ih hleft))
  | defaulted henum _ _ htrail ih => exact Or.inr (lastExamined_of_enum henum htrail (ih hleft))
  | swept => exact absurd rfl hleft
  | @taken path id slot children rest word value later fs halt henum hsweep _ _ ih =>
    -- the match goes on somewhere, since this slot is not the last without children
    rcases ih hleft with hnil | ⟨s, hs, hsenum⟩
    · rw [onward] at hnil
      split at hnil
      · next hown =>
        change rest = nil at hnil
        rw [hown, hnil] at hsweep
        cases hsweep
      · next hown => exact absurd (isEmpty_iff.2 hnil) hown
    · exact Or.inr ⟨s, lastExamined_cons hs, hsenum⟩

end Grammar

namespace HubM

open Grammar

variable {hub hub' : Hub} {id : CommandId} {command : Command} {words : List String}
variable {usage : String} {b : Bindings}

/-- **Words are conserved, and none gets past validation.** Where no slot stands
in two places, a match that succeeds binds the slots of a trail, in order. Their
texts are the first words and the other words are left over, or the last text is
all the others in one; each slot holds a value that its text justifies. Words are
left over only where there are no slots or after an enum, and the log lists just
these, behind the remarks on the defaults that stood in. -/
theorem match_conserves (hc : hub.commands[id]? = some command)
    (hnd : (layOut hub.slots command.arguments).ids.Nodup)
    (h : matchWords id words usage hub = .ok b hub') :
    ∃ fs halt, Trail [] (layOut hub.slots command.arguments) words fs halt ∧
      b.arguments = fs.map Filling.id ∧
      Conserved words fs halt ∧
      (∀ f ∈ fs, f.Justified ∧ Bindings.current hub'.slots f.id = f.value) ∧
      (halt.left ≠ [] → layOut hub.slots command.arguments = nil ∨
        ∃ s, lastExamined fs halt = some s ∧ s.isEnum = true) ∧
      hub'.events = hub.events ++
        ((fs.filterMap Filling.remark?).map (.log .matcher) ++ command.leftRecord halt.left) := by
  obtain ⟨fs, halt, htrail, rfl, rfl⟩ := trail_of_matchWords hc h
  refine ⟨fs, halt, htrail, Hub.snapshotOf_arguments, htrail.conserved, ?_, htrail.left_over,
    Hub.kept_events⟩
  intro f hf
  exact ⟨htrail.justified f hf, htrail.current_written (heldIn_layOut _) hnd hf⟩

/-- A letter whose last text is all the words that were left. -/
theorem letter_conserved :
    ∃ b hub', matchWords 0 ["send", "bob", "see", "you"] "" Hub.mail = .ok b hub' ∧
      ∃ fs halt, Trail [] (layOut Hub.mail.slots [0]) ["send", "bob", "see", "you"] fs halt ∧
        b.arguments = fs.map Filling.id ∧
        Conserved ["send", "bob", "see", "you"] fs halt ∧
        (∀ f ∈ fs, f.Justified ∧ Bindings.current hub'.slots f.id = f.value) ∧
        (halt.left ≠ [] → layOut Hub.mail.slots [0] = nil ∨
          ∃ s, lastExamined fs halt = some s ∧ s.isEnum = true) ∧
        hub'.events = (fs.filterMap Filling.remark?).map (.log .matcher) ++
          Command.leftRecord { name := "Mail", aliases := ["mail"], arguments := [0] }
            halt.left := by
  have hcommand : Hub.mail.commands[0]? =
      some { name := "Mail", aliases := ["mail"], arguments := [0] } := rfl
  obtain ⟨b, hub', h⟩ :
      ∃ b hub', matchWords 0 ["send", "bob", "see", "you"] "" Hub.mail = .ok b hub' :=
    ⟨_, _, rfl⟩
  exact ⟨b, hub', h, match_conserves hcommand (by decide) h⟩

end HubM

end Chatline
