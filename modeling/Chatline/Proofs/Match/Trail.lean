import Chatline.Proofs.Grammar.Options
/-!
# The trail of a match

`Grammar.walk` says how words are matched; a trail says what a match that
succeeded was. It lists the slots that were filled, each with the words that
were waiting when the match came to it, and tells where the match stopped.
`walk_eq_of_trail` and `exists_trail` make the two one: a match succeeds exactly
when it has a trail, and what it gives is read off that trail. Statements about
all matches are then inductions over trails.
-/

namespace Chatline

namespace Grammar

/-- Where a match goes on once a slot is filled: in what the slot or its chosen
option owns, and with the later siblings if that is nothing. -/
def onward (path : Path) (rest : Grammar) (inner : Path) (owned : Grammar) : Path × Grammar :=
  if owned.isEmpty then (path, rest) else (inner, owned)

/-- What holds of the later siblings and of what is owned holds of wherever a
match goes on. -/
theorem onward_cases {P : Path → Grammar → Prop} {path inner : Path} {rest owned : Grammar}
    (hrest : P path rest) (howned : P inner owned) :
    P (onward path rest inner owned).1 (onward path rest inner owned).2 := by
  rw [onward]
  split
  · exact hrest
  · exact howned

/-- The option that stands in for a word that names none: the one that the
default names, unless the default is empty. -/
def standIn? (slot : Slot) (children : Grammar) : Option (SlotId × Slot × Grammar) :=
  if slot.fallback = "" then none else children.option? slot.fallback

/-- What stands in is an option. -/
theorem standIn?_eq_some {slot : Slot} {children sub : Grammar} {oid : SlotId} {option : Slot}
    (h : standIn? slot children = some (oid, option, sub)) :
    children.option? slot.fallback = some (oid, option, sub) := by
  rw [standIn?] at h
  split at h
  · cases h
  · exact h

/-- A slot that a match has filled. -/
structure Filling where
  /-- The names that lead from the root to the slot, options included. -/
  path : Path
  /-- The number of the slot. -/
  id : SlotId
  /-- The slot as it was. -/
  slot : Slot
  /-- What the slot owns. -/
  children : Grammar
  /-- Whether it is the last of its list. -/
  last : Bool
  /-- The words that were waiting when the match came to it. -/
  waiting : List String
  /-- The value it was given. -/
  value : String

namespace Filling

/-- The filling as the match reports it. -/
def binding (f : Filling) : Binding := ⟨f.path, f.id, f.value⟩

/-- The text that the slot took from the words. It took nothing when the words
had run out, and an enum takes nothing when its word names none of its options. -/
def took? (f : Filling) : Option String :=
  match f.waiting with
  | [] => none
  | word :: later =>
    if f.slot.isEnum then if (f.children.option? word).isSome then some word else none
    else if f.last && f.children.isEmpty then some (" ".intercalate (word :: later))
    else some word

/-- The remark that the filling leaves in the log: that a default stood in. -/
def remark? (f : Filling) : Option String :=
  match f.waiting with
  | [] => none
  | word :: _ =>
    if f.slot.isEnum && (f.children.option? word).isNone then some (defaultRemark f.slot word)
    else none

end Filling

/-- Where a match that succeeded came to its end. -/
structure Halt where
  /-- The words that are left over. -/
  left : List String
  /-- The optional enum that was passed over, if that is what ended the match. -/
  passed : Option Slot

/-- **The trail of a match** of words against the slots at the end of a path. -/
inductive Trail : Path → Grammar → List String → List Filling → Halt → Prop
  /-- No slot is left. -/
  | ended {path : Path} {words : List String} : Trail path nil words [] ⟨words, none⟩
  /-- The words have run out: an optional slot has its fallback and ends the match. -/
  | lapsed {path : Path} {id : SlotId} {slot : Slot} {children rest : Grammar} :
      slot.optional = true →
      Trail path (cons id slot children rest) []
        [⟨path ++ [slot.name], id, slot, children, rest.isEmpty, [], slot.fallback⟩] ⟨[], none⟩
  /-- The word names no option, and no default stands in: an optional enum that
  is not the last of its list ends the match. -/
  | passed {path : Path} {id : SlotId} {slot : Slot} {children rest : Grammar} {word : String}
      {later : List String} :
      slot.isEnum = true → slot.optional = true → rest.isEmpty = false →
      children.option? word = none → standIn? slot children = none →
      Trail path (cons id slot children rest) (word :: later) [] ⟨word :: later, some slot⟩
  /-- The word names an option. -/
  | chosen {path : Path} {id oid : SlotId} {slot option : Slot} {children rest sub : Grammar}
      {word : String} {later : List String} {fs : List Filling} {halt : Halt} :
      slot.isEnum = true → children.option? word = some (oid, option, sub) →
      Trail (onward path rest (path ++ [slot.name] ++ [option.name]) sub).1
        (onward path rest (path ++ [slot.name] ++ [option.name]) sub).2 later fs halt →
      Trail path (cons id slot children rest) (word :: later)
        (⟨path ++ [slot.name], id, slot, children, rest.isEmpty, word :: later, option.name⟩ :: fs)
        halt
  /-- The word names no option: the default stands in, and the word waits on. -/
  | defaulted {path : Path} {id oid : SlotId} {slot option : Slot} {children rest sub : Grammar}
      {word : String} {later : List String} {fs : List Filling} {halt : Halt} :
      slot.isEnum = true → children.option? word = none →
      standIn? slot children = some (oid, option, sub) →
      Trail (onward path rest (path ++ [slot.name] ++ [option.name]) sub).1
        (onward path rest (path ++ [slot.name] ++ [option.name]) sub).2 (word :: later) fs halt →
      Trail path (cons id slot children rest) (word :: later)
        (⟨path ++ [slot.name], id, slot, children, rest.isEmpty, word :: later, option.name⟩ :: fs)
        halt
  /-- The last slot of a list takes all words that wait. -/
  | swept {path : Path} {id : SlotId} {slot : Slot} {word : String} {later : List String}
      {value : String} :
      slot.isEnum = false →
      slot.read (" ".intercalate (word :: later)) = .ok value →
      Trail path (cons id slot nil nil) (word :: later)
        [⟨path ++ [slot.name], id, slot, nil, true, word :: later, value⟩] ⟨[], none⟩
  /-- Any other slot takes its word. -/
  | taken {path : Path} {id : SlotId} {slot : Slot} {children rest : Grammar}
      {word value : String} {later : List String} {fs : List Filling} {halt : Halt} :
      slot.isEnum = false → (rest.isEmpty && children.isEmpty) = false →
      slot.read word = .ok value →
      Trail (onward path rest (path ++ [slot.name]) children).1
        (onward path rest (path ++ [slot.name]) children).2 later fs halt →
      Trail path (cons id slot children rest) (word :: later)
        (⟨path ++ [slot.name], id, slot, children, rest.isEmpty, word :: later, value⟩ :: fs) halt

/-! ## Matching, step by step -/

section Steps

variable {usage : String} {path : Path} {id oid : SlotId} {slot option : Slot}
variable {children rest sub : Grammar} {word value : String} {words later : List String}

/-- Choosing is looking the option up and matching on in what it owns. -/
theorem choose_eq (usage : String) (path : Path) (word : String) (later : List String)
    (g : Grammar) :
    choose usage path word later g = (g.option? word).map fun (_, option, sub) =>
      (option.name,
        if sub.isEmpty then none else some (walk usage (path ++ [option.name]) sub later)) := by
  induction g with
  | nil => rfl
  | cons id slot children rest _ ih =>
    rw [choose, option?]
    split
    · rfl
    · exact ih

/-- Matching on is matching in what is owned, if there is anything. -/
theorem walk_onward (inner : Path) (owned : Grammar) :
    walk usage (onward path rest inner owned).1 (onward path rest inner owned).2 words =
      if owned.isEmpty then walk usage path rest words else walk usage inner owned words := by
  rw [onward]
  split <;> rfl

/-- One word alone is not changed by merging. -/
theorem merged_cons (word : String) (later : List String) :
    merged (word :: later) = [" ".intercalate (word :: later)] := by
  cases later with
  | nil => rfl
  | cons next later => rfl

/-- The words that a slot starts with. -/
theorem words_eq_nil_iff {p : Bool} : (if p then merged words else words) = [] ↔ words = [] := by
  cases words with
  | nil => cases p <;> simp [merged]
  | cons word later => cases p <;> simp [merged_cons]

/-- Without words an optional slot ends the match. -/
theorem walk_lapsed (h : slot.optional = true) :
    walk usage path (cons id slot children rest) [] =
      (Outcome.stop []).after ⟨path ++ [slot.name], id, slot.fallback⟩ := by
  rw [walk]
  simp only [words_eq_nil_iff.2 rfl, h, if_true]

/-- Without words a required slot is missing. -/
theorem walk_missing (h : slot.optional = false) :
    walk usage path (cons id slot children rest) [] =
      .fail (.fault (missing usage slot children)) := by
  rw [walk]
  simp only [words_eq_nil_iff.2 rfl, h, Bool.false_eq_true, if_false]

/-- A word that names an option chooses it. -/
theorem walk_chosen (henum : slot.isEnum = true)
    (hopt : children.option? word = some (oid, option, sub)) :
    walk usage path (cons id slot children rest) (word :: later) =
      (walk usage (onward path rest (path ++ [slot.name] ++ [option.name]) sub).1
        (onward path rest (path ++ [slot.name] ++ [option.name]) sub).2 later).after
        ⟨path ++ [slot.name], id, option.name⟩ := by
  rw [walk]
  simp only [henum, Bool.not_true, Bool.and_false, Bool.false_and, Bool.false_eq_true, if_false,
    if_true, choose_eq, hopt, Option.map_some, walk_onward]
  split <;> rfl

/-- The look-up of a default, as a match makes it. -/
theorem byDefault_eq (slot : Slot) (children : Grammar) (path : Path) (words : List String) :
    (if slot.fallback = "" then none else choose usage path slot.fallback words children) =
      (standIn? slot children).map fun (_, option, sub) =>
        (option.name,
          if sub.isEmpty then none else some (walk usage (path ++ [option.name]) sub words)) := by
  rw [standIn?]
  split
  · rfl
  · exact choose_eq usage path slot.fallback words children

/-- A word that names no option leaves the enum to its default. -/
theorem walk_defaulted (henum : slot.isEnum = true) (hnone : children.option? word = none)
    (hdef : standIn? slot children = some (oid, option, sub)) :
    walk usage path (cons id slot children rest) (word :: later) =
      ((walk usage (onward path rest (path ++ [slot.name] ++ [option.name]) sub).1
        (onward path rest (path ++ [slot.name] ++ [option.name]) sub).2 (word :: later)).after
        ⟨path ++ [slot.name], id, option.name⟩).noting (defaultRemark slot word) := by
  rw [walk]
  simp only [henum, Bool.not_true, Bool.and_false, Bool.false_and, Bool.false_eq_true, if_false,
    if_true, choose_eq usage _ word, hnone, Option.map_none, byDefault_eq, hdef, Option.map_some,
    walk_onward]
  split <;> rfl

/-- Without a default an optional enum is passed over, unless it is the last. -/
theorem walk_unnamed (henum : slot.isEnum = true) (hnone : children.option? word = none)
    (hdef : standIn? slot children = none) :
    walk usage path (cons id slot children rest) (word :: later) =
      if slot.optional && !rest.isEmpty then .stop (word :: later)
      else .fail (.fault (unrecognized usage slot children word)) := by
  rw [walk]
  simp only [henum, Bool.not_true, Bool.and_false, Bool.false_and, Bool.false_eq_true, if_false,
    if_true, choose_eq usage _ word, hnone, Option.map_none, byDefault_eq, hdef]

/-- The last slot of a list takes all words that wait. -/
theorem walk_swept (henum : slot.isEnum = false) :
    walk usage path (cons id slot nil nil) (word :: later) =
      match slot.read (" ".intercalate (word :: later)) with
      | .error failure => .fail failure
      | .ok value => (Outcome.stop []).after ⟨path ++ [slot.name], id, value⟩ := by
  rw [walk]
  cases hread : slot.read (" ".intercalate (word :: later)) <;>
    simp only [isEmpty, henum, Bool.not_false, Bool.and_self, if_true, merged_cons,
      Bool.false_eq_true, if_false, walk, hread]

/-- Any other slot takes its word. -/
theorem walk_taken (henum : slot.isEnum = false)
    (hsweep : (rest.isEmpty && children.isEmpty) = false) :
    walk usage path (cons id slot children rest) (word :: later) =
      match slot.read word with
      | .error failure => .fail failure
      | .ok value =>
        (walk usage (onward path rest (path ++ [slot.name]) children).1
          (onward path rest (path ++ [slot.name]) children).2 later).after
          ⟨path ++ [slot.name], id, value⟩ := by
  rw [walk]
  cases hread : slot.read word <;>
    simp only [henum, Bool.not_false, Bool.and_true, hsweep, Bool.false_eq_true, if_false,
      walk_onward, hread]

end Steps

/-! ## Which slots a match writes -/

/-- That every match against some slots gives values to these slots alone. -/
def BindsIn (usage : String) (ids : List SlotId) (path : Path) (g : Grammar) : Prop :=
  ∀ words, ∀ b ∈ (walk usage path g words).bound, b.slot ∈ ids

/-- A slot that is bound in front, before slots that it owns or that come later. -/
theorem after_bound_mem {id : SlotId} {slot : Slot} {children rest : Grammar} {o : Outcome}
    {path : Path} {value : String} (h : ∀ b ∈ o.bound, b.slot ∈ children.ids ++ rest.ids) :
    ∀ b ∈ (o.after ⟨path, id, value⟩).bound, b.slot ∈ (cons id slot children rest).ids := by
  intro b hb
  rcases List.mem_cons.1 hb with rfl | hb
  · exact List.mem_cons_self
  · exact List.mem_cons_of_mem _ (h b hb)

/-- An enum is bound by the option that its word names, by the one that stands in,
or not at all. -/
theorem bindsIn_enum {usage : String} {path : Path} {id : SlotId} {slot : Slot}
    {children rest : Grammar} {word : String} {later : List String} (henum : slot.isEnum = true)
    (hrest : ∀ path, BindsIn usage (children.ids ++ rest.ids) path rest)
    (hown : ∀ word oid option sub, children.option? word = some (oid, option, sub) →
      ∀ path, BindsIn usage (children.ids ++ rest.ids) path sub) :
    ∀ b ∈ (walk usage path (cons id slot children rest) (word :: later)).bound,
      b.slot ∈ (cons id slot children rest).ids := by
  have honward : ∀ inner owned, BindsIn usage (children.ids ++ rest.ids) inner owned →
      BindsIn usage (children.ids ++ rest.ids) (onward path rest inner owned).1
        (onward path rest inner owned).2 :=
    fun _ _ => onward_cases (P := BindsIn usage (children.ids ++ rest.ids)) (hrest path)
  cases hopt : children.option? word with
  | some found =>
    obtain ⟨oid, option, sub⟩ := found
    rw [walk_chosen henum hopt]
    exact after_bound_mem (honward _ _ (hown word oid option sub hopt _) later)
  | none =>
    cases hdef : standIn? slot children with
    | some found =>
      obtain ⟨oid, option, sub⟩ := found
      rw [walk_defaulted henum hopt hdef]
      exact after_bound_mem
        (honward _ _ (hown _ oid option sub (standIn?_eq_some hdef) _) (word :: later))
    | none =>
      rw [walk_unnamed henum hopt hdef]
      split <;> exact List.forall_mem_nil _

/-- A slot that is no enum is bound if its rule accepts what it takes. -/
theorem bindsIn_word {usage : String} {path : Path} {id : SlotId} {slot : Slot}
    {children rest : Grammar} {word : String} {later : List String} (henum : slot.isEnum = false)
    (hrest : ∀ path, BindsIn usage (children.ids ++ rest.ids) path rest)
    (hown : ∀ path, BindsIn usage (children.ids ++ rest.ids) path children) :
    ∀ b ∈ (walk usage path (cons id slot children rest) (word :: later)).bound,
      b.slot ∈ (cons id slot children rest).ids := by
  cases hsweep : rest.isEmpty && children.isEmpty with
  | true =>
    rw [Bool.and_eq_true, isEmpty_iff, isEmpty_iff] at hsweep
    obtain ⟨rfl, rfl⟩ := hsweep
    rw [walk_swept henum]
    cases slot.read (" ".intercalate (word :: later)) with
    | error failure => exact List.forall_mem_nil _
    | ok value => exact after_bound_mem (List.forall_mem_nil _)
  | false =>
    rw [walk_taken henum hsweep]
    cases slot.read word with
    | error failure => exact List.forall_mem_nil _
    | ok value =>
      exact after_bound_mem (onward_cases (P := BindsIn usage (children.ids ++ rest.ids))
        (hrest path) (hown _) later)

/-- **A match writes slots of its grammar alone**, also when it fails. -/
theorem bindsIn_ids (usage : String) (path : Path) (g : Grammar) :
    BindsIn usage g.ids path g := by
  induction g using options_induction generalizing path with
  | nil =>
    intro words b hb
    cases hb
  | cons id slot children rest ihc ihr iho =>
    -- an enum goes on in what its option owns, past the option itself: `iho` speaks of that
    have hrest : ∀ path, BindsIn usage (children.ids ++ rest.ids) path rest :=
      fun path words b hb => List.mem_append_right _ (ihr path words b hb)
    intro words
    cases words with
    | nil =>
      cases hopt : slot.optional with
      | true =>
        rw [walk_lapsed hopt]
        exact after_bound_mem (List.forall_mem_nil _)
      | false =>
        rw [walk_missing hopt]
        exact List.forall_mem_nil _
    | cons word later =>
      cases henum : slot.isEnum with
      | true =>
        refine bindsIn_enum henum hrest fun word oid option sub hopt path words b hb => ?_
        have hsub := (option?_ids hopt).subset (iho word oid option sub hopt path words b hb)
        exact List.mem_append_left _ hsub
      | false =>
        refine bindsIn_word henum hrest fun path words b hb => ?_
        exact List.mem_append_left _ (ihc path words b hb)

/-! ## Matches and trails -/

variable {usage : String} {path : Path} {g : Grammar} {words left : List String}
variable {fs : List Filling} {halt : Halt}

/-- The outcome of a match with a trail: what was filled, the remarks on the
defaults that stood in, and the words that are left. -/
def outcomeOf (fs : List Filling) (halt : Halt) : Outcome where
  bound := fs.map Filling.binding
  remarks := fs.filterMap Filling.remark?
  result := .ok halt.left

/-- A slot that is no enum leaves no remark. -/
theorem remark?_of_word {f : Filling} (henum : f.slot.isEnum = false) : f.remark? = none := by
  rw [Filling.remark?]
  split
  · rfl
  · simp only [henum, Bool.false_and, Bool.false_eq_true, if_false]

/-- Nor does an enum whose word names an option. -/
theorem remark?_of_named {f : Filling} {word : String} {later : List String}
    {found : SlotId × Slot × Grammar} (hw : f.waiting = word :: later)
    (hopt : f.children.option? word = some found) : f.remark? = none := by
  simp only [Filling.remark?, hw, hopt, Option.isNone_some, Bool.and_false, Bool.false_eq_true,
    if_false]

/-- A default that stands in is remarked on. -/
theorem remark?_of_unnamed {f : Filling} {word : String} {later : List String}
    (henum : f.slot.isEnum = true) (hw : f.waiting = word :: later)
    (hnone : f.children.option? word = none) :
    f.remark? = some (defaultRemark f.slot word) := by
  simp only [Filling.remark?, hw, henum, hnone, Option.isNone_none, Bool.and_self, if_true]

/-- A filling without a remark in front of an outcome. -/
theorem outcomeOf_cons {f : Filling} (h : f.remark? = none) :
    outcomeOf (f :: fs) halt = (outcomeOf fs halt).after f.binding := by
  simp only [outcomeOf, List.map_cons, List.filterMap_cons_none h, Outcome.after]

/-- A filling with a remark in front of an outcome. -/
theorem outcomeOf_cons_noting {f : Filling} {remark : String} (h : f.remark? = some remark) :
    outcomeOf (f :: fs) halt = ((outcomeOf fs halt).after f.binding).noting remark := by
  simp only [outcomeOf, List.map_cons, List.filterMap_cons_some h, Outcome.after, Outcome.noting]

/-- **A match with a trail succeeds**, and gives what the trail says. -/
theorem walk_eq_of_trail (h : Trail path g words fs halt) :
    walk usage path g words = outcomeOf fs halt := by
  induction h with
  | ended => rfl
  | lapsed hopt => rw [walk_lapsed hopt]; rfl
  | passed henum hopt hrest hnone hdef =>
    rw [walk_unnamed henum hnone hdef, hopt, hrest]
    rfl
  | chosen henum hopt _ ih =>
    rw [walk_chosen henum hopt, ih, outcomeOf_cons (remark?_of_named rfl hopt)]
    rfl
  | defaulted henum hnone hdef _ ih =>
    rw [walk_defaulted henum hnone hdef, ih,
      outcomeOf_cons_noting (remark?_of_unnamed henum rfl hnone)]
    rfl
  | swept henum hread =>
    rw [walk_swept henum, hread, outcomeOf_cons (remark?_of_word henum)]
    rfl
  | taken henum hsweep hread _ ih =>
    rw [walk_taken henum hsweep, hread, outcomeOf_cons (remark?_of_word henum), ← ih]
    rfl

/-- A filled slot in front does not change how a match ends. -/
@[simp] theorem after_result (b : Binding) (o : Outcome) : (o.after b).result = o.result := rfl

/-- Nor does a remark. -/
@[simp] theorem noting_result (r : String) (o : Outcome) : (o.noting r).result = o.result := rfl

/-- That every match against some slots which leaves these words has a trail. -/
def Traced (usage : String) (left : List String) (path : Path) (g : Grammar) : Prop :=
  ∀ words, (walk usage path g words).result = .ok left →
    ∃ fs halt, Trail path g words fs halt ∧ halt.left = left

/-- Without words only an optional slot lets a match succeed. -/
theorem exists_trail_nil {id : SlotId} {slot : Slot} {children rest : Grammar}
    (h : (walk usage path (cons id slot children rest) []).result = .ok left) :
    ∃ fs halt, Trail path (cons id slot children rest) [] fs halt ∧ halt.left = left := by
  cases hopt : slot.optional with
  | true =>
    rw [walk_lapsed hopt] at h
    cases h
    exact ⟨_, _, .lapsed hopt, rfl⟩
  | false =>
    rw [walk_missing hopt] at h
    cases h

/-- An enum is filled by the option that its word names, by the one that stands
in, or is passed over. -/
theorem exists_trail_enum {id : SlotId} {slot : Slot} {children rest : Grammar} {word : String}
    {later : List String} (henum : slot.isEnum = true)
    (hrest : ∀ path, Traced usage left path rest)
    (hown : ∀ word oid option sub, children.option? word = some (oid, option, sub) →
      ∀ path, Traced usage left path sub)
    (h : (walk usage path (cons id slot children rest) (word :: later)).result = .ok left) :
    ∃ fs halt, Trail path (cons id slot children rest) (word :: later) fs halt ∧
      halt.left = left := by
  cases hopt : children.option? word with
  | some found =>
    obtain ⟨oid, option, sub⟩ := found
    rw [walk_chosen henum hopt, after_result] at h
    obtain ⟨fs, halt, htrail, hleft⟩ := onward_cases (P := Traced usage left) (hrest path)
      (hown word oid option sub hopt _) later h
    exact ⟨_, halt, .chosen henum hopt htrail, hleft⟩
  | none =>
    cases hdef : standIn? slot children with
    | some found =>
      obtain ⟨oid, option, sub⟩ := found
      -- the word waits on, so the match goes on with all the words
      rw [walk_defaulted henum hopt hdef, noting_result, after_result] at h
      obtain ⟨fs, halt, htrail, hleft⟩ := onward_cases (P := Traced usage left) (hrest path)
        (hown _ oid option sub (standIn?_eq_some hdef) _) (word :: later) h
      exact ⟨_, halt, .defaulted henum hopt hdef htrail, hleft⟩
    | none =>
      rw [walk_unnamed henum hopt hdef] at h
      split at h
      · next hpass =>
        rw [Bool.and_eq_true, Bool.not_eq_true'] at hpass
        cases h
        exact ⟨_, _, .passed henum hpass.1 hpass.2 hopt hdef, rfl⟩
      · cases h

/-- A slot that is no enum is filled by the words it takes. -/
theorem exists_trail_word {id : SlotId} {slot : Slot} {children rest : Grammar} {word : String}
    {later : List String} (henum : slot.isEnum = false)
    (hrest : ∀ path, Traced usage left path rest) (hown : ∀ path, Traced usage left path children)
    (h : (walk usage path (cons id slot children rest) (word :: later)).result = .ok left) :
    ∃ fs halt, Trail path (cons id slot children rest) (word :: later) fs halt ∧
      halt.left = left := by
  cases hsweep : rest.isEmpty && children.isEmpty with
  | true =>
    rw [Bool.and_eq_true, isEmpty_iff, isEmpty_iff] at hsweep
    obtain ⟨rfl, rfl⟩ := hsweep
    rw [walk_swept henum] at h
    cases hread : slot.read (" ".intercalate (word :: later)) with
    | error failure => simp only [hread, Outcome.fail] at h; cases h
    | ok value =>
      simp only [hread, after_result] at h
      cases h
      exact ⟨_, _, .swept henum hread, rfl⟩
  | false =>
    rw [walk_taken henum hsweep] at h
    cases hread : slot.read word with
    | error failure => simp only [hread, Outcome.fail] at h; cases h
    | ok value =>
      simp only [hread, after_result] at h
      obtain ⟨fs, halt, htrail, hleft⟩ := onward_cases (P := Traced usage left) (hrest path)
        (hown _) later h
      exact ⟨_, halt, .taken henum hsweep hread htrail, hleft⟩

/-- All matches that succeed have trails, wherever the slots stand. -/
theorem traced (g : Grammar) (path : Path) : Traced usage left path g := by
  induction g using options_induction generalizing path with
  | nil =>
    intro words h
    cases h
    exact ⟨[], ⟨left, none⟩, .ended, rfl⟩
  | cons id slot children rest ihc ihr iho =>
    intro words h
    cases words with
    | nil => exact exists_trail_nil h
    | cons word later =>
      cases henum : slot.isEnum with
      | true => exact exists_trail_enum henum ihr iho h
      | false => exact exists_trail_word henum ihr ihc h

/-- **A match that succeeds has a trail.** -/
theorem exists_trail (h : (walk usage path g words).result = .ok left) :
    ∃ fs halt, Trail path g words fs halt ∧ halt.left = left :=
  traced g path words h

/-! ## What every trail keeps to -/

/-- Where a match goes on stands in what is owned or among the later siblings. -/
theorem ids_onward {path inner : Path} {children rest owned : Grammar}
    (h : owned.ids.Sublist children.ids) :
    (onward path rest inner owned).2.ids.Sublist (children.ids ++ rest.ids) :=
  onward_cases (P := fun _ g => g.ids.Sublist (children.ids ++ rest.ids))
    (List.sublist_append_right _ _) (h.trans (List.sublist_append_left _ _))

/-- **A match never comes back**: it fills slots in the order in which the
grammar lists them, each place at most once. -/
theorem Trail.ids_sublist (h : Trail path g words fs halt) :
    (fs.map Filling.id).Sublist g.ids := by
  induction h with
  | ended => exact List.Sublist.slnil
  | lapsed => exact List.singleton_sublist.2 List.mem_cons_self
  | passed => exact List.nil_sublist _
  | chosen _ hopt _ ih => exact (ih.trans (ids_onward (option?_ids hopt))).cons_cons _
  | defaulted _ _ hdef _ ih =>
    exact (ih.trans (ids_onward (option?_ids (standIn?_eq_some hdef)))).cons_cons _
  | swept => exact List.singleton_sublist.2 List.mem_cons_self
  | taken _ _ _ _ ih => exact (ih.trans (ids_onward (List.Sublist.refl _))).cons_cons _

/-- **Every slot that a match fills was reached**: what passes on from the slots
of the match to all that they own holds where the slot stands. -/
theorem Trail.reaches {P : Grammar → Prop} (hP : Hereditary P)
    (h : Trail path g words fs halt) (hg : P g) :
    ∀ f ∈ fs, ∃ rest, P (cons f.id f.slot f.children rest) := by
  induction h with
  | ended => simp
  | passed => simp
  | lapsed => exact List.forall_mem_singleton.2 ⟨_, hg⟩
  | swept => exact List.forall_mem_singleton.2 ⟨_, hg⟩
  | chosen _ hopt _ ih =>
    obtain ⟨hchildren, hrest⟩ := hP hg
    exact List.forall_mem_cons.2
      ⟨⟨_, hg⟩, ih (onward_cases (P := fun _ g => P g) hrest (hP.option? hchildren hopt))⟩
  | defaulted _ _ hdef _ ih =>
    obtain ⟨hchildren, hrest⟩ := hP hg
    have hsub := hP.option? hchildren (standIn?_eq_some hdef)
    exact List.forall_mem_cons.2
      ⟨⟨_, hg⟩, ih (onward_cases (P := fun _ g => P g) hrest hsub)⟩
  | taken _ _ _ _ ih =>
    obtain ⟨hchildren, hrest⟩ := hP hg
    exact List.forall_mem_cons.2
      ⟨⟨_, hg⟩, ih (onward_cases (P := fun _ g => P g) hrest hchildren)⟩

end Grammar

end Chatline
