import Chatline.Datum
import Mathlib.Data.List.Forall2
import Mathlib.Data.List.Induction
/-!
# Clean copies

A clean copy is rebuilt from the copies of a value's parts (`copy_eq_rebuild`). That can
only fail at a set: a sequence becomes a list, even one that a set can hold, and no set can
hold a list. So a value has a clean copy if and only if its sets hold no containers, at any
depth. `copy_clean` says that, what the copy is made of, and that it is its own copy. The
keys of a map are put back as they are, so they are no parts here.

What the host hands over satisfies more: its sets hold nothing that can change. There a set
with a sequence of fixed length in it is the one thing that has no copy
(`copy_eq_unhashable_iff`), and a copy is again a value of that kind.
-/

namespace Chatline

namespace Datum

/-! ## Parts -/

/-- The parts of a value: the items of a sequence or a set, and the values of a map. -/
def parts : Datum → List Datum
  | list items => items
  | tuple items => items
  | set items => items
  | map entries => entries.map (·.2)
  | _ => []

/-- Whether a value is made of parts, even if it has none. -/
def isContainer : Datum → Bool
  | list _ | tuple _ | set _ | map _ => true
  | _ => false

/-- **That something holds of a value**, of its parts, of theirs, and so on. -/
inductive Everywhere (p : Datum → Prop) : Datum → Prop
  /-- It holds of the value itself and everywhere in its parts. -/
  | intro {d : Datum} : p d → (∀ part ∈ d.parts, Everywhere p part) → Everywhere p d

variable {d c part item : Datum} {items copies kept : List Datum} {p q : Datum → Prop}
variable {entries : List (Datum × Datum)} {e : Mismatch}

theorem everywhere_iff : d.Everywhere p ↔ p d ∧ ∀ part ∈ d.parts, part.Everywhere p :=
  ⟨fun ⟨h, hparts⟩ => ⟨h, hparts⟩, fun ⟨h, hparts⟩ => ⟨h, hparts⟩⟩

theorem sizeOf_lt_of_mem_parts (h : part ∈ d.parts) : sizeOf part < sizeOf d := by
  cases d with
  | list items | tuple items | set items =>
    have hlt := List.sizeOf_lt_of_mem h
    simp only [list.sizeOf_spec, tuple.sizeOf_spec, set.sizeOf_spec]
    simp only [parts] at hlt
    omega
  | map entries =>
    obtain ⟨⟨key, value⟩, hmem, rfl⟩ := List.mem_map.1 h
    have hlt := List.sizeOf_lt_of_mem hmem
    simp only [map.sizeOf_spec, Prod.mk.sizeOf_spec] at hlt ⊢
    omega
  | null | bool | int | floating | text | unset => cases h

/-- **Values are made of their parts**: what holds of a value whenever it holds of its parts
holds of every value. -/
@[elab_as_elim]
theorem induction_on_parts {motive : Datum → Prop}
    (step : ∀ d, (∀ part ∈ d.parts, motive part) → motive d) (d : Datum) : motive d :=
  step d fun part h =>
    have := sizeOf_lt_of_mem_parts h
    induction_on_parts step part
termination_by sizeOf d

/-! ## Sets -/

/-- **That some values form a set**, or the keys of a map. -/
structure FormSet (values : List Datum) : Prop where
  /-- None of them can change. -/
  unchangeable : ∀ value ∈ values, changeable? value = none
  /-- None is the same as an earlier one. -/
  apart : values.Pairwise fun a b => b.same a = false

/-- **That some values are held** as a set holds them: each of them, or one that is the
same, nothing else, and nothing twice. -/
structure HeldBy (values kept : List Datum) : Prop where
  /-- What is held is one of the values. -/
  drawn : kept ⊆ values
  /-- Each value is held, or is the same as one that is. -/
  covered : ∀ value ∈ values, value ∈ kept ∨ ∃ k ∈ kept, value.same k = true
  /-- None is the same as an earlier one. -/
  apart : kept.Pairwise fun a b => b.same a = false

theorem distinct_append_singleton :
    distinct (items ++ [item]) =
      if (distinct items).any (same item) then distinct items else distinct items ++ [item] := by
  rw [distinct, List.foldl_append]
  rfl

/-- One more value is held, unless one that is the same is there. -/
theorem HeldBy.add (h : HeldBy items kept) :
    HeldBy (items ++ [item]) (if kept.any (same item) then kept else kept ++ [item]) := by
  split
  · next hany =>
    refine ⟨List.subset_append_of_subset_left _ h.drawn, fun value hvalue => ?_, h.apart⟩
    rcases List.mem_append.1 hvalue with hvalue | hvalue
    · exact h.covered value hvalue
    · rw [List.mem_singleton.1 hvalue]
      exact Or.inr (List.any_eq_true.1 hany)
  · next hnone =>
    refine ⟨?_, fun value hvalue => ?_, ?_⟩
    · exact List.append_subset.2 ⟨List.subset_append_of_subset_left _ h.drawn,
        List.subset_append_right _ _⟩
    · rcases List.mem_append.1 hvalue with hvalue | hvalue
      · rcases h.covered value hvalue with hkept | ⟨k, hk, hsame⟩
        · exact Or.inl (List.mem_append_left _ hkept)
        · exact Or.inr ⟨k, List.mem_append_left _ hk, hsame⟩
      · exact Or.inl (List.mem_append_right _ hvalue)
    · have hnew : ∀ k ∈ kept, item.same k = false := by simpa using hnone
      exact List.pairwise_append.2 ⟨h.apart, List.pairwise_singleton _ _,
        fun k hk b hb => List.mem_singleton.1 hb ▸ hnew k hk⟩

theorem heldBy_distinct (items : List Datum) : HeldBy items (distinct items) := by
  induction items using List.reverseRecOn with
  | nil => exact ⟨List.Subset.refl _, fun _ h => Or.inl h, List.Pairwise.nil⟩
  | append_singleton items item ih =>
    rw [distinct_append_singleton]
    exact ih.add

/-- What is apart already is held as it stands. -/
theorem distinct_eq_self (h : items.Pairwise fun a b => b.same a = false) :
    distinct items = items := by
  induction items using List.reverseRecOn with
  | nil => rfl
  | append_singleton items item ih =>
    obtain ⟨hitems, -, hnew⟩ := List.pairwise_append.1 h
    have hnone : items.any (same item) = false := by
      simpa using fun k hk => hnew k hk item List.mem_cons_self
    rw [distinct_append_singleton, ih hitems, if_neg (by rw [hnone]; exact Bool.false_ne_true)]

theorem changeableAmong?_eq_none_iff :
    changeableAmong? items = none ↔ ∀ item ∈ items, changeable? item = none := by
  induction items with
  | nil => simp [changeableAmong?]
  | cons item items ih => simp [changeableAmong?, Option.or_eq_none_iff, ih]

theorem exists_changeable_of_among {type : String} (h : changeableAmong? items = some type) :
    ∃ item ∈ items, changeable? item = some type := by
  induction items with
  | nil => cases h
  | cons item items ih =>
    rcases Option.or_eq_some_iff.1 h with hitem | ⟨-, hitems⟩
    · exact ⟨item, List.mem_cons_self, hitem⟩
    · obtain ⟨other, hother, htype⟩ := ih hitems
      exact ⟨other, List.mem_cons_of_mem _ hother, htype⟩

theorem setOf_eq_ok_iff :
    setOf items = .ok c ↔
      (∀ item ∈ items, changeable? item = none) ∧ c = set (distinct items) := by
  rw [setOf, ← changeableAmong?_eq_none_iff]
  cases changeableAmong? items with
  | none => simp [eq_comm]
  | some type => simp

theorem exists_of_setOf_eq_error (h : setOf items = .error e) :
    ∃ item ∈ items, ∃ type, changeable? item = some type ∧ e = .unhashable type := by
  rw [setOf] at h
  cases hamong : changeableAmong? items with
  | none =>
    rw [hamong] at h
    cases h
  | some type =>
    rw [hamong] at h
    cases h
    obtain ⟨item, hitem, htype⟩ := exists_changeable_of_among hamong
    exact ⟨item, hitem, type, htype, rfl⟩

/-- A set that could be made is one. -/
theorem formSet_distinct (h : ∀ item ∈ items, changeable? item = none) :
    FormSet (distinct items) :=
  have hheld := heldBy_distinct items
  ⟨fun item hitem => h item (hheld.drawn hitem), hheld.apart⟩

/-! ## Rebuilding -/

/-- The value that takes the place of another, given copies of its parts. -/
def rebuild : Datum → List Datum → Except Mismatch Datum
  | list _, copies => .ok (list copies)
  | tuple _, copies => .ok (list copies)
  | map entries, copies => .ok (map ((entries.map (·.1)).zip copies))
  | set _, copies => setOf copies
  | unset, _ => .ok null
  | value, _ => .ok value

theorem copyItems_cons :
    copyItems (item :: items) = (copy item).bind fun c => (copyItems items).map (c :: ·) := by
  rw [copyItems]
  cases copy item <;> cases copyItems items <;> rfl

/-- The entries of a map are copied value by value, and the keys put back in front. -/
theorem copyEntries_eq :
    copyEntries entries =
      (copyItems (entries.map (·.2))).map ((entries.map (·.1)).zip ·) := by
  induction entries with
  | nil => rfl
  | cons entry entries ih =>
    obtain ⟨key, value⟩ := entry
    simp only [copyEntries, ih, List.map_cons, copyItems_cons]
    cases copy value <;> cases copyItems (entries.map (·.2)) <;> rfl

/-- **A copy is rebuilt from the copies of the parts.** -/
theorem copy_eq_rebuild (d : Datum) : copy d = (copyItems d.parts).bind d.rebuild := by
  cases d with
  | list items | tuple items =>
    rw [copy, parts]
    cases copyItems items <;> rfl
  | set items =>
    rw [copy, parts]
    rfl
  | map entries =>
    rw [copy, parts, copyEntries_eq]
    cases copyItems (entries.map (·.2)) <;> rfl
  | null | bool | int | floating | text | unset => rfl

theorem copy_eq_ok_iff :
    copy d = .ok c ↔ ∃ copies, copyItems d.parts = .ok copies ∧ d.rebuild copies = .ok c := by
  rw [copy_eq_rebuild]
  cases copyItems d.parts <;> simp [Except.bind]

theorem copyItems_eq_ok_iff :
    copyItems items = .ok copies ↔ List.Forall₂ (fun item c => copy item = .ok c) items copies := by
  induction items generalizing copies with
  | nil => simp [copyItems, eq_comm]
  | cons item items ih =>
    rw [copyItems_cons, List.forall₂_cons_left_iff]
    simp only [← ih]
    cases copy item with
    | error e => simp [Except.bind]
    | ok c => cases copyItems items <;> simp [Except.bind, Except.map, eq_comm]

theorem exists_of_copyItems_eq_error (h : copyItems items = .error e) :
    ∃ item ∈ items, copy item = .error e := by
  induction items with
  | nil => cases h
  | cons item items ih =>
    rw [copyItems_cons] at h
    cases hitem : copy item with
    | error e' =>
      rw [hitem] at h
      cases h
      exact ⟨item, List.mem_cons_self, hitem⟩
    | ok c =>
      cases hitems : copyItems items with
      | error e' =>
        rw [hitem, hitems] at h
        cases h
        obtain ⟨other, hother, hcopy⟩ := ih hitems
        exact ⟨other, List.mem_cons_of_mem _ hother, hcopy⟩
      | ok copies =>
        rw [hitem, hitems] at h
        cases h

/-- What holds of all copies, said of what they are copies of. -/
theorem forall_copies_iff (h : copyItems items = .ok copies)
    (hp : ∀ item ∈ items, ∀ c, copy item = .ok c → (p c ↔ q item)) :
    (∀ c ∈ copies, p c) ↔ ∀ item ∈ items, q item := by
  rw [copyItems_eq_ok_iff] at h
  induction h with
  | nil => simp
  | cons hcopy _ ih =>
    rw [List.forall_mem_cons, List.forall_mem_cons, hp _ List.mem_cons_self _ hcopy,
      ih fun item hitem => hp item (List.mem_cons_of_mem _ hitem)]

theorem exists_copyItems_iff :
    (∃ copies, copyItems items = .ok copies) ↔ ∀ item ∈ items, ∃ c, copy item = .ok c := by
  constructor
  · rintro ⟨copies, h⟩
    exact (forall_copies_iff h fun _ _ c hcopy => iff_of_true trivial ⟨c, hcopy⟩).1
      fun _ _ => trivial
  · intro hall
    cases h : copyItems items with
    | ok copies => exact ⟨copies, rfl⟩
    | error e =>
      obtain ⟨item, hitem, herror⟩ := exists_of_copyItems_eq_error h
      obtain ⟨c, hcopy⟩ := hall item hitem
      rw [herror] at hcopy
      cases hcopy

/-- The parts of what was rebuilt are among the copies. In a set some may be missing. -/
theorem parts_subset_of_rebuild (h : d.rebuild copies = .ok c) : c.parts ⊆ copies := by
  cases d with
  | list items | tuple items =>
    cases h
    exact List.Subset.refl _
  | map entries =>
    cases h
    intro part hpart
    obtain ⟨⟨key, value⟩, hmem, rfl⟩ := List.mem_map.1 hpart
    exact (List.of_mem_zip hmem).2
  | set items =>
    obtain ⟨-, rfl⟩ := setOf_eq_ok_iff.1 h
    exact (heldBy_distinct copies).drawn
  | null | bool | int | floating | text | unset =>
    cases h
    exact List.nil_subset _

/-- **What rebuilding gives to every value it makes holds everywhere in a copy**; it may ask
something of the values that are copied. -/
theorem everywhere_of_copy
    (node : ∀ {d c copies}, q d → copyItems d.parts = .ok copies → d.rebuild copies = .ok c → p c)
    (hd : d.Everywhere q) (h : copy d = .ok c) : c.Everywhere p := by
  induction hd generalizing c with
  | intro hq _ ih =>
    obtain ⟨copies, hcopies, hrebuild⟩ := copy_eq_ok_iff.1 h
    have hall : ∀ c ∈ copies, c.Everywhere p :=
      (forall_copies_iff hcopies fun part hpart c hcopy => iff_true_intro (ih part hpart hcopy)).2
        fun _ _ => trivial
    have hparts : c.parts ⊆ copies := parts_subset_of_rebuild hrebuild
    exact ⟨node hq hcopies hrebuild, fun part hpart => hall part (hparts hpart)⟩

theorem everywhere_true (d : Datum) : d.Everywhere fun _ => True := by
  induction d using induction_on_parts with
  | step d ih => exact ⟨trivial, ih⟩

/-! ## What has a copy -/

/-- What a set can hold is decided by what was copied: the copy of a container can change,
even that of a sequence of fixed length. -/
theorem changeable?_copy (h : copy d = .ok c) : changeable? c = none ↔ d.isContainer = false := by
  obtain ⟨copies, -, hrebuild⟩ := copy_eq_ok_iff.1 h
  cases d with
  | set items =>
    obtain ⟨-, rfl⟩ := setOf_eq_ok_iff.1 hrebuild
    simp [changeable?, isContainer]
  | list | tuple | map | null | bool | int | floating | text | unset =>
    cases hrebuild
    simp [changeable?, isContainer]

/-- That a value, if it is a set, holds no containers. -/
def HoldsScalars : Datum → Prop
  | set items => ∀ item ∈ items, item.isContainer = false
  | _ => True

/-- Once the parts are copied, only a set can fail. -/
theorem exists_rebuild_iff (h : copyItems d.parts = .ok copies) :
    (∃ c, d.rebuild copies = .ok c) ↔ d.HoldsScalars := by
  cases d with
  | set items =>
    have hholds := forall_copies_iff h fun _ _ _ hcopy => changeable?_copy hcopy
    simp only [rebuild, setOf_eq_ok_iff, exists_and_left, exists_eq, and_true]
    exact hholds
  | list | tuple | map | null | bool | int | floating | text | unset =>
    exact ⟨fun _ => trivial, fun _ => ⟨_, rfl⟩⟩

/-- **Only what a set holds can keep a value from being copied.** -/
theorem exists_copy_iff : (∃ c, copy d = .ok c) ↔ d.Everywhere HoldsScalars := by
  induction d using induction_on_parts with
  | step d ih =>
    have hparts : (∃ copies, copyItems d.parts = .ok copies) ↔
        ∀ part ∈ d.parts, part.Everywhere HoldsScalars := by
      rw [exists_copyItems_iff]
      exact forall₂_congr ih
    -- Both sides now speak of the parts alike, and what is left is the value itself.
    rw [everywhere_iff, ← hparts]
    constructor
    · rintro ⟨c, hcopy⟩
      obtain ⟨copies, hcopies, hrebuild⟩ := copy_eq_ok_iff.1 hcopy
      exact ⟨(exists_rebuild_iff hcopies).1 ⟨c, hrebuild⟩, copies, hcopies⟩
    · rintro ⟨hholds, copies, hcopies⟩
      obtain ⟨c, hrebuild⟩ := (exists_rebuild_iff hcopies).2 hholds
      exact ⟨c, copy_eq_ok_iff.2 ⟨copies, hcopies, hrebuild⟩⟩

/-- **What fails is a set somewhere in the value**, for a copy that it would have to hold. -/
theorem exists_set_of_copy_eq_error (hd : d.Everywhere p) (h : copy d = .error e) :
    ∃ items copies, p (set items) ∧ copyItems items = .ok copies ∧ setOf copies = .error e := by
  induction hd with
  | @intro d hp _ ih =>
    -- A part that fails makes the value fail with the same error; if none does, the set is
    -- the value itself.
    rw [copy_eq_rebuild] at h
    cases hparts : copyItems d.parts with
    | error e' =>
      obtain ⟨part, hpart, hcopy⟩ := exists_of_copyItems_eq_error hparts
      rw [hparts] at h
      cases h
      exact ih part hpart hcopy
    | ok copies =>
      rw [hparts] at h
      cases d with
      | set items => exact ⟨items, copies, hp, hparts, h⟩
      | list | tuple | map | null | bool | int | floating | text | unset => cases h

theorem exists_unhashable_of_copy_eq_error (h : copy d = .error e) :
    ∃ type, e = .unhashable type := by
  obtain ⟨items, copies, -, -, hset⟩ := exists_set_of_copy_eq_error (everywhere_true d) h
  obtain ⟨-, -, type, -, he⟩ := exists_of_setOf_eq_error hset
  exact ⟨type, he⟩

/-! ## What a copy is -/

/-- **That a value is a clean copy of another.** -/
inductive CopiedAs : Datum → Datum → Prop
  /-- What is unset becomes null. -/
  | unset : CopiedAs unset null
  /-- Any other value without parts is its own copy. -/
  | scalar {d : Datum} : d.isContainer = false → d ≠ .unset → CopiedAs d d
  /-- The copy of a list has the copies of its items, one by one. -/
  | list {items copies : List Datum} :
      List.Forall₂ CopiedAs items copies → CopiedAs (list items) (list copies)
  /-- So has that of a sequence of fixed length, which becomes a list. -/
  | tuple {items copies : List Datum} :
      List.Forall₂ CopiedAs items copies → CopiedAs (tuple items) (list copies)
  /-- The copy of a map has the same keys in the same order, and the copies of the values. -/
  | map {entries copies : List (Datum × Datum)} :
      entries.map (·.1) = copies.map (·.1) →
        List.Forall₂ CopiedAs (entries.map (·.2)) (copies.map (·.2)) →
          CopiedAs (map entries) (map copies)
  /-- The copy of a set holds the copies of its items. -/
  | set {items copies kept : List Datum} :
      List.Forall₂ CopiedAs items copies → HeldBy copies kept → CopiedAs (set items) (set kept)

theorem copiedAs_of_copy (h : copy d = .ok c) : d.CopiedAs c := by
  induction d using induction_on_parts generalizing c with
  | step d ih =>
    obtain ⟨copies, hcopies, hrebuild⟩ := copy_eq_ok_iff.1 h
    have hparts : List.Forall₂ CopiedAs d.parts copies :=
      ((List.forall₂_and_left _ _).2 ⟨@ih, copyItems_eq_ok_iff.1 hcopies⟩).imp
        fun _ _ h => h.1 h.2
    cases d with
    | list items =>
      cases hrebuild
      exact .list hparts
    | tuple items =>
      cases hrebuild
      exact .tuple hparts
    | map entries =>
      cases hrebuild
      have hlength : (entries.map (·.1)).length = copies.length := by
        simpa [parts] using hparts.length_eq
      refine .map ?_ ?_
      · rw [List.map_fst_zip (Nat.le_of_eq hlength)]
      · rw [List.map_snd_zip (Nat.le_of_eq hlength.symm)]
        exact hparts
    | set items =>
      obtain ⟨-, rfl⟩ := setOf_eq_ok_iff.1 hrebuild
      exact .set hparts (heldBy_distinct copies)
    | unset =>
      cases hrebuild
      exact .unset
    | null | bool | int | floating | text =>
      cases hrebuild
      exact .scalar rfl nofun

/-- **A clean value**: it is not unset and no sequence of fixed length, and if it is a set
its items form one. -/
def IsClean : Datum → Prop
  | unset => False
  | tuple _ => False
  | set items => FormSet items
  | _ => True

theorem isClean_of_rebuild (h : d.rebuild copies = .ok c) : c.IsClean := by
  cases d with
  | set items =>
    obtain ⟨hunchangeable, rfl⟩ := setOf_eq_ok_iff.1 h
    exact formSet_distinct hunchangeable
  | list | tuple | map | null | bool | int | floating | text | unset =>
    cases h
    trivial

theorem everywhere_isClean_of_copy (h : copy d = .ok c) : c.Everywhere IsClean :=
  everywhere_of_copy (fun _ _ => isClean_of_rebuild) (everywhere_true d) h

/-- **A clean value is its own copy.** -/
theorem copy_eq_self (h : d.Everywhere IsClean) : copy d = .ok d := by
  -- The induction is on where the value is clean, so the parts are clean as well.
  induction h with
  | @intro d hclean _ ih =>
    have hcopies : copyItems d.parts = .ok d.parts :=
      copyItems_eq_ok_iff.2 (List.forall₂_same.2 ih)
    refine copy_eq_ok_iff.2 ⟨d.parts, hcopies, ?_⟩
    cases d with
    | unset | tuple => exact hclean.elim
    | map entries => simp [rebuild, parts, List.zip_map']
    | set items =>
      have hapart : distinct items = items := distinct_eq_self hclean.apart
      exact setOf_eq_ok_iff.2 ⟨hclean.unchangeable, by rw [parts, hapart]⟩
    | list | null | bool | int | floating | text => rfl

/-- **Which values have a clean copy**, and what it is. A value has one if and only if its
sets hold no containers, at any depth. The copy is what `CopiedAs` says, it is clean through
and through, and copying it again changes nothing. Any other value is refused for what one
of its sets would have to hold. -/
theorem copy_clean (d : Datum) :
    (d.Everywhere HoldsScalars ↔
        ∃ c, d.copy = .ok c ∧ d.CopiedAs c ∧ c.Everywhere IsClean ∧ c.copy = .ok c) ∧
      (¬ d.Everywhere HoldsScalars ↔ ∃ type, d.copy = .error (.unhashable type)) := by
  rw [← exists_copy_iff]
  constructor
  · constructor
    · rintro ⟨c, hcopy⟩
      have hclean := everywhere_isClean_of_copy hcopy
      exact ⟨c, hcopy, copiedAs_of_copy hcopy, hclean, copy_eq_self hclean⟩
    · rintro ⟨c, hcopy, -⟩
      exact ⟨c, hcopy⟩
  · cases hcopy : copy d with
    | ok c => simp
    | error e =>
      obtain ⟨type, rfl⟩ := exists_unhashable_of_copy_eq_error hcopy
      simp

/-- A pair keeps a set from being copied, though the set may hold it. -/
example : (set [tuple [int 1, int 2]]).copy = .error (.unhashable "list") ∧
    (tuple [unset, set [unset, int 1]]).copy = .ok (list [null, set [null, int 1]]) := ⟨rfl, rfl⟩

/-! ## What the host hands over -/

/-- **A well-formed value**: the items of a set and the keys of a map form sets. -/
def IsWellFormed : Datum → Prop
  | set items => FormSet items
  | map entries => FormSet (entries.map (·.1))
  | _ => True

/-- That a value, if it is a set, holds no sequences of fixed length. -/
def HoldsNoTuples : Datum → Prop
  | set items => ∀ item ∈ items, ∀ fixed, item ≠ tuple fixed
  | _ => True

/-- Containers of the other kinds can change, so no set holds them. -/
theorem IsWellFormed.holdsScalars_iff (h : d.IsWellFormed) :
    d.HoldsScalars ↔ d.HoldsNoTuples := by
  cases d with
  | set items =>
    refine forall₂_congr fun item hitem => ?_
    have hitem := h.unchangeable item hitem
    cases item <;> simp_all [changeable?, isContainer]
  | list | tuple | map | null | bool | int | floating | text | unset => exact Iff.rfl

theorem everywhere_holdsScalars_iff (h : d.Everywhere IsWellFormed) :
    d.Everywhere HoldsScalars ↔ d.Everywhere HoldsNoTuples := by
  induction h with
  | intro hformed _ ih =>
    rw [everywhere_iff, everywhere_iff, hformed.holdsScalars_iff]
    exact and_congr_right fun _ => forall₂_congr ih

/-- What cannot change is copied as something that cannot, or as a list. -/
theorem changeable?_copy_of_unchangeable {type : String} (hd : changeable? d = none)
    (h : copy d = .ok c) (hc : changeable? c = some type) : type = "list" := by
  obtain ⟨copies, -, hrebuild⟩ := copy_eq_ok_iff.1 h
  cases d with
  | list | set | map => cases hd
  | tuple items =>
    cases hrebuild
    cases hc
    rfl
  | null | bool | int | floating | text | unset =>
    cases hrebuild
    cases hc

theorem isWellFormed_of_rebuild (hd : d.IsWellFormed) (hcopies : copyItems d.parts = .ok copies)
    (h : d.rebuild copies = .ok c) : c.IsWellFormed := by
  cases d with
  | map entries =>
    cases h
    have hlength : (entries.map (·.1)).length = copies.length := by
      simpa [parts] using (copyItems_eq_ok_iff.1 hcopies).length_eq
    rw [IsWellFormed, List.map_fst_zip (Nat.le_of_eq hlength)]
    exact hd
  | set items =>
    obtain ⟨hunchangeable, rfl⟩ := setOf_eq_ok_iff.1 h
    exact formSet_distinct hunchangeable
  | list | tuple | null | bool | int | floating | text | unset =>
    cases h
    trivial

/-- **A copy of a well-formed value is well-formed.** -/
theorem everywhere_isWellFormed_of_copy (hd : d.Everywhere IsWellFormed) (h : copy d = .ok c) :
    c.Everywhere IsWellFormed :=
  everywhere_of_copy isWellFormed_of_rebuild hd h

/-- **A well-formed value is refused** if and only if one of its sets holds a sequence of
fixed length, and always for the list that would take its place. -/
theorem copy_eq_unhashable_iff (h : d.Everywhere IsWellFormed) :
    d.copy = .error (.unhashable "list") ↔ ¬ d.Everywhere HoldsNoTuples := by
  rw [← everywhere_holdsScalars_iff h, ← exists_copy_iff]
  constructor
  · rintro hcopy ⟨c, hc⟩
    rw [hcopy] at hc
    cases hc
  · intro hnone
    cases hcopy : copy d with
    | ok c => exact absurd ⟨c, hcopy⟩ hnone
    | error e =>
      obtain ⟨items, copies, hformed, hcopies, hset⟩ := exists_set_of_copy_eq_error h hcopy
      obtain ⟨c, hc, type, htype, rfl⟩ := exists_of_setOf_eq_error hset
      have hlists : ∀ c ∈ copies, ∀ type, changeable? c = some type → type = "list" :=
        (forall_copies_iff hcopies fun item hitem c hcopy => iff_true_intro fun type =>
          changeable?_copy_of_unchangeable (hformed.unchangeable item hitem) hcopy).2
            fun _ _ => trivial
      rw [hlists c hc type htype]

end Datum

end Chatline
