import Chatline.Proofs.Script.Operand
import Chatline.Proofs.Hub.Settled
/-!
# How slots grow up

A host may make its calls on slots in any order and with any operands, and many of
them are refused. What a call makes of a slot is told by one relation, `Slot.Grown`,
which holds step by step and so over a call for several items. From it,
`slots_grow_up` says what is true of a slot at any time: one that has a default is
optional or an enum, an enum remains one, and options and nested slots are never
mixed. The children of a slot come with the call that brought each of them, which is
kept beside the hub.
-/

namespace Chatline

open Script

/-! ## What a call makes of a slot -/

namespace Slot

variable {on i : SlotId} {method : Method} {slot other third : Slot}

/-- That a slot with a default is optional or an enum. -/
def MayDefault (slot : Slot) : Prop :=
  slot.default.isSome = true → slot.optional = true ∨ slot.isEnum = true

/-- The calls that bring the children of a slot: options if it is an enum, and
nested slots if it is none. -/
def suppliers (slot : Slot) : List Method :=
  if slot.isEnum then [.addOption, .addOptions] else [.addArgument, .addArguments]

/-- **What a call on one slot makes of a slot** of the hub. -/
structure Grown (on : SlotId) (method : Method) (i : SlotId) (slot other : Slot) : Prop where
  /-- An enum remains one. -/
  lasting : slot.isEnum = true → other.isEnum = true
  /-- A slot with children does not become one. -/
  settled : other.isEnum = true → slot.isEnum = true ∨ slot.children = []
  /-- A default is not brought where there may be none, nor left there. -/
  mayDefault : slot.MayDefault → other.MayDefault
  /-- Children come last, to the slot that the call is made on, and through a call
  that is meant for such children. -/
  children : ∃ more, other.children = slot.children ++ more ∧
    (more ≠ [] → i = on ∧ method ∈ other.suppliers)

/-- A slot with children is an enum afterwards if and only if it was one before. -/
theorem Grown.isEnum_eq (h : slot.Grown on method i other) (hne : slot.children ≠ []) :
    other.isEnum = slot.isEnum := by
  rw [Bool.eq_iff_iff]
  exact ⟨fun henum => (h.settled henum).resolve_right hne, h.lasting⟩

/-- So its children are still those of the calls that brought them. -/
theorem Grown.suppliers_eq (h : slot.Grown on method i other) (hne : slot.children ≠ []) :
    other.suppliers = slot.suppliers := by
  rw [suppliers, suppliers, h.isEnum_eq hne]

theorem grown_of_children (hchildren : other.children = slot.children)
    (hlasting : slot.isEnum = true → other.isEnum = true)
    (hsettled : other.isEnum = true → slot.isEnum = true ∨ slot.children = [])
    (hdefault : slot.MayDefault → other.MayDefault) : slot.Grown on method i other := by
  refine ⟨hlasting, hsettled, hdefault, [], ?_, fun hne => absurd rfl hne⟩
  rw [hchildren, List.append_nil]

theorem grown_refl (on : SlotId) (method : Method) (i : SlotId) (slot : Slot) :
    slot.Grown on method i slot :=
  grown_of_children rfl id Or.inl id

/-- **One step after the other.** -/
theorem Grown.trans (h : slot.Grown on method i other) (h' : other.Grown on method i third) :
    slot.Grown on method i third := by
  obtain ⟨more, hmore, hcame⟩ := h.children
  obtain ⟨further, hfurther, hcame'⟩ := h'.children
  refine ⟨fun henum => h'.lasting (h.lasting henum), fun henum => ?_,
    fun hdefault => h'.mayDefault (h.mayDefault hdefault), more ++ further, ?_, fun hne => ?_⟩
  · rcases h'.settled henum with henum | hnil
    · exact h.settled henum
    · rw [hmore] at hnil
      exact Or.inr (List.append_eq_nil_iff.1 hnil).1
  · rw [hfurther, hmore, List.append_assoc]
  · by_cases hnil : further = []
    · -- all of them came first, and from then on the slot had children
      have hmore' : more ≠ [] := by
        intro he
        rw [he, hnil] at hne
        exact hne rfl
      have hchildren : other.children ≠ [] := by
        rw [hmore]
        exact List.append_ne_nil_of_right_ne_nil _ hmore'
      obtain ⟨hon, hmethod⟩ := hcame hmore'
      rw [h'.suppliers_eq hchildren]
      exact ⟨hon, hmethod⟩
    · exact hcame' hnil

theorem grown_holding (value : String) : slot.Grown on method i (slot.holding value) :=
  grown_of_children rfl id Or.inl id

theorem grown_makeOptional : slot.Grown on method i slot.makeOptional :=
  grown_of_children rfl id Or.inl fun _ _ => Or.inl rfl

theorem grown_setValidator (rule : Rule) : slot.Grown on method i (slot.setValidator rule) :=
  grown_of_children rfl id Or.inl id

/-- Only an enum becomes required in spite of its default. -/
theorem grown_makeRequired (h : slot.makeRequired = .ok other) :
    slot.Grown on method i other := by
  rw [makeRequired] at h
  split at h
  · cases h
  · next hfree =>
    cases h
    refine grown_of_children rfl id Or.inl fun _ hdefault => Or.inr ?_
    have hdefault : slot.default.isSome = true := hdefault
    simpa [hdefault] using hfree

theorem grown_makeEnum (h : slot.makeEnum = .ok other) : slot.Grown on method i other := by
  rw [makeEnum] at h
  split at h
  · cases h
  · next hfree =>
    cases h
    refine grown_of_children rfl (fun _ => rfl) (fun _ => ?_) fun _ _ => Or.inr rfl
    by_cases henum : slot.isEnum = true
    · exact Or.inl henum
    · right
      simpa [henum] using hfree

theorem grown_setDefault {value : String} (h : slot.setDefault value = .ok other) :
    slot.Grown on method i other := by
  rw [setDefault] at h
  split at h
  · cases h
  · cases h
  · split at h
    · cases h
    · next hmay =>
      cases h
      refine grown_of_children rfl id Or.inl fun _ _ => ?_
      show slot.optional = true ∨ slot.isEnum = true
      by_cases hoptional : slot.optional = true
      · exact Or.inl hoptional
      · right
        simpa [hoptional] using hmay

theorem grown_bind {word : String} (h : slot.bind word = .ok other) :
    slot.Grown on method i other := by
  rw [bind] at h
  cases hread : slot.read word with
  | error failure => rw [hread] at h; cases h
  | ok value =>
    rw [hread] at h
    cases h
    exact grown_holding value

/-- A slot that is given a nested slot is no enum. -/
theorem grown_addNested {siblings : List Slot} {id : SlotId} {nested : Slot}
    (hmethod : method ∈ [Method.addArgument, .addArguments])
    (h : slot.addNested siblings id nested = .ok other) : slot.Grown on method on other := by
  rw [addNested] at h
  split at h
  · cases h
  · next hplain =>
    obtain ⟨_, -, h⟩ := steps_eq_ok h
    cases h
    refine ⟨fun henum => absurd henum hplain, Or.inl, fun hdefault => hdefault, [id], rfl,
      fun _ => ⟨rfl, ?_⟩⟩
    rw [suppliers, if_neg hplain]
    exact hmethod

/-- A slot that is given an option is an enum from then on, and had no children if it
was none before. -/
theorem grown_addOption {siblings : List Slot} {id : SlotId} {option : Slot}
    (hmethod : method ∈ [Method.addOption, .addOptions])
    (h : slot.addOption siblings id option = .ok other) : slot.Grown on method on other := by
  rw [addOption] at h
  split at h
  · cases h
  · next hfree =>
    obtain ⟨_, -, h⟩ := steps_eq_ok h
    cases h
    refine ⟨fun _ => rfl, fun _ => ?_, fun _ _ => Or.inr rfl, [id], rfl, fun _ => ⟨rfl, hmethod⟩⟩
    by_cases henum : slot.isEnum = true
    · exact Or.inl henum
    · right
      simpa [henum] using hfree

end Slot

/-! ## What a call makes of the hub -/

namespace HubM

variable {α β : Type} {p : HubM α} {k : α → HubM β} {on : SlotId} {method : Method}

/-- That a program makes of every slot what a call on one of them may make of it. -/
def Grows (on : SlotId) (method : Method) (p : HubM α) : Prop :=
  ∀ hub i, Option.Rel (Slot.Grown on method i) hub.slots[i]? (p.after hub).slots[i]?

theorem rel_grown_refl (i : SlotId) (slot? : Option Slot) :
    Option.Rel (Slot.Grown on method i) slot? slot? := by
  cases slot? with
  | none => exact .none
  | some slot => exact .some (slot.grown_refl on method i)

theorem KeepsSlots.grows (h : KeepsSlots p) : Grows on method p := by
  intro hub i
  rw [h hub]
  exact rel_grown_refl i _

theorem Grows.bind (hp : Grows on method p) (hk : ∀ a, Grows on method (k a)) :
    Grows on method (p >>= k) := by
  intro hub i
  rw [after_bind]
  cases p.ended hub with
  | error failure => exact hp hub i
  | ok a =>
    have hfirst := hp hub i
    have hsecond := hk a (p.after hub) i
    generalize hub.slots[i]? = before at hfirst
    generalize (p.after hub).slots[i]? = between at hfirst hsecond
    cases hfirst with
    | none => exact hsecond
    | some hgrown =>
      generalize ((k a).after (p.after hub)).slots[i]? = behind at hsecond
      cases hsecond with
      | some hgrown' => exact .some (hgrown.trans hgrown')

/-- A call for several items is one call for each of them. -/
theorem Grows.forM {f : α → HubM Unit} (h : ∀ a, Grows on method (f a)) (items : List α) :
    Grows on method (items.forM f) := by
  induction items with
  | nil => exact KeepsSlots.grows fun _ => rfl
  | cons item items ih => exact (h item).bind fun _ => ih

theorem rel_grown_set {store : List Slot} {id : SlotId} {other : Slot}
    (h : ∀ slot, store[id]? = some slot → slot.Grown on method id other) (i : SlotId) :
    Option.Rel (Slot.Grown on method i) store[i]? (store.set id other)[i]? := by
  rw [List.getElem?_set]
  split
  · next hid =>
    subst hid
    split
    · next hlt =>
      have hslot := List.getElem?_eq_getElem hlt
      rw [hslot]
      exact .some (h _ hslot)
    · next hge =>
      rw [List.getElem?_eq_none (Nat.le_of_not_lt hge)]
      exact .none
  · exact rel_grown_refl i _

theorem grows_changeSlot {id : SlotId} {change : Slot → Except Failure Slot}
    (h : ∀ slot other, change slot = .ok other → slot.Grown on method id other) :
    Grows on method (changeSlot id change) := by
  intro hub i
  rw [after_changeSlot]
  split
  · next other hchange =>
    refine rel_grown_set (fun slot hslot => ?_) i
    rw [Hub.slotAt_eq hslot] at hchange
    exact h slot other hchange
  · exact rel_grown_refl i _

theorem grows_buildSlot {id : SlotId} {change : Slot → Except BuildError Slot}
    (h : ∀ slot other, change slot = .ok other → slot.Grown on method id other) :
    Grows on method (buildSlot id change) := by
  refine grows_changeSlot fun slot other hchange => h slot other ?_
  cases hresult : change slot with
  | ok a => rw [hresult] at hchange; cases hchange; rfl
  | error e => rw [hresult] at hchange; cases hchange

theorem grows_addNested {nested : SlotId} (hmethod : method ∈ [Method.addArgument, .addArguments]) :
    Grows on method (addNested on nested) := by
  intro hub i
  rw [after_addNested]
  split
  · next other hnested =>
    refine rel_grown_set (fun slot hslot => ?_) i
    rw [Hub.slotAt_eq hslot] at hnested
    exact Slot.grown_addNested hmethod hnested
  · exact rel_grown_refl i _

theorem grows_addOption {option : SlotId} (hmethod : method ∈ [Method.addOption, .addOptions]) :
    Grows on method (addOption on option) := by
  intro hub i
  rw [after_addOption]
  split
  · next other hoption =>
    refine rel_grown_set (fun slot hslot => ?_) i
    rw [Hub.slotAt_eq hslot] at hoption
    exact Slot.grown_addOption hmethod hoption
  · exact rel_grown_refl i _

/-- Resetting changes values alone. -/
theorem grows_resetSlots (ids : List SlotId) : Grows on method (resetSlots ids) := by
  intro hub i
  show Option.Rel _ hub.slots[i]? ((Grammar.layOut hub.slots ids).resetIn hub.slots)[i]?
  rw [Grammar.resetIn_getElem?]
  split
  · cases hub.slots[i]? with
    | none => exact .none
    | some slot => exact .some (slot.grown_holding _)
  · exact rel_grown_refl i _

theorem Idle.grows (h : Idle p) : Grows on method p := h.keepsSlots.grows

/-- **What a call on a slot makes of the slots**, whether or not it succeeds. -/
theorem grows_callOnSlot (id : SlotId) (operands : Operands) (method : Method) :
    Grows id method (callOnSlot id operands method) := by
  have hend : ∀ {p : HubM Unit}, Grows id method p →
      Grows id method (p >>= fun _ => pure (Handle.slot id)) :=
    fun h => h.bind fun _ => (idle_pure _).grows
  have hnone : ∀ m : Mismatch, Grows id method (mismatch m : HubM Handle) :=
    fun m => (idle_mismatch m).grows
  have hnested : ∀ operand, method ∈ [Method.addArgument, .addArguments] →
      Grows id method (addNestedOperand id operand) := fun operand hmethod =>
    (idle_require _ _).grows.bind fun _ => grows_addNested hmethod
  have hoption : ∀ operand, method ∈ [Method.addOption, .addOptions] →
      Grows id method (addOptionOperand id operand) := fun operand hmethod =>
    (idle_require _ _).grows.bind fun _ => grows_addOption hmethod
  cases method with
  | makeOptional =>
    refine hend (grows_buildSlot fun slot other h => ?_)
    cases h
    exact Slot.grown_makeOptional
  | makeRequired => exact hend (grows_buildSlot fun _ _ => Slot.grown_makeRequired)
  | makeEnum => exact hend (grows_buildSlot fun _ _ => Slot.grown_makeEnum)
  | addArgument => exact hend (hnested _ (by decide))
  | addArguments =>
    refine (idle_itemsOf _).grows.bind fun items => hend (Grows.forM (fun item => ?_) items)
    exact hnested item (by decide)
  | addOption => exact hend (hoption _ (by decide))
  | addOptions => exact hend (Grows.forM (fun item => hoption item (by decide)) _)
  | setDefault =>
    refine hend ((idle_display _).grows.bind fun value => ?_)
    exact grows_changeSlot fun _ _ => Slot.grown_setDefault
  | setValidator =>
    refine hend ((idle_rule? _).grows.bind fun _ => (idle_require _ _).grows.bind fun rule => ?_)
    refine grows_buildSlot fun slot other h => ?_
    cases h
    exact Slot.grown_setValidator rule
  | bind =>
    refine (idle_require _ _).grows.bind fun word => hend ?_
    exact grows_changeSlot fun _ _ => Slot.grown_bind
  | reset => exact hend (grows_resetSlots [id])
  | option =>
    refine (idle_comparable _ _).grows.bind fun word => KeepsSlots.grows fun hub => ?_
    show ((if (hub.slotAt id).isEnum then _ else _ : HubM Handle).after hub).slots = hub.slots
    split <;> rfl
  | find =>
    refine (idle_comparable _ _).grows.bind fun name => KeepsSlots.grows fun hub => rfl
  | isValid =>
    refine (idle_require _ _).grows.bind fun word => KeepsSlots.grows ?_
    exact KeepsSlots.bind (fun _ => rfl) fun slot =>
      (keepsSlots_conclude _).bind fun _ => (idle_pure _).keepsSlots
  | _ => exact hnone _

/-- So it is with a call by name, which may be refused for its operands. -/
theorem grows_callOn (id : SlotId) (method : Method) (operands : Operands) :
    Grows id method (callOn (.slot id) method operands) := by
  rw [callOn]
  split
  · dsimp only
    split
    · exact (idle_mismatch_bind _ _).grows
    · exact grows_callOnSlot id operands method
  · exact (idle_mismatch_bind _ _).grows

end HubM

/-! ## Any order of calls -/

/-- A call in the life of slots. -/
inductive ArgumentCall where
  /-- A new slot. -/
  | make (name optional : Datum)
  /-- A call on a slot, by its name and with any operands. -/
  | on (id : SlotId) (method : Method) (operands : Operands)

def ArgumentCall.run : ArgumentCall → HubM Unit
  | make name optional => do
    let name ← HubM.require .argumentName name.text?
    let _ ← HubM.newSlot (← HubM.build (Slot.make name optional.truthy))
  | on id method operands => do let _ ← HubM.callOn (.slot id) method operands

/-- The hub with what has brought the children of each slot. -/
structure Upbringing where
  /-- The hub. -/
  hub : Hub
  /-- The children of a slot, each with the call that brought it. -/
  came : SlotId → List (SlotId × Method) := fun _ => []

namespace Upbringing

/-- What is there after one more call. Children that the slot has more than before
came through the call. -/
def after (u : Upbringing) (call : ArgumentCall) : Upbringing where
  hub := call.run.after u.hub
  came i := u.came i ++
    match call with
    | .make .. => []
    | .on id method _ =>
      if id = i then
        (((call.run.after u.hub).slotAt i).children.drop (u.hub.slotAt i).children.length).map
          (·, method)
      else []

/-- What some calls make of a hub, one after the other. -/
def through (u : Upbringing) (calls : List ArgumentCall) : Upbringing := calls.foldl after u

end Upbringing

/-- **What some calls build** on a hub that has no slots yet. -/
def rear (base : Hub) (calls : List ArgumentCall) : Upbringing :=
  Upbringing.through { hub := base.storing [] } calls

/-- **What is so of a slot at any time**, if its children came as told. -/
structure Slot.Reared (slot : Slot) (came : List (SlotId × Method)) : Prop where
  /-- If it has a default it is optional or an enum. -/
  mayDefault : slot.MayDefault
  /-- Its children are those that came. -/
  children : slot.children = came.map Prod.fst
  /-- They came through calls that are meant for such children. -/
  suppliers : ∀ child ∈ came, child.2 ∈ slot.suppliers

/-- What grows up stays so, with the children that the call brought. -/
theorem Slot.Reared.grow {slot other : Slot} {came : List (SlotId × Method)} {on i : SlotId}
    {method : Method} (h : slot.Reared came) (hgrown : slot.Grown on method i other) :
    other.Reared (came ++
      if on = i then (other.children.drop slot.children.length).map (·, method) else []) := by
  obtain ⟨more, hmore, hcame⟩ := hgrown.children
  have hdrop : other.children.drop slot.children.length = more := by
    rw [hmore, List.drop_left]
  have hold : ∀ child ∈ came, child.2 ∈ other.suppliers := by
    intro child hchild
    have hne : slot.children ≠ [] := by
      rw [h.children]
      exact List.ne_nil_of_mem (List.mem_map_of_mem hchild)
    rw [hgrown.suppliers_eq hne]
    exact h.suppliers child hchild
  rw [hdrop]
  by_cases hon : on = i
  · rw [if_pos hon]
    refine ⟨hgrown.mayDefault h.mayDefault, ?_, fun child hchild => ?_⟩
    · rw [hmore, h.children, List.map_append, List.map_map]
      exact congrArg _ (List.map_id more).symm
    · rcases List.mem_append.1 hchild with hchild | hnew
      · exact hold child hchild
      · obtain ⟨id, hid, rfl⟩ := List.mem_map.1 hnew
        exact (hcame (List.ne_nil_of_mem hid)).2
  · -- nothing comes to a slot that the call was not made on
    have hnil : more = [] := by
      by_contra hne
      exact hon (hcame hne).1.symm
    rw [if_neg hon, List.append_nil]
    refine ⟨hgrown.mayDefault h.mayDefault, ?_, hold⟩
    rw [hmore, hnil, List.append_nil, h.children]

namespace Upbringing

variable {u : Upbringing} {call : ArgumentCall} {i : SlotId} {slot : Slot}

/-- **That all slots are reared**, and that no children came to a slot that is not
there. -/
structure Sound (u : Upbringing) : Prop where
  /-- Each slot is reared. -/
  reared : ∀ i (slot : Slot), u.hub.slots[i]? = some slot → slot.Reared (u.came i)
  /-- To a slot that is not there no children came. -/
  fresh : ∀ i, u.hub.slots.length ≤ i → u.came i = []

/-- A slot is new to the hub, if its name is not refused. -/
theorem slots_make (name optional : Datum) (hub : Hub) :
    ∃ more, ((ArgumentCall.make name optional).run.after hub).slots = hub.slots ++ more ∧
      ∀ slot ∈ more, slot.Reared [] := by
  cases hname : name.text? with
  | none =>
    refine ⟨[], ?_, fun slot hslot => by cases hslot⟩
    rw [List.append_nil, ArgumentCall.run, hname]
    rfl
  | some s =>
    cases hmake : Slot.make s optional.truthy with
    | error e =>
      refine ⟨[], ?_, fun slot hslot => by cases hslot⟩
      rw [List.append_nil, ArgumentCall.run, hname]
      simp only [HubM.require, pure_bind, hmake]
      rfl
    | ok slot =>
      refine ⟨[slot], ?_, fun other hother => ?_⟩
      · rw [ArgumentCall.run, hname]
        simp only [HubM.require, pure_bind, hmake]
        rfl
      · rw [List.mem_singleton.1 hother]
        rw [Slot.make] at hmake
        split at hmake
        · cases hmake
        · cases hmake
          exact ⟨fun hdefault => (by cases hdefault), rfl, fun child hchild => (by cases hchild)⟩

theorem slots_on (id : SlotId) (method : Method) (operands : Operands) (hub : Hub) (i : SlotId) :
    Option.Rel (Slot.Grown id method i) hub.slots[i]?
      ((ArgumentCall.on id method operands).run.after hub).slots[i]? :=
  ((HubM.grows_callOn id method operands).bind fun _ => (HubM.idle_pure _).grows) hub i

theorem came_on {id : SlotId} {method : Method} {operands : Operands} {slot other : Slot}
    (hslot : u.hub.slots[i]? = some slot)
    (hother : (u.after (.on id method operands)).hub.slots[i]? = some other) :
    (u.after (.on id method operands)).came i = u.came i ++
      if id = i then (other.children.drop slot.children.length).map (·, method) else [] := by
  rw [← Hub.slotAt_eq hslot, ← Hub.slotAt_eq hother]
  rfl

/-- **Each call** keeps all slots reared. -/
theorem Sound.after (h : u.Sound) (call : ArgumentCall) : (u.after call).Sound := by
  cases call with
  | make name optional =>
    have hcame : (u.after (.make name optional)).came = u.came :=
      funext fun i => List.append_nil _
    obtain ⟨more, hslots, hmore⟩ := slots_make name optional u.hub
    have hslots : (u.after (.make name optional)).hub.slots = u.hub.slots ++ more := hslots
    constructor
    · intro i slot hslot
      rw [hslots, List.getElem?_append] at hslot
      rw [hcame]
      split at hslot
      · exact h.reared i slot hslot
      · next hge =>
        rw [h.fresh i (Nat.le_of_not_lt hge)]
        exact hmore slot (List.mem_of_getElem? hslot)
    · intro i hi
      rw [hslots, List.length_append] at hi
      rw [hcame]
      exact h.fresh i (by omega)
  | on id method operands =>
    have hrel : ∀ i, Option.Rel (Slot.Grown id method i) u.hub.slots[i]?
        (u.after (.on id method operands)).hub.slots[i]? := slots_on id method operands u.hub
    constructor
    · intro i other hother
      have hgrown := hrel i
      rw [hother] at hgrown
      cases hslot : u.hub.slots[i]? with
      | none => rw [hslot] at hgrown; cases hgrown
      | some slot =>
        rw [hslot] at hgrown
        cases hgrown with
        | some hgrown =>
          rw [came_on hslot hother]
          exact (h.reared i slot hslot).grow hgrown
    · intro i hi
      have hgrown := hrel i
      rw [List.getElem?_eq_none hi] at hgrown
      cases hslot : u.hub.slots[i]? with
      | some slot => rw [hslot] at hgrown; cases hgrown
      | none =>
        -- a slot that is not there has no children before the call, nor after it
        have hnone : (u.after (.on id method operands)).came i = u.came i ++
            if id = i then [] else [] := by
          have hbefore : u.hub.slotAt i = { name := "" } := by rw [Hub.slotAt, hslot]; rfl
          have hbehind : (u.after (.on id method operands)).hub.slotAt i = { name := "" } := by
            rw [Hub.slotAt, List.getElem?_eq_none hi]; rfl
          show u.came i ++ (if id = i then
            (((u.after (.on id method operands)).hub.slotAt i).children.drop
              (u.hub.slotAt i).children.length).map (·, method) else []) = _
          rw [hbefore, hbehind]
          rfl
        rw [hnone, ite_self, List.append_nil]
        exact h.fresh i (List.getElem?_eq_none_iff.1 hslot)

theorem isEnum_after (call : ArgumentCall) (hslot : u.hub.slots[i]? = some slot)
    (henum : slot.isEnum = true) :
    ∃ later, (u.after call).hub.slots[i]? = some later ∧ later.isEnum = true := by
  cases call with
  | make name optional =>
    obtain ⟨more, hslots, -⟩ := slots_make name optional u.hub
    refine ⟨slot, ?_, henum⟩
    show ((ArgumentCall.make name optional).run.after u.hub).slots[i]? = some slot
    rw [hslots, List.getElem?_append_left (List.getElem?_eq_some_iff.1 hslot).1, hslot]
  | on id method operands =>
    have hgrown := slots_on id method operands u.hub i
    rw [hslot] at hgrown
    generalize hlater : ((ArgumentCall.on id method operands).run.after u.hub).slots[i]? = later?
      at hgrown
    cases hgrown with
    | some hgrown => exact ⟨_, hlater, hgrown.lasting henum⟩

theorem isEnum_through (calls : List ArgumentCall) (hslot : u.hub.slots[i]? = some slot)
    (henum : slot.isEnum = true) :
    ∃ later, (u.through calls).hub.slots[i]? = some later ∧ later.isEnum = true := by
  induction calls generalizing u slot with
  | nil => exact ⟨slot, hslot, henum⟩
  | cons call calls ih =>
    obtain ⟨later, hlater, henum⟩ := isEnum_after call hslot henum
    exact ih hlater henum

/-- **Any calls** keep all slots reared. -/
theorem Sound.through (h : u.Sound) (calls : List ArgumentCall) : (u.through calls).Sound := by
  induction calls generalizing u with
  | nil => exact h
  | cons call calls ih => exact ih (h.after call)

/-- Children come through the calls that were made, on the slot whose children they
are. -/
theorem mem_calls_of_came {calls : List ArgumentCall} {child : SlotId × Method}
    (h : child ∈ (u.through calls).came i) (hold : child ∉ u.came i) :
    ∃ operands, .on i child.2 operands ∈ calls := by
  -- the first call after which the child is there is the one that brought it
  induction calls generalizing u with
  | nil => exact absurd h hold
  | cons call calls ih =>
    by_cases hcall : child ∈ (u.after call).came i
    · rcases List.mem_append.1 hcall with hbefore | hnew
      · exact absurd hbefore hold
      · cases call with
        | make name optional => cases hnew
        | on id method operands =>
          dsimp only at hnew
          split at hnew
          · next hid =>
            obtain ⟨_, _, rfl⟩ := List.mem_map.1 hnew
            exact ⟨operands, hid ▸ List.mem_cons_self⟩
          · cases hnew
    · obtain ⟨operands, hmem⟩ := ih h hcall
      exact ⟨operands, List.mem_cons_of_mem _ hmem⟩

end Upbringing

/-- **Slots in any state.** Whatever calls were made, in any order and with any operands,
accepted or refused: a slot that has a default is optional or an enum; an enum remains
one through all further calls; and its children are those that came through calls on it,
all of them as options if it is an enum and all of them as nested slots if it is none. -/
theorem slots_grow_up (base : Hub) (calls : List ArgumentCall) (i : SlotId) (slot : Slot)
    (hslot : (rear base calls).hub.slots[i]? = some slot) :
    (slot.default.isSome = true → slot.optional = true ∨ slot.isEnum = true) ∧
      (slot.isEnum = true → ∀ more, ∃ later,
        (rear base (calls ++ more)).hub.slots[i]? = some later ∧ later.isEnum = true) ∧
      slot.children = ((rear base calls).came i).map Prod.fst ∧
      ∀ child method, (child, method) ∈ (rear base calls).came i →
        (∃ operands, .on i method operands ∈ calls) ∧
        if slot.isEnum then method = .addOption ∨ method = .addOptions
        else method = .addArgument ∨ method = .addArguments := by
  have hstart : ({ hub := base.storing [] } : Upbringing).Sound := by
    constructor
    · intro i slot hslot
      cases hslot
    · intro i _
      rfl
  have hreared := (hstart.through calls).reared i slot hslot
  refine ⟨hreared.mayDefault, fun henum more => ?_, hreared.children, fun child method hcame => ?_⟩
  · have happend : rear base (calls ++ more) = (rear base calls).through more :=
      List.foldl_append
    rw [happend]
    exact Upbringing.isEnum_through more hslot henum
  · have hmethod := hreared.suppliers _ hcame
    refine ⟨Upbringing.mem_calls_of_came hcame List.not_mem_nil, ?_⟩
    rw [Slot.suppliers] at hmethod
    split
    · next henum => simpa [henum] using hmethod
    · next hplain => simpa [hplain] using hmethod

/-- Calls that make an enum with a default and one option, in which a nested slot is
refused and the default may come although the slot is required. -/
def modeCalls : List ArgumentCall :=
  [.make (.text "mode") (.bool false), .make (.text "read") (.bool false),
   .on 0 .setDefault { items := [.text "read"] }, .on 0 .addOption { items := [.slot 1] },
   .on 0 .setDefault { items := [.text "read"] }, .on 0 .addArgument { items := [.slot 1] },
   .on 0 .makeRequired {}]

/-- The mode is an enum with a default from then on, and its option came as one. -/
theorem mode_grows_up :
    ∃ slot, (rear {} modeCalls).hub.slots[0]? = some slot ∧ slot.default = some "read" ∧
      (slot.optional = true ∨ slot.isEnum = true) ∧
      (∀ more, ∃ later, (rear {} (modeCalls ++ more)).hub.slots[0]? = some later ∧
        later.isEnum = true) ∧
      slot.children = ((rear {} modeCalls).came 0).map Prod.fst ∧
      (rear {} modeCalls).came 0 = [(1, .addOption)] ∧
      ∃ operands, .on 0 .addOption operands ∈ modeCalls := by
  have hslot : (rear {} modeCalls).hub.slots[0]? = some
      { name := "mode", isEnum := true, default := some "read", value := "read",
        children := [1] } := rfl
  have hcame : (rear {} modeCalls).came 0 = [(1, .addOption)] := rfl
  obtain ⟨hdefault, hlasting, hchildren, hsuppliers⟩ := slots_grow_up {} modeCalls 0 _ hslot
  obtain ⟨hcall, -⟩ := hsuppliers 1 .addOption (hcame ▸ List.mem_singleton_self _)
  exact ⟨_, hslot, rfl, hdefault rfl, hlasting rfl, hchildren, hcame, hcall⟩

end Chatline
