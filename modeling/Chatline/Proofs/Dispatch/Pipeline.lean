import Chatline.Proofs.Dispatch.Course
import Chatline.Proofs.Fault.Contents
/-!
# The pipeline of a dispatched line

Every line goes through the same gates in the same order. `Orderly` lists what can be
counted on: when a line is passed over, which callbacks are asked and how often, when an
action is run, and which faults are handed over. `orderly_parseWithin` says that every
line is handled so, whatever the callbacks do; it follows from the courses that a line
can take.
-/

namespace Chatline

/-! ## What is read off a journal -/

namespace Entry

/-- Whether a precondition was asked. -/
def isAsked : Entry → Bool
  | .asked _ _ => true
  | _ => false

/-- Whether an action was run. -/
def isActed : Entry → Bool
  | .acted _ _ _ => true
  | _ => false

/-- The fault that was handed over. -/
def fault? : Entry → Option Fault
  | .delivered _ fault _ => some fault
  | _ => none

/-- How far down the pipeline an entry is made. -/
def stage : Entry → Nat
  | .called _ => 0
  | .asked _ _ => 1
  | .matched _ _ _ => 2
  | .acted _ _ _ => 3
  | .suggested _ _ => 4
  | .delivered _ _ _ => 5
  | .within entry => entry.stage

end Entry

/-- The faults that were handed over, in order. -/
def deliveries (entries : List Entry) : List Fault := entries.filterMap Entry.fault?

theorem deliveries_append (entries more : List Entry) :
    deliveries (entries ++ more) = deliveries entries ++ deliveries more :=
  List.filterMap_append

/-! ## Lines that are passed over -/

namespace Hub

/-- **That a line is passed over**: nothing but blanks is in it, it does not start with the
marker, or no token follows the marker. -/
def PassesOver (hub : Hub) (line : Line) : Prop :=
  let marker := (hub.registryAt line.registry).marker.toList
  let text := Text.strip line.text.toList
  text = [] ∨ (marker ≠ [] ∧ ¬ Text.lower marker <+: Text.lower text) ∨
    Token.tokenize (String.ofList (text.drop marker.length)) = []

/-- A line is passed over exactly if no tokens are found in it. -/
theorem tokens_eq_nil_iff {hub : Hub} {line : Line} :
    hub.tokens line = [] ↔ hub.PassesOver line := by
  simp only [tokens, PassesOver, Registry.callIn?, List.isEmpty_iff, List.isPrefixOf_iff_prefix]
  by_cases htext : Text.strip line.text.toList = []
  · simp only [htext, if_true, true_or]
  · by_cases hmarker : (hub.registryAt line.registry).marker.toList = []
    · simp only [hmarker, htext, if_false, if_true, false_or, ne_eq, not_true, false_and,
        List.length_nil, List.drop_zero]
    · by_cases hstart : Text.lower (hub.registryAt line.registry).marker.toList <+:
          Text.lower (Text.strip line.text.toList)
      · simp only [hmarker, htext, hstart, if_false, if_true, false_or, ne_eq, not_true,
          and_false]
      · simp only [hmarker, htext, hstart, if_false, false_or, ne_eq, not_false_eq_true, and_self,
          true_or]

end Hub

/-! ## Levels -/

/-- **How a level compares with the one that a command requires**: whether it stands below
that one on the number line, if it stands anywhere. -/
inductive Standing (required : Int) (level : Datum) : Except Mismatch Bool → Prop
  /-- It is too low. -/
  | low {place : Place} : level.place? = some place → place.isBelow (.ofInt required) = true →
      Standing required level (.ok true)
  /-- It is not. -/
  | enough {place : Place} : level.place? = some place →
      place.isBelow (.ofInt required) = false → Standing required level (.ok false)
  /-- It is no number. -/
  | incomparable : level.place? = none →
      Standing required level (.error (.notComparable ">" "int" level.typeName))

section Levels

variable {command : Signature} {level : Datum}

/-- **The gate compares the two levels.** -/
theorem standing_isDenied :
    Standing command.accessLevel level (Registry.isDenied command level) := by
  rw [Registry.isDenied, Datum.isExceededBy?]
  cases hplace : level.place? with
  | none => exact .incomparable hplace
  | some place =>
    cases hbelow : place.isBelow (.ofInt command.accessLevel) with
    | true => rw [Option.map_some, hbelow]; exact .low hplace hbelow
    | false => rw [Option.map_some, hbelow]; exact .enough hplace hbelow

theorem Place.isBelow_ofInt (m n : Int) : (ofInt m).isBelow (ofInt n) = decide (m < n) := by
  rw [ofInt, ofInt, isBelow, Int.natCast_one, Int.mul_one, Int.mul_one]

/-- **Whole numbers** are compared as such. -/
theorem isDenied_of_whole {n : Int} (h : level.whole? = some n) :
    Registry.isDenied command level = .ok (decide (n < command.accessLevel)) := by
  have hplace : level.place? = some (.ofInt n) := by
    cases level with
    | bool b => cases h; rfl
    | int m => cases h; rfl
    | _ => cases h
  rw [Registry.isDenied, Datum.isExceededBy?, hplace, Option.map_some, Place.isBelow_ofInt]

end Levels

/-! ## Orderly lines -/

/-- **What can be counted on when a line calls a command.** -/
structure OrderlyCall (registry : Registry) (command : Command) (id : CommandId)
    (words : List String) (level : Datum) (entries : List Entry) (ended : Except Failure Bool) :
    Prop where
  /-- The level of the caller is compared with that of the command. -/
  gate : Standing command.accessLevel level (Registry.isDenied command.toSignature level)
  /-- Whole numbers are compared as such. -/
  whole : ∀ n, level.whole? = some n →
    Registry.isDenied command.toSignature level = .ok (decide (n < command.accessLevel))
  /-- A caller whose level is too low is told so. -/
  denied : Registry.isDenied command.toSignature level = .ok true → deliveries entries =
    [(Registry.denied command.toSignature level).withOptions registry.faultOptions]
  /-- It is told by a fault of that kind, with the command and the level. -/
  told : Registry.isDenied command.toSignature level = .ok true → ∃ fault,
    deliveries entries = [fault] ∧ fault.Tells (.coded .permissionDenied)
      ("Command '" ++ command.name ++ "' requires permission level " ++
        toString command.accessLevel ++ ". (Currently only " ++ level.display ++ ")")
      ([("command", .named command.name), ("access_level", .datum level)] ++
        registry.faultOptions)
  /-- Only a level that is no number cannot be compared, and that is a failure. -/
  incomparable : ∀ m, Registry.isDenied command.toSignature level = .error m →
    level.place? = none ∧ deliveries entries = [] ∧ ended = .error (.mismatch m)
  /-- In both cases neither the precondition nor the action is run. -/
  barred : Registry.isDenied command.toSignature level ≠ .ok false →
    ∀ e ∈ entries, e.isAsked = false ∧ e.isActed = false
  /-- Otherwise the precondition is asked once, if there is one. -/
  asked : Registry.isDenied command.toSignature level = .ok false →
    entries.countP Entry.isAsked = if command.precondition.isSome then 1 else 0
  /-- The entries go down the pipeline, and there is one at most at each stage. -/
  staged : entries.Pairwise fun a b => a.stage < b.stage
  /-- The action is run once at most. -/
  once : entries.countP Entry.isActed ≤ 1
  /-- It is run on the bindings of a match of the words after the alias, and only
  where no precondition gave a reason against it. -/
  acted : ∀ actor subject answer, .acted actor subject answer ∈ entries → actor = id ∧
    (command.precondition = none ∨
      ∃ reason, .asked id (.ok reason) ∈ entries ∧ reason.truthy = false) ∧
    ∃ b, subject = .bindings b ∧ .matched id words (.ok b) ∈ entries
  /-- A call that does not come to its action, and does not fail, is reported by one fault. -/
  unacted : (∀ e ∈ entries, e.isActed = false) → ended = .ok true →
    ∃ fault, deliveries entries = [fault]
  /-- Nothing is reported of an action that succeeds. -/
  done : ∀ actor subject result, .acted actor subject (.ok result) ∈ entries →
    deliveries entries = [] ∧ ended = .ok true
  /-- An action that fails with a fault is reported by that fault. -/
  faulted : ∀ actor subject fault, .acted actor subject (.error (.fault fault)) ∈ entries →
    deliveries entries = [fault.withOptions registry.faultOptions]
  /-- An action that fails otherwise is not reported, and the failure escapes. -/
  escaped : ∀ actor subject failure, .acted actor subject (.error failure) ∈ entries →
    (∀ fault, failure ≠ .fault fault) → deliveries entries = [] ∧ ended = .error failure

/-- **What can be counted on when a line is handled**, in terms of what is entered on its own
account and how it ends. -/
structure Orderly (hub : Hub) (line : Line) (entries : List Entry)
    (ended : Except Failure Bool) : Prop where
  /-- The result is false exactly if the line is passed over. -/
  passed : ended = .ok false ↔ hub.PassesOver line
  /-- Faults go to the sink if there is one. -/
  sink : ∀ toSink fault outcome, .delivered toSink fault outcome ∈ entries →
    toSink = (hub.registryAt line.registry).sink.isSome
  /-- Where no command is called, neither a precondition nor an action is run. -/
  uncalled : hub.called? line = none → ∀ e ∈ entries, e.isAsked = false ∧ e.isActed = false
  /-- A word that calls nothing is reported, and then there is a hint at most. -/
  unknown : ∀ called words, hub.tokens line = called :: words → hub.called? line = none →
    ended = .ok true →
    deliveries entries = [(Registry.notFound called).withOptions
        (hub.registryAt line.registry).faultOptions] ∨
      ∃ suggestions, deliveries entries = [(Registry.notFound called).withOptions
          (hub.registryAt line.registry).faultOptions,
        (Registry.didYouMean called suggestions).withOptions
          (hub.registryAt line.registry).faultOptions]
  /-- They are told by faults of these kinds. -/
  announced : ∀ called words, hub.tokens line = called :: words → hub.called? line = none →
    ended = .ok true →
    ∃ suggestions, Announced (hub.registryAt line.registry) called suggestions (deliveries entries)
  /-- A command that is called is called in order. -/
  called : ∀ id, hub.called? line = some id →
    OrderlyCall (hub.registryAt line.registry) (hub.commandAt id) id (hub.tokens line).tail
      line.level entries ended

section Courses

variable {registry : Registry} {command : Command} {id : CommandId} {words : List String}
variable {level : Datum} {entries more : List Entry} {ended settled : Except Failure Unit}

theorem place?_of_incomparable {m : Mismatch}
    (h : Registry.isDenied command.toSignature level = .error m) : level.place? = none := by
  have hstanding : Standing command.accessLevel level (.error m) := h ▸ standing_isDenied
  cases hstanding with
  | incomparable hplace => exact hplace

/-- Before the match only the precondition is entered. -/
theorem Admission.entries_eq (h : Admission command id level entries ended) :
    (entries = [] ∧ (Registry.isDenied command.toSignature level = .ok false →
        command.precondition = none)) ∨
      Registry.isDenied command.toSignature level = .ok false ∧
        command.precondition.isSome = true ∧ ∃ answer, entries = [.asked id answer] := by
  cases h with
  | incomparable hlevel => exact Or.inl ⟨rfl, fun h => by rw [hlevel] at h; cases h⟩
  | denied hlevel => exact Or.inl ⟨rfl, fun h => by rw [hlevel] at h; cases h⟩
  | unguarded hlevel hnone => exact Or.inl ⟨rfl, fun _ => hnone⟩
  | failed hlevel hsome => exact Or.inr ⟨hlevel, hsome, _, rfl⟩
  | refused hlevel hsome _ => exact Or.inr ⟨hlevel, hsome, _, rfl⟩
  | allowed hlevel hsome _ => exact Or.inr ⟨hlevel, hsome, _, rfl⟩

/-- Who passes the gates may do so. -/
theorem Admission.of_ok (h : Admission command id level entries (.ok ())) :
    Registry.isDenied command.toSignature level = .ok false ∧
      (command.precondition = none ∨
        ∃ reason, .asked id (.ok reason) ∈ entries ∧ reason.truthy = false) := by
  cases h with
  | unguarded hlevel hnone => exact ⟨hlevel, Or.inl hnone⟩
  | allowed hlevel _ hfalse => exact ⟨hlevel, Or.inr ⟨_, List.mem_singleton_self _, hfalse⟩⟩

/-- From the match on there is the match, and the action if the words match. -/
theorem Execution.entries_eq (h : Execution command id words entries ended) :
    (∃ outcome failure, entries = [.matched id words outcome] ∧ ended = .error failure) ∨
      ∃ b answer, entries = [.matched id words (.ok b), .acted id (.bindings b) answer] ∧
        ended = answer.map fun _ => () := by
  cases h with
  | unmatched => exact Or.inl ⟨_, _, rfl, rfl⟩
  | inactive => exact Or.inl ⟨_, _, rfl, rfl⟩
  | failed => exact Or.inr ⟨_, _, rfl, rfl⟩
  | done => exact Or.inr ⟨_, _, rfl, rfl⟩

/-- The precondition is asked once, if there is one and the caller is not denied. -/
theorem Course.countP_isAsked (h : Course command id words level entries ended) :
    entries.countP Entry.isAsked =
      if Registry.isDenied command.toSignature level = .ok false ∧
        command.precondition.isSome = true then 1 else 0 := by
  have hfront : ∀ {front r}, Admission command id level front r → front.countP Entry.isAsked =
      if Registry.isDenied command.toSignature level = .ok false ∧
        command.precondition.isSome = true then 1 else 0 := by
    intro front r hfront
    rcases hfront.entries_eq with ⟨rfl, hnone⟩ | ⟨hlevel, hsome, answer, rfl⟩
    · rw [if_neg fun ⟨hlevel, hsome⟩ => by rw [hnone hlevel] at hsome; cases hsome]
      rfl
    · rw [if_pos ⟨hlevel, hsome⟩]
      rfl
  cases h with
  | stopped hfront' => exact hfront hfront'
  | admitted hfront' hrest =>
    -- neither the match nor the action is a precondition
    rw [List.countP_append, hfront hfront']
    rcases hrest.entries_eq with ⟨_, _, rfl, _⟩ | ⟨_, _, rfl, _⟩ <;> rfl

/-- **An action that is run** is what its call comes to. -/
theorem Course.of_acted {actor : CommandId} {subject : Subject} {answer : Except Failure Datum}
    (h : Course command id words level entries ended)
    (hacted : .acted actor subject answer ∈ entries) :
    actor = id ∧ (ended = answer.map fun _ => ()) ∧
      Registry.isDenied command.toSignature level = .ok false ∧
      (command.precondition = none ∨
        ∃ reason, .asked id (.ok reason) ∈ entries ∧ reason.truthy = false) ∧
      ∃ b, subject = .bindings b ∧ .matched id words (.ok b) ∈ entries := by
  have hfront : ∀ {front r}, Admission command id level front r →
      .acted actor subject answer ∉ front := by
    intro front r hfront hmem
    rcases hfront.entries_eq with ⟨rfl, -⟩ | ⟨-, -, _, rfl⟩
    · cases hmem
    · cases List.mem_singleton.1 hmem
  cases h with
  | stopped hfront' => exact absurd hacted (hfront hfront')
  | admitted hfront' hrest =>
    obtain ⟨hlevel, hallowed⟩ := hfront'.of_ok
    have hmem := (List.mem_append.1 hacted).resolve_left (hfront hfront')
    rcases hrest.entries_eq with ⟨_, _, rfl, -⟩ | ⟨b, _, rfl, hended⟩
    · cases List.mem_singleton.1 hmem
    · obtain ⟨rfl, rfl, rfl⟩ : actor = id ∧ subject = .bindings b ∧ answer = _ := by
        simpa using hmem
      refine ⟨rfl, hended, hlevel, hallowed.imp_right ?_, b, rfl, ?_⟩
      · rintro ⟨reason, hreason, hfalse⟩
        exact ⟨reason, List.mem_append_left _ hreason, hfalse⟩
      · exact List.mem_append_right _ List.mem_cons_self

/-- A call of one who is denied access, or whose level cannot be compared, says so. -/
theorem Course.of_barred (h : Course command id words level entries ended)
    (hbarred : Registry.isDenied command.toSignature level ≠ .ok false) :
    (Registry.isDenied command.toSignature level = .ok true ∧
        ended = .error (.fault (Registry.denied command.toSignature level))) ∨
      ∃ m, Registry.isDenied command.toSignature level = .error m ∧
        ended = .error (.mismatch m) := by
  cases h with
  | stopped hfront =>
    cases hfront with
    | incomparable hlevel => exact Or.inr ⟨_, hlevel, rfl⟩
    | denied hlevel => exact Or.inl ⟨hlevel, rfl⟩
    | failed hlevel => exact absurd hlevel hbarred
    | refused hlevel => exact absurd hlevel hbarred
  | admitted hfront => exact absurd hfront.of_ok.1 hbarred

theorem Course.exists_error (h : Course command id words level entries ended)
    (hidle : ∀ e ∈ entries, e.isActed = false) : ∃ failure, ended = .error failure := by
  cases h with
  | stopped => exact ⟨_, rfl⟩
  | admitted _ hrest =>
    rcases hrest.entries_eq with ⟨_, failure, rfl, hended⟩ | ⟨_, _, rfl, -⟩
    · exact ⟨failure, hended⟩
    · have hmem := hidle _ (List.mem_append_right _
        (List.mem_cons_of_mem _ (List.mem_singleton_self _)))
      cases hmem

/-- Where each stage makes one entry at most, so does the action. -/
theorem countP_isActed_le_one (h : entries.Pairwise fun a b => a.stage < b.stage) :
    entries.countP Entry.isActed ≤ 1 := by
  induction h with
  | nil => exact Nat.zero_le 1
  | @cons e later hlater _ ih =>
    cases e with
    | acted actor subject answer =>
      -- what comes later is further down, and no action is further down than an action
      have hnone : later.countP Entry.isActed = 0 := by
        refine List.countP_eq_zero.2 fun e he hacted => ?_
        have hstage := hlater e he
        cases e with
        | acted => exact absurd hstage (Nat.lt_irrefl 3)
        | _ => cases hacted
      rw [List.countP_cons_of_pos (by rfl), hnone]
    | _ => exact ih

/-- A call makes its entries one stage after the other, between the two ends of the
pipeline. -/
theorem Course.staged (h : Course command id words level entries ended) :
    entries.Pairwise (fun a b => a.stage < b.stage) ∧ ∀ e ∈ entries, 0 < e.stage ∧ e.stage < 5 := by
  cases h with
  | stopped hfront =>
    rcases hfront.entries_eq with ⟨rfl, -⟩ | ⟨-, -, _, rfl⟩ <;> simp [Entry.stage]
  | admitted hfront hrest =>
    rcases hfront.entries_eq with ⟨rfl, -⟩ | ⟨-, -, _, rfl⟩ <;>
      rcases hrest.entries_eq with ⟨_, _, rfl, -⟩ | ⟨_, _, rfl, -⟩ <;> simp [Entry.stage]

theorem Course.deliveries_eq (h : Course command id words level entries ended) :
    deliveries entries = [] := by
  refine List.filterMap_eq_nil_iff.2 fun e he => ?_
  have hstage := (h.staged.2 e he).2
  cases e with
  | delivered => exact absurd hstage (Nat.lt_irrefl 5)
  | _ => rfl

/-- A call that ended with a fault is settled by handing it over, any other by nothing. -/
theorem Settlement.entries_eq (h : Settlement registry ended more settled) :
    (∃ fault, ended = .error (.fault fault) ∧ more = [registry.delivery fault settled]) ∨
      (∀ fault, ended ≠ .error (.fault fault)) ∧ more = [] ∧ settled = ended := by
  cases h with
  | fault hended => exact Or.inl ⟨_, hended, rfl⟩
  | other hother => exact Or.inr ⟨hother, rfl, rfl⟩

theorem Settlement.of_fault {fault : Fault} (h : Settlement registry ended more settled)
    (hended : ended = .error (.fault fault)) :
    deliveries more = [fault.withOptions registry.faultOptions] := by
  rcases h.entries_eq with ⟨other, hother, rfl⟩ | ⟨hnone, -, -⟩
  · rw [hended] at hother
    cases hother
    rfl
  · exact absurd hended (hnone fault)

theorem Settlement.of_other (h : Settlement registry ended more settled)
    (hother : ∀ fault, ended ≠ .error (.fault fault)) :
    deliveries more = [] ∧ settled = ended := by
  rcases h.entries_eq with ⟨fault, hfault, -⟩ | ⟨-, rfl, hsame⟩
  · exact absurd hfault (hother fault)
  · exact ⟨rfl, hsame⟩

theorem Settlement.mem {e : Entry} (h : Settlement registry ended more settled) (he : e ∈ more) :
    ∃ fault, e = registry.delivery fault settled := by
  rcases h.entries_eq with ⟨fault, -, rfl⟩ | ⟨-, rfl, -⟩
  · exact ⟨fault, List.mem_singleton.1 he⟩
  · cases he

/-- Of a call that is served, the faults that settle it are all that is handed over. -/
theorem Course.deliveries_served (h : Course command id words level entries ended) :
    deliveries (.called id :: (entries ++ more)) = deliveries more := by
  show deliveries (entries ++ more) = deliveries more
  rw [deliveries_append, h.deliveries_eq, List.nil_append]

theorem Settlement.countP_isAsked (h : Settlement registry ended more settled) :
    (.called id :: (entries ++ more)).countP Entry.isAsked = entries.countP Entry.isAsked := by
  have hmore : more.countP Entry.isAsked = 0 := by
    refine List.countP_eq_zero.2 fun e he => ?_
    obtain ⟨fault, rfl⟩ := h.mem he
    exact Bool.false_ne_true
  rw [List.countP_cons_of_neg (by exact Bool.false_ne_true), List.countP_append, hmore,
    Nat.add_zero]

theorem Settlement.mem_of_acted {actor : CommandId} {subject : Subject}
    {answer : Except Failure Datum} (h : Settlement registry ended more settled)
    (hacted : .acted actor subject answer ∈ .called id :: (entries ++ more)) :
    .acted actor subject answer ∈ entries := by
  have hmem := (List.mem_cons.1 hacted).resolve_left fun heq => by cases heq
  refine (List.mem_append.1 hmem).resolve_right fun hlast => ?_
  obtain ⟨fault, heq⟩ := h.mem hlast
  cases heq

/-- A call that is served goes down the pipeline from end to end. -/
theorem Course.staged_served (h : Course command id words level entries ended)
    (hsettled : Settlement registry ended more settled) :
    (Entry.called id :: (entries ++ more)).Pairwise fun a b => a.stage < b.stage := by
  obtain ⟨hstaged, hbetween⟩ := h.staged
  have hlast : ∀ e ∈ more, e.stage = 5 := by
    intro e he
    obtain ⟨fault, rfl⟩ := hsettled.mem he
    rfl
  have hmore : more.Pairwise fun a b => a.stage < b.stage := by
    rcases hsettled.entries_eq with ⟨fault, -, rfl⟩ | ⟨-, rfl, -⟩
    · exact List.pairwise_singleton _ _
    · exact List.Pairwise.nil
  refine List.pairwise_cons.2 ⟨fun e he => ?_, List.pairwise_append.2 ⟨hstaged, hmore, ?_⟩⟩
  · rcases List.mem_append.1 he with he | he
    · exact (hbetween e he).1
    · rw [hlast e he]
      exact Nat.succ_pos 4
  · intro e he last hmem
    rw [hlast last hmem]
    exact (hbetween e he).2

/-- Of a word that calls nothing two faults are handed over at most, and the suggester is
asked in between. -/
theorem Unknown.entries_eq {called : String} (h : Unknown registry called entries ended) :
    ∃ outcome asked hints, entries =
        registry.delivery (Registry.notFound called) outcome :: (asked ++ hints) ∧
      Suggesting asked ∧ (hints = [] ∨ ∃ suggestions outcome, suggestions ≠ [] ∧
        hints = [registry.delivery (Registry.didYouMean called suggestions) outcome]) := by
  cases h with
  | undelivered => exact ⟨_, [], [], rfl, Or.inl rfl, Or.inl rfl⟩
  | unsuggested hasked => exact ⟨_, _, [], by rw [List.append_nil], hasked, Or.inl rfl⟩
  | alone hasked => exact ⟨_, _, [], by rw [List.append_nil], hasked, Or.inl rfl⟩
  | hinted hasked hne => exact ⟨_, _, _, rfl, hasked, Or.inr ⟨_, _, hne, rfl⟩⟩

theorem Suggesting.deliveries_eq (h : Suggesting entries) : deliveries entries = [] := by
  rcases h with rfl | ⟨word, answer, rfl⟩ <;> rfl

/-- What is entered of a word that calls nothing is a fault or the suggester. -/
theorem Unknown.mem {called : String} {e : Entry} (h : Unknown registry called entries ended)
    (he : e ∈ entries) :
    (∃ fault outcome, e = registry.delivery fault outcome) ∨
      ∃ word answer, e = .suggested word answer := by
  obtain ⟨outcome, asked, hints, rfl, hasked, hhints⟩ := h.entries_eq
  rcases List.mem_cons.1 he with rfl | he
  · exact Or.inl ⟨_, _, rfl⟩
  · rcases List.mem_append.1 he with he | he
    · rcases hasked with rfl | ⟨word, answer, rfl⟩
      · cases he
      · exact Or.inr ⟨word, answer, List.mem_singleton.1 he⟩
    · rcases hhints with rfl | ⟨suggestions, outcome, -, rfl⟩
      · cases he
      · exact Or.inl ⟨_, _, List.mem_singleton.1 he⟩

/-- What is handed over of a word that calls nothing. -/
theorem Unknown.deliveries_eq {called : String} (h : Unknown registry called entries ended) :
    deliveries entries = [(Registry.notFound called).withOptions registry.faultOptions] ∨
      ∃ suggestions, suggestions ≠ [] ∧ deliveries entries =
        [(Registry.notFound called).withOptions registry.faultOptions,
          (Registry.didYouMean called suggestions).withOptions registry.faultOptions] := by
  obtain ⟨outcome, asked, hints, rfl, hasked, hhints⟩ := h.entries_eq
  have hdeliveries : deliveries (registry.delivery (Registry.notFound called) outcome ::
      (asked ++ hints)) =
        (Registry.notFound called).withOptions registry.faultOptions :: deliveries hints := by
    have htail : deliveries (asked ++ hints) = deliveries hints := by
      rw [deliveries_append, hasked.deliveries_eq, List.nil_append]
    exact congrArg (_ :: ·) htail
  rw [hdeliveries]
  rcases hhints with rfl | ⟨suggestions, outcome, hne, rfl⟩
  · exact Or.inl rfl
  · exact Or.inr ⟨suggestions, hne, rfl⟩

end Courses

/-! ## Lines are orderly -/

section Lines

variable {hub : Hub} {line : Line} {entries : List Entry}

theorem called?_eq_none (h : hub.tokens line = []) : hub.called? line = none := by
  rw [Hub.tokens] at h
  rw [Hub.called?]
  cases hcall : (hub.registryAt line.registry).callIn? line.text with
  | none => rfl
  | some text =>
    rw [hcall] at h
    dsimp only at h ⊢
    rw [h]

/-- A line in which there are tokens is not passed over, and its result is not false. -/
theorem passed_iff {called : String} {words : List String} (h : hub.tokens line = called :: words)
    (ended : Except Failure Unit) :
    (ended.map fun _ => true) = .ok false ↔ hub.PassesOver line := by
  rw [← Hub.tokens_eq_nil_iff, h]
  refine iff_of_false ?_ (List.cons_ne_nil _ _)
  cases ended with
  | ok _ => exact fun heq => Bool.noConfusion (Except.ok.inj heq)
  | error failure => exact fun heq => by cases heq

theorem orderly_passed (h : hub.tokens line = []) : Orderly hub line [] (.ok false) where
  passed := iff_of_true rfl (Hub.tokens_eq_nil_iff.1 h)
  sink _ _ _ hmem := absurd hmem List.not_mem_nil
  uncalled _ _ he := absurd he List.not_mem_nil
  unknown called words htokens := by
    rw [h] at htokens
    cases htokens
  announced called words htokens := by
    rw [h] at htokens
    cases htokens
  called id hid := by
    rw [called?_eq_none h] at hid
    cases hid

theorem Unknown.orderly {called : String} {words : List String} {ended : Except Failure Unit}
    (htokens : hub.tokens line = called :: words) (hcalled : hub.called? line = none)
    (h : Unknown (hub.registryAt line.registry) called entries ended) :
    Orderly hub line entries (ended.map fun _ => true) where
  passed := passed_iff htokens ended
  sink toSink fault outcome hmem := by
    rcases h.mem hmem with ⟨_, _, heq⟩ | ⟨_, _, heq⟩
    · cases heq
      rfl
    · cases heq
  uncalled _ e he := by
    rcases h.mem he with ⟨_, _, rfl⟩ | ⟨_, _, rfl⟩
    · exact ⟨rfl, rfl⟩
    · exact ⟨rfl, rfl⟩
  unknown other rest hother _ _ := by
    rw [htokens] at hother
    cases hother
    rcases h.deliveries_eq with halone | ⟨suggestions, -, hhinted⟩
    · exact Or.inl halone
    · exact Or.inr ⟨suggestions, hhinted⟩
  announced other rest hother _ _ := by
    rw [htokens] at hother
    cases hother
    rcases h.deliveries_eq with halone | ⟨suggestions, hne, hhinted⟩
    · rw [halone]
      exact ⟨[], Registry.announced_notFound⟩
    · rw [hhinted]
      exact ⟨suggestions, Registry.announced_didYouMean hne⟩
  called id hid := by
    rw [hcalled] at hid
    cases hid

variable {registry : Registry} {command : Command} {id : CommandId} {words : List String}
variable {level : Datum} {front more : List Entry} {settled : Except Failure Unit}
variable {ended : Except Failure Unit}

/-- A caller whose level is too low is told so. -/
theorem Course.deliveries_of_denied
    (hcourse : Course command id words level front ended)
    (hsettled : Settlement registry ended more settled)
    (hlevel : Registry.isDenied command.toSignature level = .ok true) :
    deliveries (.called id :: (front ++ more)) =
      [(Registry.denied command.toSignature level).withOptions registry.faultOptions] := by
  have hbarred : Registry.isDenied command.toSignature level ≠ .ok false := by
    rw [hlevel]
    exact fun h => Bool.noConfusion (Except.ok.inj h)
  rcases hcourse.of_barred hbarred with ⟨-, hended⟩ | ⟨m, hm, -⟩
  · rw [hcourse.deliveries_served, hsettled.of_fault hended]
  · rw [hlevel] at hm
    cases hm

/-- **A call is orderly.** -/
theorem Course.orderly (hcourse : Course command id words level front ended)
    (hsettled : Settlement registry ended more settled) :
    OrderlyCall registry command id words level (.called id :: (front ++ more))
      (settled.map fun _ => true) where
  gate := standing_isDenied
  whole _ hwhole := isDenied_of_whole hwhole
  denied := hcourse.deliveries_of_denied hsettled
  told hlevel := ⟨_, hcourse.deliveries_of_denied hsettled hlevel, Registry.tells_denied⟩
  incomparable m hlevel := by
    have hbarred : Registry.isDenied command.toSignature level ≠ .ok false := by
      rw [hlevel]
      exact fun h => by cases h
    rcases hcourse.of_barred hbarred with ⟨hdenied, -⟩ | ⟨m', hm, hended⟩
    · rw [hlevel] at hdenied
      cases hdenied
    · rw [hlevel] at hm
      cases hm
      obtain ⟨hnone, hsame⟩ := hsettled.of_other fun fault h => by rw [hended] at h; cases h
      rw [hcourse.deliveries_served, hnone, hsame, hended]
      exact ⟨place?_of_incomparable hlevel, rfl, rfl⟩
  barred hbarred e he := by
    have hcount : (Entry.called id :: (front ++ more)).countP Entry.isAsked = 0 := by
      rw [hsettled.countP_isAsked, hcourse.countP_isAsked, if_neg fun h => hbarred h.1]
    refine ⟨Bool.eq_false_iff.2 (List.countP_eq_zero.1 hcount e he), ?_⟩
    cases e with
    | acted actor subject answer =>
      obtain ⟨-, -, hlevel, -⟩ := hcourse.of_acted (hsettled.mem_of_acted he)
      exact absurd hlevel hbarred
    | _ => rfl
  asked hlevel := by
    rw [hsettled.countP_isAsked, hcourse.countP_isAsked]
    simp only [hlevel, true_and]
  staged := hcourse.staged_served hsettled
  once := countP_isActed_le_one (hcourse.staged_served hsettled)
  acted actor subject answer hmem := by
    obtain ⟨rfl, -, -, hallowed, b, hsubject, hmatched⟩ :=
      hcourse.of_acted (hsettled.mem_of_acted hmem)
    refine ⟨rfl, hallowed.imp_right ?_, b, hsubject, ?_⟩
    · rintro ⟨reason, hreason, hfalse⟩
      exact ⟨reason, List.mem_cons_of_mem _ (List.mem_append_left _ hreason), hfalse⟩
    · exact List.mem_cons_of_mem _ (List.mem_append_left _ hmatched)
  unacted hidle hended := by
    obtain ⟨failure, hfailure⟩ := hcourse.exists_error fun e he =>
      hidle e (List.mem_cons_of_mem _ (List.mem_append_left _ he))
    rw [hcourse.deliveries_served]
    rcases hsettled.entries_eq with ⟨fault, -, rfl⟩ | ⟨-, -, heq⟩
    · exact ⟨_, rfl⟩
    · rw [heq, hfailure] at hended
      cases hended
  done actor subject result hmem := by
    obtain ⟨-, hended, -⟩ := hcourse.of_acted (hsettled.mem_of_acted hmem)
    obtain ⟨hnone, hsame⟩ := hsettled.of_other fun fault h => by rw [hended] at h; cases h
    rw [hcourse.deliveries_served, hnone, hsame, hended]
    exact ⟨rfl, rfl⟩
  faulted actor subject fault hmem := by
    obtain ⟨-, hended, -⟩ := hcourse.of_acted (hsettled.mem_of_acted hmem)
    rw [hcourse.deliveries_served, hsettled.of_fault hended]
  escaped actor subject failure hmem hother := by
    obtain ⟨-, hended, -⟩ := hcourse.of_acted (hsettled.mem_of_acted hmem)
    obtain ⟨hnone, hsame⟩ := hsettled.of_other fun fault h => by
      rw [hended] at h
      cases h
      exact hother fault rfl
    rw [hcourse.deliveries_served, hnone, hsame, hended]
    exact ⟨rfl, rfl⟩

theorem Course.orderly_line {called : String} (htokens : hub.tokens line = called :: words)
    (hcalled : hub.called? line = some id)
    (hcourse : Course (hub.commandAt id) id words line.level front ended)
    (hsettled : Settlement (hub.registryAt line.registry) ended more settled) :
    Orderly hub line (.called id :: (front ++ more)) (settled.map fun _ => true) where
  passed := passed_iff htokens settled
  sink toSink fault outcome hmem := by
    rcases List.mem_cons.1 hmem with heq | hmem
    · cases heq
    · rcases List.mem_append.1 hmem with hmem | hmem
      · exact absurd (hcourse.staged.2 _ hmem).2 (Nat.lt_irrefl 5)
      · obtain ⟨_, heq⟩ := hsettled.mem hmem
        cases heq
        rfl
  uncalled hnone := by
    rw [hcalled] at hnone
    cases hnone
  unknown _ _ _ hnone := by
    rw [hcalled] at hnone
    cases hnone
  announced _ _ _ hnone := by
    rw [hcalled] at hnone
    cases hnone
  called other hother := by
    rw [hcalled] at hother
    cases hother
    rw [htokens]
    exact hcourse.orderly hsettled

/-- **Every course is orderly.** -/
theorem Handling.orderly {ended : Except Failure Bool} (h : Handling hub line entries ended) :
    Orderly hub line entries ended := by
  cases h with
  | passed htokens => exact orderly_passed htokens
  | unknown htokens hcalled hunknown => exact hunknown.orderly htokens hcalled
  | served htokens hcalled hcourse hsettled =>
    exact hcourse.orderly_line htokens hcalled hsettled

namespace Journalled

/-- A line that is passed over does nothing at all. -/
theorem parseWith_of_passesOver (nested : Dispatcher) (h : hub.PassesOver line) :
    (parseWith nested line.registry line.text line.level).entries hub = [] ∧
      (parseWith nested line.registry line.text line.level).run hub = .ok false hub := by
  have htokens := Hub.tokens_eq_nil_iff.2 h
  rw [Hub.tokens] at htokens
  have hread : (HubM.registry line.registry).ended hub = .ok (hub.registryAt line.registry) := rfl
  rw [parseWith, run_bind, entries_bind, run_monadLift, hread,
    HubM.bind_ok (HubM.registry_eq line.registry hub)]
  cases hcall : (hub.registryAt line.registry).callIn? line.text with
  | none => simp only [hcall]; exact ⟨rfl, rfl⟩
  | some text =>
    rw [hcall] at htokens
    dsimp only at htokens
    simp only [hcall, htokens]
    exact ⟨rfl, rfl⟩

end Journalled

/-- **Every line is orderly.** -/
theorem orderly_parseWithin (depth : Nat) (hub : Hub) (line : Line) :
    let p := Journalled.parseWithin (depth + 1) line.registry line.text line.level
    p.run = HubM.parseWithin (depth + 1) line.registry line.text line.level ∧
      Orderly hub line (own (p.entries hub)) (p.run.ended hub) ∧
      (p.run.ended hub = .ok false → p.entries hub = [] ∧ p.run.after hub = hub) := by
  intro p
  have hplain := congrFun (congrFun (congrFun (Journalled.plain_parseWithin (depth + 1))
    line.registry) line.text) line.level
  have hcontained := Journalled.contained_parseWithin hub depth
  have horderly : Orderly hub line (own (p.entries hub)) (p.run.ended hub) :=
    (Journalled.takes_parseWith hcontained line hub (Hub.akin_refl hub)).orderly
  refine ⟨hplain, horderly, fun hfalse => ?_⟩
  obtain ⟨hentries, hrun⟩ := Journalled.parseWith_of_passesOver
    (Journalled.parseWithin depth) (horderly.passed.1 hfalse)
  refine ⟨hentries, ?_⟩
  show HubM.after (Journalled.parseWith _ _ _ _).run hub = hub
  rw [HubM.after, hrun]

/-- A precondition that gives no reason, and then the action: each of the first four stages
makes its entry, and no fault is handed over. -/
example :
    let mail : Command :=
      { name := "Mail", aliases := ["mail"], arguments := [0],
        precondition := some fun _ => .done (.text ""), action := some fun _ => .done .null }
    let hub : Hub := { Hub.mail with commands := [mail], registries := [{ commands := [0] }] }
    (own ((Journalled.parseWithin 1 0 "mail read" (.int 0)).entries hub)).map Entry.stage =
      [0, 1, 2, 3] := by
  decide +kernel

end Lines

end Chatline
