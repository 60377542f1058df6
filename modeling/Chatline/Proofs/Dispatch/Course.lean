import Chatline.Proofs.Dispatch.Restored
import Chatline.Proofs.Registry.Marker
/-!
# The course of a dispatched line

What a line enters in the journal on its own account, and how it ends, is told case by
case: how its call passes the gates before the match (`Admission`), what becomes of the
match and the action (`Execution`), what is reported (`Settlement`), and what happens to a
word that calls nothing (`Unknown`). `takes_parseWith` says that every line takes one of
these courses, whatever the callbacks do.
-/

namespace Chatline

/-- Whether an entry is of a line that a callback dispatched. -/
def Entry.isWithin : Entry → Bool
  | .within _ => true
  | _ => false

/-- What is entered on one's own account. -/
def own (entries : List Entry) : List Entry := entries.filter (!·.isWithin)

@[simp] theorem own_append (entries more : List Entry) :
    own (entries ++ more) = own entries ++ own more :=
  List.filter_append _ _

@[simp] theorem own_within (entries : List Entry) : own (entries.map .within) = [] := by
  rw [own, List.filter_eq_nil_iff]
  intro entry hentry
  obtain ⟨inner, -, rfl⟩ := List.mem_map.1 hentry
  exact Bool.false_ne_true

/-! ## Courses -/

/-- **How a call passes the gates before the match.** -/
inductive Admission (command : Command) (id : CommandId) (level : Datum) :
    List Entry → Except Failure Unit → Prop
  /-- The level of the caller cannot be compared. -/
  | incomparable {m : Mismatch} : Registry.isDenied command.toSignature level = .error m →
      Admission command id level [] (.error (.mismatch m))
  /-- The level of the caller is too low. -/
  | denied : Registry.isDenied command.toSignature level = .ok true →
      Admission command id level [] (.error (.fault (Registry.denied command.toSignature level)))
  /-- There is no precondition. -/
  | unguarded : Registry.isDenied command.toSignature level = .ok false →
      command.precondition = none → Admission command id level [] (.ok ())
  /-- The precondition fails. -/
  | failed {failure : Failure} : Registry.isDenied command.toSignature level = .ok false →
      command.precondition.isSome = true →
      Admission command id level [.asked id (.error failure)] (.error failure)
  /-- The precondition gives a reason why the command may not run. -/
  | refused {reason : Datum} {failure : Failure} :
      Registry.isDenied command.toSignature level = .ok false →
      command.precondition.isSome = true → reason.truthy = true →
      Admission command id level [.asked id (.ok reason)] (.error failure)
  /-- The precondition gives no reason. -/
  | allowed {reason : Datum} : Registry.isDenied command.toSignature level = .ok false →
      command.precondition.isSome = true → reason.truthy = false →
      Admission command id level [.asked id (.ok reason)] (.ok ())

/-- **What becomes of the match and the action.** -/
inductive Execution (command : Command) (id : CommandId) (words : List String) :
    List Entry → Except Failure Unit → Prop
  /-- The words do not match. -/
  | unmatched {failure : Failure} :
      Execution command id words [.matched id words (.error failure)] (.error failure)
  /-- There is no action. -/
  | inactive {b : Bindings} : Execution command id words [.matched id words (.ok b)]
      (.error (.build (.noAction command.name)))
  /-- The action fails. -/
  | failed {b : Bindings} {failure : Failure} : Execution command id words
      [.matched id words (.ok b), .acted id (.bindings b) (.error failure)] (.error failure)
  /-- The action succeeds. -/
  | done {b : Bindings} {result : Datum} : Execution command id words
      [.matched id words (.ok b), .acted id (.bindings b) (.ok result)] (.ok ())

/-- **The course of a call.** -/
inductive Course (command : Command) (id : CommandId) (words : List String) (level : Datum) :
    List Entry → Except Failure Unit → Prop
  /-- The call does not pass the gates. -/
  | stopped {entries : List Entry} {failure : Failure} :
      Admission command id level entries (.error failure) →
      Course command id words level entries (.error failure)
  /-- The call passes the gates. -/
  | admitted {entries more : List Entry} {ended : Except Failure Unit} :
      Admission command id level entries (.ok ()) → Execution command id words more ended →
      Course command id words level (entries ++ more) ended

/-- What a registry enters when it hands over a fault. -/
def Registry.delivery (registry : Registry) (fault : Fault) (outcome : Except Failure Unit) :
    Entry :=
  .delivered registry.sink.isSome (fault.withOptions registry.faultOptions) outcome

/-- **What is reported of a call** that ended as told. -/
inductive Settlement (registry : Registry) (ended : Except Failure Unit) :
    List Entry → Except Failure Unit → Prop
  /-- A fault is handed over. -/
  | fault {fault : Fault} {outcome : Except Failure Unit} : ended = .error (.fault fault) →
      Settlement registry ended [registry.delivery fault outcome] outcome
  /-- Anything else is left as it is. -/
  | other : (∀ fault, ended ≠ .error (.fault fault)) → Settlement registry ended [] ended

/-- That the suggester of the host is all that was asked. -/
def Suggesting (entries : List Entry) : Prop :=
  entries = [] ∨ ∃ word answer, entries = [.suggested word answer]

/-- **What happens to a word that calls nothing.** -/
inductive Unknown (registry : Registry) (called : String) :
    List Entry → Except Failure Unit → Prop
  /-- The fault cannot be handed over. -/
  | undelivered {failure : Failure} : Unknown registry called
      [registry.delivery (Registry.notFound called) (.error failure)] (.error failure)
  /-- The suggester fails. -/
  | unsuggested {asked : List Entry} {failure : Failure} : Suggesting asked →
      Unknown registry called
        (registry.delivery (Registry.notFound called) (.ok ()) :: asked) (.error failure)
  /-- Nothing is suggested. -/
  | alone {asked : List Entry} : Suggesting asked → Unknown registry called
      (registry.delivery (Registry.notFound called) (.ok ()) :: asked) (.ok ())
  /-- Something is suggested, and the hint is handed over too. -/
  | hinted {asked : List Entry} {suggestions : List Datum} {outcome : Except Failure Unit} :
      Suggesting asked → suggestions ≠ [] → Unknown registry called
        (registry.delivery (Registry.notFound called) (.ok ()) :: (asked ++
          [registry.delivery (Registry.didYouMean called suggestions) outcome])) outcome

namespace Hub

/-- The tokens of a line that is taken for a call. -/
def tokens (hub : Hub) (line : Line) : List String :=
  match (hub.registryAt line.registry).callIn? line.text with
  | none => []
  | some text => Token.tokenize text

end Hub

/-- **The course of a line.** -/
inductive Handling (hub : Hub) (line : Line) : List Entry → Except Failure Bool → Prop
  /-- The line is not taken for a call. -/
  | passed : hub.tokens line = [] → Handling hub line [] (.ok false)
  /-- The line calls no command. -/
  | unknown {called : String} {words : List String} {entries : List Entry}
      {ended : Except Failure Unit} : hub.tokens line = called :: words →
      hub.called? line = none → Unknown (hub.registryAt line.registry) called entries ended →
      Handling hub line entries (ended.map fun _ => true)
  /-- The line calls a command. -/
  | served {called : String} {words : List String} {id : CommandId} {entries more : List Entry}
      {ended settled : Except Failure Unit} : hub.tokens line = called :: words →
      hub.called? line = some id →
      Course (hub.commandAt id) id words line.level entries ended →
      Settlement (hub.registryAt line.registry) ended more settled →
      Handling hub line (.called id :: (entries ++ more)) (settled.map fun _ => true)

namespace Journalled

variable {α β : Type} {base : Hub} {p : Journalled α} {k : α → Journalled β}

/-- **That a program takes a course** wherever it starts on a hub like `base`: what it
enters on its own account, and how it ends. -/
def Takes (base : Hub) (p : Journalled α) (course : List Entry → Except Failure α → Prop) : Prop :=
  ∀ hub, base.Akin hub → course (own (p.entries hub)) (p.run.ended hub)

namespace Takes

variable {first : List Entry → Except Failure α → Prop}
variable {course other : List Entry → Except Failure β → Prop}

theorem mono {q : Journalled β} (h : Takes base q course)
    (hsub : ∀ entries ended, course entries ended → other entries ended) : Takes base q other :=
  fun hub hakin => hsub _ _ (h hub hakin)

/-- **Two steps** take the courses of both, or the first fails. -/
theorem bind (hkeeps : Keeps base p) (hp : Takes base p first)
    (herror : ∀ entries failure, first entries (.error failure) → course entries (.error failure))
    (hk : ∀ front a, first front (.ok a) →
      Takes base (k a) fun entries ended => course (front ++ entries) ended) :
    Takes base (p >>= k) course := by
  intro hub h
  have hfirst := hp hub h
  rw [run_bind, HubM.ended_bind, entries_bind, own_append]
  cases hended : p.run.ended hub with
  | error failure =>
    rw [hended] at hfirst
    -- nothing is entered after the failure
    have hcourse := herror _ _ hfirst
    rwa [← List.append_nil (own _)] at hcourse
  | ok a =>
    rw [hended] at hfirst
    exact hk _ a hfirst _ (hkeeps hub h)

theorem quietly {program : HubM α} (h : ∀ hub, base.Akin hub → first [] (program.ended hub)) :
    Takes base (quietly program) first := h

theorem quietly_bind {program : HubM α} (hkeeps : Keeps base (Journalled.quietly program))
    (herror : ∀ hub failure, base.Akin hub → program.ended hub = .error failure →
      course [] (.error failure))
    (hk : ∀ hub a, base.Akin hub → program.ended hub = .ok a → Takes base (k a) course) :
    Takes base (Journalled.quietly program >>= k) course := by
  intro hub h
  rw [run_bind, HubM.ended_bind, entries_bind]
  show course (own ([] ++ _)) _
  rw [List.nil_append]
  cases hended : (Journalled.quietly program).run.ended hub with
  | error failure => exact herror hub failure h hended
  | ok a => exact hk hub a h hended _ (hkeeps hub h)

theorem enter {entry : Except Failure α → Entry} (hentry : ∀ ended, (entry ended).isWithin = false)
    (h : ∀ ended, first [entry ended] ended) : Takes base (enter entry p) first := by
  intro hub _
  rw [entries_enter, own_append, own_within, List.nil_append]
  show first (own [entry (p.run.ended hub)]) (p.run.ended hub)
  rw [own, List.filter_singleton, hentry]
  exact h _

theorem enter_bind {entry : Except Failure α → Entry}
    (hentry : ∀ ended, (entry ended).isWithin = false) (hkeeps : Keeps base p)
    (herror : ∀ failure, course [entry (.error failure)] (.error failure))
    (hk : ∀ a, Takes base (k a) fun entries ended => course (entry (.ok a) :: entries) ended) :
    Takes base (Journalled.enter entry p >>= k) course := by
  have hp : Takes base (Journalled.enter entry p) fun entries ended => entries = [entry ended] :=
    enter hentry fun _ => rfl
  refine bind hkeeps hp ?_ ?_
  · rintro entries failure rfl
    exact herror failure
  · rintro entries a rfl
    exact hk a

theorem reading_bind {f : Hub → α} (hk : ∀ hub, base.Akin hub → Takes base (k (f hub)) course) :
    Takes base (Journalled.quietly (HubM.reading f) >>= k) course := by
  refine quietly_bind (fun _ h => h) (fun hub failure _ hended => ?_) fun hub a h hended => ?_
  · cases hended
  · cases hended
    exact hk hub h

theorem command_bind {id : CommandId} {k : Command → Journalled β}
    (hk : Takes base (k (base.commandAt id)) course) :
    Takes base (Journalled.quietly (HubM.command id) >>= k) course := by
  refine reading_bind (f := (·.commandAt id)) fun hub h => ?_
  rw [h.commandAt_eq]
  exact hk

theorem log_bind {source : LogSource} {message : String} {k : Unit → Journalled β}
    (hk : Takes base (k ()) course) :
    Takes base (Journalled.quietly (HubM.log source message) >>= k) course := by
  refine quietly_bind (fun _ h => h.logged) (fun hub failure _ hended => ?_) fun hub a _ _ => hk
  cases hended

theorem conclude_bind {result : Except Failure α}
    (herror : ∀ failure, result = .error failure → course [] (.error failure))
    (hk : ∀ a, result = .ok a → Takes base (k a) course) :
    Takes base (Journalled.quietly (HubM.conclude result) >>= k) course := by
  cases result with
  | error failure =>
    exact quietly_bind (fun _ h => h) (fun _ _ _ hended => by cases hended; exact herror _ rfl)
      fun _ _ _ hended => by cases hended
  | ok a => exact reading_bind (f := fun _ => a) fun _ _ => hk a rfl

theorem throw_bind {failure : Failure} (h : course [] (.error failure)) :
    Takes base (Journalled.quietly (throw failure) >>= k) course :=
  quietly_bind (fun _ h => h) (fun _ _ _ hended => by cases hended; exact h)
    fun _ _ _ hended => by cases hended

theorem attempt (h : Takes base p first) :
    Takes base (attempt p) fun entries ended =>
      ∃ result, ended = .ok result ∧ first entries result := by
  intro hub hakin
  exact ⟨_, HubM.ended_attempt p.run hub, h hub hakin⟩

theorem returning (hp : Takes base p first)
    (hkeeps : Keeps base p) (b : β) :
    Takes base (p >>= fun _ => pure b) fun entries result =>
      ∃ ended, result = ended.map (fun _ => b) ∧ first entries ended := by
  refine Takes.bind hkeeps hp (fun entries failure h => ⟨_, rfl, h⟩) fun front a hfront => ?_
  refine quietly fun _ _ => ⟨.ok a, rfl, ?_⟩
  rwa [List.append_nil]

end Takes

/-! ## Every line takes its course -/

section Taken

variable {busy : List SlotId} {nested : Dispatcher} {registry : Registry} {id : CommandId}
variable {line called : String} {words : List String} {level : Datum}

theorem takes_trigger {fault : Fault} {course : List Entry → Except Failure Unit → Prop}
    (h : ∀ outcome, course [registry.delivery fault outcome] outcome) :
    Takes base (trigger nested registry fault) course :=
  Takes.enter (fun _ => rfl) h

/-- Asking the precondition, if there is one, is entered as that. -/
theorem takes_check (hn : ContainedDispatcher base nested) :
    Takes base (check nested id) fun entries ended =>
      ((base.commandAt id).precondition = none ∧ entries = [] ∧ ended = .ok none) ∨
        ((base.commandAt id).precondition.isSome = true ∧ ∃ answer, entries = [.asked id answer] ∧
          ended = answer.map fun reason => if reason.truthy then some reason else none) := by
  refine Takes.command_bind ?_
  cases (base.commandAt id).precondition with
  | none => exact fun hub _ => Or.inl ⟨rfl, rfl, rfl⟩
  | some precondition =>
    have hcontained : Contained base [] (routine nested (precondition
        (base.commandAt id).toSignature)) := contained_routine hn _
    exact Takes.enter_bind (fun _ => rfl) hcontained.keeps
      (fun failure => Or.inr ⟨rfl, _, rfl, rfl⟩)
      fun reason => Takes.quietly fun _ _ => Or.inr ⟨rfl, _, rfl, rfl⟩

theorem takes_pass (hn : ContainedDispatcher base nested)
    (hlevel : Registry.isDenied (base.commandAt id).toSignature level = .ok false) :
    Takes base (pass nested id) (Admission (base.commandAt id) id level) := by
  have hcontained : Contained base [] (check nested id) := contained_check hn
  refine Takes.bind hcontained.keeps (takes_check hn) ?_ ?_
  · rintro entries failure (⟨-, -, hended⟩ | ⟨hsome, answer, rfl, hended⟩)
    · cases hended
    · cases answer with
      | ok reason => cases hended
      | error failure =>
        cases hended
        exact .failed hlevel hsome
  · rintro front reason (⟨hnone, rfl, hended⟩ | ⟨hsome, answer, rfl, hended⟩)
    · cases hended
      exact Takes.quietly fun _ _ => .unguarded hlevel hnone
    · cases answer with
      | error failure => cases hended
      | ok answer =>
        obtain rfl := Except.ok.inj hended
        dsimp only
        by_cases htrue : answer.truthy = true
        · -- the call is refused, even if the reason cannot be put into words
          rw [if_pos htrue]
          exact Takes.command_bind (Takes.conclude_bind (fun _ _ => .refused hlevel hsome htrue)
            fun _ _ => Takes.quietly fun _ _ => .refused hlevel hsome htrue)
        · rw [if_neg htrue]
          exact Takes.quietly fun _ _ => .allowed hlevel hsome (Bool.eq_false_iff.2 htrue)

theorem takes_perform {subject : Subject} :
    Takes base (perform nested id subject) fun entries ended =>
      (entries = [] ∧ ended = .error (.build (.noAction (base.commandAt id).name))) ∨
        entries = [.acted id subject ended] := by
  refine Takes.command_bind ?_
  cases (base.commandAt id).action with
  | none => exact fun hub _ => Or.inl ⟨rfl, rfl⟩
  | some action => exact Takes.enter (fun _ => rfl) fun _ => Or.inr rfl

/-- What becomes of a call that has passed the gates. -/
theorem takes_execution (hn : ContainedDispatcher base nested) (usage : String) :
    Takes base (do
        let bindings ← matchWords id words usage
        HubM.log .registry ("executing " ++ Text.quoted (base.commandAt id).name ++ " with " ++
          bindings.shown)
        let _ ← perform nested id (.bindings bindings))
      (Execution (base.commandAt id) id words) := by
  have hmatched : Contained base (base.owned id) (matchWords id words usage) :=
    contained_matchWords (List.Subset.refl _)
  refine Takes.enter_bind (fun _ => rfl) hmatched.keeps (fun failure => .unmatched)
    fun bindings => Takes.log_bind ?_
  have hperform : Contained base [] (perform nested id (.bindings bindings)) := contained_perform hn
  refine Takes.bind hperform.keeps takes_perform ?_ ?_
  · rintro entries failure (⟨rfl, hended⟩ | rfl)
    · cases hended
      exact .inactive
    · exact .failed
  · rintro entries result (⟨rfl, hended⟩ | rfl)
    · cases hended
    · exact Takes.quietly fun _ _ => .done

/-- **A call takes its course.** -/
theorem takes_call (hn : ContainedDispatcher base nested) :
    Takes base (call nested registry id called words level)
      (Course (base.commandAt id) id words level) := by
  refine Takes.command_bind ?_
  cases hlevel : Registry.isDenied (base.commandAt id).toSignature level with
  | error m =>
    exact Takes.conclude_bind (fun _ hfail => by cases hfail; exact .stopped (.incomparable hlevel))
      fun _ hok => by cases hok
  | ok isDenied =>
    refine Takes.conclude_bind (fun _ hfail => by cases hfail) fun _ hok => ?_
    obtain rfl := Except.ok.inj hok
    cases isDenied with
    | true => exact Takes.throw_bind (.stopped (.denied hlevel))
    | false =>
      have hcontained : Contained base [] (pass nested id) := contained_pass hn
      refine Takes.bind hcontained.keeps (takes_pass hn hlevel) (fun _ _ h => .stopped h) ?_
      exact fun front _ hfront => Takes.reading_bind fun hub _ =>
        (takes_execution hn _).mono fun _ _ h => .admitted hfront h

theorem takes_settle (ended : Except Failure Unit) :
    Takes base (settle nested registry line ended) (Settlement registry ended) := by
  cases ended with
  | ok _ => exact Takes.quietly fun _ _ => .other fun _ h => by cases h
  | error failure =>
    cases failure with
    | fault fault => exact Takes.log_bind (takes_trigger fun _ => .fault rfl)
    | _ => exact Takes.quietly fun _ _ => .other fun _ h => by cases h

/-- **Serving a line** is entered as a call, with its course and how it is settled. -/
theorem takes_serve (hn : ContainedDispatcher base nested) :
    Takes base (serve nested registry id line called words level) fun entries settled =>
      ∃ front more ended, entries = .called id :: (front ++ more) ∧
        Course (base.commandAt id) id words level front ended ∧
        Settlement registry ended more settled := by
  have hreported : Takes base (reported nested registry id line called words level)
      fun entries result => ∃ front more ended settled, entries = front ++ more ∧
        result = .ok settled ∧ Course (base.commandAt id) id words level front ended ∧
        Settlement registry ended more settled := by
    refine Takes.bind (contained_call hn (List.Subset.refl _)).attempt.keeps
      (takes_call hn).attempt ?_ ?_
    · rintro entries failure ⟨result, hresult, -⟩
      cases hresult
    · rintro front ended ⟨result, hresult, hcourse⟩
      cases hresult
      refine (takes_settle ended).attempt.mono ?_
      rintro more result ⟨settled, rfl, hsettled⟩
      exact ⟨front, more, ended, settled, rfl, rfl, hcourse, hsettled⟩
  -- the reset enters nothing and does not fail, so the line ends as it is settled
  intro hub h
  obtain ⟨front, more, ended, settled, hentries, hresult, hcourse, hsettled⟩ := hreported hub h
  have hended : (serve nested registry id line called words level).run.ended hub = settled := by
    rw [run_serve, HubM.ended_serve, ← run_reported, hresult]
    rfl
  rw [entries_serve, hended]
  refine ⟨front, more, ended, ?_, hcourse, hsettled⟩
  rw [← hentries]
  rfl

/-- Asking the suggester is entered if it is one of the host's. -/
theorem takes_suggest (hn : ContainedDispatcher base nested) {word : Datum} :
    Takes base (suggest nested registry word) fun entries _ => Suggesting entries := by
  rw [suggest]
  cases registry.suggester with
  | affix => exact fun _ _ => Or.inl rfl
  | custom ask =>
    refine Takes.reading_bind fun hub _ => ?_
    have hcontained : ∀ commands, Contained base [] (routine nested (ask word commands)) :=
      fun _ => contained_routine hn _
    exact Takes.enter_bind (fun _ => rfl) (hcontained _).keeps (fun _ => Or.inr ⟨_, _, rfl⟩)
      fun _ => Takes.quietly fun _ _ => Or.inr ⟨_, _, rfl⟩

/-- **What happens to a word that calls nothing.** -/
theorem takes_reportUnknown (hn : ContainedDispatcher base nested) :
    Takes base (reportUnknown nested registry called) (Unknown registry called) := by
  have hreported : Contained base [] (trigger nested registry (Registry.notFound called)) :=
    contained_trigger hn
  have hsuggested : Contained base [] (suggest nested registry (.text called)) :=
    contained_suggest hn
  refine Takes.log_bind (Takes.enter_bind (fun _ => rfl) hreported.keeps (fun _ => .undelivered)
    fun _ => Takes.bind hsuggested.keeps (takes_suggest hn) ?_ ?_)
  · exact fun asked failure hasked => .unsuggested hasked
  · intro asked suggestions hasked
    cases suggestions with
    | nil =>
      refine Takes.quietly fun _ _ => ?_
      rw [List.append_nil]
      exact .alone hasked
    | cons suggestion more => exact takes_trigger fun _ => .hinted hasked (List.cons_ne_nil _ _)

/-- **Every line takes its course**, whatever the callbacks do. -/
theorem takes_parseWith (hn : ContainedDispatcher base nested) (line : Line) :
    Takes base (parseWith nested line.registry line.text line.level) (Handling base line) := by
  refine Takes.reading_bind (f := (·.registryAt line.registry)) fun hub h => ?_
  rw [h.registryAt_eq]
  cases hcall : (base.registryAt line.registry).callIn? line.text with
  | none =>
    refine Takes.quietly fun _ _ => .passed ?_
    rw [Hub.tokens, hcall]
  | some text =>
    have htokens : base.tokens line = Token.tokenize text := by rw [Hub.tokens, hcall]
    dsimp only
    cases hwords : Token.tokenize text with
    | nil => exact Takes.quietly fun _ _ => .passed (htokens.trans hwords)
    | cons called words =>
      -- the word is looked up on the hub as it is then, where the commands are those of `base`
      refine Takes.reading_bind (f := fun hub => (Registry.position? called
        (((base.registryAt line.registry).commands.filterMap (hub.commands[·]?)).map
          (·.toSignature))).bind ((base.registryAt line.registry).commands[·]?)) fun hub h => ?_
      have hcalled : base.called? line = (Registry.position? called
          (((base.registryAt line.registry).commands.filterMap (hub.commands[·]?)).map
            (·.toSignature))).bind ((base.registryAt line.registry).commands[·]?) := by
        rw [h.commands_eq]
        simp only [Hub.called?, hcall, hwords]
      rw [← hcalled]
      rw [hwords] at htokens
      cases hfound : base.called? line with
      | none =>
        have hcontained : Contained base [] (reportUnknown nested (base.registryAt line.registry)
            called) := contained_reportUnknown hn
        refine ((takes_reportUnknown hn).returning hcontained.keeps true).mono ?_
        rintro entries result ⟨ended, rfl, hunknown⟩
        exact .unknown htokens hfound hunknown
      | some id =>
        have hcontained : Contained base [] (serve nested (base.registryAt line.registry) id text
            called words line.level) := contained_serve hn
        refine ((takes_serve hn).returning hcontained.keeps true).mono ?_
        rintro entries result ⟨settled, rfl, front, more, ended, rfl, hcourse, hsettled⟩
        exact .served htokens hfound hcourse hsettled

end Taken

end Journalled

end Chatline
