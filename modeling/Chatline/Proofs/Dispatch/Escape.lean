import Chatline.Proofs.Dispatch.Pipeline
/-!
# Faults that escape

A fault that a call ends with is caught and handed to the sink, whoever raised it. The
suggester is asked where no command was called and nothing is caught, so a fault that it
raises goes to whoever dispatched the line, and not to the sink. `escapes_iff_suggester`
says that this is the only way in which a fault escapes from a line, as long as the sink
does not fail.
-/

namespace Chatline

/-- **A sink that takes every fault**: it does not fail, whatever the lines come to that it
dispatches. -/
def Sink.Accepts (sink : Sink) : Prop :=
  ∀ fault nested hub, ∃ result, ((sink fault).run nested).ended hub = .ok result

/-- That a registry has a sink, and one that takes every fault. -/
def Registry.Accepts (registry : Registry) : Prop :=
  ∃ sink, registry.sink = some sink ∧ sink.Accepts

/-! ## Courses with a sink that does not fail -/

/-- **What comes of asking the suggester.** -/
inductive Suggestion : List Entry → Except Failure (List Datum) → Prop
  /-- The built-in suggester does not raise a fault. -/
  | builtIn {ended : Except Failure (List Datum)} : (∀ fault, ended ≠ .error (.fault fault)) →
      Suggestion [] ended
  /-- The suggester of the host fails. -/
  | failed {word : Datum} {failure : Failure} :
      Suggestion [.suggested word (.error failure)] (.error failure)
  /-- It gives an answer, which may not be one that can be gone through. -/
  | answered {word answer : Datum} {ended : Except Failure (List Datum)} :
      (∀ fault, ended ≠ .error (.fault fault)) → Suggestion [.suggested word (.ok answer)] ended

/-- **What is reported of a word that calls nothing**, by a sink that does not fail. -/
inductive Informed (registry : Registry) (called : String) :
    List Entry → Except Failure Unit → Prop
  /-- The suggester fails. -/
  | unsuggested {asked : List Entry} {failure : Failure} : Suggestion asked (.error failure) →
      Informed registry called
        (registry.delivery (Registry.notFound called) (.ok ()) :: asked) (.error failure)
  /-- Nothing is suggested. -/
  | alone {asked : List Entry} : Suggestion asked (.ok []) → Informed registry called
      (registry.delivery (Registry.notFound called) (.ok ()) :: asked) (.ok ())
  /-- Something is suggested. -/
  | hinted {asked : List Entry} {suggestions : List Datum} : Suggestion asked (.ok suggestions) →
      Informed registry called
        (registry.delivery (Registry.notFound called) (.ok ()) :: (asked ++
          [registry.delivery (Registry.didYouMean called suggestions) (.ok ())])) (.ok ())

/-- **What is reported of a call** that ended as told, by a sink that does not fail. -/
inductive Caught (registry : Registry) (ended : Except Failure Unit) :
    List Entry → Except Failure Unit → Prop
  /-- A fault is handed over and does not escape. -/
  | fault {fault : Fault} : ended = .error (.fault fault) →
      Caught registry ended [registry.delivery fault (.ok ())] (.ok ())
  /-- Anything else is left as it is. -/
  | other : (∀ fault, ended ≠ .error (.fault fault)) → Caught registry ended [] ended

section Courses

variable {registry : Registry} {called : String} {entries more : List Entry} {fault : Fault}
variable {ended settled : Except Failure Unit}

theorem Suggestion.suggesting {ended : Except Failure (List Datum)}
    (h : Suggestion entries ended) : Suggesting entries := by
  cases h with
  | builtIn => exact Or.inl rfl
  | failed => exact Or.inr ⟨_, _, rfl⟩
  | answered => exact Or.inr ⟨_, _, rfl⟩

/-- Asking the suggester ends with a fault exactly if the suggester raised it. -/
theorem Suggestion.fault_iff {ended : Except Failure (List Datum)} (h : Suggestion entries ended) :
    ended = .error (.fault fault) ↔ ∃ word, .suggested word (.error (.fault fault)) ∈ entries := by
  cases h with
  | builtIn hnone =>
    exact iff_of_false (hnone fault) fun ⟨_, hmem⟩ => List.not_mem_nil hmem
  | failed =>
    constructor
    · intro hfault
      cases hfault
      exact ⟨_, List.mem_singleton_self _⟩
    · rintro ⟨word, hmem⟩
      cases List.mem_singleton.1 hmem
      rfl
  | answered hnone =>
    refine iff_of_false (hnone fault) fun ⟨_, hmem⟩ => ?_
    cases List.mem_singleton.1 hmem

theorem map_eq_fault_iff {α β : Type} {f : α → β} {ended : Except Failure α} :
    ended.map f = .error (.fault fault) ↔ ended = .error (.fault fault) := by
  cases ended with
  | ok _ => exact iff_of_false (fun h => by cases h) fun h => by cases h
  | error failure => exact ⟨fun h => by cases h; rfl, fun h => by cases h; rfl⟩

/-- First the word is reported, then the suggester is asked, and at most the hint comes
after that. -/
theorem Informed.entries_eq (h : Informed registry called entries ended) :
    ∃ asked answer more, Suggestion asked answer ∧ ended = answer.map (fun _ => ()) ∧
      (∀ e ∈ more, ∃ fault, e = registry.delivery fault (.ok ())) ∧
      entries = registry.delivery (Registry.notFound called) (.ok ()) :: (asked ++ more) := by
  cases h with
  | unsuggested hasked =>
    exact ⟨_, _, [], hasked, rfl, fun e he => (by cases he), by rw [List.append_nil]⟩
  | alone hasked =>
    exact ⟨_, _, [], hasked, rfl, fun e he => (by cases he), by rw [List.append_nil]⟩
  | hinted hasked => exact ⟨_, _, _, hasked, rfl, fun e he => ⟨_, List.mem_singleton.1 he⟩, rfl⟩

/-- A word that calls nothing ends its line with a fault exactly if the suggester raised
it. -/
theorem Informed.fault_iff (h : Informed registry called entries ended) :
    ended = .error (.fault fault) ↔
      ∃ word, .suggested word (.error (.fault fault)) ∈ entries := by
  obtain ⟨asked, answer, more, hasked, rfl, hmore, rfl⟩ := h.entries_eq
  rw [map_eq_fault_iff, hasked.fault_iff]
  refine exists_congr fun word => ⟨fun hmem => ?_, fun hmem => ?_⟩
  · exact List.mem_cons_of_mem _ (List.mem_append_left _ hmem)
  · rcases List.mem_cons.1 hmem with heq | hmem
    · cases heq
    · refine (List.mem_append.1 hmem).resolve_right fun hlast => ?_
      obtain ⟨_, heq⟩ := hmore _ hlast
      cases heq

theorem Informed.deliveries_of_error {failure : Failure}
    (h : Informed registry called entries (.error failure)) :
    deliveries entries = [(Registry.notFound called).withOptions registry.faultOptions] := by
  cases h with
  | unsuggested hasked => exact congrArg (_ :: ·) hasked.suggesting.deliveries_eq

/-- Whatever is handed over, it is the sink that takes it. -/
theorem Informed.accepted {toSink : Bool} {outcome : Except Failure Unit}
    (h : Informed registry called entries ended)
    (hmem : .delivered toSink fault outcome ∈ entries) :
    toSink = registry.sink.isSome ∧ outcome = .ok () := by
  obtain ⟨asked, answer, more, hasked, -, hmore, rfl⟩ := h.entries_eq
  rcases List.mem_cons.1 hmem with heq | hmem
  · cases heq
    exact ⟨rfl, rfl⟩
  · rcases List.mem_append.1 hmem with hmem | hmem
    · rcases hasked.suggesting with rfl | ⟨_, _, rfl⟩
      · cases hmem
      · cases List.mem_singleton.1 hmem
    · obtain ⟨_, heq⟩ := hmore _ hmem
      cases heq
      exact ⟨rfl, rfl⟩

/-- A call that ended with a fault is settled by handing it over. -/
theorem Caught.of_fault (h : Caught registry ended more settled)
    (hended : ended = .error (.fault fault)) :
    deliveries more = [fault.withOptions registry.faultOptions] ∧ settled = .ok () := by
  cases h with
  | fault hother =>
    rw [hended] at hother
    cases hother
    exact ⟨rfl, rfl⟩
  | other hnone => exact absurd hended (hnone fault)

theorem Caught.of_other (h : Caught registry ended more settled)
    (hother : ∀ fault, ended ≠ .error (.fault fault)) :
    deliveries more = [] ∧ settled = ended := by
  cases h with
  | fault hfault => exact absurd hfault (hother _)
  | other => exact ⟨rfl, rfl⟩

/-- So no fault escapes from a call. -/
theorem Caught.no_fault (h : Caught registry ended more settled) :
    settled ≠ .error (.fault fault) := by
  cases h with
  | fault => exact fun h => by cases h
  | other hnone => exact hnone fault

theorem Caught.mem {e : Entry} (h : Caught registry ended more settled) (he : e ∈ more) :
    ∃ fault, e = registry.delivery fault (.ok ()) := by
  cases h with
  | fault => exact ⟨_, List.mem_singleton.1 he⟩
  | other => cases he

variable {command : Command} {id : CommandId} {words : List String} {level : Datum}

/-- A call does not come to the suggester. -/
theorem Course.suggested_notMem {word : Datum} {answer : Except Failure Datum}
    (h : Course command id words level entries ended) : .suggested word answer ∉ entries := by
  cases h with
  | stopped hfront => rcases hfront.entries_eq with ⟨rfl, -⟩ | ⟨-, -, _, rfl⟩ <;> simp
  | admitted hfront hrest =>
    rcases hfront.entries_eq with ⟨rfl, -⟩ | ⟨-, -, _, rfl⟩ <;>
      rcases hrest.entries_eq with ⟨_, _, rfl, -⟩ | ⟨_, _, rfl, -⟩ <;> simp

/-- What fails on the way of a call is what the call ends with. -/
theorem Course.ended_of_failed {failure : Failure} (h : Course command id words level entries ended)
    (hfailed : .asked id (.error failure) ∈ entries ∨
      .matched id words (.error failure) ∈ entries ∨
      ∃ subject, .acted id subject (.error failure) ∈ entries) :
    ended = .error failure := by
  cases h with
  | stopped hfront =>
    cases hfront with
    | failed => simpa [eq_comm] using hfailed
    | _ => simp at hfailed
  | @admitted front _ _ hfront hrest =>
    have hfront : front = [] ∨ ∃ reason, front = [.asked id (.ok reason)] := by
      cases hfront with
      | unguarded => exact Or.inl rfl
      | allowed => exact Or.inr ⟨_, rfl⟩
    -- the gates were passed, so it is the match or the action that failed
    rcases hfront with rfl | ⟨reason, rfl⟩
    · cases hrest <;> simp_all
    · cases hrest <;> simp_all

/-- Nor is it anything else that a served call ends with, since what follows the call is
nothing but a delivery. -/
theorem Caught.ended_of_failed {failure : Failure}
    (hcourse : Course command id words level entries ended)
    (h : Caught registry ended more settled)
    (hfailed : .asked id (.error failure) ∈ Entry.called id :: (entries ++ more) ∨
      .matched id words (.error failure) ∈ Entry.called id :: (entries ++ more) ∨
      ∃ subject, .acted id subject (.error failure) ∈ Entry.called id :: (entries ++ more)) :
    ended = .error failure := by
  have hmem : ∀ e, (∀ fault, e ≠ registry.delivery fault (.ok ())) → e ≠ .called id →
      e ∈ Entry.called id :: (entries ++ more) → e ∈ entries := by
    intro e hdelivery hcalled he
    have he := (List.mem_cons.1 he).resolve_left hcalled
    refine (List.mem_append.1 he).resolve_right fun hlast => ?_
    obtain ⟨other, heq⟩ := h.mem hlast
    exact hdelivery other heq
  refine hcourse.ended_of_failed ?_
  rcases hfailed with hasked | hmatched | ⟨subject, hacted⟩
  · exact Or.inl (hmem _ (fun _ heq => by cases heq) (fun heq => by cases heq) hasked)
  · exact Or.inr (Or.inl
      (hmem _ (fun _ heq => by cases heq) (fun heq => by cases heq) hmatched))
  · exact Or.inr (Or.inr
      ⟨subject, hmem _ (fun _ heq => by cases heq) (fun heq => by cases heq) hacted⟩)

end Courses

namespace Journalled

variable {base : Hub} {nested : Dispatcher} {registry : Registry} {id : CommandId}
variable {called : String} {words : List String} {level : Datum}

/-- What is handed to a sink that takes every fault is taken. -/
theorem takes_trigger_accepted (h : registry.Accepts) (fault : Fault) :
    Takes base (trigger nested registry fault) fun entries ended =>
      entries = [registry.delivery fault (.ok ())] ∧ ended = .ok () := by
  obtain ⟨sink, hsink, haccepts⟩ := h
  intro hub hakin
  have hended : (trigger nested registry fault).run.ended hub = .ok () := by
    obtain ⟨result, hresult⟩ :=
      haccepts (fault.withOptions registry.faultOptions) (plain nested) hub
    have hrun : HubM.trigger (plain nested) registry fault =
        ((sink (fault.withOptions registry.faultOptions)).run (plain nested) >>= fun _ =>
          pure ()) := by
      rw [HubM.trigger, hsink]
      rfl
    rw [run_trigger, hrun, HubM.ended_bind, hresult]
    rfl
  have hentered : Takes base (trigger nested registry fault) fun entries ended =>
      entries = [registry.delivery fault ended] := takes_trigger fun _ => rfl
  have hentries := hentered hub hakin
  rw [hended] at hentries
  exact ⟨hentries, hended⟩

theorem takes_suggestion (hn : ContainedDispatcher base nested) {word : Datum} :
    Takes base (suggest nested registry word) Suggestion := by
  rw [suggest]
  cases hs : registry.suggester with
  | affix =>
    intro hub _
    refine .builtIn fun fault hfault => ?_
    have hfault : (HubM.suggest (plain nested) registry word).ended hub =
        .error (.fault fault) := hfault
    rw [HubM.suggest, HubM.ended_bind, hs] at hfault
    cases word <;> cases hfault
  | custom ask =>
    refine Takes.reading_bind fun hub _ => ?_
    have hcontained : ∀ commands, Contained base [] (routine nested (ask word commands)) :=
      fun _ => contained_routine hn _
    refine Takes.enter_bind (fun _ => rfl) (hcontained _).keeps (fun _ => .failed) fun answer => ?_
    refine Takes.quietly fun hub _ => .answered fun fault hfault => ?_
    -- what cannot be gone through is of the wrong type, and that is no fault
    cases hitems : answer.items? with
    | ok items => rw [hitems] at hfault; cases hfault
    | error m => rw [hitems] at hfault; cases hfault

/-- **A word that calls nothing** is reported, then the suggester is asked, and what it
suggests is reported too, if there is anything. -/
theorem takes_unknown_accepted (h : registry.Accepts) (hn : ContainedDispatcher base nested)
    {asking : List Entry → Except Failure (List Datum) → Prop}
    {course : List Entry → Except Failure Unit → Prop}
    (hasking : Takes base (suggest nested registry (.text called)) asking)
    (hfailed : ∀ asked failure, asking asked (.error failure) →
      course (registry.delivery (Registry.notFound called) (.ok ()) :: asked) (.error failure))
    (hnone : ∀ asked, asking asked (.ok []) →
      course (registry.delivery (Registry.notFound called) (.ok ()) :: asked) (.ok ()))
    (hsome : ∀ asked suggestion more, asking asked (.ok (suggestion :: more)) →
      course (registry.delivery (Registry.notFound called) (.ok ()) :: (asked ++
        [registry.delivery (Registry.didYouMean called (suggestion :: more)) (.ok ())]))
        (.ok ())) :
    Takes base (reportUnknown nested registry called) course := by
  have hreported : Contained base [] (trigger nested registry (Registry.notFound called)) :=
    contained_trigger hn
  have hsuggested : Contained base [] (suggest nested registry (.text called)) :=
    contained_suggest hn
  refine Takes.log_bind (Takes.bind hreported.keeps (takes_trigger_accepted h _) ?_ ?_)
  · rintro entries failure ⟨-, hended⟩
    cases hended
  · rintro front u ⟨rfl, -⟩
    refine Takes.bind hsuggested.keeps hasking hfailed fun asked suggestions hasked => ?_
    cases suggestions with
    | nil =>
      refine Takes.quietly fun _ _ => ?_
      rw [List.append_nil]
      exact hnone asked hasked
    | cons suggestion more =>
      refine (takes_trigger_accepted h _).mono ?_
      rintro entries ended ⟨rfl, rfl⟩
      exact hsome asked suggestion more hasked

theorem takes_informed (h : registry.Accepts) (hn : ContainedDispatcher base nested) :
    Takes base (reportUnknown nested registry called) (Informed registry called) :=
  takes_unknown_accepted h hn (takes_suggestion hn) (fun _ _ => .unsuggested) (fun _ => .alone)
    fun _ _ _ => .hinted

theorem takes_caught (h : registry.Accepts) (line : String) (ended : Except Failure Unit) :
    Takes base (settle nested registry line ended) (Caught registry ended) := by
  cases ended with
  | ok _ => exact Takes.quietly fun _ _ => .other fun _ h => by cases h
  | error failure =>
    cases failure with
    | fault fault =>
      refine Takes.log_bind ((takes_trigger_accepted h fault).mono ?_)
      rintro entries ended ⟨rfl, rfl⟩
      exact .fault rfl
    | _ => exact Takes.quietly fun _ _ => .other fun _ h => by cases h

/-- **How a call is served** by a registry whose sink takes every fault. -/
theorem serve_caught (h : registry.Accepts) (nested : Dispatcher) (id : CommandId)
    (line called : String) (words : List String) (level : Datum) (hub : Hub) :
    ∃ more, own ((serve nested registry id line called words level).entries hub) =
        .called id :: (own ((call nested registry id called words level).entries hub) ++ more) ∧
      Caught registry ((HubM.call (plain nested) registry id called words level).ended hub) more
        ((serve nested registry id line called words level).run.ended hub) := by
  have hcall : (attempt (call nested registry id called words level)).run.ended hub =
      .ok ((HubM.call (plain nested) registry id called words level).ended hub) := by
    rw [run_attempt, HubM.ended_attempt, run_call]
  have hserve : (serve nested registry id line called words level).run.ended hub =
      (settle nested registry line
        ((HubM.call (plain nested) registry id called words level).ended hub)).run.ended
        ((attempt (call nested registry id called words level)).run.after hub) := by
    rw [run_serve, HubM.ended_serve, ← run_reported, reported, run_bind, HubM.ended_bind, hcall]
    dsimp only
    rw [run_attempt, HubM.ended_attempt]
    rfl
  have hsettled : Takes ((attempt (call nested registry id called words level)).run.after hub)
      (settle nested registry line
        ((HubM.call (plain nested) registry id called words level).ended hub))
      (Caught registry ((HubM.call (plain nested) registry id called words level).ended hub)) :=
    takes_caught h line _
  rw [hserve, entries_serve, reported, entries_bind, hcall]
  refine ⟨_, ?_, hsettled _ (Hub.akin_refl _)⟩
  rw [← own_append]
  rfl

theorem returning_true (p : Journalled Unit) (hub : Hub) :
    (p >>= fun _ => pure true).entries hub = p.entries hub ∧
      (p >>= fun _ => pure true).run.ended hub = (p.run.ended hub).map fun _ => true := by
  rw [run_bind, entries_bind, HubM.ended_bind]
  cases p.run.ended hub with
  | ok _ => exact ⟨List.append_nil _, rfl⟩
  | error _ => exact ⟨List.append_nil _, rfl⟩

/-- A line in which there are tokens is reported or served. -/
theorem parseWith_of_tokens (nested : Dispatcher) {hub : Hub} {line : Line}
    (h : hub.tokens line = called :: words) :
    ∃ text, let p := match hub.called? line with
        | none => reportUnknown nested (hub.registryAt line.registry) called
        | some id => serve nested (hub.registryAt line.registry) id text called words line.level
      (parseWith nested line.registry line.text line.level).entries hub = p.entries hub ∧
        (parseWith nested line.registry line.text line.level).run.ended hub =
          (p.run.ended hub).map fun _ => true := by
  cases hcall : (hub.registryAt line.registry).callIn? line.text with
  | none =>
    rw [Hub.tokens, hcall] at h
    cases h
  | some text =>
    rw [Hub.tokens, hcall] at h
    dsimp only at h
    have hread : (HubM.registry line.registry).ended hub = .ok (hub.registryAt line.registry) := rfl
    have hsame : (HubM.registry line.registry).after hub = hub := rfl
    have hresolved : (HubM.resolve (hub.registryAt line.registry) called).ended hub =
        .ok (hub.called? line) := by
      simp only [Hub.called?, hcall, h]
      rfl
    refine ⟨text, ?_⟩
    rw [parseWith, run_bind, entries_bind, HubM.ended_bind, run_monadLift, hread]
    simp only [hcall, h]
    rw [run_bind, entries_bind, HubM.ended_bind, run_monadLift, hsame, hresolved]
    cases hub.called? line with
    | none => exact returning_true _ _
    | some id => exact returning_true _ _

end Journalled

/-! ## Lines -/

section Lines

variable {hub : Hub} {line : Line} {called : String} {words : List String} {id : CommandId}
variable {fault : Fault}

/-- **What can be counted on when a line is handled** by a registry whose sink takes every
fault. -/
structure Guarded (registry : Registry) (entries : List Entry) (ended : Except Failure Bool) :
    Prop where
  /-- It is the sink that takes what is handed over. -/
  taken : ∀ toSink fault outcome, .delivered toSink fault outcome ∈ entries →
    toSink = registry.sink.isSome ∧ outcome = .ok ()
  /-- The line ends with a fault exactly if the suggester raised it. -/
  escapes : ∀ fault, ended = .error (.fault fault) ↔
    ∃ word, .suggested word (.error (.fault fault)) ∈ entries

theorem Informed.guarded {registry : Registry} {entries : List Entry} {ended : Except Failure Unit}
    (h : Informed registry called entries ended) :
    Guarded registry entries (ended.map fun _ => true) where
  taken _ _ _ hmem := h.accepted hmem
  escapes _ := map_eq_fault_iff.trans h.fault_iff

/-- From a call no fault escapes, and no suggester is asked. -/
theorem Caught.guarded {registry : Registry} {command : Command} {level : Datum}
    {front more : List Entry} {ended settled : Except Failure Unit}
    (hcourse : Course command id words level front ended)
    (h : Caught registry ended more settled) :
    Guarded registry (.called id :: (front ++ more)) (settled.map fun _ => true) where
  taken toSink fault outcome hmem := by
    rcases List.mem_cons.1 hmem with heq | hmem
    · cases heq
    · rcases List.mem_append.1 hmem with hmem | hmem
      · exact absurd (hcourse.staged.2 _ hmem).2 (Nat.lt_irrefl 5)
      · obtain ⟨_, heq⟩ := h.mem hmem
        cases heq
        exact ⟨rfl, rfl⟩
  escapes fault := by
    refine map_eq_fault_iff.trans (iff_of_false h.no_fault ?_)
    rintro ⟨word, hmem⟩
    rcases List.mem_cons.1 hmem with heq | hmem
    · cases heq
    · rcases List.mem_append.1 hmem with hmem | hmem
      · exact hcourse.suggested_notMem hmem
      · obtain ⟨_, heq⟩ := h.mem hmem
        cases heq

namespace Journalled

theorem informed_of_uncalled (depth : Nat) (h : (hub.registryAt line.registry).Accepts)
    (htokens : hub.tokens line = called :: words) (hcalled : hub.called? line = none) :
    ∃ ended, Informed (hub.registryAt line.registry) called
        (own ((parseWithin (depth + 1) line.registry line.text line.level).entries hub)) ended ∧
      (parseWithin (depth + 1) line.registry line.text line.level).run.ended hub =
        ended.map fun _ => true := by
  obtain ⟨text, hentries, hended⟩ := parseWith_of_tokens (parseWithin depth) htokens
  rw [hcalled] at hentries hended
  rw [parseWithin, hentries, hended]
  exact ⟨_, takes_informed h (contained_parseWithin hub depth) hub (Hub.akin_refl hub), rfl⟩

theorem caught_of_called (depth : Nat) (h : (hub.registryAt line.registry).Accepts)
    (htokens : hub.tokens line = called :: words) (hcalled : hub.called? line = some id) :
    ∃ front more settled,
      own ((parseWithin (depth + 1) line.registry line.text line.level).entries hub) =
        .called id :: (front ++ more) ∧
      (parseWithin (depth + 1) line.registry line.text line.level).run.ended hub =
        (settled.map fun _ => true) ∧
      Course (hub.commandAt id) id words line.level front
        ((HubM.call (HubM.parseWithin depth) (hub.registryAt line.registry) id called words
          line.level).ended hub) ∧
      Caught (hub.registryAt line.registry)
        ((HubM.call (HubM.parseWithin depth) (hub.registryAt line.registry) id called words
          line.level).ended hub) more settled := by
  obtain ⟨text, hentries, hended⟩ := parseWith_of_tokens (parseWithin depth) htokens
  rw [hcalled] at hentries hended
  obtain ⟨more, hown, hcaught⟩ :=
    serve_caught h (parseWithin depth) id text called words line.level hub
  have hcall : Takes hub
      (call (parseWithin depth) (hub.registryAt line.registry) id called words line.level)
      (Course (hub.commandAt id) id words line.level) := takes_call (contained_parseWithin hub depth)
  have hcourse := hcall hub (Hub.akin_refl hub)
  rw [run_call] at hcourse
  rw [plain_parseWithin] at hcourse hcaught
  rw [parseWithin, hentries, hended]
  exact ⟨_, more, _, hown, rfl, hcourse, hcaught⟩

/-- **Every line is guarded.** -/
theorem guarded_parseWithin (depth : Nat) (line : Line)
    (h : (hub.registryAt line.registry).Accepts) :
    Guarded (hub.registryAt line.registry)
      (own ((parseWithin (depth + 1) line.registry line.text line.level).entries hub))
      ((parseWithin (depth + 1) line.registry line.text line.level).run.ended hub) := by
  cases htokens : hub.tokens line with
  | nil =>
    obtain ⟨hentries, hrun⟩ :=
      parseWith_of_passesOver (parseWithin depth) (Hub.tokens_eq_nil_iff.1 htokens)
    rw [parseWithin, hentries, HubM.ended, hrun]
    constructor
    · intro toSink fault outcome hmem
      cases hmem
    · intro fault
      refine iff_of_false (fun h => by cases h) ?_
      rintro ⟨word, hmem⟩
      cases hmem
  | cons called words =>
    cases hcalled : hub.called? line with
    | none =>
      obtain ⟨ended, hinformed, hended⟩ := informed_of_uncalled depth h htokens hcalled
      rw [hended]
      exact hinformed.guarded
    | some id =>
      obtain ⟨front, more, settled, hown, hended, hcourse, hcaught⟩ :=
        caught_of_called depth h htokens hcalled
      rw [hown, hended]
      exact hcaught.guarded hcourse

end Journalled

end Lines

/-- **Which faults escape from a line.** Let the registry have a sink that does not fail. A
line ends with a fault if and only if the suggester of the host raised it; the fault is not
handed over then, but only the one of the word that calls nothing. Where a command is
called no fault escapes: one that its call ends with, whether the precondition, the match
or the action raised it or the dispatcher itself, is handed to the sink, once, and nothing
else is. -/
theorem escapes_iff_suggester (depth : Nat) (hub : Hub) (line : Line)
    (h : (hub.registryAt line.registry).Accepts) :
    let registry := hub.registryAt line.registry
    let p := Journalled.parseWithin (depth + 1) line.registry line.text line.level
    let entries := own (p.entries hub)
    p.run = HubM.parseWithin (depth + 1) line.registry line.text line.level ∧
      (∀ toSink fault outcome, .delivered toSink fault outcome ∈ entries →
        toSink = true ∧ outcome = .ok ()) ∧
      (∀ fault, p.run.ended hub = .error (.fault fault) ↔
        ∃ word, .suggested word (.error (.fault fault)) ∈ entries) ∧
      (∀ fault, p.run.ended hub = .error (.fault fault) → hub.called? line = none ∧
        ∃ called words, hub.tokens line = called :: words ∧ deliveries entries =
          [(Registry.notFound called).withOptions registry.faultOptions]) ∧
      ∀ id called words, hub.called? line = some id → hub.tokens line = called :: words →
        let ended :=
          (HubM.call (HubM.parseWithin depth) registry id called words line.level).ended hub
        (∀ fault, ended = .error (.fault fault) →
          deliveries entries = [fault.withOptions registry.faultOptions] ∧
            p.run.ended hub = .ok true) ∧
        ((∀ fault, ended ≠ .error (.fault fault)) →
          deliveries entries = [] ∧ p.run.ended hub = ended.map fun _ => true) ∧
        ∀ fault, (.asked id (.error (.fault fault)) ∈ entries ∨
            .matched id words (.error (.fault fault)) ∈ entries ∨
            ∃ subject, .acted id subject (.error (.fault fault)) ∈ entries) →
          ended = .error (.fault fault) := by
  intro registry p entries
  have hplain := congrFun (congrFun (congrFun (Journalled.plain_parseWithin (depth + 1))
    line.registry) line.text) line.level
  have hguarded := Journalled.guarded_parseWithin depth line h
  have hsink : registry.sink.isSome = true := by
    obtain ⟨sink, hsome, -⟩ := h
    exact Option.isSome_iff_exists.2 ⟨sink, hsome⟩
  refine ⟨hplain, fun toSink fault outcome hmem => ?_, hguarded.escapes, fun fault hfault => ?_,
    ?_⟩
  · obtain ⟨htoSink, houtcome⟩ := hguarded.taken toSink fault outcome hmem
    exact ⟨htoSink.trans hsink, houtcome⟩
  · cases htokens : hub.tokens line with
    | nil =>
      have hfalse : p.run hub = .ok false hub := (Journalled.parseWith_of_passesOver
        (Journalled.parseWithin depth) (Hub.tokens_eq_nil_iff.1 htokens)).2
      rw [HubM.ended, hfalse] at hfault
      cases hfault
    | cons called words =>
      cases hcalled : hub.called? line with
      | none =>
        obtain ⟨ended, hinformed, hended⟩ :=
          Journalled.informed_of_uncalled depth h htokens hcalled
        obtain rfl := map_eq_fault_iff.1 (hended.symm.trans hfault)
        exact ⟨rfl, called, words, rfl, hinformed.deliveries_of_error⟩
      | some id =>
        obtain ⟨_, _, settled, -, hended, -, hcaught⟩ :=
          Journalled.caught_of_called depth h htokens hcalled
        exact absurd (map_eq_fault_iff.1 (hended.symm.trans hfault)) hcaught.no_fault
  · intro id called words hcalled htokens ended
    obtain ⟨front, more, settled, hown, hended, hcourse, hcaught⟩ :=
      Journalled.caught_of_called depth h htokens hcalled
    have hentries : entries = .called id :: (front ++ more) := hown
    have hline : p.run.ended hub = settled.map fun _ => true := hended
    refine ⟨fun fault hfault => ?_, fun hother => ?_, fun fault hraised => ?_⟩
    · obtain ⟨hdeliveries, hsettled⟩ := hcaught.of_fault hfault
      rw [hentries, hline, hcourse.deliveries_served, hdeliveries, hsettled]
      exact ⟨rfl, rfl⟩
    · obtain ⟨hdeliveries, hsettled⟩ := hcaught.of_other hother
      rw [hentries, hline, hcourse.deliveries_served, hdeliveries, hsettled]
      exact ⟨rfl, rfl⟩
    · rw [hentries] at hraised
      exact hcaught.ended_of_failed hcourse hraised

/-- A fault of the host's. -/
def noIdea : Fault := { kind := .general, message := "no idea", options := [] }

/-- A hub with a registry whose suggester raises a fault. -/
def Hub.clueless : Hub where
  registries := [{ sink := some fun _ => .done .null
                   suggester := .custom fun _ _ => .fail (.fault noIdea) }]

/-- The fault of the suggester escapes, and only the word is reported. -/
theorem clueless_escapes :
    (Hub.clueless.registryAt 0).Accepts ∧
      (HubM.parseWithin 1 0 "ban" (.int 0)).ended Hub.clueless = .error (.fault noIdea) ∧
      (∃ word, .suggested word (.error (.fault noIdea)) ∈
        own ((Journalled.parseWithin 1 0 "ban" (.int 0)).entries Hub.clueless)) ∧
      deliveries (own ((Journalled.parseWithin 1 0 "ban" (.int 0)).entries Hub.clueless)) =
        [(Registry.notFound "ban").withOptions (Hub.clueless.registryAt 0).faultOptions] := by
  have haccepts : (Hub.clueless.registryAt 0).Accepts := ⟨_, rfl, fun _ _ _ => ⟨_, rfl⟩⟩
  have htokens : Hub.clueless.tokens ⟨0, "ban", .int 0⟩ = ["ban"] := by decide +kernel
  have hcalled : Hub.clueless.called? ⟨0, "ban", .int 0⟩ = none := by decide +kernel
  obtain ⟨hplain, -, hescapes, hreported, -⟩ :=
    escapes_iff_suggester 0 Hub.clueless ⟨0, "ban", .int 0⟩ haccepts
  have hfault : (Journalled.parseWithin 1 0 "ban" (.int 0)).run.ended Hub.clueless =
      .error (.fault noIdea) := by
    obtain ⟨text, -, hended⟩ :=
      Journalled.parseWith_of_tokens (Journalled.parseWithin 0) htokens
    rw [hcalled] at hended
    exact hended.trans rfl
  obtain ⟨-, called, words, hcall, hdeliveries⟩ := hreported noIdea hfault
  rw [htokens] at hcall
  cases hcall
  refine ⟨haccepts, ?_, (hescapes noIdea).1 hfault, hdeliveries⟩
  exact (congrArg (·.ended Hub.clueless) hplain).symm.trans hfault

end Chatline
