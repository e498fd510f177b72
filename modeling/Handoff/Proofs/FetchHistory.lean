import Handoff.Proofs.FetchOutcomes
import Mathlib.Data.List.DropRight

/-! Runs of fetches on one client, one after the other. As long as nothing expires, a client
remembers what an ideal memory would: for each file and set of ids the last answer since
everything was forgotten. Then only a question without such an answer makes a request. -/

namespace Handoff.Service

/-- What is done with a client. -/
inductive Operation where
  | fetch (fileKey : String) (ids : List String)
  | clear

/-- What came of an operation: for a fetch the requests that it made and its result. -/
inductive Event where
  | fetched (fileKey : String) (ids : List String) (requests : List Request) (result : Except Failure Document.File)
  | cleared
  deriving DecidableEq

namespace Client

def perform (transport : Transport) (now : Nat) (client : Client) : Operation → Event × Client
  | .fetch fileKey ids =>
    let (result, after) := client.fetch transport now fileKey ids
    (.fetched fileKey ids (after.sent.drop client.sent.length) result, after)
  | .clear => (.cleared, client.clear)

/-- Operations at their times, one after the other. -/
def run (transport : Transport) (client : Client) : List (Nat × Operation) → List Event × Client
  | [] => ([], client)
  | (now, operation) :: rest =>
    let (event, after) := client.perform transport now operation
    let (events, last) := after.run transport rest
    (event :: events, last)

end Client

/-! What an ideal memory holds after some events -/

/-- The same ids, whatever their order and repetitions. -/
def SameIds (ids others : List String) : Prop := ∀ id, id ∈ ids ↔ id ∈ others

instance (ids others : List String) : Decidable (SameIds ids others) :=
  decidable_of_iff ((∀ id ∈ ids, id ∈ others) ∧ ∀ id ∈ others, id ∈ ids)
    ⟨fun both id => ⟨both.1 id, both.2 id⟩, fun same => ⟨fun id => (same id).mp, fun id => (same id).mpr⟩⟩

namespace Event

def isClear : Event → Bool
  | .cleared => true
  | _ => false

/-- The event is a fetch of this file and this set of ids. -/
def Asks (fileKey : String) (ids : List String) : Event → Prop
  | .fetched otherKey others _ _ => otherKey = fileKey ∧ SameIds others ids
  | .cleared => False

instance (fileKey : String) (ids : List String) : (event : Event) → Decidable (event.Asks fileKey ids)
  | .fetched .. => inferInstanceAs (Decidable (_ ∧ SameIds _ _))
  | .cleared => inferInstanceAs (Decidable False)

/-- The document that a fetch of this file and this set of ids succeeded with. -/
def answer? (fileKey : String) (ids : List String) : Event → Option Document.File
  | .fetched otherKey others _ (.ok document) => if otherKey = fileKey ∧ SameIds others ids then some document else none
  | _ => none

end Event

/-- The documents that a question was answered with since everything was last forgotten. -/
def answers (fileKey : String) (ids : List String) (events : List Event) : List Document.File :=
  (events.rtakeWhile (!·.isClear)).filterMap (·.answer? fileKey ids)

/-- Documents are remembered for longer than a run takes. -/
def Outlasts (timeToLive : Nat) (steps : List (Nat × Operation)) : Prop :=
  ∃ start, ∀ step ∈ steps, start ≤ step.1 ∧ step.1 < start + timeToLive

variable {transport : Transport} {settings : Settings} {client : Client} {now start : Nat} {fileKey : String}
  {ids : List String} {events : List Event}

private theorem answers_cleared : answers fileKey ids (events ++ [.cleared]) = [] := by
  rw [answers, List.rtakeWhile_concat_neg _ _ _ (by simp [Event.isClear])]
  rfl

private theorem getLast?_answers_received {otherKey : String} {others : List String} {requests : List Request}
    {document : Document.File} :
    (answers fileKey ids (events ++ [.fetched otherKey others requests (.ok document)])).getLast? =
      if otherKey = fileKey ∧ SameIds others ids then some document else (answers fileKey ids events).getLast? := by
  rw [answers, List.rtakeWhile_concat_pos _ _ _ (by simp [Event.isClear]), List.filterMap_append]
  by_cases same : otherKey = fileKey ∧ SameIds others ids
  · simp [Event.answer?, same]
  · simp [Event.answer?, same, answers]

private theorem answers_failed {otherKey : String} {others : List String} {requests : List Request} {error : Failure} :
    answers fileKey ids (events ++ [.fetched otherKey others requests (.error error)]) = answers fileKey ids events := by
  rw [answers, List.rtakeWhile_concat_pos _ _ _ (by simp [Event.isClear]), List.filterMap_append]
  exact List.append_nil _

/-! The cache beside the ideal memory -/

/-- The cache has for each question its last answer, and nothing from before some time. -/
structure Client.Recalls (settings : Settings) (start : Nat) (events : List Event) (client : Client) : Prop where
  settled : client.settings = settings
  recalled : ∀ fileKey ids, client.cache.document? (.ofIds fileKey ids) = (answers fileKey ids events).getLast?
  since : ∀ stored ∈ client.cache, start ≤ stored.storedAt

namespace Client

private theorem recalls_ofSettings (settings : Settings) (start : Nat) : (ofSettings settings).Recalls settings start [] :=
  ⟨rfl, fun _ _ => rfl, List.forall_mem_nil _⟩

theorem Recalls.isFresh (recalls : client.Recalls settings start events)
    (inside : start ≤ now ∧ now < start + settings.timeToLive) : client.cache.IsFresh client.settings.timeToLive now := by
  intro stored member
  have late := recalls.since stored member
  rw [Cache.isFresh, recalls.settled, decide_eq_true_eq]
  omega

theorem Recalls.lookup (recalls : client.Recalls settings start events)
    (inside : start ≤ now ∧ now < start + settings.timeToLive) (fileKey : String) (ids : List String) :
    client.cache.lookup client.settings.timeToLive now (.ofIds fileKey ids) =
      ((answers fileKey ids events).getLast?, client.cache) := by
  rw [Cache.lookup_of_fresh (recalls.isFresh inside), recalls.recalled]

/-- Neither remembers anything of a fetch that fails. -/
theorem Recalls.failed (recalls : client.Recalls settings start events) (fileKey : String) (ids : List String)
    (requests sent : List Request) (error : Failure) :
    ({ client with sent } : Client).Recalls settings start (events ++ [.fetched fileKey ids requests (.error error)]) :=
  ⟨recalls.settled, fun _ _ => by rw [answers_failed, recalls.recalled], recalls.since⟩

/-- A fetch keeps the cache in step with the ideal memory. -/
theorem Recalls.fetch (recalls : client.Recalls settings start events)
    (inside : start ≤ now ∧ now < start + settings.timeToLive) (fileKey : String) (ids : List String)
    (requests : List Request) :
    (client.fetch transport now fileKey ids).2.Recalls settings start
      (events ++ [.fetched fileKey ids requests (client.fetch transport now fileKey ids).1]) := by
  obtain ⟨result, after, done, outcome⟩ := client.fetches transport now fileKey ids
  rw [done]
  -- Nothing has expired, so a lookup leaves the cache as it is, whether it finds something or not.
  have looked := recalls.lookup inside fileKey ids
  cases outcome with
  | invalid bad => exact recalls.failed fileKey ids requests client.sent _
  | recalled question hit =>
    obtain ⟨last, rfl⟩ := Prod.mk.inj (looked.symm.trans hit)
    refine ⟨recalls.settled, fun otherKey others => ?_, recalls.since⟩
    rw [getLast?_answers_received]
    split
    next same => rw [← CacheKey.ofIds_inj.mpr same, recalls.recalled, last]
    next => exact recalls.recalled otherKey others
  | unbuilt question miss failed =>
    obtain ⟨-, rfl⟩ := Prod.mk.inj (looked.symm.trans miss)
    exact recalls.failed fileKey ids requests client.sent _
  | failed question miss built rejected =>
    obtain ⟨-, rfl⟩ := Prod.mk.inj (looked.symm.trans miss)
    exact recalls.failed fileKey ids requests _ _
  | received question miss built accepted =>
    obtain ⟨-, rfl⟩ := Prod.mk.inj (looked.symm.trans miss)
    refine ⟨recalls.settled, fun otherKey others => ?_, fun stored member => ?_⟩
    · rw [getLast?_answers_received]
      split
      next same => rw [← CacheKey.ofIds_inj.mpr same, Cache.document?_store_self]
      next different =>
        rw [Cache.document?_store_other (recalls.isFresh inside) fun same => different (CacheKey.ofIds_inj.mp same.symm)]
        exact recalls.recalled otherKey others
    · rcases Cache.mem_store member with member | rfl
      · exact recalls.since stored member
      · exact inside.1

theorem perform_fetch : client.perform transport now (.fetch fileKey ids) =
    (.fetched fileKey ids ((client.fetch transport now fileKey ids).2.sent.drop client.sent.length)
      (client.fetch transport now fileKey ids).1, (client.fetch transport now fileKey ids).2) := by
  rw [perform]

theorem perform_clear : client.perform transport now .clear = (.cleared, client.clear) := rfl

theorem run_cons (operation : Operation) (rest : List (Nat × Operation)) :
    client.run transport ((now, operation) :: rest) =
      ((client.perform transport now operation).1 :: ((client.perform transport now operation).2.run transport rest).1,
        ((client.perform transport now operation).2.run transport rest).2) := by
  rw [run]

private theorem run_concat_fetch (steps : List (Nat × Operation)) :
    (client.run transport (steps ++ [(now, .fetch fileKey ids)])).2 =
      ((client.run transport steps).2.fetch transport now fileKey ids).2 := by
  induction steps generalizing client with
  | nil => rw [List.nil_append, run_cons, perform_fetch, run, run]
  | cons step steps ih =>
    obtain ⟨time, operation⟩ := step
    rw [List.cons_append, run_cons, run_cons, ih]

private theorem Recalls.perform (recalls : client.Recalls settings start events)
    (inside : start ≤ now ∧ now < start + settings.timeToLive) (transport : Transport) (operation : Operation) :
    (client.perform transport now operation).2.Recalls settings start
      (events ++ [(client.perform transport now operation).1]) := by
  cases operation with
  | fetch fileKey ids =>
    rw [perform_fetch]
    exact recalls.fetch inside fileKey ids _
  | clear =>
    rw [perform_clear]
    refine ⟨recalls.settled, fun fileKey ids => ?_, List.forall_mem_nil _⟩
    rw [answers_cleared]
    rfl

/-- A run keeps the cache in step with the ideal memory. -/
theorem Recalls.run (recalls : client.Recalls settings start events) (transport : Transport) {steps : List (Nat × Operation)}
    (inside : ∀ step ∈ steps, start ≤ step.1 ∧ step.1 < start + settings.timeToLive) :
    (client.run transport steps).2.Recalls settings start (events ++ (client.run transport steps).1) := by
  induction steps generalizing client events with
  | nil => simpa [Client.run] using recalls
  | cons step rest ih =>
    obtain ⟨now, operation⟩ := step
    obtain ⟨first, inside⟩ := List.forall_mem_cons.mp inside
    have later := ih (recalls.perform first transport operation) inside
    rw [List.append_assoc] at later
    rwa [run_cons]

/-! One operation of a run -/

theorem settings_fetch : (client.fetch transport now fileKey ids).2.settings = client.settings := by
  obtain ⟨result, after, done, outcome⟩ := client.fetches transport now fileKey ids
  rw [done]
  cases outcome <;> rfl

private theorem settings_perform (operation : Operation) :
    (client.perform transport now operation).2.settings = client.settings := by
  cases operation with
  | clear => rfl
  | fetch fileKey ids =>
    rw [perform_fetch]
    exact settings_fetch

theorem settings_run (steps : List (Nat × Operation)) : (client.run transport steps).2.settings = client.settings := by
  induction steps generalizing client with
  | nil => rfl
  | cons step rest ih =>
    obtain ⟨now, operation⟩ := step
    rw [run_cons]
    exact ih.trans (settings_perform operation)

/-- An event of a run comes from a step of it, done by the client that the steps before leave. -/
theorem run_split {steps : List (Nat × Operation)} {earlier later : List Event} {event : Event}
    (split : (client.run transport steps).1 = earlier ++ event :: later) :
    ∃ before now operation after, steps = before ++ (now, operation) :: after ∧
      before.length = earlier.length ∧ (client.run transport before).1 = earlier ∧
      ((client.run transport before).2.perform transport now operation).1 = event ∧
      (((client.run transport before).2.perform transport now operation).2.run transport after).1 = later := by
  induction steps generalizing client earlier with
  | nil =>
    have none := (List.append_eq_nil_iff.mp split.symm).2
    cases none
  | cons step rest ih =>
    obtain ⟨now, operation⟩ := step
    rw [run_cons] at split
    cases earlier with
    | nil =>
      obtain ⟨first, others⟩ := List.cons.inj split
      exact ⟨[], now, operation, rest, rfl, rfl, rfl, first, others⟩
    | cons head earlier =>
      obtain ⟨first, others⟩ := List.cons.inj split
      obtain ⟨before, time, done, after, rfl, same, events, found, final⟩ := ih others
      refine ⟨(now, operation) :: before, time, done, after, rfl, congrArg Nat.succ same, ?_, ?_, ?_⟩
      · rw [run_cons, first, events]
      · rwa [run_cons]
      · rwa [run_cons]

theorem request_of_miss (question : IsQuestion fileKey ids)
    (reached : client.settings.Reaches ("files/" ++ fileKey ++ "/nodes"))
    (missed : (client.cache.lookup client.settings.timeToLive now (.ofIds fileKey ids)).1 = none) :
    ∃ request, (client.fetch transport now fileKey ids).2.sent.drop client.sent.length = [request] := by
  obtain ⟨request, buildable⟩ := reached.request [("ids", String.intercalate "," ids)]
  obtain ⟨result, after, done, outcome⟩ := client.fetches transport now fileKey ids
  rw [done]
  cases outcome with
  | invalid bad => exact absurd question bad
  | recalled _ hit => rw [hit] at missed; cases missed
  | unbuilt _ _ failed => cases buildable.symm.trans failed
  | failed => exact ⟨_, List.drop_left⟩
  | received => exact ⟨_, List.drop_left⟩

private theorem fetch_of_hit {document : Document.File} (question : IsQuestion fileKey ids)
    (found : (client.cache.lookup client.settings.timeToLive now (.ofIds fileKey ids)).1 = some document) :
    (client.fetch transport now fileKey ids).1 = .ok document ∧
      (client.fetch transport now fileKey ids).2.sent = client.sent := by
  obtain ⟨result, after, done, outcome⟩ := client.fetches transport now fileKey ids
  rw [done]
  cases outcome with
  | invalid bad => exact absurd question bad
  | recalled _ hit =>
    rw [hit] at found
    cases found
    exact ⟨rfl, rfl⟩
  | unbuilt _ miss => rw [miss] at found; cases found
  | failed _ miss => rw [miss] at found; cases found
  | received _ miss => rw [miss] at found; cases found

private theorem fetch_of_not_question (bad : ¬ IsQuestion fileKey ids) :
    (client.fetch transport now fileKey ids).2 = client ∧
      ∃ error, (client.fetch transport now fileKey ids).1 = .error error := by
  obtain ⟨result, after, done, outcome⟩ := client.fetches transport now fileKey ids
  rw [done]
  cases outcome with
  | invalid => exact ⟨rfl, _, rfl⟩
  | recalled question => exact absurd question bad
  | unbuilt question => exact absurd question bad
  | failed question => exact absurd question bad
  | received question => exact absurd question bad

/-- A fetch is answered as the ideal memory says. -/
theorem Recalls.answered (recalls : client.Recalls settings start events)
    (inside : start ≤ now ∧ now < start + settings.timeToLive) (question : IsQuestion fileKey ids)
    (reached : settings.Reaches ("files/" ++ fileKey ++ "/nodes")) :
    match (answers fileKey ids events).getLast? with
    | some document =>
      (client.fetch transport now fileKey ids).2.sent.drop client.sent.length = [] ∧
        (client.fetch transport now fileKey ids).1 = .ok document
    | none => ∃ request, (client.fetch transport now fileKey ids).2.sent.drop client.sent.length = [request] := by
  have looked := congrArg Prod.fst (recalls.lookup inside fileKey ids)
  split
  next document last =>
    obtain ⟨found, sent⟩ := fetch_of_hit question (looked.trans last)
    exact ⟨by rw [sent, List.drop_length], found⟩
  next none => exact request_of_miss question (recalls.settled ▸ reached) (looked.trans none)

/-- A fetch that fails leaves nothing new in the cache, and nothing under its key. -/
theorem cache_of_failure {error : Failure} (failed : (client.fetch transport now fileKey ids).1 = .error error) :
    (client.fetch transport now fileKey ids).2.cache ⊆ client.cache ∧
      (IsQuestion fileKey ids → ¬ (client.fetch transport now fileKey ids).2.cache.Holds (.ofIds fileKey ids)) := by
  obtain ⟨result, after, done, outcome⟩ := client.fetches transport now fileKey ids
  rw [done] at failed ⊢
  cases outcome with
  | invalid bad => exact ⟨List.Subset.refl _, fun question => absurd question bad⟩
  | recalled => cases failed
  | unbuilt _ miss => exact ⟨(Cache.lookup_miss miss).1, fun _ => (Cache.lookup_miss miss).2⟩
  | failed _ miss => exact ⟨(Cache.lookup_miss miss).1, fun _ => (Cache.lookup_miss miss).2⟩
  | received => cases failed

/-- Only a fetch for a key puts something under it. -/
theorem not_holds_perform {operation : Operation} (absent : ¬ client.cache.Holds (.ofIds fileKey ids))
    (other : ¬ (client.perform transport now operation).1.Asks fileKey ids) :
    ¬ (client.perform transport now operation).2.cache.Holds (.ofIds fileKey ids) := by
  cases operation with
  | clear =>
    rw [perform_clear]
    rintro ⟨stored, member, -⟩
    exact List.not_mem_nil member
  | fetch otherKey others =>
    rw [perform_fetch] at other ⊢
    have different : ¬ (otherKey = fileKey ∧ SameIds others ids) := other
    obtain ⟨result, after, done, outcome⟩ := client.fetches transport now otherKey others
    rw [done]
    have fewer {cache : Cache} (part : cache ⊆ client.cache) : ¬ cache.Holds (.ofIds fileKey ids) :=
      fun ⟨stored, member, same⟩ => absent ⟨stored, part member, same⟩
    cases outcome with
    | invalid => exact absent
    | recalled _ hit =>
      obtain ⟨-, rfl⟩ := Cache.lookup_hit hit
      exact absent
    | unbuilt _ miss => exact fewer (Cache.lookup_miss miss).1
    | failed _ miss => exact fewer (Cache.lookup_miss miss).1
    | received _ miss =>
      rintro ⟨stored, member, same⟩
      rcases Cache.mem_store member with member | rfl
      · exact fewer (Cache.lookup_miss miss).1 ⟨stored, member, same⟩
      · exact different (CacheKey.ofIds_inj.mp same)

private theorem not_holds_run {steps : List (Nat × Operation)} (absent : ¬ client.cache.Holds (.ofIds fileKey ids))
    (others : ∀ event ∈ (client.run transport steps).1, ¬ event.Asks fileKey ids) :
    ¬ (client.run transport steps).2.cache.Holds (.ofIds fileKey ids) := by
  induction steps generalizing client with
  | nil => exact absent
  | cons step rest ih =>
    obtain ⟨now, operation⟩ := step
    rw [run_cons] at others ⊢
    obtain ⟨first, others⟩ := List.forall_mem_cons.mp others
    exact ih (not_holds_perform absent first) others

/-- A fetch in a run is done by the client that the steps before it leave. -/
theorem run_split_fetched {steps : List (Nat × Operation)} {earlier later : List Event} {requests : List Request}
    {result : Except Failure Document.File}
    (split : (client.run transport steps).1 = earlier ++ .fetched fileKey ids requests result :: later) :
    ∃ before now after, steps = before ++ (now, .fetch fileKey ids) :: after ∧
      before.length = earlier.length ∧ (client.run transport before).1 = earlier ∧
      ((client.run transport before).2.fetch transport now fileKey ids).1 = result ∧
      ((client.run transport before).2.fetch transport now fileKey ids).2.sent.drop
        (client.run transport before).2.sent.length = requests ∧
      (((client.run transport before).2.fetch transport now fileKey ids).2.run transport after).1 = later := by
  obtain ⟨before, now, operation, after, rfl, same, events, found, final⟩ := run_split split
  cases operation with
  | clear => cases found
  | fetch otherKey others =>
    rw [perform_fetch] at found final
    injection found with key asked sent result
    subst key asked
    exact ⟨before, now, after, rfl, same, events, result, sent, final⟩

end Client

/-- The addresses of all files that are asked for can be read. -/
def Settings.ReachesAll (settings : Settings) (steps : List (Nat × Operation)) : Prop :=
  ∀ now fileKey ids, (now, .fetch fileKey ids) ∈ steps → IsQuestion fileKey ids →
    settings.Reaches ("files/" ++ fileKey ++ "/nodes")

private theorem isQuestion_congr {others : List String} (same : SameIds others ids) :
    IsQuestion fileKey others ↔ IsQuestion fileKey ids := by
  have some : others ≠ [] ↔ ids ≠ [] := by
    simp only [ne_eq, List.eq_nil_iff_forall_not_mem, show ∀ id, id ∈ others ↔ id ∈ ids from same]
  have each : (∀ id ∈ others, Text.trim id ≠ "") ↔ ∀ id ∈ ids, Text.trim id ≠ "" :=
    forall_congr' fun id => imp_congr_left (same id)
  rw [IsQuestion, IsQuestion, some, each]

/-- As long as nothing is under a key, the next fetch for it makes a request. -/
theorem Client.request_of_not_holds {steps : List (Nat × Operation)} {others : List String} {earlier later : List Event}
    {requests : List Request} {result : Except Failure Document.File}
    (reached : client.settings.ReachesAll steps) (absent : ¬ client.cache.Holds (.ofIds fileKey ids))
    (question : IsQuestion fileKey ids) (same : SameIds others ids)
    (split : (client.run transport steps).1 = earlier ++ .fetched fileKey others requests result :: later)
    (between : ∀ event ∈ earlier, ¬ event.Asks fileKey ids) : ∃ request, requests = [request] := by
  obtain ⟨before, now, after, rfl, -, rfl, -, rfl, -⟩ := run_split_fetched split
  have valid := (isQuestion_congr same).mpr question
  have still := not_holds_run absent between
  rw [← CacheKey.ofIds_inj.mpr ⟨rfl, same⟩] at still
  refine request_of_miss valid ?_ (Cache.lookup_of_not_holds still)
  rw [settings_run]
  exact reached now fileKey others (by simp) valid

/-- What a fetch in a run does. Without a proper question it makes no request. If documents outlast
the run, then what was answered since everything was last forgotten is answered so again, and all
else is requested; if they do not last at all, everything is requested. A fetch that fails stores
nothing, so the next one for the same file and ids makes a request. -/
theorem run_recalls {steps : List (Nat × Operation)} {earlier later : List Event} {requests : List Request}
    {result : Except Failure Document.File} (reached : settings.ReachesAll steps)
    (split : ((Client.ofSettings settings).run transport steps).1 =
      earlier ++ .fetched fileKey ids requests result :: later) :
    (¬ IsQuestion fileKey ids → requests = [] ∧ ∃ error, result = .error error) ∧
    (IsQuestion fileKey ids → Outlasts settings.timeToLive steps →
      match (answers fileKey ids earlier).getLast? with
      | some document => requests = [] ∧ result = .ok document
      | none => ∃ request, requests = [request]) ∧
    (IsQuestion fileKey ids → settings.timeToLive = 0 → ∃ request, requests = [request]) ∧
    ∀ error, result = .error error →
      ((Client.ofSettings settings).run transport (steps.take (earlier.length + 1))).2.cache ⊆
        ((Client.ofSettings settings).run transport (steps.take earlier.length)).2.cache ∧
      (IsQuestion fileKey ids → ∀ between others next nextResult rest, SameIds others ids →
        later = between ++ .fetched fileKey others next nextResult :: rest →
        (∀ event ∈ between, ¬ event.Asks fileKey ids) → ∃ request, next = [request]) := by
  obtain ⟨before, now, after, rfl, length, rfl, rfl, rfl, rfl⟩ := Client.run_split_fetched split
  have settled : ((Client.ofSettings settings).run transport before).2.settings = settings := Client.settings_run before
  have reachable (question : IsQuestion fileKey ids) := reached now fileKey ids (by simp) question
  refine ⟨fun bad => ?_, fun question outlasts => ?_, fun question zero => ?_, fun error failed => ⟨?_, ?_⟩⟩
  · obtain ⟨unchanged, failed⟩ := Client.fetch_of_not_question bad
    exact ⟨by rw [unchanged, List.drop_length], failed⟩
  · obtain ⟨start, inside⟩ := outlasts
    obtain ⟨earlier, inside, -⟩ := by simpa only [List.forall_mem_append, List.forall_mem_cons] using inside
    have recalls := (Client.recalls_ofSettings settings start).run transport earlier
    rw [List.nil_append] at recalls
    exact recalls.answered inside question (reachable question)
  · refine Client.request_of_miss question ?_ ?_
    · rw [settled]
      exact reachable question
    · rw [settled, zero]
      exact Cache.lookup_zero
  · rw [← length, List.take_left, List.take_length_add_append, List.take_succ_cons, List.take_zero,
      Client.run_concat_fetch]
    exact (Client.cache_of_failure failed).1
  · intro question between others next nextResult rest same split none
    refine Client.request_of_not_holds ?_ ((Client.cache_of_failure failed).2 question) question same split none
    rw [Client.settings_fetch, settled]
    intro time key asked member
    exact reached time key asked (List.mem_append_right _ (List.mem_cons_of_mem _ member))

/-- A question that is asked again, in another order, and after the service has become silent. -/
def sampleSteps : List (Nat × Operation) :=
  [(0, .fetch "abc" ["1:2", "1:3"]), (100, .fetch "abc" ["1:3", "1:2", "1:3"]), (200, .clear),
    (210, .fetch "abc" ["1:3"]), (220, .fetch "abc" ["1:2"]), (230, .fetch "abc" [" "]), (240, .fetch "abc" ["1:2", "1:2"])]

def sampleEvents : List Event :=
  let url (ids : String) : String := "https://design.test/v1/files/abc/nodes?ids=" ++ ids
  [.fetched "abc" ["1:2", "1:3"] [⟨url "1%3A2%2C1%3A3", "token"⟩] (.ok sampleFile),
    .fetched "abc" ["1:3", "1:2", "1:3"] [] (.ok sampleFile), .cleared,
    .fetched "abc" ["1:3"] [⟨url "1%3A3", "token"⟩] (.ok sampleFile),
    .fetched "abc" ["1:2"] [⟨url "1%3A2", "token"⟩] (.error (.transport (url "1%3A2"))),
    .fetched "abc" [" "] [] (.error (.invalid .noIds)),
    .fetched "abc" ["1:2", "1:2"] [⟨url "1%3A2%2C1%3A2", "token"⟩] (.error (.transport (url "1%3A2%2C1%3A2")))]

theorem run_recalls_sample :
    ((Client.ofSettings sampleSettings).run sampleTransport sampleSteps).1 = sampleEvents ∧
    (∃ requests result, sampleEvents[1]? = some (.fetched "abc" ["1:3", "1:2", "1:3"] requests result) ∧
      requests = [] ∧ result = .ok sampleFile) ∧
    (∃ requests result, sampleEvents[3]? = some (.fetched "abc" ["1:3"] requests result) ∧
      ∃ request, requests = [request]) ∧
    (∃ requests result, sampleEvents[5]? = some (.fetched "abc" [" "] requests result) ∧
      requests = [] ∧ ∃ error, result = .error error) ∧
    ∃ requests result, sampleEvents[6]? = some (.fetched "abc" ["1:2", "1:2"] requests result) ∧
      ∃ request, requests = [request] := by
  have events : ((Client.ofSettings sampleSettings).run sampleTransport sampleSteps).1 = sampleEvents := by decide +kernel
  have reachable : sampleSettings.Reaches ("files/" ++ "abc" ++ "/nodes") :=
    ⟨⟨"https://design.test/v1/files/abc/nodes?", "token"⟩, by decide +kernel⟩
  have reached : sampleSettings.ReachesAll sampleSteps := by
    intro now fileKey ids member _
    have same : ∀ step ∈ sampleSteps, ∀ key asked, step.2 = .fetch key asked → "abc" = key := by simp [sampleSteps]
    rwa [← same _ member _ _ rfl]
  have outlasts : Outlasts sampleSettings.timeToLive sampleSteps := ⟨0, by decide⟩
  refine ⟨events, ⟨_, _, rfl, ?_⟩, ⟨_, _, rfl, ?_⟩, ⟨_, _, rfl, ?_⟩, ⟨_, _, rfl, ?_⟩⟩
  · have second : (_ : List Event) = sampleEvents.take 1 ++ .fetched .. :: sampleEvents.drop 2 := events
    have again := (run_recalls reached second).2.1 (by decide) outlasts
    rwa [show answers "abc" ["1:3", "1:2", "1:3"] (sampleEvents.take 1) = [sampleFile] from rfl] at again
  · have fourth : (_ : List Event) = sampleEvents.take 3 ++ .fetched .. :: sampleEvents.drop 4 := events
    have cleared := (run_recalls reached fourth).2.1 (by decide) outlasts
    rwa [show answers "abc" ["1:3"] (sampleEvents.take 3) = [] from rfl] at cleared
  · have sixth : (_ : List Event) = sampleEvents.take 5 ++ .fetched .. :: sampleEvents.drop 6 := events
    exact (run_recalls reached sixth).1 (by decide)
  · have fifth : (_ : List Event) = sampleEvents.take 4 ++ .fetched .. :: sampleEvents.drop 5 := events
    have failed := ((run_recalls reached fifth).2.2.2 _ rfl).2 (by decide)
    exact failed [_] ["1:2", "1:2"] _ _ _ (by decide) rfl (by decide)

end Handoff.Service
