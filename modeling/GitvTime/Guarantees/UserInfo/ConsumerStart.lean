import GitvTime.Guarantees.UserInfo.PartnerList
import GitvTime.Source.UserInfo.StartUp

/-!
# Which partners are served after the start

The timers of a partner are started before the constructor that may refuse it. The
first partner that `SynFactory` does not know keeps its two timers, which drain its
queue into one that nobody reads, and ends the loop for all partners after it.
-/
namespace GitvTime.Guarantees.UserInfo
open GitvTime.Source.UserInfo GitvTime.Source.UserInfo.StartUp
open GitvTime.Source.UserInfo.MacQueue (Task)

namespace ConsumerStart

/-- `SynFactory` has an implementation. -/
def Known (partner : String) : Prop := ∃ synData, getSynInstance partner = .ok synData

/-- A timer takes the partner's messages from RabbitMQ. -/
def Drained (process : Process) (task : Task) (partner : String) : Prop :=
  ∃ timer ∈ process.timers, timer.task = task ∧ timer.queueName = partner

/-- A consumer of the partner runs. -/
def Consumed (process : Process) (partner : String) : Prop :=
  ∃ consumer ∈ process.consumers, consumer.routingKey = partner

/-- Every partner that can be served is, and no other loses messages. -/
structure Served (partners : List String) (process : Process) : Prop where
  known : ∀ partner ∈ partners, Known partner →
    (∀ task, Drained process task partner) ∧ Consumed process partner
  drained : ∀ task partner, Drained process task partner → Consumed process partner

/-! ### One turn of the loop -/

theorem known_iff {partner : String} :
    Known partner ↔ partner ∈ ["AH_CMCC", "JS_CMCC", "JS_CMCC_CP"] := by
  unfold Known getSynInstance factory
  by_cases anhui : partner = "AH_CMCC"
  · simp [anhui, Source.RmConsumer.Partner.routingKey]
  · by_cases jiangsu : partner = "JS_CMCC"
    · simp [jiangsu, Source.RmConsumer.Partner.routingKey]
    · by_cases copy : partner = "JS_CMCC_CP"
      · simp [copy, Source.RmConsumer.Partner.routingKey]
      · simp [anhui, jiangsu, copy, Ne.symm anhui, Ne.symm jiangsu, Ne.symm copy,
          Source.RmConsumer.Partner.routingKey]

instance (partner : String) : Decidable (Known partner) := decidable_of_iff _ known_iff.symm

/-- The constructor succeeds exactly for a known partner, with its name. -/
theorem newQueueConsumer_of_known {partner : String} (known : Known partner) :
    ∃ consumer, newQueueConsumer partner = .ok consumer ∧ consumer.routingKey = partner := by
  obtain ⟨synData, found⟩ := known
  refine ⟨⟨partner, synData⟩, ?_, rfl⟩
  unfold newQueueConsumer
  rw [found]
  rfl

theorem newQueueConsumer_of_unknown {partner : String} (unknown : ¬ Known partner) :
    ∃ exception, newQueueConsumer partner = .error exception := by
  unfold newQueueConsumer
  cases asked : getSynInstance partner with
  | ok synData => exact absurd ⟨synData, asked⟩ unknown
  | error exception => exact ⟨exception, rfl⟩

theorem drained_startTimers {process : Process} {routingKey partner : String} {task : Task} :
    Drained (process.startTimers routingKey) task partner ↔
      Drained process task partner ∨ routingKey = partner := by
  simp only [Drained, Process.startTimers, Process.scheduleAtFixedRate, List.append_assoc,
    List.mem_append, List.mem_cons, List.not_mem_nil, or_false]
  constructor
  · rintro ⟨timer, old | rfl | rfl, same, name⟩
    · exact .inl ⟨timer, old, same, name⟩
    · exact .inr name
    · exact .inr name
  · rintro (⟨timer, old, same, name⟩ | rfl)
    · exact ⟨timer, .inl old, same, name⟩
    · cases task with
      | timeCondition => exact ⟨_, .inr (.inl rfl), rfl, rfl⟩
      | numCondition => exact ⟨_, .inr (.inr rfl), rfl, rfl⟩

theorem drained_submit {process : Process} {consumer : QueueConsumer} {partner : String}
    {task : Task} : Drained (process.submit consumer) task partner ↔ Drained process task partner :=
  Iff.rfl

/-! ### The loop -/

def submittedFor (process : Process) : List String :=
  process.submitted.map QueueConsumer.routingKey

/-- With known partners only, every one of them gets its timers and its consumer. -/
theorem mainLoop_of_known {partners : List String} (all : ∀ partner ∈ partners, Known partner)
    (process : Process) :
    submittedFor (mainLoop process partners).1 = submittedFor process ++ partners ∧
      ∀ task partner, Drained (mainLoop process partners).1 task partner ↔
        Drained process task partner ∨ partner ∈ partners := by
  induction partners generalizing process with
  | nil => simp [mainLoop]
  | cons routingKey rest ih =>
    obtain ⟨consumer, made, name⟩ := newQueueConsumer_of_known (all routingKey List.mem_cons_self)
    have tail : ∀ partner ∈ rest, Known partner := by
      intro partner member
      exact all partner (List.mem_cons_of_mem _ member)
    simp only [mainLoop, made]
    obtain ⟨submitted, drained⟩ := ih tail ((process.startTimers routingKey).submit consumer)
    constructor
    · rw [submitted]
      simp [submittedFor, Process.submit, Process.startTimers, Process.scheduleAtFixedRate, name]
    · intro task partner
      rw [drained, drained_submit, drained_startTimers, List.mem_cons, or_assoc,
        @eq_comm _ partner routingKey]

/-- Only known partners are submitted. -/
theorem submitted_known {partners : List String} {process : Process}
    (known : ∀ partner ∈ submittedFor process, Known partner) :
    ∀ partner ∈ submittedFor (mainLoop process partners).1, Known partner := by
  induction partners generalizing process with
  | nil => exact known
  | cons routingKey rest ih =>
    by_cases accepted : Known routingKey
    · obtain ⟨consumer, made, name⟩ := newQueueConsumer_of_known accepted
      simp only [mainLoop, made]
      apply ih
      intro partner member
      simp only [submittedFor, Process.submit, List.map_append, List.map_cons, List.map_nil,
        List.mem_append, List.mem_singleton, name] at member
      rcases member with old | rfl
      · exact known partner old
      · exact accepted
    · obtain ⟨exception, refused⟩ := newQueueConsumer_of_unknown accepted
      simp only [mainLoop, refused]
      exact known

/-- An unknown partner of the list leaves one with timers. -/
theorem drained_unknown {partners : List String} {unknown : String} (member : unknown ∈ partners)
    (refused : ¬ Known unknown) (process : Process) :
    ∃ partner, ¬ Known partner ∧ ∀ task, Drained (mainLoop process partners).1 task partner := by
  induction partners generalizing process with
  | nil => exact absurd member List.not_mem_nil
  | cons routingKey rest ih =>
    by_cases accepted : Known routingKey
    · obtain ⟨consumer, made, _⟩ := newQueueConsumer_of_known accepted
      simp only [mainLoop, made]
      rcases List.mem_cons.mp member with rfl | later
      · exact absurd accepted refused
      · exact ih later _
    · obtain ⟨exception, failed⟩ := newQueueConsumer_of_unknown accepted
      simp only [mainLoop, failed]
      refine ⟨routingKey, accepted, fun task => ?_⟩
      exact drained_startTimers.mpr (.inr rfl)

/-! ### The start -/

/-- ZooKeeper has no two children of one name. -/
theorem nodup_getCanUsePartnerList (content : Children) :
    (getCanUsePartnerList content).Nodup := by
  unfold getCanUsePartnerList
  rw [initLoop_eq, List.nil_append]
  apply List.Nodup.filter
  exact content.keys_nodup.sublist (List.takeWhile_sublist _)

/-- Three names are known, so the consumers of known partners all have a thread. -/
theorem length_le_threads {partners : List String} (nodup : partners.Nodup)
    (all : ∀ partner ∈ partners, Known partner) : partners.length ≤ THREADS := by
  have subset : partners ⊆ ["AH_CMCC", "JS_CMCC", "JS_CMCC_CP"] := by
    intro partner member
    exact known_iff.mp (all partner member)
  exact (List.subperm_of_subset nodup subset).length_le

theorem served_of_known {partners : List String} (nodup : partners.Nodup)
    (all : ∀ partner ∈ partners, Known partner) :
    Served partners (mainLoop .start partners).1 := by
  obtain ⟨submitted, drained⟩ := mainLoop_of_known all .start
  rw [show submittedFor Process.start = [] from rfl, List.nil_append] at submitted
  have consumed : ∀ partner ∈ partners, Consumed (mainLoop .start partners).1 partner := by
    intro partner member
    have room : (mainLoop .start partners).1.submitted.length ≤ THREADS := by
      have same := congrArg List.length submitted
      rw [submittedFor, List.length_map] at same
      rw [same]
      exact length_le_threads nodup all
    rw [← submitted] at member
    obtain ⟨consumer, found, name⟩ := List.mem_map.mp member
    refine ⟨consumer, ?_, name⟩
    rwa [Process.consumers, List.take_of_length_le room]
  have none_before : ∀ task partner, ¬ Drained Process.start task partner := by
    rintro task partner ⟨timer, impossible, _⟩
    cases impossible
  constructor
  · intro partner member _
    exact ⟨fun task => (drained task partner).mpr (.inr member), consumed partner member⟩
  · intro task partner timer
    have member := ((drained task partner).mp timer).resolve_left (none_before task partner)
    exact consumed partner member

/-- `main` serves every partner that it can, and drains no queue without a consumer,
exactly when `SynFactory` knows every enabled partner. -/
theorem partners_served_iff (content : Children) :
    Served (getCanUsePartnerList content) (main content).1 ↔
      ∀ partner ∈ getCanUsePartnerList content, Known partner := by
  constructor
  · intro served unknown member
    by_contra refused
    obtain ⟨partner, not_known, drained⟩ := drained_unknown member refused .start
    -- its timers run, but nothing unknown was submitted
    obtain ⟨consumer, running, name⟩ := served.drained .timeCondition partner (drained _)
    have submitted : partner ∈ submittedFor (main content).1 := by
      rw [← name]
      exact List.mem_map_of_mem (List.mem_of_mem_take running)
    apply not_known
    apply submitted_known _ partner submitted
    simp [submittedFor, Process.start]
  · intro all
    exact served_of_known (nodup_getCanUsePartnerList content) all

/-- A partner that is enabled before its implementation is deployed. -/
def earlyEnabled : Children :=
  ((∅ : Children).insert "AH_CMCC" (some "true")).insert "GD_CMCC" (some "true")

/-- It is drained without a consumer, and the next partner is not served. -/
theorem early_enabled_stops_others :
    (main earlyEnabled).1.submitted.map QueueConsumer.routingKey = [] ∧
      (main earlyEnabled).2 = some "no this Partner imp!" ∧
        ¬ ∀ content, Served (getCanUsePartnerList content) (main content).1 := by
  refine ⟨by decide, by decide, fun served => ?_⟩
  have drained : Drained (main earlyEnabled).1 .timeCondition "GD_CMCC" :=
    ⟨⟨.timeCondition, "GD_CMCC", DELAY_TIME, PERIOD_TIME⟩, List.mem_cons_self, rfl, rfl⟩
  obtain ⟨consumer, running, _⟩ := (served earlyEnabled).drained _ _ drained
  have nobody : (main earlyEnabled).1.consumers = [] := by rfl
  rw [nobody] at running
  exact absurd running List.not_mem_nil

end ConsumerStart

end GitvTime.Guarantees.UserInfo
