import GitvTime.Source.Rpc.RpcServerLoader
import GitvTime.Support.Runs

/-!
# Waiting for a connection

`RpcServerLoader` awaits its conditions under an `if`. As long as no thread wakes for no
reason, no caller gets `null` for a handler, and none sleeps behind a handler that is set:
some callback that will wake it is still to come.
-/
namespace GitvTime.Guarantees.Rpc.LoadedHandler
open GitvTime.Support GitvTime.Source.Numbers GitvTime.Source.Rpc RpcServerLoader

variable {digits : CharacterDigit} {l l' : RpcServerLoader} {number : Nat}

/-- A callback that wakes the getters if a handler is set when it gets there. -/
def Due (l : RpcServerLoader) : Prop := .pending ∈ l.callbacks ∨ .signalled ∈ l.callbacks

structure Inv (l : RpcServerLoader) : Prop where
  lengths : l.connected.length = l.callbacks.length
  nodup : l.handlerStatus.Nodup
  queued : ∀ number, number ∈ l.handlerStatus ↔ l.callbacks[number]? = some .waiting
  unset : l.messageSendHandler = none →
    (∀ stage ∈ l.callbacks, stage = .pending ∨ stage = .waiting) ∧
      ∀ getter ∈ l.getters, getter = .waiting
  set : l.messageSendHandler.isSome = true → .waiting ∈ l.getters → Due l
  filled : .returned none ∉ l.getters

theorem inv_create : Inv create := by
  refine ⟨rfl, List.nodup_nil, fun number => ?_, fun _ => ⟨?_, ?_⟩, ?_, List.not_mem_nil⟩
  · simp [create]
  · intro stage member
    cases member
  · intro getter member
    cases member
  · intro set
    cases set

theorem Inv.load (inv : Inv l) (serverAddress : String) :
    Inv (l.load digits serverAddress) := by
  have grown : Inv { l with
      connected := l.connected ++ [false], callbacks := l.callbacks ++ [.pending] } := by
    refine ⟨by simp [inv.lengths], inv.nodup, fun n => ?_,
      fun unset => ⟨fun stage member => ?_, (inv.unset unset).2⟩, fun _ _ => .inl (by simp),
      inv.filled⟩
    · rw [inv.queued]
      rcases Nat.lt_or_ge n l.callbacks.length with old | new
      · rw [List.getElem?_append_left old]
      · rw [List.getElem?_append_right new, List.getElem?_eq_none new]
        cases n - l.callbacks.length <;> simp
    · rcases List.mem_append.mp member with old | new
      · exact (inv.unset unset).1 stage old
      · exact .inl (List.mem_singleton.mp new)
  unfold RpcServerLoader.load
  split
  · split
    · exact inv
    · split
      · exact grown
      · exact inv
  · exact inv

theorem Inv.setMessageSendHandler (inv : Inv l) (known : number < l.callbacks.length) :
    Inv (l.setMessageSendHandler number) := by
  unfold RpcServerLoader.setMessageSendHandler
  split
  case h_1 nobody =>
    refine ⟨inv.lengths, inv.nodup, inv.queued, fun unset => ?_, fun _ waits => ?_, inv.filled⟩
    · cases unset
    · cases set : l.messageSendHandler with
      | some old => exact inv.set (by simp [set]) waits
      | none =>
        -- the callback of this load did not come to its await
        have member := List.getElem_mem known
        rcases (inv.unset set).1 _ member with pending | waiting
        · exact .inl (pending ▸ member)
        · have here := (inv.queued number).mpr
            ((List.getElem?_eq_getElem known).trans (congrArg some waiting))
          rw [nobody] at here
          cases here
  case h_2 first rest waiting =>
    have nodup := inv.nodup
    rw [waiting] at nodup
    obtain ⟨away, nodup⟩ := List.nodup_cons.mp nodup
    have there : l.callbacks[first]? = some .waiting :=
      (inv.queued first).mp (waiting ▸ List.mem_cons_self)
    have inside := (List.getElem?_eq_some_iff.mp there).1
    have woken : (l.callbacks.set first .signalled)[first]? = some .signalled :=
      List.getElem?_set_self inside
    refine ⟨?_, nodup, fun n => ?_, fun unset => ?_, fun _ _ => ?_, inv.filled⟩
    · simpa [setCallback] using inv.lengths
    · simp only [setCallback]
      by_cases here : first = n
      · subst here
        rw [woken]
        exact ⟨fun member => absurd member away, fun same => by cases same⟩
      · rw [List.getElem?_set_ne here, ← inv.queued, waiting, List.mem_cons]
        exact (or_iff_right (Ne.symm here)).symm
    · cases unset
    · exact .inr (List.mem_of_getElem? woken)

theorem Inv.operationComplete (inv : Inv l) {isSuccess : Bool}
    (taken : l.operationComplete number isSuccess = some l') : Inv l' := by
  obtain ⟨open_, taken⟩ := Option.ite_none_right_eq_some.mp taken
  have done : Inv { l with connected := l.connected.set number true } :=
    ⟨by simpa using inv.lengths, inv.nodup, inv.queued, inv.unset, inv.set, inv.filled⟩
  have known : number < l.callbacks.length := by
    rw [← inv.lengths]
    exact (List.getElem?_eq_some_iff.mp open_).1
  cases taken
  cases isSuccess with
  | false => exact done
  | true => exact done.setMessageSendHandler known

/-- With a handler the callback wakes all getters. -/
theorem Inv.wakeGetters (inv : Inv l) (set : l.messageSendHandler.isSome = true)
    (awake : number ∉ l.handlerStatus) : Inv (l.wakeGetters number) := by
  unfold RpcServerLoader.wakeGetters
  rw [if_pos set]
  refine ⟨?_, inv.nodup, fun n => ?_, fun unset => ?_, fun _ waits => ?_, fun member => ?_⟩
  · simpa [setCallback, signalAll] using inv.lengths
  · simp only [setCallback, signalAll]
    by_cases here : number = n
    · subst here
      refine ⟨fun member => absurd member awake, fun there => ?_⟩
      have listed := List.mem_of_getElem? there
      rw [List.getElem?_set] at there
      split at there <;> simp_all
    · rw [List.getElem?_set_ne here]
      exact inv.queued n
  · simp only [setCallback, signalAll] at unset
    rw [unset] at set
    cases set
  · obtain ⟨getter, _, same⟩ := List.mem_map.mp waits
    split at same
    · cases same
    · rename_i other
      exact absurd same other
  · obtain ⟨getter, listed, same⟩ := List.mem_map.mp member
    split at same
    · cases same
    · exact inv.filled (same ▸ listed)

theorem Inv.onSuccess (inv : Inv l) (taken : l.onSuccess number = some l') : Inv l' := by
  obtain ⟨pending, taken⟩ := Option.ite_none_right_eq_some.mp taken
  have awake : number ∉ l.handlerStatus := by
    intro member
    cases pending.symm.trans ((inv.queued number).mp member)
  cases set : l.messageSendHandler with
  | some handler =>
    rw [set, if_neg (by simp)] at taken
    cases taken
    exact inv.wakeGetters (by simp [set]) awake
  | none =>
    rw [set, if_pos Option.isNone_none] at taken
    cases taken
    obtain ⟨stages, getters⟩ := inv.unset set
    have now : (l.callbacks.set number .waiting)[number]? = some .waiting :=
      List.getElem?_set_self (List.getElem?_eq_some_iff.mp pending).1
    refine ⟨?_, ?_, fun n => ?_, fun _ => ⟨fun stage member => ?_, getters⟩, fun set' => ?_,
      inv.filled⟩
    · simpa [setCallback] using inv.lengths
    · refine List.nodup_append.mpr ⟨inv.nodup, List.pairwise_singleton _ number, ?_⟩
      intro n member m single same
      rw [List.mem_singleton.mp single] at same
      exact awake (same ▸ member)
    · simp only [setCallback, List.mem_append, List.mem_singleton]
      by_cases here : number = n
      · subst here
        rw [now]
        exact ⟨fun _ => rfl, fun _ => .inr rfl⟩
      · rw [List.getElem?_set_ne here, inv.queued]
        exact or_iff_left (Ne.symm here)
    · rcases List.mem_or_eq_of_mem_set member with old | new
      · exact stages stage old
      · exact .inr new
    · cases set'

/-- No thread wakes for no reason. -/
def Sound : LoaderTurn → Prop
  | .callbackWakes _ spurious | .getterWakes _ spurious => spurious = false
  | _ => True

theorem Inv.step (inv : Inv l) {turn : LoaderTurn} (sound : Sound turn)
    (taken : l.step digits turn = some l') : Inv l' := by
  cases turn with
  | load serverAddress =>
    cases taken
    exact inv.load serverAddress
  | operationComplete number isSuccess => exact inv.operationComplete taken
  | onSuccess number => exact inv.onSuccess taken
  | callbackWakes number spurious =>
    cases sound
    obtain ⟨signalled, taken⟩ := Option.ite_none_right_eq_some.mp taken
    cases taken
    have awake : number ∉ l.handlerStatus := by
      intro member
      cases signalled.symm.trans ((inv.queued number).mp member)
    have same : l.handlerStatus.filter (· ≠ number) = l.handlerStatus := by
      refine List.filter_eq_self.mpr fun n member => ?_
      simp only [ne_eq, decide_not, Bool.not_eq_true', decide_eq_false_iff_not]
      exact fun here => awake (here ▸ member)
    rw [same]
    refine inv.wakeGetters ?_ awake
    cases set : l.messageSendHandler with
    | some handler => rfl
    | none =>
      rcases (inv.unset set).1 _ (List.mem_of_getElem? signalled) with pending | waiting
      · cases pending
      · cases waiting
  | getMessageSendHandler =>
    cases taken
    cases set : l.messageSendHandler with
    | none =>
      refine ⟨inv.lengths, inv.nodup, inv.queued, fun _ => ⟨(inv.unset set).1, ?_⟩, fun set' => ?_,
        ?_⟩
      · intro getter member
        rcases List.mem_append.mp member with old | new
        · exact (inv.unset set).2 getter old
        · rw [set, if_pos Option.isNone_none] at new
          exact List.mem_singleton.mp new
      · cases set'.symm.trans (congrArg Option.isSome set)
      · intro member
        rcases List.mem_append.mp member with old | new
        · exact inv.filled old
        · rw [set, if_pos Option.isNone_none] at new
          cases List.mem_singleton.mp new
    | some handler =>
      have other : ∀ getter ∈ l.getMessageSendHandler.getters,
          getter ∈ l.getters ∨ getter = .returned (some handler) := by
        intro getter member
        rcases List.mem_append.mp member with old | new
        · exact .inl old
        · rw [set, if_neg (by simp)] at new
          exact .inr (List.mem_singleton.mp new)
      refine ⟨inv.lengths, inv.nodup, inv.queued, fun unset => ?_, fun set' waits => ?_,
        fun member => ?_⟩
      · cases set.symm.trans unset
      · rcases other _ waits with old | new
        · exact inv.set set' old
        · cases new
      · rcases other _ member with old | new
        · exact inv.filled old
        · cases new
  | getterWakes number spurious =>
    cases sound
    obtain ⟨signalled, taken⟩ := Option.ite_none_right_eq_some.mp taken
    cases taken
    have set : l.messageSendHandler ≠ none := by
      intro unset
      cases (inv.unset unset).2 _ (List.mem_of_getElem? signalled)
    refine ⟨inv.lengths, inv.nodup, inv.queued, fun unset => absurd unset set,
      fun set' waits => ?_, fun member => ?_⟩
    · rcases List.mem_or_eq_of_mem_set waits with old | new
      · exact inv.set set' old
      · cases new
    · rcases List.mem_or_eq_of_mem_set member with old | new
      · exact inv.filled old
      · exact set (Getter.returned.inj new).symm

/-- No getter returns `null`, and none sleeps behind a handler unless a callback is still to
wake it. -/
theorem no_lost_wakeup (digits : CharacterDigit) (turns : List LoaderTurn)
    (sound : ∀ turn ∈ turns, Sound turn) :
    AllStates (RpcServerLoader.step digits) (fun l => .returned none ∉ l.getters ∧
      (l.messageSendHandler.isSome = true → .waiting ∈ l.getters →
        .pending ∈ l.callbacks ∨ .signalled ∈ l.callbacks)) create turns := by
  have run : AllStates (RpcServerLoader.step digits) Inv create turns :=
    .of_allSteps (fun _ _ _ inv sound taken => inv.step sound taken) turns inv_create
      (.of_forall sound)
  exact run.mono fun l inv => ⟨inv.filled, inv.set⟩

theorem no_lost_wakeup_two :
    runSteps (RpcServerLoader.step asciiDigit) create
      [.load "h:1", .getMessageSendHandler, .load "h:2", .onSuccess 0, .operationComplete 1 true,
        .callbackWakes 0 false, .getterWakes 0 false] =
      some ⟨[false, true], [.finished, .pending], some 1, [], [.returned (some 1)]⟩ ∧
    AllStates (RpcServerLoader.step asciiDigit) (fun l => .returned none ∉ l.getters ∧
      (l.messageSendHandler.isSome = true → .waiting ∈ l.getters →
        .pending ∈ l.callbacks ∨ .signalled ∈ l.callbacks)) create
      [.load "h:1", .getMessageSendHandler, .load "h:2", .onSuccess 0, .operationComplete 1 true,
        .callbackWakes 0 false, .getterWakes 0 false] := by
  refine ⟨by decide +kernel, no_lost_wakeup asciiDigit _ ?_⟩
  simp [Sound]

end GitvTime.Guarantees.Rpc.LoadedHandler
