import GitvTime.Source.Hdfs.TextFileReader

/-!
# The commit position

What the tracker commits after any sequence of acks. It is the longest prefix of acked
records if the first record is the first one acked. A position is safe exactly if the
first record was acked, and it never moves again once the second record was acked before
the first.
-/
namespace GitvTime.Guarantees.Hdfs.AckedOffsets
open GitvTime.Support GitvTime.Source.Hdfs.TextFileReader

/-- The tracker after these acks. -/
def tracked (acks : List Offset) : ProgressTracker :=
  acks.foldl (fun tracker offset => ProgressTracker.recordAckedOffset offset tracker) .empty

/-- A record on this line was acked. -/
def Acked (acks : List Offset) (line : Int) : Prop := ∃ offset ∈ acks, offset.lineNumber = line

instance (acks : List Offset) (line : Int) : Decidable (Acked acks line) :=
  inferInstanceAs (Decidable (∃ offset ∈ acks, offset.lineNumber = line))

/-- The acks of one reading from line `start` on: no record twice, and the offsets grow
with the lines. -/
structure Reading (start : Int) (acks : List Offset) : Prop where
  behind : ∀ offset ∈ acks, start < offset.lineNumber
  once : acks.Pairwise fun a b => a.lineNumber ≠ b.lineNumber
  growing : ∀ a ∈ acks, ∀ b ∈ acks, a.lineNumber < b.lineNumber → a.charOffset < b.charOffset

variable {start : Int} {acks : List Offset} {offset : Offset}

theorem tracked_append (acks : List Offset) (offset : Offset) :
    tracked (acks ++ [offset]) = ProgressTracker.recordAckedOffset offset (tracked acks) := by
  rw [tracked, List.foldl_append]
  rfl

theorem acked_append {line : Int} :
    Acked (acks ++ [offset]) line ↔ Acked acks line ∨ offset.lineNumber = line := by
  simp [Acked, or_and_right, exists_or]

theorem Reading.front {later : List Offset} (reading : Reading start (acks ++ later)) :
    Reading start acks := by
  refine ⟨fun a member => reading.behind a (List.mem_append_left _ member),
    (List.pairwise_append.mp reading.once).1, fun a member b member' => ?_⟩
  exact reading.growing a (List.mem_append_left _ member) b (List.mem_append_left _ member')

/-- The record was not acked before. -/
theorem Reading.new (reading : Reading start (acks ++ [offset])) :
    ¬ Acked acks offset.lineNumber := by
  rintro ⟨other, member, same⟩
  have apart := (List.pairwise_append.mp reading.once).2.2 other member offset
    (List.mem_singleton.mpr rfl)
  exact apart same

theorem isNextOffset_iff {a b : Offset} (grows : a.lineNumber < b.lineNumber →
    a.charOffset < b.charOffset) :
    a.isNextOffset b = true ↔ b.lineNumber = a.lineNumber + 1 := by
  simp only [Offset.isNextOffset, Bool.and_eq_true, decide_eq_true_eq, beq_iff_eq]
  exact ⟨And.right, fun next => ⟨grows (by omega), next⟩⟩

theorem line_of_isNextOffset {a b : Offset} (next : a.isNextOffset b = true) :
    b.lineNumber = a.lineNumber + 1 := by
  simp only [Offset.isNextOffset, Bool.and_eq_true, beq_iff_eq] at next
  exact next.2

/-! ### Trimming -/

/-- The head moves over lines of the list only, drops nothing behind it, and stops where
the next line is none of them. -/
theorem trim_cons (head : Offset) (rest : List Offset) :
    ∃ head' rest', OrderedKeys.trim Offset.isNextOffset (head :: rest) = head' :: rest' ∧
      head.lineNumber ≤ head'.lineNumber ∧
      (∀ line, head.lineNumber ≤ line → line ≤ head'.lineNumber → Acked (head :: rest) line) ∧
      (∀ other ∈ head :: rest, other ∈ head' :: rest' ∨ other.lineNumber < head'.lineNumber) ∧
      (∀ head2 rest2, rest' = head2 :: rest2 → head'.isNextOffset head2 = false) := by
  induction rest generalizing head with
  | nil =>
    refine ⟨head, [], rfl, Int.le_refl _, fun line low high => ?_, fun _ => .inl, nofun⟩
    exact ⟨head, List.mem_cons_self, Int.le_antisymm low high⟩
  | cons head2 rest ih =>
    rw [OrderedKeys.trim]
    split
    case isTrue next =>
      obtain ⟨head', rest', trimmed, low, between, dropped, stops⟩ := ih head2
      have step := line_of_isNextOffset next
      refine ⟨head', rest', trimmed, by omega, fun line above below => ?_, fun other member => ?_,
        stops⟩
      · rcases Int.lt_or_le line head2.lineNumber with before | behind
        · exact ⟨head, List.mem_cons_self, by omega⟩
        · obtain ⟨offset, member, same⟩ := between line behind below
          exact ⟨offset, List.mem_cons_of_mem head member, same⟩
      · rcases List.mem_cons.mp member with rfl | member
        · exact .inr (by omega)
        · exact dropped other member
    case isFalse stop =>
      refine ⟨head, head2 :: rest, rfl, Int.le_refl _, fun line low high => ?_, fun _ => .inl, ?_⟩
      · exact ⟨head, List.mem_cons_self, Int.le_antisymm low high⟩
      · rintro _ _ ⟨⟩
        exact eq_false_of_ne_true stop

theorem isNextOffset_self (offset : Offset) : offset.isNextOffset offset = false := by
  simp [Offset.isNextOffset]

/-- What `recordAckedOffset` makes of the elements, for a line that is not among them. -/
theorem record_cases (tracker : ProgressTracker)
    (new : ∀ other ∈ tracker.elements, other.lineNumber ≠ offset.lineNumber) :
    let after := (ProgressTracker.recordAckedOffset offset tracker).elements
    (tracker.elements = [] ∧ after = [offset]) ∨
      ∃ head rest, tracker.elements = head :: rest ∧
        (offset.lineNumber < head.lineNumber ∧ after = offset :: head :: rest ∨
          head.lineNumber < offset.lineNumber ∧
            after = if head.isNextOffset offset then
                OrderedKeys.trim Offset.isNextOffset
                  (head :: OrderedKeys.insert Offset.lineNumber offset rest)
              else head :: OrderedKeys.insert Offset.lineNumber offset rest) := by
  obtain ⟨elements, sorted⟩ := tracker
  cases elements with
  | nil =>
    refine .inl ⟨rfl, ?_⟩
    simp [ProgressTracker.recordAckedOffset, OrderedKeys.add, OrderedKeys.insert,
      OrderedKeys.first, isNextOffset_self]
  | cons head rest =>
    refine .inr ⟨head, rest, rfl, ?_⟩
    have other : head.lineNumber ≠ offset.lineNumber := new head List.mem_cons_self
    rcases Int.lt_or_gt_of_ne other with before | behind
    · refine .inr ⟨before, ?_⟩
      have add : OrderedKeys.insert Offset.lineNumber offset (head :: rest) =
          head :: OrderedKeys.insert Offset.lineNumber offset rest := by
        rw [OrderedKeys.insert, if_neg (Int.not_lt.mpr (Int.le_of_lt before)), if_neg other.symm]
      simp only [ProgressTracker.recordAckedOffset, OrderedKeys.add, OrderedKeys.first, add,
        List.head?_cons]
      split <;> simp only [OrderedKeys.trimHead]
    · refine .inl ⟨behind, ?_⟩
      have add : OrderedKeys.insert Offset.lineNumber offset (head :: rest) =
          offset :: head :: rest := by
        rw [OrderedKeys.insert, if_pos behind]
      simp [ProgressTracker.recordAckedOffset, OrderedKeys.add, OrderedKeys.first, add,
        isNextOffset_self]

/-- The elements behind an ack, trimmed or not. -/
theorem trimmed_or_not (trims : Bool) (head : Offset) (rest : List Offset) :
    ∃ head' rest', (if trims then OrderedKeys.trim Offset.isNextOffset (head :: rest)
        else head :: rest) = head' :: rest' ∧
      (∀ other ∈ head' :: rest', other ∈ head :: rest) ∧
      ∀ line, head.lineNumber ≤ line → line ≤ head'.lineNumber → Acked (head :: rest) line := by
  cases trims with
  | true =>
    obtain ⟨head', rest', trimmed, _, between, _, _⟩ := trim_cons head rest
    have suffix := OrderedKeys.trim_suffix Offset.isNextOffset (head :: rest)
    exact ⟨head', rest', trimmed, fun other member => suffix.subset (trimmed ▸ member), between⟩
  | false =>
    refine ⟨head, rest, rfl, fun _ member => member, fun line low high => ?_⟩
    exact ⟨head, List.mem_cons_self, Int.le_antisymm low high⟩

/-! ### Safety -/

/-- The tracker holds acked records, and once the first record is acked, everything up to
its head is. -/
structure Tracks (start : Int) (acks : List Offset) (elements : List Offset) : Prop where
  only : ∀ offset ∈ elements, offset ∈ acks
  filled : ∀ head ∈ elements.head?, Acked acks (start + 1) →
    ∀ line, start < line → line ≤ head.lineNumber → Acked acks line
  some : acks ≠ [] → elements ≠ []

theorem Tracks.record {tracker : ProgressTracker} (tracks : Tracks start acks tracker.elements)
    (reading : Reading start (acks ++ [offset])) :
    Tracks start (acks ++ [offset]) (ProgressTracker.recordAckedOffset offset tracker).elements := by
  have unacked := reading.new
  have new : ∀ other ∈ tracker.elements, other.lineNumber ≠ offset.lineNumber :=
    fun other member same => unacked ⟨other, tracks.only other member, same⟩
  have grown : ∀ line, Acked acks line → Acked (acks ++ [offset]) line :=
    fun line acked => acked_append.mpr (.inl acked)
  have start_lt : ∀ other ∈ acks, start < other.lineNumber := reading.front.behind
  have self : offset ∈ acks ++ [offset] := List.mem_append_right _ (List.mem_singleton.mpr rfl)
  rcases record_cases tracker new with ⟨empty, after⟩ | ⟨head, rest, elements, below | above⟩
  · have first : acks = [] := by
      by_contra more
      exact tracks.some more empty
    subst first
    rw [after]
    refine ⟨fun other member => member, fun _ member acked line low high => ?_, nofun⟩
    cases member
    obtain ⟨other, member, at_first⟩ := acked
    cases List.mem_singleton.mp member
    exact ⟨offset, member, by omega⟩
  · obtain ⟨before, after⟩ := below
    rw [after]
    refine ⟨fun other member => ?_, fun _ member acked line low high => ?_, nofun⟩
    · rcases List.mem_cons.mp member with rfl | member
      · exact self
      · exact List.mem_append_left _ (tracks.only other (elements ▸ member))
    · cases member
      rcases acked_append.mp acked with acked | at_first
      · have filled := tracks.filled head (by rw [elements]; rfl) acked
        exact absurd (filled _ (reading.behind offset self) (Int.le_of_lt before)) unacked
      · exact ⟨offset, self, by omega⟩
  · obtain ⟨before, after⟩ := above
    have members : ∀ other ∈ head :: OrderedKeys.insert Offset.lineNumber offset rest,
        other ∈ acks ++ [offset] := by
      intro other member
      rcases List.mem_cons.mp member with rfl | member
      · exact List.mem_append_left _ (tracks.only other (elements ▸ List.mem_cons_self))
      · rcases OrderedKeys.mem_of_mem_insert member with rfl | member
        · exact self
        · have old : other ∈ tracker.elements := elements ▸ List.mem_cons_of_mem head member
          exact List.mem_append_left _ (tracks.only other old)
    obtain ⟨head', rest', shape, fewer, between⟩ := trimmed_or_not (head.isNextOffset offset) head
      (OrderedKeys.insert Offset.lineNumber offset rest)
    rw [after, shape]
    refine ⟨fun other member => members other (fewer other member),
      fun _ member acked line low high => ?_, nofun⟩
    cases member
    have old : Acked acks (start + 1) := by
      refine (acked_append.mp acked).resolve_right fun at_first => ?_
      have behind := start_lt head (tracks.only head (elements ▸ List.mem_cons_self))
      omega
    rcases Int.lt_or_le line head.lineNumber with lower | higher
    · exact grown line (tracks.filled head (by rw [elements]; rfl) old line low (by omega))
    · obtain ⟨other, member, same⟩ := between line higher high
      exact ⟨other, members other member, same⟩

theorem tracks_tracked (reading : Reading start acks) :
    Tracks start acks (tracked acks).elements := by
  induction acks using List.reverseRecOn with
  | nil => exact ⟨nofun, nofun, fun more => absurd rfl more⟩
  | append_singleton acks offset ih =>
    rw [tracked_append]
    exact (ih reading.front).record reading

/-- All records up to the commit position are acked exactly if the first one is. -/
theorem position_safe_iff (reading : Reading start acks) (position : Offset)
    (commits : ProgressTracker.getCommitPosition (tracked acks) = some position) :
    (∀ line, start < line → line ≤ position.lineNumber → Acked acks line) ↔
      Acked acks (start + 1) := by
  have tracks := tracks_tracked reading
  have member : position ∈ acks := tracks.only position (List.mem_of_mem_head? commits)
  have behind := reading.behind position member
  constructor
  · exact fun safe => safe (start + 1) (by omega) (by omega)
  · exact fun acked => tracks.filled position commits acked

/-! ### Exactness -/

/-- The tracker has all acked records from its head on, and the next one is not acked. -/
structure Exact (acks : List Offset) (elements : List Offset) : Prop where
  kept : ∀ head ∈ elements.head?, ∀ other ∈ acks,
    other ∈ elements ∨ other.lineNumber < head.lineNumber
  missing : ∀ head ∈ elements.head?, ¬ Acked acks (head.lineNumber + 1)

theorem Exact.record {tracker : ProgressTracker} (exact : Exact acks tracker.elements)
    (tracks : Tracks start acks tracker.elements) (reading : Reading start (acks ++ [offset]))
    (first : Acked acks (start + 1)) :
    Exact (acks ++ [offset]) (ProgressTracker.recordAckedOffset offset tracker).elements := by
  have unacked := reading.new
  have new : ∀ other ∈ tracker.elements, other.lineNumber ≠ offset.lineNumber :=
    fun other member same => unacked ⟨other, tracks.only other member, same⟩
  have self : offset ∈ acks ++ [offset] := List.mem_append_right _ (List.mem_singleton.mpr rfl)
  have sorted := (ProgressTracker.recordAckedOffset offset tracker).sorted
  have later := tracks.record reading
  rcases record_cases tracker new with ⟨empty, after⟩ | ⟨head, rest, elements, below | above⟩
  · obtain ⟨other, member, _⟩ := first
    exact absurd empty (tracks.some (List.ne_nil_of_mem member))
  · have filled := tracks.filled head (by rw [elements]; rfl) first
    have low : offset.lineNumber ≤ head.lineNumber := Int.le_of_lt below.1
    exact absurd (filled _ (reading.behind offset self) low) unacked
  · obtain ⟨before, after⟩ := above
    have head_member : head ∈ acks := tracks.only head (elements ▸ List.mem_cons_self)
    have whole : ∀ other ∈ acks ++ [offset],
        other ∈ head :: OrderedKeys.insert Offset.lineNumber offset rest ∨
          other.lineNumber < head.lineNumber := by
      intro other member
      rcases List.mem_append.mp member with member | member
      · refine (exact.kept head (by rw [elements]; rfl) other member).imp_left fun member => ?_
        rw [elements] at member
        rcases List.mem_cons.mp member with rfl | member
        · exact List.mem_cons_self
        · exact List.mem_cons_of_mem head (OrderedKeys.mem_insert_of_mem member)
      · cases List.mem_singleton.mp member
        refine .inl (List.mem_cons_of_mem head (OrderedKeys.mem_insert_self fun z member => ?_))
        exact new z (elements ▸ List.mem_cons_of_mem head member)
    by_cases next : head.isNextOffset offset = true
    · obtain ⟨head', rest', trimmed, low, _, dropped, stops⟩ :=
        trim_cons head (OrderedKeys.insert Offset.lineNumber offset rest)
      rw [if_pos next, trimmed] at after
      rw [after] at sorted later ⊢
      refine ⟨fun _ at_head other member => ?_, fun _ at_head acked => ?_⟩
      · cases at_head
        rcases whole other member with member | lower
        · exact dropped other member
        · exact .inr (by omega)
      · cases at_head
        obtain ⟨other, member, same⟩ := acked
        have inside : other ∈ head' :: rest' := by
          rcases whole other member with member | lower
          · exact (dropped other member).resolve_right (by omega)
          · omega
        have behind : other ∈ rest' := by
          refine (List.mem_cons.mp inside).resolve_left fun at_head => ?_
          rw [at_head] at same
          omega
        cases rest' with
        | nil => cases behind
        | cons head2 rest2 =>
          obtain ⟨above_head, sorted⟩ := List.pairwise_cons.mp sorted
          have above := above_head head2 List.mem_cons_self
          have below : head2.lineNumber ≤ other.lineNumber := by
            rcases List.mem_cons.mp behind with rfl | behind
            · exact Int.le_refl _
            · exact Int.le_of_lt ((List.pairwise_cons.mp sorted).1 other behind)
          have grows := reading.growing head' (later.only head' List.mem_cons_self) head2
            (later.only head2 (List.mem_cons_of_mem head' List.mem_cons_self))
          have next' := (isNextOffset_iff grows).mpr (by omega)
          rw [stops head2 rest2 rfl] at next'
          cases next'
    · rw [if_neg next] at after
      rw [after]
      refine ⟨fun _ at_head => ?_, fun _ at_head acked => ?_⟩
      · cases at_head
        exact whole
      · cases at_head
        rcases acked_append.mp acked with acked | same
        · exact exact.missing head (by rw [elements]; rfl) acked
        · have grows := reading.growing head (List.mem_append_left _ head_member) offset self
          exact next ((isNextOffset_iff grows).mpr same)

theorem tracked_singleton (offset : Offset) : (tracked [offset]).elements = [offset] := by
  rcases record_cases .empty nofun with ⟨_, after⟩ | ⟨head, rest, elements, _⟩
  · exact after
  · cases elements

/-- When the first record is the first one acked, the commit position is the end of the
longest acked prefix. -/
theorem position_exact (first : Offset) (later : List Offset)
    (reading : Reading start (first :: later)) (at_first : first.lineNumber = start + 1)
    (position : Offset)
    (commits : ProgressTracker.getCommitPosition (tracked (first :: later)) = some position) :
    (∀ line, start < line → line ≤ position.lineNumber → Acked (first :: later) line) ∧
      ¬ Acked (first :: later) (position.lineNumber + 1) := by
  have acked : ∀ later, Acked (first :: later) (start + 1) :=
    fun later => ⟨first, List.mem_cons_self, at_first⟩
  refine ⟨(position_safe_iff reading position commits).mpr (acked later), ?_⟩
  suffices exact : Exact (first :: later) (tracked (first :: later)).elements from
    exact.missing position commits
  clear commits
  induction later using List.reverseRecOn with
  | nil =>
    rw [tracked_singleton]
    refine ⟨fun _ _ other member => .inl member, fun _ at_head again => ?_⟩
    cases at_head
    obtain ⟨other, member, same⟩ := again
    cases List.mem_singleton.mp member
    omega
  | append_singleton later offset ih =>
    have front : Reading start (first :: later) := reading.front
    rw [← List.cons_append, tracked_append]
    exact (ih front).record (tracks_tracked front) reading (acked later)

/-- Records 1, 3 and 2 are acked in this order. -/
theorem position_exact_three :
    (∀ line, (0 : Int) < line → line ≤ 3 → Acked [⟨4, 1⟩, ⟨12, 3⟩, ⟨8, 2⟩] line) ∧
      ¬ Acked [⟨4, 1⟩, ⟨12, 3⟩, ⟨8, 2⟩] (3 + 1) := by
  have reading : Reading 0 [⟨4, 1⟩, ⟨12, 3⟩, ⟨8, 2⟩] := by
    refine ⟨?_, ?_, ?_⟩ <;> simp
  exact position_exact ⟨4, 1⟩ [⟨12, 3⟩, ⟨8, 2⟩] reading rfl ⟨12, 3⟩ rfl

/-! ### Out of order -/

/-- An ack of the second record before the first one: the commit position stays at the
first record whatever is acked later, and the tracker grows with every ack. -/
theorem position_stuck (before later : List Offset) (first : Offset)
    (reading : Reading start (before ++ first :: later)) (at_first : first.lineNumber = start + 1)
    (second : Acked before (start + 2)) :
    ProgressTracker.getCommitPosition (tracked (before ++ first :: later)) = some first ∧
      (tracked (before ++ first :: later)).size =
        (tracked before).size + 1 + later.length := by
  suffices stays : ∃ rest, (tracked (before ++ first :: later)).elements = first :: rest ∧
      rest.length = (tracked before).size + later.length by
    obtain ⟨rest, elements, length⟩ := stays
    constructor
    · simp only [ProgressTracker.getCommitPosition, OrderedKeys.first, elements, List.head?_cons]
    · simp only [OrderedKeys.size, elements, List.length_cons, length]
      omega
  induction later using List.reverseRecOn with
  | nil =>
    have front : Reading start before := reading.front
    have tracks := tracks_tracked front
    have unacked : ¬ Acked before first.lineNumber := reading.new
    rw [tracked_append]
    rcases record_cases (tracked before) (fun other member same =>
      unacked ⟨other, tracks.only other member, same⟩) with
      ⟨empty, _⟩ | ⟨head, rest, elements, below | above⟩
    · obtain ⟨other, member, _⟩ := second
      exact absurd empty (tracks.some (List.ne_nil_of_mem member))
    · refine ⟨head :: rest, below.2, ?_⟩
      rw [OrderedKeys.size, elements, List.length_nil, Nat.add_zero]
    · have behind := front.behind head (tracks.only head (elements ▸ List.mem_cons_self))
      have lower := above.1
      omega
  | append_singleton later offset ih =>
    have whole : before ++ first :: (later ++ [offset]) =
        (before ++ first :: later) ++ [offset] := by
      rw [List.append_assoc, List.cons_append]
    rw [whole] at reading ⊢
    obtain ⟨rest, elements, length⟩ := ih reading.front
    have tracks := tracks_tracked reading.front
    have unacked := reading.new
    have new : ∀ other ∈ (tracked (before ++ first :: later)).elements,
        other.lineNumber ≠ offset.lineNumber :=
      fun other member same => unacked ⟨other, tracks.only other member, same⟩
    have not_second : offset.lineNumber ≠ start + 2 := by
      intro same
      obtain ⟨other, member, at_second⟩ := second
      exact unacked ⟨other, List.mem_append_left _ member, at_second.trans same.symm⟩
    have not_next : first.isNextOffset offset = false := by
      refine eq_false_of_ne_true fun next => ?_
      have line := line_of_isNextOffset next
      omega
    have behind := reading.behind offset
      (List.mem_append_right _ (List.mem_singleton.mpr rfl))
    rw [tracked_append]
    rcases record_cases (tracked (before ++ first :: later)) new with
      ⟨empty, _⟩ | ⟨head, rest', elements', below | above⟩
    · rw [elements] at empty
      cases empty
    · cases elements.symm.trans elements'
      have lower := below.1
      omega
    · cases elements.symm.trans elements'
      refine ⟨_, above.2.trans (by rw [not_next]; rfl), ?_⟩
      rw [OrderedKeys.length_insert fun z member =>
        new z (elements ▸ List.mem_cons_of_mem first member), length, List.length_append,
        List.length_singleton]
      omega

end GitvTime.Guarantees.Hdfs.AckedOffsets
