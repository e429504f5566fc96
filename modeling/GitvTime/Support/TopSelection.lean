import GitvTime.Support.BoundedSelection

/-!
# When a bounded set selects the top elements

The selection is right for every iteration order exactly when the elements that
filled the set, with any one of the largest of them exchanged for the champion of
the later ones, are ordered by their keys as by their ranks and outrank all
others. When larger ranks have larger keys this leaves two cases: the set was
filled by the top elements, or it was filled by equal ones and exactly one later
element is larger.
-/
namespace GitvTime.Support.HashedSet

variable {α κ ρ : Type} [LinearOrder κ] [LinearOrder ρ] {key : α → κ}

/-! ### Sorting -/

private theorem order_trans (key : α → κ) (a b c : Ref α)
    (ab : decide (descending (key a.val) (key b.val) ≤ 0) = true)
    (bc : decide (descending (key b.val) (key c.val) ≤ 0) = true) :
    decide (descending (key a.val) (key c.val) ≤ 0) = true := by
  simp only [descending_le, decide_eq_true_eq] at ab bc ⊢
  exact le_trans bc ab

private theorem order_total (key : α → κ) (a b : Ref α) :
    (decide (descending (key a.val) (key b.val) ≤ 0) ||
      decide (descending (key b.val) (key a.val) ≤ 0)) = true := by
  simp only [descending_le, Bool.or_eq_true, decide_eq_true_eq]
  exact le_total _ _

theorem sorted_perm (iteration : Iteration (Ref α)) (set : List (Ref α)) :
    (sorted key iteration set).Perm set :=
  (List.mergeSort_perm _ _).trans (iteration.perm set)

theorem sorted_pairwise (iteration : Iteration (Ref α)) (set : List (Ref α)) :
    (sorted key iteration set).Pairwise fun a b => key b.val ≤ key a.val := by
  have ordered := List.pairwise_mergeSort (order_trans key) (order_total key)
    (iteration.order set)
  exact ordered.imp fun le => by simpa [descending_le] using le

/-- The sort is stable. -/
theorem sorted_pair {iteration : Iteration (Ref α)} {set : List (Ref α)} {a b : Ref α}
    (iterated : [a, b].Sublist (iteration.order set)) (le : key b.val ≤ key a.val) :
    [a, b].Sublist (sorted key iteration set) :=
  List.pair_sublist_mergeSort (order_trans key) (order_total key)
    (by simpa [descending_le] using le) iterated

/-! ### Top elements -/

/-- The output of `n` offers: `min capacity n` of them, in the order of `rank`,
and none left out ranks above one that was kept. -/
structure TopOf (capacity : Nat) (rank : Ref α → ρ) (elements output : List (Ref α)) : Prop where
  drawn : output.Subperm elements
  count : output.length = min capacity elements.length
  sorted : output.Pairwise fun a b => rank b ≤ rank a
  top : ∀ left ∈ elements, left ∉ output → ∀ kept ∈ output, rank left ≤ rank kept

/-- The keys order these elements as their ranks do, and no other element ranks
above one of them. -/
structure Exact (key : α → κ) (rank : Ref α → ρ) (elements set : List (Ref α)) : Prop where
  agree : ∀ a ∈ set, ∀ b ∈ set, key b.val ≤ key a.val → rank b ≤ rank a
  top : ∀ left ∈ elements, left ∉ set → ∀ kept ∈ set, rank left ≤ rank kept

theorem Exact.perm {rank : Ref α → ρ} {elements set set' : List (Ref α)} (exact : Exact key rank elements set)
    (perm : set.Perm set') : Exact key rank elements set' :=
  ⟨fun a ha b hb => exact.agree a (perm.mem_iff.mpr ha) b (perm.mem_iff.mpr hb),
    fun left member absent kept there =>
      exact.top left member (fun h => absent (perm.mem_iff.mp h)) kept (perm.mem_iff.mpr there)⟩

/-- Larger ranks have larger keys. -/
def Follows (key : α → κ) (rank : Ref α → ρ) (elements : List (Ref α)) : Prop :=
  ∀ a ∈ elements, ∀ b ∈ elements, rank a ≤ rank b → key a.val ≤ key b.val

theorem Follows.strict {rank : Ref α → ρ} {elements : List (Ref α)}
    (follows : Follows key rank elements) {a b : Ref α}
    (ha : a ∈ elements) (hb : b ∈ elements) (less : key a.val < key b.val) : rank a < rank b :=
  not_le.mp fun le => absurd less (not_lt.mpr (follows b hb a ha le))

/-! ### What is selected -/

variable [DecidableEq α] {capacity : Nat} {hash : Nat → Int} {equals : α → α → Bool}
  {rank : Ref α → ρ} {elements : List (Ref α)}

/-- The sorted content after all elements have been offered. -/
def select (capacity : Nat) (hash : Nat → Int) (equals : α → α → Bool) (key : α → κ)
    (iteration : Iteration (Ref α)) (elements : List (Ref α)) : List (Ref α) :=
  sorted key iteration (elements.foldl (push capacity hash equals key iteration) [])

/-- The taken elements with `largest` exchanged for the champion of the later ones. -/
def exchanged (capacity : Nat) (hash : Nat → Int) (equals : α → α → Bool) (key : α → κ)
    (elements : List (Ref α)) (largest : Ref α) : List (Ref α) :=
  champion key largest (later capacity hash equals [] elements) ::
    (taken capacity hash equals [] elements).erase largest

theorem selected_perm (hash : Nat → Int) {elements : List (Ref α)} (eq : KeyEquals equals key elements)
    (positive : 0 < capacity) (iteration : Iteration (Ref α)) (nonempty : elements ≠ []) :
    ∃ largest ∈ taken capacity hash equals [] elements,
      leastBy (fun a b : Ref α => descending (key a.val) (key b.val))
        (iteration.order (taken capacity hash equals [] elements)) = some largest ∧
      (∀ other ∈ taken capacity hash equals [] elements, key other.val ≤ key largest.val) ∧
        (elements.foldl (push capacity hash equals key iteration) []).Perm
          (exchanged capacity hash equals key elements largest) := by
  obtain ⟨largest, found, member, bound⟩ :=
    least_of key iteration (taken_nonempty hash equals positive nonempty)
  refine ⟨largest, member, found, bound, ?_⟩
  rw [pushes_split, exchanged]
  cases overflow : later capacity hash equals [] elements with
  | nil => exact List.perm_cons_erase member
  | cons next rest =>
    have full : (taken capacity hash equals [] elements).length = capacity :=
      taken_full (by simp) (by rw [overflow]; simp)
    exact pushes_full eq (next :: rest) (taken_isSet .nil eq) full found member bound

/-! ### Iteration orders -/

/-- An order that starts with `first`, or with `second` where `first` is absent. -/
def startingWith (first second : Ref α) : Iteration (Ref α) where
  order set :=
    if first ∈ set then first :: set.erase first
    else if second ∈ set then second :: set.erase second
    else set
  perm set := by
    split
    · rename_i member
      exact (List.perm_cons_erase member).symm
    · split
      · rename_i member
        exact (List.perm_cons_erase member).symm
      · exact List.Perm.refl _

theorem startingWith_first (first second : Ref α) {set : List (Ref α)}
    (member : first ∈ set) :
    (startingWith first second).order set = first :: set.erase first := if_pos member

theorem startingWith_second (first second : Ref α) {set : List (Ref α)}
    (absent : first ∉ set) (member : second ∈ set) :
    (startingWith first second).order set = second :: set.erase second := by
  simp only [startingWith, if_neg absent, if_pos member]

/-! ### The exchanged set -/

theorem exchanged_same {elements : List (Ref α)} {largest : Ref α}
    (member : largest ∈ taken capacity hash equals [] elements)
    (reigns : champion key largest (later capacity hash equals [] elements) = largest) :
    (exchanged capacity hash equals key elements largest).Perm
      (taken capacity hash equals [] elements) := by
  rw [exchanged, reigns]
  exact (List.perm_cons_erase member).symm

theorem exchanged_length {elements : List (Ref α)} {largest : Ref α}
    (member : largest ∈ taken capacity hash equals [] elements) :
    (exchanged capacity hash equals key elements largest).length =
      (taken capacity hash equals [] elements).length := by
  have some := List.length_pos_of_mem member
  rw [exchanged, List.length_cons, List.length_erase_of_mem member]
  omega

/-- Taken and later elements are different ones. -/
theorem later_not_taken {elements : List (Ref α)} (nodup : elements.Nodup) {element : Ref α}
    (after : element ∈ later capacity hash equals [] elements) :
    element ∉ taken capacity hash equals [] elements := by
  obtain ⟨before, split, from_before⟩ :=
    taken_before capacity hash equals [] elements
  intro member
  rcases from_before element member with impossible | early
  · cases impossible
  · rw [split] at nodup
    exact (List.nodup_append.mp nodup).2.2 element early element after rfl

theorem taken_mem {elements : List (Ref α)} {element : Ref α}
    (member : element ∈ taken capacity hash equals [] elements) : element ∈ elements := by
  obtain ⟨before, split, from_before⟩ :=
    taken_before capacity hash equals [] elements
  rcases from_before element member with impossible | early
  · cases impossible
  · rw [split]
    exact List.mem_append_left _ early

theorem later_mem {elements : List (Ref α)} {element : Ref α}
    (member : element ∈ later capacity hash equals [] elements) : element ∈ elements := by
  obtain ⟨before, split, _⟩ :=
    taken_before capacity hash equals [] elements
  rw [split]
  exact List.mem_append_right _ member

theorem exchanged_subperm {elements : List (Ref α)} (eq : KeyEquals equals key elements)
    (nodup : elements.Nodup) {largest : Ref α}
    (member : largest ∈ taken capacity hash equals [] elements) :
    (exchanged capacity hash equals key elements largest).Subperm elements := by
  have set : (taken capacity hash equals [] elements).Nodup := (taken_isSet .nil eq).nodup
  refine List.subperm_of_subset ?_ fun element there => ?_
  · refine List.nodup_cons.mpr ⟨fun there => ?_, set.erase _⟩
    rcases champion_mem key largest (later capacity hash equals [] elements) with same | after
    · rw [same] at there
      exact (List.Nodup.mem_erase_iff set).mp there |>.1 rfl
    · exact later_not_taken nodup after (List.mem_of_mem_erase there)
  · rcases List.mem_cons.mp there with rfl | early
    · rcases champion_mem key largest (later capacity hash equals [] elements) with same | after
      · rw [same]
        exact taken_mem member
      · exact later_mem after
    · exact taken_mem (List.mem_of_mem_erase early)

/-- When the exchange brings in a later element, `largest` is out. -/
theorem largest_not_exchanged {elements : List (Ref α)} (eq : KeyEquals equals key elements) {largest : Ref α}
    (beaten : champion key largest (later capacity hash equals [] elements) ≠ largest) :
    largest ∉ exchanged capacity hash equals key elements largest := by
  have set : (taken capacity hash equals [] elements).Nodup := (taken_isSet .nil eq).nodup
  intro there
  rcases List.mem_cons.mp there with same | early
  · exact beaten same.symm
  · exact ((List.Nodup.mem_erase_iff set).mp early).1 rfl

/-! ### Every iteration order -/

/-- The condition of an exact selection. -/
structure Selects (capacity : Nat) (hash : Nat → Int) (equals : α → α → Bool) (key : α → κ)
    (rank : Ref α → ρ) (elements : List (Ref α)) : Prop where
  count : (taken capacity hash equals [] elements).length = min capacity elements.length
  exact : ∀ largest ∈ taken capacity hash equals [] elements,
    (∀ other ∈ taken capacity hash equals [] elements, key other.val ≤ key largest.val) →
      Exact key rank elements (exchanged capacity hash equals key elements largest)

/-- What is left after an order that starts with `largest`. -/
theorem selected_of_first {elements : List (Ref α)} (eq : KeyEquals equals key elements)
    (positive : 0 < capacity) (nonempty : elements ≠ []) {largest : Ref α} (second : Ref α)
    (member : largest ∈ taken capacity hash equals [] elements)
    (bound : ∀ other ∈ taken capacity hash equals [] elements, key other.val ≤ key largest.val) :
    (elements.foldl (push capacity hash equals key (startingWith largest second)) []).Perm
      (exchanged capacity hash equals key elements largest) := by
  obtain ⟨least, _, found, _, perm⟩ :=
    selected_perm hash eq positive (startingWith largest second) nonempty
  rw [startingWith_first _ _ member,
    least_first fun other there => bound other (List.mem_of_mem_erase there)] at found
  cases found
  exact perm

/-- If some order iterates the final set from `a`, ranks agree with keys at `a`. -/
theorem agree_of_first {elements : List (Ref α)} {iteration : Iteration (Ref α)} {a b : Ref α}
    (right : TopOf capacity rank elements (select capacity hash equals key iteration elements))
    {set : List (Ref α)}
    (content : elements.foldl (push capacity hash equals key iteration) [] = set)
    (first : iteration.order set = a :: set.erase a) (other : b ∈ set) (different : b ≠ a)
    (le : key b.val ≤ key a.val) : rank b ≤ rank a := by
  have iterated : [a, b].Sublist (iteration.order set) := by
    rw [first]
    exact (List.singleton_sublist.mpr ((List.mem_erase_of_ne different).mpr other)).cons_cons a
  have output := sorted_pair iterated le
  have ordered := right.sorted
  rw [select, content] at ordered
  have pair : [a, b].Pairwise fun a b => rank b ≤ rank a := List.Pairwise.sublist output ordered
  exact (List.pairwise_cons.mp pair).1 b (by simp)

/-- The selection is right in every iteration order exactly under `Selects`. -/
theorem select_iff {elements : List (Ref α)} (eq : KeyEquals equals key elements)
    (positive : 0 < capacity) (nodup : elements.Nodup) :
    (∀ iteration, TopOf capacity rank elements
        (select capacity hash equals key iteration elements)) ↔
      Selects capacity hash equals key rank elements := by
  constructor
  · intro right
    refine ⟨?_, fun largest member bound => ?_⟩
    · cases elements with
      | nil => exact (Nat.min_zero capacity).symm
      | cons first rest =>
        obtain ⟨largest, member, _, _, perm⟩ :=
          selected_perm hash eq positive (startingWith first first) (by simp : first :: rest ≠ [])
        have output : (select capacity hash equals key (startingWith first first)
            (first :: rest)).Perm _ := (sorted_perm _ _).trans perm
        rw [← (right _).count, output.length_eq, exchanged_length member]
    · have nonempty : elements ≠ [] := List.ne_nil_of_mem (taken_mem member)
      refine ⟨fun a ha b hb le => ?_, ?_⟩
      · by_cases same : b = a
        · exact le_of_eq (congrArg rank same)
        by_cases reigns : champion key largest (later capacity hash equals [] elements) = largest
        · have content := exchanged_same member reigns
          obtain ⟨least, least_member, _, least_bound, perm⟩ :=
            selected_perm hash eq positive (startingWith a a) nonempty
          have least_reigns : champion key least (later capacity hash equals [] elements) = least := by
            refine champion_of_bound fun other after => ?_
            exact le_trans (bound_of_champion reigns after) (least_bound largest member)
          have there := perm.trans ((exchanged_same least_member least_reigns).trans content.symm)
          exact agree_of_first (right _) rfl (startingWith_first a a (there.mem_iff.mpr ha))
            (there.mem_iff.mpr hb) same le
        · have there := selected_of_first eq positive nonempty a member bound
          have absent := mt there.mem_iff.mp (largest_not_exchanged eq reigns)
          exact agree_of_first (right _) rfl
            (startingWith_second largest a absent (there.mem_iff.mpr ha))
            (there.mem_iff.mpr hb) same le
      · have output : (select capacity hash equals key (startingWith largest largest) elements).Perm
            _ := (sorted_perm _ _).trans
          (selected_of_first eq positive nonempty largest member bound)
        intro left left_member absent kept there
        exact (right (startingWith largest largest)).top left left_member
          (fun h => absent (output.mem_iff.mp h)) kept (output.mem_iff.mpr there)
  · intro selects iteration
    by_cases nonempty : elements = []
    · subst nonempty
      have empty : select capacity hash equals key iteration [] = [] :=
        List.Perm.eq_nil (sorted_perm iteration [])
      rw [empty]
      exact ⟨List.Subperm.refl _, by simp, List.Pairwise.nil, fun _ member => nomatch member⟩
    · obtain ⟨largest, member, _, bound, perm⟩ :=
        selected_perm hash eq positive iteration nonempty
      have output : (select capacity hash equals key iteration elements).Perm _ :=
        (sorted_perm iteration _).trans perm
      have exact := (selects.exact largest member bound).perm output.symm
      refine ⟨output.subperm.trans (exchanged_subperm eq nodup member), ?_, ?_, exact.top⟩
      · rw [output.length_eq, exchanged_length member, selects.count]
      · exact (sorted_pairwise iteration _).imp_of_mem fun ha hb le => exact.agree _ ha _ hb le

/-! ### The two cases of an exact selection -/

/-- The set was filled by top elements and no later one has a larger key. -/
structure Undisturbed (capacity : Nat) (hash : Nat → Int) (equals : α → α → Bool) (key : α → κ)
    (rank : Ref α → ρ) (elements : List (Ref α)) : Prop where
  unbeaten : ∀ left ∈ later capacity hash equals [] elements,
    ∃ kept ∈ taken capacity hash equals [] elements, key left.val ≤ key kept.val
  exact : Exact key rank elements (taken capacity hash equals [] elements)

/-- `largest` ranks lowest of the elements that filled the set; `winner` ranks above
the others, which are ordered alike and rank above all other later elements. -/
structure Displaces (capacity : Nat) (hash : Nat → Int) (equals : α → α → Bool) (key : α → κ)
    (rank : Ref α → ρ) (elements : List (Ref α)) (largest winner : Ref α) : Prop where
  lowest : ∀ kept ∈ taken capacity hash equals [] elements, rank largest ≤ rank kept
  highest : ∀ kept ∈ (taken capacity hash equals [] elements).erase largest,
    rank kept ≤ rank winner
  alike : ∀ a ∈ (taken capacity hash equals [] elements).erase largest,
    ∀ b ∈ (taken capacity hash equals [] elements).erase largest,
      key b.val ≤ key a.val → rank b ≤ rank a
  others : ∀ left ∈ elements, left ∉ taken capacity hash equals [] elements → left ≠ winner →
    ∀ kept ∈ (taken capacity hash equals [] elements).erase largest, rank left ≤ rank kept

/-- The first of the largest later elements has a larger key than all that filled
the set, and displaces any one of the largest of them. -/
structure Displaced (capacity : Nat) (hash : Nat → Int) (equals : α → α → Bool) (key : α → κ)
    (rank : Ref α → ρ) (elements : List (Ref α)) (winner : Ref α) : Prop where
  first : FirstLargest key (later capacity hash equals [] elements) winner
  larger : ∀ kept ∈ taken capacity hash equals [] elements, key kept.val < key winner.val
  displaces : ∀ largest ∈ taken capacity hash equals [] elements,
    (∀ other ∈ taken capacity hash equals [] elements, key other.val ≤ key largest.val) →
      Displaces capacity hash equals key rank elements largest winner

theorem another_taken (two : 2 ≤ capacity) {elements : List (Ref α)}
    (overflow : later capacity hash equals [] elements ≠ []) (largest : Ref α) :
    ∃ other, other ∈ (taken capacity hash equals [] elements).erase largest := by
  have full := taken_full (by simp) overflow
  refine List.exists_mem_of_length_pos ?_
  have shorter := List.le_length_erase (a := largest) (l := taken capacity hash equals [] elements)
  omega

/-- A nonempty offer has a largest element among those that fill the set. -/
theorem largest_taken (hash : Nat → Int) (equals : α → α → Bool) (key : α → κ)
    (positive : 0 < capacity) {elements : List (Ref α)} (nonempty : elements ≠ []) :
    ∃ largest ∈ taken capacity hash equals [] elements,
      ∀ other ∈ taken capacity hash equals [] elements, key other.val ≤ key largest.val := by
  obtain ⟨largest, _, member, bound⟩ := leastBy_spec key
    (taken_nonempty hash equals positive nonempty)
  exact ⟨largest, member, bound⟩

/-- An exact exchange for `winner` is a displacement. -/
theorem displaces_of_exact (eq : KeyEquals equals key elements) {largest winner : Ref α}
    (wins : champion key largest (later capacity hash equals [] elements) = winner)
    (larger : ∀ kept ∈ taken capacity hash equals [] elements, key kept.val < key winner.val)
    (member : largest ∈ taken capacity hash equals [] elements)
    (exact : Exact key rank elements (exchanged capacity hash equals key elements largest)) :
    Displaces capacity hash equals key rank elements largest winner := by
  have beaten : champion key largest (later capacity hash equals [] elements) ≠ largest := by
    rw [wins]
    rintro rfl
    exact lt_irrefl _ (larger _ member)
  have out := largest_not_exchanged eq beaten
  have kept_in : ∀ kept ∈ (taken capacity hash equals [] elements).erase largest,
      kept ∈ exchanged capacity hash equals key elements largest :=
    fun kept there => List.mem_cons_of_mem _ there
  have winner_in : winner ∈ exchanged capacity hash equals key elements largest := by
    rw [exchanged, wins]
    exact List.mem_cons_self
  refine ⟨fun kept hk => ?_, fun kept hk => ?_, fun a ha b hb => ?_, ?_⟩
  · by_cases same : kept = largest
    · rw [same]
    · exact exact.top largest (taken_mem member) out kept
        (kept_in kept ((List.mem_erase_of_ne same).mpr hk))
  · exact exact.agree winner winner_in kept (kept_in kept hk)
      (larger kept (List.mem_of_mem_erase hk)).le
  · exact exact.agree a (kept_in a ha) b (kept_in b hb)
  · intro left left_member absent different kept hk
    refine exact.top left left_member (fun there => ?_) kept (kept_in kept hk)
    rcases List.mem_cons.mp there with same | early
    · exact different (same.trans wins)
    · exact absent (List.mem_of_mem_erase early)

/-- After a displacement the exchange is exact. -/
theorem exact_of_displaces (two : 2 ≤ capacity) {largest winner : Ref α}
    (wins : champion key largest (later capacity hash equals [] elements) = winner)
    (larger : ∀ kept ∈ taken capacity hash equals [] elements, key kept.val < key winner.val)
    (overflow : later capacity hash equals [] elements ≠ [])
    (displaces : Displaces capacity hash equals key rank elements largest winner) :
    Exact key rank elements (exchanged capacity hash equals key elements largest) := by
  rw [exchanged, wins]
  obtain ⟨other, remains⟩ := another_taken two overflow largest
  have below_winner := displaces.highest other remains
  refine ⟨fun a ha b hb le => ?_, fun left left_member absent kept hk => ?_⟩
  · rcases List.mem_cons.mp ha with rfl | early_a <;> rcases List.mem_cons.mp hb with rfl | early_b
    · exact le_refl _
    · exact displaces.highest b early_b
    · exact absurd (larger a (List.mem_of_mem_erase early_a)) (not_lt.mpr le)
    · exact displaces.alike a early_a b early_b le
  · have different : left ≠ winner := fun same => absent (by simp [same])
    by_cases filled : left ∈ taken capacity hash equals [] elements
    · -- only `largest` has left the set
      have same : left = largest := by
        by_contra other_one
        exact absent (List.mem_cons_of_mem _ ((List.mem_erase_of_ne other_one).mpr filled))
      rw [same]
      rcases List.mem_cons.mp hk with rfl | early
      · exact le_trans (displaces.lowest other (List.mem_of_mem_erase remains)) below_winner
      · exact displaces.lowest kept (List.mem_of_mem_erase early)
    · have below := displaces.others left left_member filled different
      rcases List.mem_cons.mp hk with rfl | early
      · exact le_trans (below other remains) below_winner
      · exact below kept early

/-- A selection is exact in two cases only. -/
theorem selects_cases (eq : KeyEquals equals key elements) (two : 2 ≤ capacity) :
    Selects capacity hash equals key rank elements ↔
      (taken capacity hash equals [] elements).length = min capacity elements.length ∧
        (Undisturbed capacity hash equals key rank elements ∨
          ∃ winner, Displaced capacity hash equals key rank elements winner) := by
  constructor
  · intro selects
    refine ⟨selects.count, ?_⟩
    by_cases nonempty : elements = []
    · subst nonempty
      exact .inl ⟨fun _ member => (nomatch member), fun _ member => (nomatch member),
        fun _ member => (nomatch member)⟩
    obtain ⟨largest, member, bound⟩ := largest_taken hash equals key
      (by omega : 0 < capacity) nonempty
    by_cases reigns : champion key largest (later capacity hash equals [] elements) = largest
    · exact .inl ⟨fun left after => ⟨largest, member, bound_of_champion reigns after⟩,
        (selects.exact largest member bound).perm (exchanged_same member reigns)⟩
    · have first := first_of_champion reigns
      have larger : ∀ kept ∈ taken capacity hash equals [] elements, key kept.val <
          key (champion key largest (later capacity hash equals [] elements)).val :=
        fun kept hk => lt_of_le_of_lt (bound kept hk) (champion_lt reigns)
      refine .inr ⟨_, first, larger, fun other there other_bound => ?_⟩
      exact displaces_of_exact eq (champion_of_first first (larger other there)) larger there
        (selects.exact other there other_bound)
  · rintro ⟨count, undisturbed | ⟨winner, displaced⟩⟩
    · refine ⟨count, fun largest member bound => ?_⟩
      have reigns : champion key largest (later capacity hash equals [] elements) = largest := by
        refine champion_of_bound fun other after => ?_
        obtain ⟨kept, hk, le⟩ := undisturbed.unbeaten other after
        exact le_trans le (bound kept hk)
      exact undisturbed.exact.perm (exchanged_same member reigns).symm
    · refine ⟨count, fun largest member bound => ?_⟩
      exact exact_of_displaces two (champion_of_first displaced.first (displaced.larger _ member))
        displaced.larger (List.ne_nil_of_mem displaced.first.mem)
        (displaced.displaces largest member bound)

/-! ### Keys that follow the ranks -/

/-- The set was filled by top elements whose ties are real. -/
structure FilledByTop (capacity : Nat) (hash : Nat → Int) (equals : α → α → Bool) (key : α → κ)
    (rank : Ref α → ρ) (elements : List (Ref α)) : Prop where
  top : ∀ left ∈ elements, left ∉ taken capacity hash equals [] elements →
    ∀ kept ∈ taken capacity hash equals [] elements, rank left ≤ rank kept
  ties : ∀ a ∈ taken capacity hash equals [] elements,
    ∀ b ∈ taken capacity hash equals [] elements, key a.val = key b.val → rank a = rank b

/-- The set was filled by equals, and one later element is the only larger one. -/
structure OvertakenOnce (capacity : Nat) (hash : Nat → Int) (equals : α → α → Bool) (key : α → κ)
    (rank : Ref α → ρ) (elements : List (Ref α)) (winner : Ref α) : Prop where
  comes_later : winner ∈ later capacity hash equals [] elements
  level : ∀ a ∈ taken capacity hash equals [] elements,
    ∀ b ∈ taken capacity hash equals [] elements, rank a = rank b
  larger : ∀ kept ∈ taken capacity hash equals [] elements, key kept.val < key winner.val
  others : ∀ left ∈ elements, left ∉ taken capacity hash equals [] elements → left ≠ winner →
    ∀ kept ∈ taken capacity hash equals [] elements, rank left ≤ rank kept

theorem undisturbed_iff (two : 2 ≤ capacity) (nodup : elements.Nodup)
    (follows : Follows key rank elements) :
    Undisturbed capacity hash equals key rank elements ↔
      FilledByTop capacity hash equals key rank elements := by
  constructor
  · rintro ⟨_, exact⟩
    exact ⟨exact.top, fun a ha b hb tie =>
      le_antisymm (exact.agree b hb a ha tie.le) (exact.agree a ha b hb tie.ge)⟩
  · intro filled
    refine ⟨fun left after => ?_, fun a ha b hb le => ?_, filled.top⟩
    · obtain ⟨kept, hk, _⟩ := largest_taken hash equals key
        (by omega : 0 < capacity) (List.ne_nil_of_mem (later_mem after))
      exact ⟨kept, hk, follows _ (later_mem after) _ (taken_mem hk)
        (filled.top left (later_mem after) (later_not_taken nodup after) kept hk)⟩
    · by_contra above
      have back := follows _ (taken_mem ha) _ (taken_mem hb) (not_le.mp above).le
      exact above (filled.ties b hb a ha (le_antisymm le back)).le

/-- When `winner` displaces one of the largest, all that filled the set are level. -/
theorem overtakenOnce_of_displaced (two : 2 ≤ capacity) (follows : Follows key rank elements)
    {winner : Ref α} (displaced : Displaced capacity hash equals key rank elements winner) :
    OvertakenOnce capacity hash equals key rank elements winner := by
  have comes_later := displaced.first.mem
  obtain ⟨largest, member, bound⟩ := largest_taken hash equals key
    (by omega : 0 < capacity) (List.ne_nil_of_mem (later_mem comes_later))
  have displaces := displaced.displaces largest member bound
  -- the lowest rank has the largest key, so all keys are the largest
  have all_bound : ∀ a ∈ taken capacity hash equals [] elements,
      ∀ other ∈ taken capacity hash equals [] elements, key other.val ≤ key a.val :=
    fun a ha other ho => le_trans (bound other ho)
      (follows _ (taken_mem member) _ (taken_mem ha) (displaces.lowest a ha))
  have level : ∀ a ∈ taken capacity hash equals [] elements,
      ∀ b ∈ taken capacity hash equals [] elements, rank a = rank b := fun a ha b hb =>
    le_antisymm ((displaced.displaces a ha (all_bound a ha)).lowest b hb)
      ((displaced.displaces b hb (all_bound b hb)).lowest a ha)
  refine ⟨comes_later, level, displaced.larger, ?_⟩
  intro left left_member absent different kept hk
  obtain ⟨other, remains⟩ := another_taken two
    (List.ne_nil_of_mem comes_later) largest
  have below := displaces.others left left_member absent different other remains
  exact le_trans below (level other (List.mem_of_mem_erase remains) kept hk).le

theorem displaced_of_overtakenOnce (two : 2 ≤ capacity) (nodup : elements.Nodup)
    (follows : Follows key rank elements) {winner : Ref α}
    (once : OvertakenOnce capacity hash equals key rank elements winner) :
    Displaced capacity hash equals key rank elements winner := by
  have winner_mem := later_mem once.comes_later
  obtain ⟨filled, hf, _⟩ := largest_taken hash equals key
    (by omega : 0 < capacity) (List.ne_nil_of_mem winner_mem)
  refine ⟨?_, once.larger, fun largest member _ => ?_⟩
  · obtain ⟨before, after, split⟩ := List.append_of_mem once.comes_later
    have distinct : (before ++ winner :: after).Nodup := by
      obtain ⟨early, whole, _⟩ :=
        taken_before capacity hash equals [] elements
      rw [whole, split] at nodup
      exact (List.nodup_append.mp nodup).2.1
    have smaller : ∀ other ∈ before ++ after, key other.val < key winner.val := by
      intro other there
      have different : other ≠ winner := by
        rintro rfl
        obtain ⟨_, tail, apart⟩ := List.nodup_append.mp distinct
        rcases List.mem_append.mp there with early | late
        · exact apart other early other List.mem_cons_self rfl
        · exact (List.nodup_cons.mp tail).1 late
      have comes_later : other ∈ later capacity hash equals [] elements := by
        rw [split]
        rcases List.mem_append.mp there with early | late
        · simp [early]
        · simp [late]
      have below := once.others other (later_mem comes_later) (later_not_taken nodup comes_later)
        different filled hf
      exact lt_of_le_of_lt (follows _ (later_mem comes_later) _ (taken_mem hf) below)
        (once.larger filled hf)
    exact ⟨before, after, split, fun other early => smaller other (by simp [early]),
      fun other late => (smaller other (by simp [late])).le⟩
  · refine ⟨fun kept hk => (once.level largest member kept hk).le, fun kept hk => ?_,
      fun a ha b hb _ => ?_, fun left left_member absent different kept hk => ?_⟩
    · have filled := List.mem_of_mem_erase hk
      exact (follows.strict (taken_mem filled) winner_mem (once.larger kept filled)).le
    · exact (once.level b (List.mem_of_mem_erase hb) a (List.mem_of_mem_erase ha)).le
    · exact once.others left left_member absent different kept (List.mem_of_mem_erase hk)

/-- When keys follow the ranks, the two cases are simpler. -/
theorem selects_iff (eq : KeyEquals equals key elements) (two : 2 ≤ capacity)
    (nodup : elements.Nodup) (follows : Follows key rank elements) :
    Selects capacity hash equals key rank elements ↔
      (taken capacity hash equals [] elements).length = min capacity elements.length ∧
        (FilledByTop capacity hash equals key rank elements ∨
          ∃ winner, OvertakenOnce capacity hash equals key rank elements winner) := by
  rw [selects_cases eq two, undisturbed_iff two nodup follows]
  refine and_congr_right fun _ => or_congr_right (exists_congr fun winner => ?_)
  exact ⟨overtakenOnce_of_displaced two follows, displaced_of_overtakenOnce two nodup follows⟩

end GitvTime.Support.HashedSet
