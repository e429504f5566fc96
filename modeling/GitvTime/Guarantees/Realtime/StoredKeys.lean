import GitvTime.Guarantees.Realtime.LiveCounters

/-!
# What the joined keys and values determine

A counter key, a session's copy key and a session's value are joined texts. The
pieces of a split contain no separator, so a key that `mainTain` builds from a
value determines the pieces it was built from, and a session's value can be taken
apart again.
-/
namespace GitvTime.Guarantees.Realtime
open GitvTime.Source.StringHandle GitvTime.Source.Realtime

namespace StoredKeys

/-- The varargs `str_join` at two items is the two-argument one. -/
theorem strJoin_pair (str1 str2 : String) : strJoin [str1, str2] = strJoin₂ str1 str2 := by
  rw [← String.toList_inj, strJoin_toList _ (by simp)]
  simp [strJoin₂, String.toList_append, List.intercalate]

theorem barFree_of_pieces {value first second : String} {rest : List String}
    (pieces : strSplit value = first :: second :: rest) : BarFree first ∧ BarFree second := by
  constructor
  · apply @barFree_of_mem_strSplit value
    simp [pieces]
  · apply @barFree_of_mem_strSplit value
    simp [pieces]

/-- The keys that `mainTain` books for a value, whatever text it is, are those of
no other channel and partner. -/
theorem booked_keys_iff {value channel partner : String} {rest : List String}
    (pieces : strSplit value = channel :: partner :: rest) (channel' partner' : String) :
    (totalKey channel = totalKey channel' ↔ channel = channel') ∧
      (partnerKey partner channel = partnerKey partner' channel' ↔
        channel = channel' ∧ partner = partner') := by
  obtain ⟨hc, hp⟩ := barFree_of_pieces pieces
  constructor
  · exact totalKey_eq_iff channel channel'
  · exact partnerKey_eq_iff hc hp channel' partner'

/-- Join and split are inverse, both joins agree, and a joined key determines its
parts, of which one side has to be free of the separator. -/
theorem join_split_inverse :
    (∀ strs : List String, strs ≠ [] → (∀ s ∈ strs, BarFree s) →
      strSplit (strJoin strs) = strs) ∧
    (∀ content : String, strJoin (strSplit content) = content) ∧
    (∀ str1 str2 : String, strJoin₂ str1 str2 = strJoin [str1, str2]) ∧
    (∀ channel channel' : String, totalKey channel = totalKey channel' → channel = channel') ∧
    (∀ partner channel partner' channel' : String, BarFree partner → BarFree channel →
      partnerKey partner channel = partnerKey partner' channel' →
        partner = partner' ∧ channel = channel') ∧
    (∀ bolt bolt' : SessionBolt, bolt.macCopy = bolt'.macCopy → bolt.mac = bolt'.mac) ∧
    (∀ channel partner channel' partner' : String, BarFree channel → BarFree partner →
      strJoin₂ channel partner = strJoin₂ channel' partner' →
        channel = channel' ∧ partner = partner') := by
  refine ⟨strSplit_strJoin, strJoin_strSplit, ?_, ?_, ?_, ?_, ?_⟩
  · intro str1 str2
    exact (strJoin_pair str1 str2).symm
  · intro channel channel' same
    exact (totalKey_eq_iff channel channel').mp same
  · intro partner channel partner' channel' hp hc same
    have parts := (partnerKey_eq_iff hc hp channel' partner').mp same
    exact ⟨parts.2, parts.1⟩
  · intro bolt bolt' same
    apply cpKey_inj
    exact same
  · intro channel partner channel' partner' hc hp same
    exact strJoin₂_inj_of_free hc hp same

/-- Empty pieces at both ends survive the round trip, and two partners with the
same channel keep their counters apart. -/
theorem join_split_inverse_blank :
    strSplit (strJoin ["", "cctv-1", ""]) = ["", "cctv-1", ""] ∧
      partnerKey "AH_CMCC" "" ≠ partnerKey "JS_CMCC" "" := by
  obtain ⟨split, -, -, -, partners, -, -⟩ := join_split_inverse
  constructor
  · exact split _ (by simp) (by decide)
  · intro same
    have parts := partners _ _ _ _ (by decide) (by decide) same
    exact absurd parts.1 (by decide)

end StoredKeys

end GitvTime.Guarantees.Realtime
