import Mathlib.Data.List.Basic

/-!
# Messages on a stream

A decoder is called with the bytes that have come and are not read yet, again and again
until it reads nothing. What it hands out does not depend on how the stream was cut when
it came, as long as it does not fail. A failure closes the stream, and only what has come
by then is decoded behind it. A channel is a stream with the decoder of its receiver.
-/
namespace GitvTime.Support

variable {α β μ : Type}

/-- What a call of a decoder does: it waits for more, reads something, which may give a
message, or fails. -/
inductive Reads (β μ : Type) where
  | waits
  | reads (message : Option μ) (rest : List β)
  | fails (rest : List β)

/-- A decoder that takes back nothing when more comes. -/
structure StreamDecoder (β μ : Type) where
  decode : List β → Reads β μ
  shorter : ∀ {bytes message rest}, decode bytes = .reads message rest →
    rest.length < bytes.length
  reads_append : ∀ {bytes message rest} (more), decode bytes = .reads message rest →
    decode (bytes ++ more) = .reads message (rest ++ more)
  fails_append : ∀ {bytes rest} (more), decode bytes = .fails rest →
    decode (bytes ++ more) = .fails (rest ++ more)

/-- The bytes that a decoder waits with, or those behind its failure. -/
inductive Left (β : Type) where
  | waiting (bytes : List β)
  | failed (bytes : List β)

namespace StreamDecoder

variable (d : StreamDecoder β μ)

/-- Call the decoder so many times at most. -/
def drainWith : Nat → List β → List μ × Left β
  | 0, bytes => ([], .waiting bytes)
  | calls + 1, bytes =>
    match d.decode bytes with
    | .waits => ([], .waiting bytes)
    | .reads message rest =>
      (message.toList ++ (drainWith calls rest).1, (drainWith calls rest).2)
    | .fails rest => ([], .failed rest)

/-- The messages, and the bytes that are left. -/
def drain (bytes : List β) : List μ × Left β := d.drainWith (bytes.length + 1) bytes

/-- A chunk comes. A decoder that fails closes the stream; it is called once more on what
is left of the chunk, and then no more. This is the loop of `ByteToMessageDecoder` in Netty
4.0.36 with a handler that closes: `channelInactive` decodes what is left. -/
def feed (kept : Option (List β)) (chunk : List β) : List μ × Option (List β) :=
  match kept with
  | none => ([], none)
  | some bytes =>
    match (d.drain (bytes ++ chunk)).2 with
    | .waiting left => ((d.drain (bytes ++ chunk)).1, some left)
    | .failed left => ((d.drain (bytes ++ chunk)).1 ++ (d.drain left).1, none)

def feedAll (kept : Option (List β)) : List (List β) → List μ × Option (List β)
  | [] => ([], kept)
  | chunk :: rest =>
    ((d.feed kept chunk).1 ++ (feedAll (d.feed kept chunk).2 rest).1,
      (feedAll (d.feed kept chunk).2 rest).2)

variable {d}

/-- More calls than bytes change nothing. -/
theorem drainWith_enough {m n : Nat} {bytes : List β} (enough : bytes.length < m)
    (enough' : bytes.length < n) : d.drainWith m bytes = d.drainWith n bytes := by
  induction m generalizing n bytes with
  | zero => omega
  | succ m ih =>
    cases n with
    | zero => omega
    | succ n =>
      rw [drainWith, drainWith]
      cases found : d.decode bytes with
      | waits => rfl
      | reads message rest =>
        have fewer := d.shorter found
        dsimp only
        rw [ih (n := n) (by omega) (by omega)]
      | fails rest => rfl

theorem drain_of_waits {bytes : List β} (waits : d.decode bytes = .waits) :
    d.drain bytes = ([], .waiting bytes) := by
  rw [drain, drainWith, waits]

theorem drain_of_reads {bytes rest : List β} {message : Option μ}
    (reads : d.decode bytes = .reads message rest) :
    d.drain bytes = (message.toList ++ (d.drain rest).1, (d.drain rest).2) := by
  have fewer := d.shorter reads
  have same : d.drainWith bytes.length rest = d.drainWith (rest.length + 1) rest :=
    drainWith_enough fewer (Nat.lt_succ_self _)
  rw [drain, drainWith, reads]
  dsimp only
  rw [same]
  rfl

theorem drain_of_fails {bytes rest : List β} (fails : d.decode bytes = .fails rest) :
    d.drain bytes = ([], .failed rest) := by
  rw [drain, drainWith, fails]

/-- Bytes that are left make the decoder wait. -/
theorem drain_left {bytes left : List β} (drained : (d.drain bytes).2 = .waiting left) :
    d.decode left = .waits := by
  induction size : bytes.length using Nat.strongRecOn generalizing bytes with
  | ind n ih =>
    cases found : d.decode bytes with
    | waits =>
      rw [drain_of_waits found] at drained
      cases drained
      exact found
    | reads message rest =>
      rw [drain_of_reads found] at drained
      exact ih rest.length (size ▸ d.shorter found) drained rfl
    | fails rest =>
      rw [drain_of_fails found] at drained
      cases drained

/-- The messages of a stream are those of its first part, then those that come with the
rest of it. -/
theorem drain_append {bytes left : List β} (drained : (d.drain bytes).2 = .waiting left)
    (more : List β) :
    d.drain (bytes ++ more) =
      ((d.drain bytes).1 ++ (d.drain (left ++ more)).1, (d.drain (left ++ more)).2) := by
  induction size : bytes.length using Nat.strongRecOn generalizing bytes with
  | ind n ih =>
    cases found : d.decode bytes with
    | waits =>
      rw [drain_of_waits found] at drained ⊢
      cases drained
      rfl
    | reads message rest =>
      rw [drain_of_reads found] at drained ⊢
      rw [drain_of_reads (d.reads_append more found),
        ih rest.length (size ▸ d.shorter found) drained rfl, List.append_assoc]
    | fails rest =>
      rw [drain_of_fails found] at drained
      cases drained

/-- More bytes do not mend a failure. -/
theorem drain_append_failed {bytes left : List β} (drained : (d.drain bytes).2 = .failed left)
    (more : List β) :
    d.drain (bytes ++ more) = ((d.drain bytes).1, .failed (left ++ more)) := by
  induction size : bytes.length using Nat.strongRecOn generalizing bytes with
  | ind n ih =>
    cases found : d.decode bytes with
    | waits =>
      rw [drain_of_waits found] at drained
      cases drained
    | reads message rest =>
      rw [drain_of_reads found] at drained ⊢
      rw [drain_of_reads (d.reads_append more found),
        ih rest.length (size ▸ d.shorter found) drained rfl]
    | fails rest =>
      rw [drain_of_fails found] at drained ⊢
      cases drained
      rw [drain_of_fails (d.fails_append more found)]

theorem feed_of_waiting {bytes chunk left : List β}
    (drained : (d.drain (bytes ++ chunk)).2 = .waiting left) :
    d.feed (some bytes) chunk = ((d.drain (bytes ++ chunk)).1, some left) := by
  simp only [feed, drained]

theorem feed_of_failed {bytes chunk left : List β}
    (drained : (d.drain (bytes ++ chunk)).2 = .failed left) :
    d.feed (some bytes) chunk =
      ((d.drain (bytes ++ chunk)).1 ++ (d.drain left).1, none) := by
  simp only [feed, drained]

/-- A decoder that does not fail sees the chunks as if they came at once. -/
theorem feedAll_of_waiting (chunks : List (List β)) {kept left : List β}
    (waits : d.decode kept = .waits)
    (drained : (d.drain (kept ++ chunks.flatten)).2 = .waiting left) :
    d.feedAll (some kept) chunks = ((d.drain (kept ++ chunks.flatten)).1, some left) := by
  induction chunks generalizing kept with
  | nil =>
    rw [List.flatten_nil, List.append_nil, drain_of_waits waits] at drained ⊢
    cases drained
    rfl
  | cons chunk rest ih =>
    rw [List.flatten_cons, ← List.append_assoc] at drained ⊢
    cases here : (d.drain (kept ++ chunk)).2 with
    | waiting kept' =>
      rw [drain_append here] at drained ⊢
      rw [feedAll, feed_of_waiting here, ih (drain_left here) drained]
    | failed kept' =>
      rw [drain_append_failed here] at drained
      cases drained

theorem feedAll_closed (chunks : List (List β)) : d.feedAll none chunks = ([], none) := by
  induction chunks with
  | nil => rfl
  | cons chunk rest ih => simp [feedAll, feed, ih]

/-- A stream on which the decoder fails: it is called on what came with the chunk of the
failure, and sees no later chunk. -/
theorem feedAll_of_failed (chunks : List (List β)) {kept left : List β}
    (waits : d.decode kept = .waits)
    (drained : (d.drain (kept ++ chunks.flatten)).2 = .failed left) :
    ∃ before chunk after seen left', chunks = before ++ chunk :: after ∧
      (d.drain (kept ++ before.flatten)).2 = .waiting left' ∧ left = seen ++ after.flatten ∧
        d.feedAll (some kept) chunks =
          ((d.drain (kept ++ chunks.flatten)).1 ++ (d.drain seen).1, none) := by
  induction chunks generalizing kept with
  | nil =>
    rw [List.flatten_nil, List.append_nil, drain_of_waits waits] at drained
    cases drained
  | cons chunk rest ih =>
    rw [List.flatten_cons, ← List.append_assoc] at drained ⊢
    cases here : (d.drain (kept ++ chunk)).2 with
    | waiting kept' =>
      rw [drain_append here] at drained ⊢
      obtain ⟨before, last, after, seen, left', rfl, whole, same, fed⟩ :=
        ih (drain_left here) drained
      refine ⟨chunk :: before, last, after, seen, left', rfl, ?_, same, ?_⟩
      · rw [List.flatten_cons, ← List.append_assoc, drain_append here]
        exact whole
      · rw [feedAll, feed_of_waiting here, fed, List.append_assoc]
    | failed seen =>
      rw [drain_append_failed here] at drained ⊢
      cases drained
      refine ⟨[], chunk, rest, seen, kept, rfl, ?_, rfl, ?_⟩
      · rw [List.flatten_nil, List.append_nil, drain_of_waits waits]
      · rw [feedAll, feed_of_failed here, feedAll_closed, List.append_nil]

/-- A stream of frames, each of which is read whatever follows it. -/
theorem drain_frames (frame : α → List β) (given : α → Option μ) (items : List α)
    (reads : ∀ a ∈ items, ∀ more, d.decode (frame a ++ more) = .reads (given a) more)
    (tail : List β) :
    d.drain ((items.map frame).flatten ++ tail) =
      (items.filterMap given ++ (d.drain tail).1, (d.drain tail).2) := by
  induction items with
  | nil => rfl
  | cons a items ih =>
    have later := ih fun b member => reads b (List.mem_cons_of_mem a member)
    rw [List.map_cons, List.flatten_cons, List.append_assoc,
      drain_of_reads (reads a List.mem_cons_self _), later]
    cases first : given a with
    | none => simp [first]
    | some message => simp [first]

/-- Of a stream of frames some bytes have come: the frames that are whole are read, and
what is left is a part of the next one. -/
theorem drain_prefix (frame : α → List β) (given : α → Option μ) (empty : d.decode [] = .waits)
    (items : List α)
    (reads : ∀ a ∈ items, ∀ more, d.decode (frame a ++ more) = .reads (given a) more)
    (waits : ∀ a ∈ items, ∀ part, part <+: frame a → part ≠ frame a → d.decode part = .waits)
    {bytes : List β} (come : bytes <+: (items.map frame).flatten) :
    ∃ front back tail, items = front ++ back ∧ bytes = (front.map frame).flatten ++ tail ∧
      d.drain bytes = (front.filterMap given, .waiting tail) ∧
        (tail = [] ∨ ∃ a rest, back = a :: rest ∧ tail <+: frame a ∧ tail ≠ frame a) := by
  induction items generalizing bytes with
  | nil =>
    have nothing : bytes = [] := List.prefix_nil.mp come
    subst nothing
    exact ⟨[], [], [], rfl, rfl, drain_of_waits empty, .inl rfl⟩
  | cons a items ih =>
    rw [List.map_cons, List.flatten_cons] at come
    by_cases whole : frame a <+: bytes
    · obtain ⟨later, rfl⟩ := whole
      have come' := (List.prefix_append_right_inj (frame a)).mp come
      obtain ⟨front, back, tail, rfl, rfl, drained, left⟩ :=
        ih (fun b member => reads b (List.mem_cons_of_mem a member))
          (fun b member => waits b (List.mem_cons_of_mem a member)) come'
      refine ⟨a :: front, back, tail, rfl, ?_, ?_, left⟩
      · rw [List.map_cons, List.flatten_cons, List.append_assoc]
      · rw [drain_of_reads (reads a List.mem_cons_self _), drained]
        cases first : given a with
        | none => simp [first]
        | some message => simp [first]
    · have part : bytes <+: frame a := by
        refine (List.prefix_or_prefix_of_prefix come (List.prefix_append _ _)).resolve_right ?_
        exact whole
      have other : bytes ≠ frame a := fun same => whole (same ▸ List.prefix_rfl)
      exact ⟨[], a :: items, bytes, rfl, rfl,
        drain_of_waits (waits a List.mem_cons_self bytes part other),
        .inr ⟨a, items, rfl, part, other⟩⟩

end StreamDecoder

/-- The bytes under way, what the receiver keeps of those that came, unless it closed, and
the messages it has not handled yet. -/
structure Channel (β μ : Type) where
  inFlight : List β
  kept : Option (List β)
  inbox : List μ

namespace Channel

variable (d : StreamDecoder β μ)

def create : Channel β μ := ⟨[], some [], []⟩

def write (bytes : List β) (c : Channel β μ) : Channel β μ :=
  { c with inFlight := c.inFlight ++ bytes }

/-- Some bytes come. -/
def deliver (count : Nat) (c : Channel β μ) : Channel β μ where
  inFlight := c.inFlight.drop count
  kept := (d.feed c.kept (c.inFlight.take count)).2
  inbox := c.inbox ++ (d.feed c.kept (c.inFlight.take count)).1

/-- The receiver closes. -/
def close (c : Channel β μ) : Channel β μ := ⟨[], none, c.inbox⟩

/-- The messages on their way, the first one first. -/
def messages (c : Channel β μ) : List μ := c.inbox ++ (d.feed c.kept c.inFlight).1

/-- Everything under way ends in a whole frame, if the receiver listens. -/
def Whole (c : Channel β μ) : Prop :=
  c.kept = none ∨ (d.feed c.kept c.inFlight).2 = some []

variable {d}

theorem messages_create (waits : d.decode [] = .waits) :
    (create : Channel β μ).messages d = [] ∧ (create : Channel β μ).Whole d := by
  have drained : d.feed (some []) [] = ([], some []) := by
    have nothing := StreamDecoder.drain_of_waits waits
    rw [StreamDecoder.feed_of_waiting (congrArg Prod.snd nothing), List.nil_append, nothing]
  exact ⟨congrArg Prod.fst drained, .inr (congrArg Prod.snd drained)⟩

/-- Of a stream that ends in a whole frame some bytes come first. -/
theorem feed_split (kept : Option (List β)) (bytes more : List β)
    (whole : (d.feed kept (bytes ++ more)).2 = some []) :
    d.feed kept (bytes ++ more) = ((d.feed kept bytes).1 ++ (d.feed (d.feed kept bytes).2 more).1,
      (d.feed (d.feed kept bytes).2 more).2) := by
  cases kept with
  | none => cases whole
  | some kept =>
    cases here : (d.drain (kept ++ bytes)).2 with
    | waiting left =>
      have split := StreamDecoder.drain_append here more
      rw [List.append_assoc] at split
      rw [StreamDecoder.feed_of_waiting here]
      unfold StreamDecoder.feed
      dsimp only
      rw [split]
      cases (d.drain (left ++ more)).2 with
      | waiting left' => rfl
      | failed left' =>
        dsimp only
        rw [List.append_assoc]
    | failed left =>
      have split := StreamDecoder.drain_append_failed here more
      rw [List.append_assoc] at split
      rw [StreamDecoder.feed_of_failed (congrArg Prod.snd split)] at whole
      cases whole

theorem feed_deliver (count : Nat) {c : Channel β μ}
    (whole : (d.feed c.kept c.inFlight).2 = some []) :
    d.feed c.kept c.inFlight = ((d.feed c.kept (c.inFlight.take count)).1 ++
      (d.feed (c.deliver d count).kept (c.deliver d count).inFlight).1,
        (d.feed (c.deliver d count).kept (c.deliver d count).inFlight).2) := by
  have split := feed_split (d := d) c.kept (c.inFlight.take count) (c.inFlight.drop count)
  rw [List.take_append_drop] at split
  exact split whole

theorem messages_deliver (count : Nat) {c : Channel β μ} (whole : c.Whole d) :
    (c.deliver d count).messages d = c.messages d := by
  rcases whole with closed | whole
  · simp [messages, deliver, closed, StreamDecoder.feed]
  · rw [messages, messages, feed_deliver count whole, ← List.append_assoc]
    rfl

theorem whole_deliver {count : Nat} {c : Channel β μ} (whole : c.Whole d) :
    (c.deliver d count).Whole d := by
  rcases whole with closed | whole
  · left
    simp only [deliver, closed]
    rfl
  · right
    rw [feed_deliver count whole] at whole
    exact whole

/-- A frame behind whole frames is one message more. -/
theorem messages_write {frame : List β} {message : μ}
    (reads : d.decode frame = .reads (some message) []) {c : Channel β μ} (whole : c.Whole d)
    (waits : d.decode [] = .waits) :
    (c.write frame).messages d =
        (if c.kept = none then c.messages d else c.messages d ++ [message]) ∧
      (c.write frame).Whole d := by
  rcases whole with closed | whole
  · rw [if_pos closed]
    refine ⟨?_, .inl closed⟩
    simp [messages, write, closed, StreamDecoder.feed]
  · cases kept : c.kept with
    | none =>
      rw [kept] at whole
      cases whole
    | some bytes =>
      rw [kept] at whole
      have drained : d.drain frame = ([message], .waiting []) := by
        rw [StreamDecoder.drain_of_reads reads, StreamDecoder.drain_of_waits waits]
        rfl
      cases here : (d.drain (bytes ++ c.inFlight)).2 with
      | failed left =>
        rw [StreamDecoder.feed_of_failed here] at whole
        cases whole
      | waiting left =>
        rw [StreamDecoder.feed_of_waiting here] at whole
        cases whole
        have split := StreamDecoder.drain_append here frame
        rw [List.nil_append, drained, List.append_assoc] at split
        have fed := StreamDecoder.feed_of_waiting (congrArg Prod.snd split)
        simp only [messages, Whole, write, kept, fed, split,
          StreamDecoder.feed_of_waiting here, reduceCtorEq, if_false, or_true, and_true]
        rw [List.append_assoc]

/-- The first message of the inbox is handled. -/
theorem messages_pop {c : Channel β μ} {message : μ} {rest : List μ}
    (inbox : c.inbox = message :: rest) :
    c.messages d = message :: ({ c with inbox := rest } : Channel β μ).messages d := by
  rw [messages, inbox]
  rfl

end Channel

end GitvTime.Support
