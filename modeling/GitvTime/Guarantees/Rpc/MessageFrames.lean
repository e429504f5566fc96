import GitvTime.Source.Rpc.MessageDecoder

/-!
# Frames as they come

The messages that a side of the RPC gets are those that the other side wrote, in their
order, however the network cuts the bytes. An `IOException` costs its own message; what
makes the decoder throw ends the channel.
-/
namespace GitvTime.Guarantees.Rpc.MessageFrames
open GitvTime.Support GitvTime.Source.Rpc

variable {μ : Type} {util : MessageCodecUtil μ}

theorem readInt_writeInt {value : Nat} (small : value < 2 ^ 31) (more : List UInt8) :
    readInt (writeInt value ++ more) = value := by
  simp only [writeInt, readInt, List.cons_append, UInt8.toNat_ofNat']
  have digits : value / 2 ^ 24 % 2 ^ 8 * 2 ^ 24 + value / 2 ^ 16 % 2 ^ 8 * 2 ^ 16 +
      value / 2 ^ 8 % 2 ^ 8 * 2 ^ 8 + value % 2 ^ 8 = value := by
    omega
  rw [digits, if_pos small]

/-- What `encode` writes for a body. -/
def frame (body : List UInt8) : List UInt8 := writeInt body.length ++ body

/-- The message of a body, if it can be read. -/
def given (util : MessageCodecUtil μ) (body : List UInt8) : Option μ :=
  match util.decode body with
  | .message message => some message
  | _ => none

/-- A body of an array's size that makes `decode` throw at most an `IOException`. -/
def Readable (util : MessageCodecUtil μ) (body : List UInt8) : Prop :=
  body.length < 2 ^ 31 ∧ util.decode body ≠ .throws

theorem read_frame {body : List UInt8} (readable : Readable util body) (more : List UInt8) :
    util.read (frame body ++ more) = .reads (given util body) more := by
  obtain ⟨small, sound⟩ := readable
  have length : readInt (frame body ++ more) = body.length := by
    rw [frame, List.append_assoc]
    exact readInt_writeInt small _
  have behind : (frame body ++ more).drop messageLength = body ++ more := rfl
  have long : ¬ (frame body ++ more).length < messageLength := by
    simp [frame, writeInt, messageLength]
  unfold MessageCodecUtil.read given
  rw [if_neg long, length, behind]
  dsimp only
  have enough : ¬ ((body ++ more).length : Int) < body.length := by
    rw [List.length_append]
    omega
  rw [if_neg enough, if_neg (by omega), Int.toNat_natCast, List.take_left, List.drop_left]
  cases found : util.decode body with
  | message message => rfl
  | ioException => rfl
  | throws => exact absurd found sound

theorem read_part {body part : List UInt8} (small : body.length < 2 ^ 31)
    (come : part <+: frame body) (other : part ≠ frame body) : util.read part = .waits := by
  obtain ⟨missing, whole⟩ := come
  unfold MessageCodecUtil.read
  by_cases short : part.length < messageLength
  · exact if_pos short
  · have some_missing : missing ≠ [] := by
      intro nothing
      rw [nothing, List.append_nil] at whole
      exact other whole
    have length : readInt part = body.length := by
      rw [← readInt_append (Nat.le_of_not_lt short) missing, whole]
      exact readInt_writeInt small body
    have total : part.length + missing.length = messageLength + body.length := by
      rw [← List.length_append, whole, frame, List.length_append]
      rfl
    have positive := List.length_pos_iff.mpr some_missing
    rw [if_neg short, length]
    dsimp only
    rw [if_pos]
    rw [List.length_drop]
    omega

theorem waits_nil (util : MessageCodecUtil μ) : util.messageDecoder.decode [] = .waits := rfl

/-- The serializer reads what it wrote, and writes an array. -/
def RoundTrip (util : MessageCodecUtil μ) : Prop :=
  ∀ message body, util.serialize message = some body →
    body.length < 2 ^ 31 ∧ util.decode body = .message message

theorem encode_cases {message : μ} (written : (util.serialize message).isSome = true)
    (roundTrip : RoundTrip util) :
    ∃ body, util.encode message = some (frame body) ∧ Readable util body ∧
      given util body = some message := by
  obtain ⟨body, serialized⟩ := Option.isSome_iff_exists.mp written
  obtain ⟨small, back⟩ := roundTrip message body serialized
  refine ⟨body, ?_, ⟨small, by simp [back]⟩, by simp [given, back]⟩
  rw [MessageCodecUtil.encode, serialized]
  rfl

/-- Of what one side writes, the messages that it cannot serialize left out, a part came in
some chunks: the other side has the messages whose frames are in that part. -/
theorem messages_arrive (roundTrip : RoundTrip util) (messages : List μ)
    (chunks : List (List UInt8))
    (come : chunks.flatten <+: (messages.filterMap util.encode).flatten) :
    ∃ front back tail, messages.filter (fun m => (util.serialize m).isSome) = front ++ back ∧
      chunks.flatten = (front.filterMap util.encode).flatten ++ tail ∧
        util.messageDecoder.feedAll (some []) chunks = (front, some tail) ∧
          (tail = [] ∨ ∃ next rest whole, back = next :: rest ∧ util.encode next = some whole ∧
            tail <+: whole ∧ tail ≠ whole) := by
  let sent := messages.filter fun m => (util.serialize m).isSome
  have written : ∀ m ∈ sent, (util.serialize m).isSome = true := fun m member =>
    (List.mem_filter.mp member).2
  have frames : ∀ part : List μ, (∀ m ∈ part, (util.serialize m).isSome = true) →
      part.filterMap util.encode = part.map fun m => (util.encode m).getD [] := by
    intro part all
    induction part with
    | nil => rfl
    | cons m rest ih =>
      obtain ⟨body, encoded, _⟩ := encode_cases (all m List.mem_cons_self) roundTrip
      rw [List.filterMap_cons, encoded, List.map_cons, encoded,
        ih fun other member => all other (List.mem_cons_of_mem m member)]
      rfl
  have same : messages.filterMap util.encode = sent.filterMap util.encode := by
    clear written come
    induction messages with
    | nil => rfl
    | cons m rest ih =>
      cases serialized : util.serialize m with
      | none => simpa [sent, MessageCodecUtil.encode, serialized] using ih
      | some body => simpa [sent, MessageCodecUtil.encode, serialized] using ih
  rw [same, frames sent written] at come
  obtain ⟨front, back, tail, split, bytes, drained, left⟩ :=
    StreamDecoder.drain_prefix (fun m => (util.encode m).getD []) some
      (d := util.messageDecoder) (waits_nil util) sent
      (fun m member more => by
        obtain ⟨body, encoded, readable, back⟩ := encode_cases (written m member) roundTrip
        rw [encoded, ← back]
        exact read_frame readable more)
      (fun m member part come other => by
        obtain ⟨body, encoded, readable, _⟩ := encode_cases (written m member) roundTrip
        rw [encoded] at come other
        exact read_part readable.1 come other) come
  refine ⟨front, back, tail, split, ?_, ?_, ?_⟩
  · rw [bytes, frames front fun m member => written m (split ▸ List.mem_append_left back member)]
  · have fed := StreamDecoder.feedAll_of_waiting chunks (waits_nil util)
      (congrArg Prod.snd drained)
    rw [fed, List.nil_append, drained, List.filterMap_some]
  · refine left.imp_right ?_
    rintro ⟨next, rest, rfl, come, other⟩
    have member : next ∈ sent := split ▸ List.mem_append_right front List.mem_cons_self
    obtain ⟨body, encoded, _⟩ := encode_cases (written next member) roundTrip
    rw [encoded] at come other
    exact ⟨next, rest, frame body, rfl, encoded, come, other⟩

/-- A serializer of byte arrays that writes them as they are. -/
def plain : MessageCodecUtil (List UInt8) where
  serialize message := if message.length < 2 ^ 31 then some message else none
  decode := .message

theorem plain_roundTrip : RoundTrip plain := by
  intro message body serialized
  obtain ⟨small, same⟩ := Option.ite_none_right_eq_some.mp serialized
  cases same
  exact ⟨small, rfl⟩

/-- The second of two frames lacks its last byte. -/
theorem messages_arrive_two : ∃ front back tail,
    [[1, 2], [3]].filter (fun m => (plain.serialize m).isSome) = front ++ back ∧
      [[0, 0], [0, 2, 1], [2, 0, 0, 0, 1]].flatten =
        (front.filterMap plain.encode).flatten ++ tail ∧
        plain.messageDecoder.feedAll (some []) [[0, 0], [0, 2, 1], [2, 0, 0, 0, 1]] =
          (front, some tail) ∧
          (tail = [] ∨ ∃ next rest whole, back = next :: rest ∧ plain.encode next = some whole ∧
            tail <+: whole ∧ tail ≠ whole) :=
  messages_arrive plain_roundTrip [[1, 2], [3]] [[0, 0], [0, 2, 1], [2, 0, 0, 0, 1]] (by decide)

/-- What makes `decode` throw: a negative length, or a body that cannot be read. -/
def Broken (util : MessageCodecUtil μ) (bytes : List UInt8) : Prop :=
  bytes.length = messageLength ∧ readInt bytes < 0 ∨
    ∃ body, bytes = frame body ∧ body.length < 2 ^ 31 ∧ util.decode body = .throws

theorem read_broken {bytes : List UInt8} (broken : Broken util bytes) (more : List UInt8) :
    util.read (bytes ++ more) = .fails more := by
  rcases broken with ⟨four, negative⟩ | ⟨body, rfl, small, throws⟩
  · have behind : (bytes ++ more).drop messageLength = more := List.drop_left' four
    unfold MessageCodecUtil.read
    rw [if_neg (by rw [List.length_append]; omega), readInt_append (Nat.le_of_eq four.symm), behind]
    dsimp only
    rw [if_neg (by omega), if_pos negative]
  · have length : readInt (frame body ++ more) = body.length := by
      rw [frame, List.append_assoc]
      exact readInt_writeInt small _
    have behind : (frame body ++ more).drop messageLength = body ++ more := rfl
    have long : ¬ (frame body ++ more).length < messageLength := by
      simp [frame, writeInt, messageLength]
    unfold MessageCodecUtil.read
    rw [if_neg long, length, behind]
    dsimp only
    rw [if_neg (by rw [List.length_append]; omega), if_neg (by omega), Int.toNat_natCast,
      List.take_left, throws, List.drop_left]

/-- Behind bodies that can be read or are skipped something breaks the channel: what comes
with the chunk of the break is read all the same, and no later chunk is. -/
theorem broken_frame_ends (bodies : List (List UInt8))
    (readable : ∀ body ∈ bodies, Readable util body) (bad junk : List UInt8)
    (broken : Broken util bad) (chunks : List (List UInt8))
    (come : chunks.flatten = (bodies.map frame).flatten ++ (bad ++ junk)) :
    ∃ before chunk after seen, chunks = before ++ chunk :: after ∧ junk = seen ++ after.flatten ∧
      before.flatten.length < (bodies.map frame).flatten.length + bad.length ∧
        util.messageDecoder.feedAll (some []) chunks =
          (bodies.filterMap (given util) ++ (util.messageDecoder.drain seen).1, none) := by
  have drained (more : List UInt8) :
      util.messageDecoder.drain ((bodies.map frame).flatten ++ (bad ++ more)) =
        (bodies.filterMap (given util), .failed more) := by
    rw [StreamDecoder.drain_frames frame (given util) bodies fun body member more =>
        read_frame (readable body member) more,
      StreamDecoder.drain_of_fails (d := util.messageDecoder) (read_broken broken more),
      List.append_nil]
  have whole := drained junk
  rw [← come] at whole
  obtain ⟨before, chunk, after, seen, left, split, early, same, fed⟩ :=
    StreamDecoder.feedAll_of_failed chunks (waits_nil util)
      (congrArg Prod.snd whole)
  refine ⟨before, chunk, after, seen, split, same, ?_, ?_⟩
  · -- otherwise the decoder would have failed already
    by_contra late
    have first : (bodies.map frame).flatten ++ bad <+: chunks.flatten := by
      rw [come, ← List.append_assoc]
      exact List.prefix_append _ _
    have start : before.flatten <+: chunks.flatten := by
      rw [split, List.flatten_append]
      exact List.prefix_append _ _
    have shorter : ((bodies.map frame).flatten ++ bad).length ≤ before.flatten.length := by
      rw [List.length_append]
      omega
    obtain ⟨more, whole_before⟩ := List.prefix_of_prefix_length_le first start shorter
    rw [List.nil_append, ← whole_before, List.append_assoc, drained more] at early
    cases early
  · rw [fed, List.nil_append, whole]

/-- A serializer that cannot read the byte 9. -/
def choosy : MessageCodecUtil (List UInt8) where
  serialize := some
  decode body := if body = [9] then .ioException else .message body

/-- The first message is skipped, the third one comes with the negative length, and the
fourth one is not seen. -/
theorem broken_frame_ends_two :
    ∃ before chunk after seen,
      [[0, 0, 0, 1], [9, 0, 0, 0, 1, 7, 128], [0, 0, 0, 0, 0, 0, 1, 8], [0, 0, 0, 1, 8]] =
          before ++ chunk :: after ∧
        [0, 0, 0, 1, 8, 0, 0, 0, 1, 8] = seen ++ after.flatten ∧
          before.flatten.length <
              (([[9], [7]] : List (List UInt8)).map frame).flatten.length + [128, 0, 0, 0].length ∧
            choosy.messageDecoder.feedAll (some [])
                [[0, 0, 0, 1], [9, 0, 0, 0, 1, 7, 128], [0, 0, 0, 0, 0, 0, 1, 8],
                  [0, 0, 0, 1, 8]] =
              ([[9], [7]].filterMap (given choosy) ++ (choosy.messageDecoder.drain seen).1,
                none) := by
  refine broken_frame_ends [[9], [7]] ?_ [128, 0, 0, 0] [0, 0, 0, 1, 8, 0, 0, 0, 1, 8]
    (.inl ⟨rfl, by decide⟩) _ rfl
  intro body member
  rcases List.mem_cons.mp member with rfl | member
  · exact ⟨by decide, by simp [choosy]⟩
  · rw [List.mem_singleton.mp member]
    exact ⟨by decide, by simp [choosy]⟩

end GitvTime.Guarantees.Rpc.MessageFrames
