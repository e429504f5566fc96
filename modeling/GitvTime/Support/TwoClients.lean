import GitvTime.Support.ClientProgram

/-!
# Two clients of one server

An interleaving of two programs is a list of turns, `true` for the left client.
As long as neither has changed the server the two programs run independently, so
an interleaving is decided by whose first changing command comes first and by
how far the other program was at that moment (`interleave_race`).
-/
namespace GitvTime.Support

/-- The moves of the other client before the move number `n` (from zero) of `who`. -/
def turnsBefore (who : Bool) : Nat → List Bool → Nat
  | _, [] => 0
  | 0, turn :: rest => if turn = who then 0 else turnsBefore who 0 rest + 1
  | n + 1, turn :: rest =>
    if turn = who then turnsBefore who n rest else turnsBefore who (n + 1) rest + 1

namespace Server

variable {Cmd : Type} {Reply : Cmd → Type} {α β σ κ : Type} (server : Server Cmd Reply σ κ)

/-- Run two clients in the order of the turns; a finished client passes. -/
def interleave : List Bool → σ × Client Cmd Reply κ α × Client Cmd Reply κ β →
    σ × Client Cmd Reply κ α × Client Cmd Reply κ β
  | [], pair => pair
  | true :: rest, (state, left, right) =>
    let outcome := server.advance state left
    interleave rest (outcome.1, outcome.2, right)
  | false :: rest, (state, left, right) =>
    let outcome := server.advance state right
    interleave rest (outcome.1, left, outcome.2)

/-- A client after `n` moves during which the server stays as it is. -/
def ahead (state : σ) (client : Client Cmd Reply κ α) : Nat → Client Cmd Reply κ α
  | 0 => client
  | n + 1 => (server.advance state (ahead state client n)).2

/-- The first `n` moves of a client leave the server as it is. -/
def Silent (state : σ) (client : Client Cmd Reply κ α) (n : Nat) : Prop :=
  ∀ i < n, (server.advance state (server.ahead state client i)).1 = state

variable {server}

theorem ahead_shift (state : σ) (client : Client Cmd Reply κ α) (n : Nat) :
    server.ahead state (server.advance state client).2 n = server.ahead state client (n + 1) := by
  induction n with
  | zero => rfl
  | succ n ih =>
    rw [ahead, ih]
    rfl

theorem Silent.first {state : σ} {client : Client Cmd Reply κ α} {n : Nat}
    (silent : server.Silent state client (n + 1)) : (server.advance state client).1 = state :=
  silent 0 (Nat.succ_pos n)

theorem Silent.rest {state : σ} {client : Client Cmd Reply κ α} {n : Nat}
    (silent : server.Silent state client (n + 1)) :
    server.Silent state (server.advance state client).2 n := by
  intro i bound
  rw [ahead_shift]
  exact silent (i + 1) (by omega)

/-- Two clients whose first `m` and `n` moves are silent: whoever first gets past
them decides how the interleaving goes on. -/
theorem interleave_race {state : σ} (schedule : List Bool) {left : Client Cmd Reply κ α}
    {right : Client Cmd Reply κ β} {m n : Nat} (left_silent : server.Silent state left m)
    (right_silent : server.Silent state right n) (moves : n < schedule.count false) :
    (turnsBefore false n schedule ≤ m ∧ ∃ rest,
      let outcome := server.advance state (server.ahead state right n)
      server.interleave schedule (state, left, right) =
        server.interleave rest
          (outcome.1, server.ahead state left (turnsBefore false n schedule), outcome.2)) ∨
    (m < turnsBefore false n schedule ∧ turnsBefore true m schedule ≤ n ∧ ∃ rest,
      let outcome := server.advance state (server.ahead state left m)
      server.interleave schedule (state, left, right) =
        server.interleave rest
          (outcome.1, outcome.2, server.ahead state right (turnsBefore true m schedule))) := by
  induction schedule generalizing left right m n with
  | nil => simp at moves
  | cons turn rest ih =>
    cases turn with
    | true =>
      have moves' : n < rest.count false := by simpa using moves
      have later : turnsBefore false n (true :: rest) = turnsBefore false n rest + 1 := by
        cases n <;> simp [turnsBefore]
      rw [later]
      cases m with
      | zero => exact .inr ⟨by omega, by simp [turnsBefore], rest, rfl⟩
      | succ m =>
        have unfolded : server.interleave (true :: rest) (state, left, right) =
            server.interleave rest (state, (server.advance state left).2, right) := by
          rw [interleave, left_silent.first]
        have own : turnsBefore true (m + 1) (true :: rest) = turnsBefore true m rest := by
          simp [turnsBefore]
        rw [unfolded, own]
        rcases ih left_silent.rest right_silent moves' with ⟨bound, rest', ran⟩ | ⟨bound, other, rest', ran⟩
        · refine .inl ⟨by omega, rest', ?_⟩
          rw [ran, ahead_shift]
        · refine .inr ⟨by omega, other, rest', ?_⟩
          rw [ran, ahead_shift]
    | false =>
      have later : turnsBefore true m (false :: rest) = turnsBefore true m rest + 1 := by
        cases m <;> simp [turnsBefore]
      rw [later]
      cases n with
      | zero => exact .inl ⟨by simp [turnsBefore], rest, rfl⟩
      | succ n =>
        have moves' : n < rest.count false := by simpa using moves
        have unfolded : server.interleave (false :: rest) (state, left, right) =
            server.interleave rest (state, left, (server.advance state right).2) := by
          rw [interleave, right_silent.first]
        have own : turnsBefore false (n + 1) (false :: rest) = turnsBefore false n rest := by
          simp [turnsBefore]
        rw [unfolded, own]
        rcases ih left_silent right_silent.rest moves' with ⟨bound, rest', ran⟩ | ⟨bound, other, rest', ran⟩
        · refine .inl ⟨bound, rest', ?_⟩
          rw [ran, ahead_shift]
        · refine .inr ⟨bound, by omega, rest', ?_⟩
          rw [ran, ahead_shift]

/-- A program that has ended has had the turns it needs. -/
theorem turns_of_ended (schedule : List Bool) {state : σ} {left : Client Cmd Reply κ α}
    {right : Client Cmd Reply κ β} {n : Nat} {result : β} (needs : right.prog.Needs n)
    (ended : (server.interleave schedule (state, left, right)).2.2.prog = .done result) :
    n ≤ schedule.count false := by
  induction schedule generalizing state left right n with
  | nil =>
    have finished : right.prog = .done result := ended
    cases n with
    | zero => simp
    | succ n =>
      rw [finished] at needs
      exact needs.elim
  | cons turn rest ih =>
    cases turn with
    | true =>
      have := ih needs ended
      simpa using this
    | false =>
      cases n with
      | zero => simp
      | succ n =>
        obtain ⟨conn, prog⟩ := right
        cases prog with
        | done _ => exact needs.elim
        | call command next =>
          have := ih (needs _) ended
          simpa using this

/-- With the left client finished the right one is alone. -/
theorem interleave_left_done (schedule : List Bool) {state : σ} {conn : κ} {result : α}
    {right : Client Cmd Reply κ β} {final : σ × Client Cmd Reply κ α × Client Cmd Reply κ β}
    {result' : β}
    (ran : server.interleave schedule (state, ⟨conn, .done result⟩, right) = final)
    (ended : final.2.2.prog = .done result') :
    final.1 = (server.runAlone state right.conn right.prog).1 ∧ final.2.1 = ⟨conn, .done result⟩ := by
  induction schedule generalizing state right with
  | nil =>
    subst ran
    have finished : right.prog = .done result' := ended
    simp [interleave, finished]
  | cons turn rest ih =>
    cases turn with
    | true => exact ih ran
    | false =>
      obtain ⟨first, second⟩ := ih ran
      refine ⟨?_, second⟩
      rw [first]
      obtain ⟨conn', prog⟩ := right
      cases prog <;> rfl

end Server

end GitvTime.Support
