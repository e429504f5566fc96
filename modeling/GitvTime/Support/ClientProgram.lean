import Mathlib.Data.List.Basic

/-!
# Client programs over a shared server

A client is a program that issues one command at a time and continues with the
reply. Code between two replies is local and has no step of its own, so any
interleaving at command granularity is a sequence of `Server.advance` steps of
the clients. The command set, the replies, the server state and what a
connection remembers are parameters.
-/
namespace GitvTime.Support

/-- A program: finished with a result, or about to issue a command. -/
inductive Prog (Cmd : Type) (Reply : Cmd → Type) (α : Type) : Type where
  | done (result : α)
  | call (command : Cmd) (next : Reply command → Prog Cmd Reply α)

variable {Cmd : Type} {Reply : Cmd → Type} {α β σ κ : Type}

namespace Prog

def bind : Prog Cmd Reply α → (α → Prog Cmd Reply β) → Prog Cmd Reply β
  | .done result, f => f result
  | .call command next, f => .call command fun reply => (next reply).bind f

/-- Issue one command and return its reply. -/
def command (c : Cmd) : Prog Cmd Reply (Reply c) := .call c .done

instance : Monad (Prog Cmd Reply) where
  pure := .done
  bind := Prog.bind

@[simp] theorem pure_eq (result : α) : (pure result : Prog Cmd Reply α) = .done result := rfl

@[simp] theorem done_bind (result : α) (f : α → Prog Cmd Reply β) :
    (Prog.done result >>= f) = f result := rfl

@[simp] theorem call_bind (c : Cmd) (next : Reply c → Prog Cmd Reply α)
    (f : α → Prog Cmd Reply β) :
    (Prog.call c next >>= f) = .call c fun reply => next reply >>= f := rfl

theorem bind_congr_reply {x : Prog Cmd Reply α} {f g : α → Prog Cmd Reply β}
    (same : ∀ a, f a = g a) : (x >>= f) = (x >>= g) := by
  rw [funext same]

theorem map_bind_eq {γ : Type} (h : β → γ) (x : Prog Cmd Reply α) (f : α → Prog Cmd Reply β) :
    h <$> (x >>= f) = (x >>= fun a => h <$> f a) := by
  induction x with
  | done result => rfl
  | call command next ih => exact congrArg (Prog.call command) (funext ih)

@[simp] theorem map_done (h : α → β) (result : α) :
    h <$> (Prog.done result : Prog Cmd Reply α) = .done (h result) := rfl

@[simp] theorem command_bind (c : Cmd) (f : Reply c → Prog Cmd Reply β) :
    (Prog.command c >>= f) = .call c f := rfl

/-- The result of a finished program. -/
def result? : Prog Cmd Reply α → Option α
  | .done result => some result
  | .call _ _ => none

@[simp] theorem result?_done (result : α) :
    (Prog.done result : Prog Cmd Reply α).result? = some result := rfl

@[simp] theorem result?_call (c : Cmd) (next : Reply c → Prog Cmd Reply α) :
    (Prog.call c next).result? = none := rfl

end Prog

/-- What a server does with a command of a connection. -/
structure Server (Cmd : Type) (Reply : Cmd → Type) (σ κ : Type) where
  perform : (command : Cmd) → σ → κ → σ × κ × Reply command

/-- A connection and the rest of the program that runs on it. -/
structure Client (Cmd : Type) (Reply : Cmd → Type) (κ α : Type) where
  conn : κ
  prog : Prog Cmd Reply α

namespace Server

variable (server : Server Cmd Reply σ κ)

/-- One command of one client; a finished client does nothing. -/
def advance (state : σ) (client : Client Cmd Reply κ α) : σ × Client Cmd Reply κ α :=
  match client.prog with
  | .done _ => (state, client)
  | .call command next =>
    let outcome := server.perform command state client.conn
    (outcome.1, ⟨outcome.2.1, next outcome.2.2⟩)

@[simp] theorem advance_done (state : σ) (conn : κ) (result : α) :
    server.advance state ⟨conn, .done result⟩ = (state, ⟨conn, .done result⟩) := rfl

@[simp] theorem advance_call (state : σ) (conn : κ) (c : Cmd) (next : Reply c → Prog Cmd Reply α) :
    server.advance state ⟨conn, .call c next⟩ =
      ((server.perform c state conn).1,
        ⟨(server.perform c state conn).2.1, next (server.perform c state conn).2.2⟩) := rfl

/-- The whole program with nobody else at the server. -/
def runAlone (state : σ) (conn : κ) : Prog Cmd Reply α → σ × κ × α
  | .done result => (state, conn, result)
  | .call command next =>
    let outcome := server.perform command state conn
    runAlone outcome.1 outcome.2.1 (next outcome.2.2)

@[simp] theorem runAlone_done (state : σ) (conn : κ) (result : α) :
    server.runAlone state conn (.done result) = (state, conn, result) := rfl

theorem runAlone_call (state : σ) (conn : κ) (c : Cmd) (next : Reply c → Prog Cmd Reply α) :
    server.runAlone state conn (.call c next) =
      server.runAlone (server.perform c state conn).1 (server.perform c state conn).2.1
        (next (server.perform c state conn).2.2) := rfl

/-- The commands of a program with their replies, when others have changed the
state by `others n` before its command number `n`. -/
def traceAmid (others : Nat → σ → σ) (n : Nat) (state : σ) (conn : κ) :
    Prog Cmd Reply α → List ((command : Cmd) × Reply command)
  | .done _ => []
  | .call command next =>
    let outcome := server.perform command (others n state) conn
    ⟨command, outcome.2.2⟩ ::
      traceAmid others (n + 1) outcome.1 outcome.2.1 (next outcome.2.2)

@[simp] theorem traceAmid_done (others : Nat → σ → σ) (n : Nat) (state : σ) (conn : κ) (result : α) :
    server.traceAmid others n state conn (.done result : Prog Cmd Reply α) = [] := rfl

/-- The whole program, when others change the state by `others n` before its
command number `n`. -/
def runAmid (others : Nat → σ → σ) (n : Nat) (state : σ) (conn : κ) :
    Prog Cmd Reply α → σ × κ × α
  | .done result => (state, conn, result)
  | .call command next =>
    let outcome := server.perform command (others n state) conn
    runAmid others (n + 1) outcome.1 outcome.2.1 (next outcome.2.2)

/-- What is done with the result changes nothing at the server. -/
theorem runAmid_map (others : Nat → σ → σ) (f : α → β) (n : Nat) (state : σ) (conn : κ)
    (prog : Prog Cmd Reply α) :
    server.runAmid others n state conn (f <$> prog) =
      ((server.runAmid others n state conn prog).1,
        (server.runAmid others n state conn prog).2.1,
        f (server.runAmid others n state conn prog).2.2) := by
  induction prog generalizing n state conn with
  | done result => rfl
  | call command next ih => exact ih _ _ _ _

theorem runAlone_advance (state : σ) (client : Client Cmd Reply κ α) :
    server.runAlone state client.conn client.prog =
      server.runAlone (server.advance state client).1 (server.advance state client).2.conn
        (server.advance state client).2.prog := by
  obtain ⟨conn, prog⟩ := client
  cases prog <;> rfl

end Server

/-- The program issues at least `n` commands, whatever the replies. -/
def Prog.Needs : Nat → Prog Cmd Reply α → Prop
  | 0, _ => True
  | _ + 1, .done _ => False
  | n + 1, .call _ next => ∀ reply, (next reply).Needs n

end GitvTime.Support
