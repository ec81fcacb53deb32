import PacketDiversion.Host.Call
import PacketDiversion.Notice

/-!
# Programs over operating-system calls

Everything the library does is a `Program`: a finite tree whose nodes call the operating system, and
go on according to the reply, or report a notice. A `Host` answers calls out of a state of its own,
and `Program.run` lets a program and a host talk. `Program.Runs` says the same without a host: which
sequences of events lead a program to which value. A statement about every operating system is a
statement about every such sequence (`runs_run`).
-/

namespace PacketDiversion

/-- A computation that talks to the operating system and ends with a value. -/
inductive Program (α : Type) : Type
  /-- End with a value. -/
  | done (value : α)
  /-- Make a call and go on with its reply. -/
  | call (c : Call) (next : c.Reply → Program α)
  /-- Report a notice and go on. -/
  | note (n : Notice) (rest : Program α)

namespace Program

variable {α β γ : Type}

/-! ### Sequencing -/

/-- Runs `f` on the value that a program ends with. -/
def bind (f : α → Program β) : Program α → Program β
  | done value => f value
  | call c next => call c fun reply => (next reply).bind f
  | note n rest => note n (rest.bind f)

instance : Monad Program where
  pure := done
  bind p f := p.bind f

/-- The program that makes one call and ends with its reply. -/
def ask (c : Call) : Program c.Reply := call c done

def report (n : Notice) : Program Unit := note n (done ())

@[simp] theorem pure_eq (value : α) : (pure value : Program α) = done value := rfl

@[simp] theorem done_bind (value : α) (f : α → Program β) : done value >>= f = f value := rfl

@[simp] theorem call_bind (c : Call) (next : c.Reply → Program α) (f : α → Program β) :
    call c next >>= f = call c fun reply => next reply >>= f := rfl

@[simp] theorem note_bind (n : Notice) (rest : Program α) (f : α → Program β) :
    note n rest >>= f = note n (rest >>= f) := rfl

theorem bind_done (p : Program α) : p >>= done = p := by
  induction p with
  | done value => rfl
  | call c next ih => simp only [call_bind, ih]
  | note n rest ih => simp only [note_bind, ih]

theorem bind_assoc (p : Program α) (f : α → Program β) (g : β → Program γ) :
    p >>= f >>= g = p >>= fun value => f value >>= g := by
  induction p with
  | done value => rfl
  | call c next ih => simp only [call_bind, ih]
  | note n rest ih => simp only [note_bind, ih]

instance : LawfulMonad Program :=
  LawfulMonad.mk' Program (fun p => bind_done p) (fun _ _ => rfl) (fun p f g => bind_assoc p f g)

/-! ### Hosts -/

/-- An operating system: it answers calls and keeps a state. -/
structure Host (σ : Type) where
  /-- The reply to a call, and the state after it. -/
  answer : (c : Call) → σ → c.Reply × σ

/-- What running a program on a host leaves behind. -/
structure Transcript (σ α : Type) where
  value : α
  state : σ
  /-- The calls made, with their replies, in order. -/
  events : List Event
  /-- The notices reported, in order. -/
  notices : List Notice

/-- Runs a program on a host from a state. -/
def run {σ : Type} (host : Host σ) : Program α → σ → Transcript σ α
  | done value, state => ⟨value, state, [], []⟩
  | call c next, state =>
    let answered := host.answer c state
    let rest := (next answered.1).run host answered.2
    { rest with events := ⟨c, answered.1⟩ :: rest.events }
  | note n rest, state =>
    let rest := rest.run host state
    { rest with notices := n :: rest.notices }

/-! ### Event sequences -/

/-- `Runs p events value`: with these replies to its calls, in this order and to the last one, the
program `p` ends with `value`. -/
inductive Runs : Program α → List Event → α → Prop
  | done (value : α) : Runs (done value) [] value
  | call {c : Call} {next : c.Reply → Program α} {events : List Event} {value : α}
      (reply : c.Reply) (rest : Runs (next reply) events value) :
      Runs (call c next) (⟨c, reply⟩ :: events) value
  | note {n : Notice} {p : Program α} {events : List Event} {value : α}
      (rest : Runs p events value) : Runs (note n p) events value

/-- What a host makes of a program is one of the program's event sequences. -/
theorem runs_run {σ : Type} (host : Host σ) (p : Program α) (state : σ) :
    Runs p (p.run host state).events (p.run host state).value := by
  induction p generalizing state with
  | done value => exact .done value
  | call c next ih => exact .call _ (ih _ _)
  | note n rest ih => exact .note (ih _)

end Program

end PacketDiversion
