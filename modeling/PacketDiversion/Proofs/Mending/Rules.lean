import Mathlib.Data.List.Forall2
import PacketDiversion.Proofs.Handles.Context
import PacketDiversion.Proofs.Operations
import PacketDiversion.Proofs.Refusals

/-!
# Panics mended

A call that panicked might have failed instead. Some events are mended if they are the same calls in
the same order, with the same replies but for some of the panics, which are failures now. `Mirrors`
compares two programs, one on any events and the other on these events mended: the second makes its
calls too, and their values are related in one way if nothing was mended and in another way if
something was. Every operation of the library mirrors itself: cut short by a panic it makes no call
that it would not make after a failure, and the other way round.
-/

namespace PacketDiversion

open Program

/-! ### Mended events -/

theorem Event.Panics.isRequest {e : Event} (panics : e.Panics) : e.call.IsRequest := by
  obtain ⟨reply, completed, -⟩ := panics
  unfold completion? at completed
  split at completed
  · trivial
  · trivial
  · cases completed

instance : DecidablePred Event.Panics := fun e =>
  inferInstanceAs (Decidable (∃ reply ∈ e.completion?, reply.verdict = .panicked))

/-- An event, or the same call failing where it panicked. What it wrote until then is open, and so
is the error, except that a request which is told to be pending has not failed. -/
inductive Event.Mended : Event → Event → Prop
  | same (e : Event) : Mended e e
  | request {handle : Handle} {request : Request} {block : Overlapped} {written : Written}
      (written' : Written) {source : HostError} (final : source.isPending = false) :
    Mended ⟨.control handle request block, (⟨.panicked, written⟩ : Completion)⟩
      ⟨.control handle request block, (⟨.failed source, written'⟩ : Completion)⟩
  | wait {handle event : Handle} {wait : Bool} {written : Written} (written' : Written)
      (source : HostError) :
    Mended ⟨.result handle event wait, (⟨.panicked, written⟩ : Completion)⟩
      ⟨.result handle event wait, (⟨.failed source, written'⟩ : Completion)⟩

theorem Event.Mended.eq_of_calm {e e' : Event} (mended : e.Mended e') (calm : ¬ e.Panics) :
    e' = e := by
  cases mended with
  | same => rfl
  | request written' final => exact absurd ⟨_, rfl, rfl⟩ calm
  | wait written' source => exact absurd ⟨_, rfl, rfl⟩ calm

/-- No call panicked. -/
def Calm (events : List Event) : Prop := ∀ e ∈ events, ¬ e.Panics

instance : DecidablePred Calm := fun events =>
  inferInstanceAs (Decidable (∀ e ∈ events, ¬ e.Panics))

section Lists

variable {events events' : List Event}

theorem calm_nil : Calm [] := fun _ he => absurd he List.not_mem_nil

/-- Only a request can panic. -/
theorem Calm.cons {c : Call} {reply : c.Reply} (calm : Calm events) (hc : ¬ c.IsRequest) :
    Calm (⟨c, reply⟩ :: events) :=
  List.forall_mem_cons.mpr ⟨fun panics => hc panics.isRequest, calm⟩

theorem Calm.append (calm : Calm events) (calm' : Calm events') : Calm (events ++ events') :=
  List.forall_mem_append.mpr ⟨calm, calm'⟩

/-- Without a panic nothing can be mended. -/
theorem Calm.eq_of_mended (calm : Calm events)
    (mended : List.Forall₂ Event.Mended events events') : events' = events := by
  induction mended with
  | nil => rfl
  | cons head _ ih =>
    rw [head.eq_of_calm (calm _ List.mem_cons_self),
      ih fun e he => calm e (List.mem_cons_of_mem _ he)]

theorem mended_refl (events : List Event) : List.Forall₂ Event.Mended events events :=
  List.forall₂_same.mpr fun e _ => .same e

theorem Event.Panics.exists_mended {e : Event} (panics : e.Panics) :
    ∃ e', e.Mended e' ∧ e' ≠ e := by
  obtain ⟨reply, completed, hverdict⟩ := panics
  obtain ⟨verdict, written⟩ := reply
  obtain rfl : verdict = .panicked := hverdict
  unfold completion? at completed
  split at completed
  · obtain rfl := Option.some.inj completed
    have final : HostError.isPending (.code 0) = false := rfl
    exact ⟨_, .request written final, by simp⟩
  · obtain rfl := Option.some.inj completed
    exact ⟨_, .wait written (.code 0), by simp⟩
  · cases completed

/-- Any one panic can be mended. -/
theorem exists_mended_of_not_calm (h : ¬ Calm events) :
    ∃ events', List.Forall₂ Event.Mended events events' ∧ events' ≠ events := by
  obtain ⟨e, he, panics⟩ : ∃ e ∈ events, e.Panics := by
    simpa only [Calm, not_forall, not_not, exists_prop] using h
  obtain ⟨e', mended, differ⟩ := panics.exists_mended
  obtain ⟨before, after, rfl⟩ := List.append_of_mem he
  have hevents : List.Forall₂ Event.Mended (before ++ e :: after) (before ++ e' :: after) :=
    List.rel_append (mended_refl before) (.cons mended (mended_refl after))
  refine ⟨before ++ e' :: after, hevents, fun heq => differ ?_⟩
  exact (List.cons.inj (List.append_cancel_left heq)).1

theorem forall₂_append_left {α β : Type} {R : α → β → Prop} {first second : List α} {l : List β}
    (h : List.Forall₂ R (first ++ second) l) :
    ∃ first' second', l = first' ++ second' ∧ List.Forall₂ R first first'
      ∧ List.Forall₂ R second second' := by
  induction first generalizing l with
  | nil => exact ⟨[], l, rfl, .nil, h⟩
  | cons a first ih =>
    cases h with
    | cons head tail =>
      obtain ⟨first', second', rfl, hfirst, hsecond⟩ := ih tail
      exact ⟨_ :: first', second', rfl, .cons head hfirst, hsecond⟩

end Lists

/-! ### Programs that mirror each other -/

namespace Program

variable {α β γ δ : Type}

/-- On the events of any run of the first program, mended, the second program runs to its end. If
nothing was mended the values are related by `E`, and else by `T`. -/
def Mirrors (E T : α → β → Prop) (p : Program α) (q : Program β) : Prop :=
  ∀ (events events' : List Event) (value : α), Runs p events value →
    List.Forall₂ Event.Mended events events' →
    ∃ value', Runs q events' value'
      ∧ (events' = events ∧ E value value' ∨ events' ≠ events ∧ T value value')

namespace Mirrors

variable {E T : α → β → Prop} {E' T' : γ → δ → Prop} {p : Program α} {q : Program β}

theorem done {value : α} {value' : β} (related : E value value') :
    Mirrors E T (done value) (done value') := by
  intro events events' result run mended
  obtain ⟨rfl, rfl⟩ := runs_done_iff.mp run
  obtain rfl := List.forall₂_nil_left_iff.mp mended
  exact ⟨value', .done value', .inl ⟨rfl, related⟩⟩

theorem bind {f : α → Program γ} {g : β → Program δ} (first : Mirrors E T p q)
    (same : ∀ value value', E value value' → Mirrors E' T' (f value) (g value'))
    (cut : ∀ value value', T value value' → Mirrors T' T' (f value) (g value')) :
    Mirrors E' T' (p >>= f) (q >>= g) := by
  intro events events' result run mended
  obtain ⟨value, before, after, rfl, hp, hf⟩ := runs_bind_iff.mp run
  obtain ⟨before', after', rfl, hbefore, hafter⟩ := forall₂_append_left mended
  obtain ⟨value', hq, rfl, related⟩ | ⟨value', hq, differ, related⟩ :
      (∃ value', Runs q before' value' ∧ before' = before ∧ E value value')
        ∨ ∃ value', Runs q before' value' ∧ before' ≠ before ∧ T value value' := by
    obtain ⟨value', hq, how | how⟩ := first _ _ _ hp hbefore
    · exact .inl ⟨value', hq, how⟩
    · exact .inr ⟨value', hq, how⟩
  · obtain ⟨result', hg, how⟩ := same value value' related _ _ _ hf hafter
    refine ⟨result', hq.bind hg, ?_⟩
    rcases how with ⟨rfl, hresult⟩ | ⟨later, hresult⟩
    · exact .inl ⟨rfl, hresult⟩
    · exact .inr ⟨fun heq => later (List.append_cancel_left heq), hresult⟩
  · obtain ⟨result', hg, how⟩ := cut value value' related _ _ _ hf hafter
    have hlength : before'.length = before.length := hbefore.length_eq.symm
    have hresult : T' result result' := how.elim And.right And.right
    refine ⟨result', hq.bind hg, .inr ⟨fun heq => differ ?_, hresult⟩⟩
    exact List.append_inj_left heq hlength

/-- Nothing is called after either program. -/
theorem map {f : α → γ} {g : β → δ} (first : Mirrors E T p q)
    (same : ∀ value value', E value value' → E' (f value) (g value'))
    (cut : ∀ value value', T value value' → T' (f value) (g value')) :
    Mirrors E' T' (p >>= fun value => pure (f value)) (q >>= fun value => pure (g value)) :=
  first.bind (fun value value' related => .done (same value value' related))
    fun value value' related => .done (cut value value' related)

/-- A program that never panics mirrors itself. -/
theorem of_calm {T : α → α → Prop} {p : Program α}
    (calm : ∀ events value, Runs p events value → Calm events) :
    Mirrors (fun value value' => value' = value) T p p := by
  intro events events' value run mended
  obtain rfl := (calm events value run).eq_of_mended mended
  exact ⟨value, run, .inl ⟨rfl, rfl⟩⟩

theorem cut_of_panic {value : α} {events : List Event} (h : Mirrors E T p q)
    (run : Runs p events value) (panics : ¬ Calm events) : ∃ value', T value value' := by
  obtain ⟨events', mended, differ⟩ := exists_mended_of_not_calm panics
  obtain ⟨value', -, ⟨same, -⟩ | ⟨-, cut⟩⟩ := h _ _ _ run mended
  · exact absurd same differ
  · exact ⟨value', cut⟩

theorem ask_bind {c : Call} {f : c.Reply → Program α} {g : c.Reply → Program β}
    (hc : ¬ c.IsRequest) (h : ∀ reply, Mirrors E T (f reply) (g reply)) :
    Mirrors E T (ask c >>= f) (ask c >>= g) := by
  intro events events' value run mended
  obtain ⟨reply, rest, rfl, goesOn⟩ := runs_ask_bind_iff.mp run
  obtain ⟨e', rest', head, tail, rfl⟩ := List.forall₂_cons_left_iff.mp mended
  obtain rfl := head.eq_of_calm fun panics => hc panics.isRequest
  obtain ⟨value', run', how⟩ := h reply _ _ _ goesOn tail
  refine ⟨value', runs_ask_bind_iff.mpr ⟨reply, rest', rfl, run'⟩, ?_⟩
  rcases how with ⟨rfl, related⟩ | ⟨differ, related⟩
  · exact .inl ⟨rfl, related⟩
  · exact .inr ⟨fun heq => differ (List.cons.inj heq).2, related⟩

/-- Notices are not compared. -/
theorem report_left {n : Notice} {f : Unit → Program α} (h : Mirrors E T (f ()) q) :
    Mirrors E T (report n >>= f) q :=
  fun _ _ _ run mended => h _ _ _ (runs_report_bind_iff.mp run) mended

theorem report_right {n : Notice} {g : Unit → Program β} (h : Mirrors E T p (g ())) :
    Mirrors E T p (report n >>= g) := by
  intro events events' value run mended
  obtain ⟨value', run', how⟩ := h _ _ _ run mended
  exact ⟨value', runs_report_bind_iff.mpr run', how⟩

theorem report_bind {n n' : Notice} {f : Unit → Program α} {g : Unit → Program β}
    (h : Mirrors E T (f ()) (g ())) : Mirrors E T (report n >>= f) (report n' >>= g) :=
  h.report_right.report_left

end Mirrors

end Program

/-! ### Cut short -/

/-- A panic, and a failure in its place. -/
def Verdict.Cut (verdict verdict' : Verdict) : Prop :=
  verdict = .panicked ∧ ∃ e, verdict' = .failed e

namespace Outcome

variable {ε δ α β : Type}

/-- An outcome that unwinds from a panicking call, and one in its place that is no success. -/
def Cut (outcome outcome' : Outcome ε α) : Prop :=
  outcome = .unwound .host ∧ ∀ value, outcome' ≠ .ok value

theorem cut_error (e : ε) : Cut (α := α) (.unwound .host) (.error e) := ⟨rfl, nofun⟩

theorem cut_unwound (why : Panic) : Cut (ε := ε) (α := α) (.unwound .host) (.unwound why) :=
  ⟨rfl, nofun⟩

theorem Cut.cases {outcome outcome' : Outcome ε α} (cut : outcome.Cut outcome') :
    outcome = .unwound .host ∧ ((∃ e, outcome' = .error e) ∨ ∃ why, outcome' = .unwound why) := by
  obtain ⟨rfl, failed⟩ := cut
  cases outcome' with
  | ok value => exact absurd rfl (failed value)
  | error e => exact ⟨rfl, .inl ⟨e, rfl⟩⟩
  | unwound why => exact ⟨rfl, .inr ⟨why, rfl⟩⟩

theorem Cut.map {outcome outcome' : Outcome ε α} (cut : outcome.Cut outcome') (f g : α → β) :
    (outcome.map f).Cut (outcome'.map g) := by
  obtain ⟨rfl, ⟨e, rfl⟩ | ⟨why, rfl⟩⟩ := cut.cases
  · exact cut_error e
  · exact cut_unwound why

end Outcome

theorem Verdict.Cut.outcome {verdict verdict' : Verdict} (cut : verdict.Cut verdict')
    (operation : Operation) : (verdict.outcome operation).Cut (verdict'.outcome operation) := by
  obtain ⟨rfl, e, rfl⟩ := cut
  exact Outcome.cut_error _

/-! ### Requests -/

section Requests

variable {handle : Handle} {request : Request} {events events' : List Event} {done : Completion}

/-- A request that panics ends there, and so it does when it fails in that place. -/
theorem Exchange.mended {block : Overlapped}
    (exchange : Exchange handle request block events done)
    (mended : List.Forall₂ Event.Mended events events') :
    events' = events ∨ events' ≠ events ∧ ∃ done', Exchange handle request block events' done'
      ∧ done.verdict.Cut done'.verdict := by
  cases exchange with
  | atOnce hpending =>
    obtain ⟨e', rest, head, tail, rfl⟩ := List.forall₂_cons_left_iff.mp mended
    obtain rfl := List.forall₂_nil_left_iff.mp tail
    cases head with
    | same => exact .inl rfl
    | request written' final =>
      exact .inr ⟨by simp, _, .atOnce final, rfl, _, rfl⟩
  | later hpending =>
    obtain ⟨taken', rest, first, next, rfl⟩ := List.forall₂_cons_left_iff.mp mended
    obtain ⟨e', rest, second, tail, rfl⟩ := List.forall₂_cons_left_iff.mp next
    obtain rfl := List.forall₂_nil_left_iff.mp tail
    cases first with
    | request written' final => cases hpending
    | same =>
      cases second with
      | same => exact .inl rfl
      | wait written' source => exact .inr ⟨by simp, _, .later hpending, rfl, _, rfl⟩

theorem Freed.calm {event : Handle} (freed : Freed event events) : Calm events := by
  cases freed with
  | absent null => exact calm_nil
  | released live answer => exact calm_nil.cons id

/-- On a context of its own as well; its event is released either way. -/
theorem Single.mended (single : Single handle request events done)
    (mended : List.Forall₂ Event.Mended events events') :
    events' = events ∨ events' ≠ events ∧ ∃ done', Single handle request events' done'
      ∧ done.verdict.Cut done'.verdict := by
  cases single with
  | noEvent e => exact .inl ((calm_nil.cons id).eq_of_mended mended)
  | @onEvent event requests freed done exchange hfreed =>
    obtain ⟨created, rest, head, tail, rfl⟩ := List.forall₂_cons_left_iff.mp mended
    obtain rfl := head.eq_of_calm Event.Panics.isRequest
    obtain ⟨requests', freed', rfl, hrequests, hreleases⟩ := forall₂_append_left tail
    obtain rfl := hfreed.calm.eq_of_mended hreleases
    rcases exchange.mended hrequests with rfl | ⟨differ, done', exchange', cut⟩
    · exact .inl rfl
    · refine .inr ⟨fun heq => differ ?_, done', .onEvent exchange' hfreed, cut⟩
      exact List.append_cancel_right (List.cons.inj heq).2

end Requests

namespace Context

variable {c c' : Context} {handle : Handle} {request : Request} {m : Memory}

/-- The words that earlier requests have left in its block make no difference to a request. -/
theorem issue_eq (same : c'.event = c.event) :
    c'.issue handle request m = c.issue handle request m := by
  have hprepare : c'.prepare = c.prepare :=
    congrArg (fun event => (⟨.withEvent event⟩ : Context)) same
  unfold issue
  rw [hprepare]

theorem issue_mirrors (same : c'.event = c.event) :
    Mirrors (fun ended ended' => ended' = ended)
      (fun ended ended' => ended.verdict.Cut ended'.verdict
        ∧ ended'.context.event = ended.context.event)
      (c.issue handle request m) (c'.issue handle request m) := by
  intro events events' ended run mended
  rw [issue_eq same]
  obtain ⟨done, exchange, rfl⟩ := exchange_of_runs run
  rcases exchange.mended mended with rfl | ⟨differ, done', exchange', cut⟩
  · exact ⟨_, run, .inl ⟨rfl, rfl⟩⟩
  · exact ⟨_, runs_of_exchange exchange', .inr ⟨differ, cut, rfl⟩⟩

theorem issueOnce_mirrors :
    Mirrors (fun r r' => r' = r) (fun r r' => r.1.Cut r'.1) (issueOnce handle request m)
      (issueOnce handle request m) := by
  intro events events' r run mended
  obtain ⟨verdict, left⟩ := r
  obtain ⟨done, single, rfl, rfl⟩ := single_of_runs run
  rcases single.mended mended with rfl | ⟨differ, done', single', cut⟩
  · exact ⟨_, run, .inl ⟨rfl, rfl⟩⟩
  · exact ⟨_, runs_of_single single', .inr ⟨differ, cut⟩⟩

/-! ### Events and their release -/

variable {T : Except HostError Unit × Context → Except HostError Unit × Context → Prop}

theorem release_mirrors (same : c'.event = c.event) :
    Mirrors (fun r r' => r'.1 = r.1 ∧ r.2.event = Handle.null ∧ r'.2.event = Handle.null) T
      c.release c'.release := by
  unfold release
  rw [same]
  split
  · exact .done ⟨rfl, rfl, rfl⟩
  · exact .ask_bind id fun answer => .done ⟨rfl, rfl, rfl⟩

theorem drop_mirrors {T : Unit → Unit → Prop} (same : c'.event = c.event) :
    Mirrors (fun _ _ => True) T c.drop c'.drop := by
  refine (release_mirrors (T := fun _ _ => False) same).bind ?_ fun _ _ => False.elim
  intro r r' released
  obtain ⟨answer, rest⟩ := r
  obtain ⟨answer', rest'⟩ := r'
  obtain rfl : answer' = answer := released.1
  cases answer' with
  | error e => exact .report_bind (.done trivial)
  | ok _ => exact .done trivial

end Context

end PacketDiversion
