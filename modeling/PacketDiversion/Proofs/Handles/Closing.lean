import PacketDiversion.Host.Scripted
import PacketDiversion.Proofs.Handles.Apart
import PacketDiversion.Proofs.Lifetime

/-!
# Parting with a session

A client parts with a session by closing it or by letting it go. Either way the system gets back the
session's two events and its handle, in this order and once each, whatever it answers, and nothing
that belongs to anyone else (`parts_completely`). Closing tells how the release of the handle went.
-/

namespace PacketDiversion

open Program Handles

/-- The release of a session: its events, receiving first, and then its handle. -/
def Grant.releases (g : Grant) (receiving sending handle : Except HostError Unit) : List Event :=
  [⟨.closeHandle g.receiving, receiving⟩, ⟨.closeHandle g.sending, sending⟩,
    ⟨.closeHandle g.handle, handle⟩]

namespace Session

variable {s : Session} {events : List Event} {answer : Except SessionError Unit}

theorem releases_iff (isOpen : s.Open) :
    s.Releases events answer ↔ ∃ receiving sending handle,
      events = s.grant.releases receiving sending handle
        ∧ answer = handle.mapError (.host .close) := by
  constructor
  · intro releases
    obtain ⟨first, second, last⟩ := releases
    cases first with
    | absent null => exact absurd null isOpen.receiving
    | released _ receiving =>
      cases second with
      | absent null => exact absurd null isOpen.sending
      | released _ sending =>
        cases last with
        | absent invalid => exact absurd invalid isOpen.handle
        | released _ handle => exact ⟨receiving, sending, handle, rfl, rfl⟩
  · intro h
    obtain ⟨receiving, sending, handle, rfl, rfl⟩ := h
    exact .inTurn (.released isOpen.receiving receiving) (.released isOpen.sending sending)
      (.released isOpen.handle handle)

end Session

/-- A release takes a session's handles from those outstanding, and no other. -/
theorem Handles.after_releases (g : Grant) (rest : Multiset Handle)
    (receiving sending handle : Except HostError Unit) :
    contract.after (↑g.handles + rest) (g.releases receiving sending handle) = rest := by
  have inOrder : ↑g.handles + rest = g.receiving ::ₘ g.sending ::ₘ g.handle ::ₘ rest := by
    have front : (↑g.handles : Multiset Handle) = g.receiving ::ₘ g.sending ::ₘ {g.handle} :=
      Multiset.coe_eq_coe.mpr (List.perm_append_singleton g.handle [g.receiving, g.sending]).symm
    rw [front, Multiset.cons_add, Multiset.cons_add, Multiset.singleton_add]
  have erased : contract.after (↑g.handles + rest) (g.releases receiving sending handle)
      = (((↑g.handles + rest).erase g.receiving).erase g.sending).erase g.handle := rfl
  rw [erased, inOrder, Multiset.erase_cons_head, Multiset.erase_cons_head,
    Multiset.erase_cons_head]

/-! ### Closing and letting go -/

/-- How a client may part with a session. -/
inductive Parting
  | close
  | drop

namespace Parting

def action (slot : Nat) : Parting → Action
  | close => .close slot
  | drop => .drop slot

/-- What is told of the answer to the release of the handle. -/
def outcome : Parting → Except HostError Unit → Outcome Failure Answer
  | close, .error e => .error (.session (.host .close e))
  | close, .ok _ => .ok .nothing
  | drop, _ => .ok .nothing

end Parting

namespace Client

variable {c next : Client} {slot : Nat} {s : Session} {p : Parting} {events : List Event}
  {outcome : Outcome Failure Answer}

theorem runs_parting_iff (found : c.sessions.get? slot = some s) (isOpen : s.Open) :
    Runs (c.step (p.action slot)) events (outcome, next) ↔
      ∃ receiving sending handle, events = s.grant.releases receiving sending handle
        ∧ outcome = p.outcome handle ∧ next = { c with sessions := c.sessions.erase slot } := by
  cases p with
  | close =>
    rw [Parting.action, step, withSession_of_some found, runs_map_iff]
    have told (handle : Except HostError Unit) :
        report (fun _ => .nothing) (.ofExcept (handle.mapError (.host .close)))
          = Parting.close.outcome handle := by
      cases handle with
      | error e => rfl
      | ok _ => rfl
    constructor
    · intro h
      obtain ⟨answer, hclose, heq⟩ := h
      obtain ⟨receiving, sending, handle, rfl, rfl⟩ :=
        (Session.releases_iff isOpen).mp (Session.runs_close_iff.mp hclose)
      obtain ⟨rfl, rfl⟩ := Prod.mk.inj heq
      exact ⟨receiving, sending, handle, rfl, told handle, rfl⟩
    · intro h
      obtain ⟨receiving, sending, handle, rfl, rfl, rfl⟩ := h
      have released := (Session.releases_iff isOpen).mpr ⟨receiving, sending, handle, rfl, rfl⟩
      exact ⟨_, Session.runs_close_iff.mpr released, by rw [told]⟩
  | drop =>
    rw [Parting.action, step, withSession_of_some found, runs_map_iff]
    constructor
    · intro h
      obtain ⟨⟨⟩, hdrop, heq⟩ := h
      obtain ⟨answer, releases⟩ := Session.runs_drop_iff.mp hdrop
      obtain ⟨receiving, sending, handle, rfl, -⟩ := (Session.releases_iff isOpen).mp releases
      obtain ⟨rfl, rfl⟩ := Prod.mk.inj heq
      exact ⟨receiving, sending, handle, rfl, rfl, rfl⟩
    · intro h
      obtain ⟨receiving, sending, handle, rfl, rfl, rfl⟩ := h
      have released := (Session.releases_iff isOpen).mpr ⟨receiving, sending, handle, rfl, rfl⟩
      exact ⟨(), Session.runs_drop_iff.mpr ⟨_, released⟩, rfl⟩

/-- After every history, whatever has failed or panicked in it, a client parts with a session by the
same three calls, however it does: both events are released, receiving first, and then the handle,
whatever the answers are. Only closing tells of a failure, and only of the handle's. What is left of
a released session has nothing more to release. The client's contexts stay as they are: their events
are none of the three, and they are outstanding as before. -/
theorem parts_completely {deeds : List Deed} (path : Path {} deeds c)
    (fresh : Fresh (eventsOf deeds)) {g : Grant} (owned : Owned slot g deeds) :
    (∀ (p : Parting) events outcome next, Runs (c.step (p.action slot)) events (outcome, next) ↔
      ∃ receiving sending handle, events = g.releases receiving sending handle
        ∧ outcome = p.outcome handle ∧ next = { c with sessions := c.sessions.erase slot })
      ∧ (∃ s, c.sessions.get? slot = some s ∧ ∀ events answer left,
        Runs s.release events (answer, left) →
          left.drop = done () ∧ left.receiving.drop = done () ∧ left.sending.drop = done ())
      ∧ ∀ receiving sending handle,
        let now := eventsOf deeds ++ g.releases receiving sending handle
        outstanding (eventsOf deeds) = ↑g.handles + outstanding now
          ∧ ∀ k event, Kept k event deeds → event ∉ g.handles ∧ event ∈ outstanding now := by
  obtain ⟨reached, held⟩ := reached_of_path path fresh
  have hg := reached.owned_iff.mp owned
  obtain ⟨s, found, rfl⟩ := Option.map_eq_some_iff.mp hg
  have isOpen : s.Open := reached.sound.isOpen s (Slots.mem_values_of_get? found)
  refine ⟨fun p events outcome next => runs_parting_iff found isOpen, ⟨s, found, ?_⟩, ?_⟩
  · intro events answer left run
    obtain ⟨-, rfl⟩ := Session.runs_release_iff.mp run
    have released := s.released_withoutHandles
    exact ⟨Session.drop_of_released released, Context.drop_of_released released.receiving,
      Context.drop_of_released released.sending⟩
  · intro receiving sending handle now
    have hnow : outstanding (eventsOf deeds) = ↑s.grant.handles + outstanding now := by
      rw [outstanding_append, held, handles_of_grant reached.sound hg, after_releases]
    refine ⟨hnow, fun k event kept => ?_⟩
    obtain ⟨hk, live⟩ := reached.kept_iff.mp kept
    have apart : event ∉ s.grant.handles := event_apart reached.sound reached.nodup hg hk live
    have hmem : event ∈ outstanding (eventsOf deeds) :=
      held ▸ mem_handles_of_event reached.sound hk live
    rw [hnow] at hmem
    exact ⟨apart, (Multiset.mem_add.mp hmem).resolve_left fun h => apart (Multiset.mem_coe.mp h)⟩

namespace LastCall

def actions : List Action :=
  [.openSession 0 "tcp" .network 0 .none, .createContext 0 3,
    .recv 0 (List.replicate 8 0) Address.zero, .send 0 [1, 2, 3] Address.zero]

/-- The receive and the send panic. -/
def stormy : Transcript Scripted.System (List (Outcome Failure Answer) × Client) :=
  (steps {} actions).run Scripted.host
    { fates := fun p => if p = .recv ∨ p = .send then [.panic] else [] }

def client : Client := stormy.value.2

/-- None of the three releases succeeds. -/
def refusals : List Event :=
  (Grant.mk 0x118 0x11c 0x120).releases (.error (.code 6)) (.error (.code 6)) (.error (.code 31))

theorem stormy_released :
    ∃ deeds, Path {} deeds client ∧ Fresh (eventsOf deeds) ∧ deeds.map Deed.action = actions
      ∧ Owned 0 ⟨0x118, 0x11c, 0x120⟩ deeds ∧ Kept 3 0x124 deeds
      ∧ Runs (client.step (.close 0)) refusals (.error (.session (.host .close (.code 31))),
        { client with sessions := client.sessions.erase 0 })
      ∧ Runs (client.step (.drop 0)) refusals (.ok .nothing,
        { client with sessions := client.sessions.erase 0 })
      ∧ 0x124 ∈ outstanding (eventsOf deeds ++ refusals) := by
  have run : Runs (steps {} actions) stormy.events (stormy.value.1, client) := runs_run _ _ _
  obtain ⟨deeds, path, hactions, hevents, -⟩ := runs_steps_iff.mp run
  have fresh : Fresh (eventsOf deeds) := by
    have hfresh : Fresh stormy.events := by decide +kernel
    rw [eventsOf, hevents]
    exact hfresh
  obtain ⟨reached, -⟩ := reached_of_path path fresh
  have owned : Owned 0 ⟨0x118, 0x11c, 0x120⟩ deeds := by
    have hg : client.grantAt 0 = some ⟨0x118, 0x11c, 0x120⟩ := by decide +kernel
    exact reached.owned_iff.mpr hg
  have kept : Kept 3 0x124 deeds := by
    have hk : client.eventAt 3 = some 0x124 ∧ (0x124 : Handle) ≠ Handle.null := by decide +kernel
    exact reached.kept_iff.mpr hk
  obtain ⟨parts, -, after⟩ := parts_completely path fresh owned
  refine ⟨deeds, path, fresh, hactions, owned, kept, ?_, ?_, ((after _ _ _).2 3 0x124 kept).2⟩
  · exact (parts .close _ _ _).mpr ⟨_, _, _, rfl, rfl, rfl⟩
  · exact (parts .drop _ _ _).mpr ⟨_, _, _, rfl, rfl, rfl⟩

end LastCall

end Client

end PacketDiversion
