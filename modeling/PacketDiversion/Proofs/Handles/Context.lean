import PacketDiversion.Context
import PacketDiversion.Proofs.Handles.Books

/-!
# Contexts and their books

A context owns its event until it is released. Under any books, whatever else is outstanding
(`out`), and whatever the system answers: a context that is made adds its event to what is
outstanding, one that is released takes it off, and a request issued on a context moves no handle.
-/

namespace PacketDiversion

open Program Handles

namespace Context

/-- The event of a context that is not released. -/
def handles (c : Context) : Multiset Handle := if c.event = Handle.null then 0 else {c.event}

theorem handles_of_live {c : Context} (h : c.event ≠ Handle.null) :
    c.handles = {c.event} := if_neg h

theorem handles_of_released {c : Context} (h : c.event = Handle.null) : c.handles = 0 :=
  if_pos h

theorem release_of_released {c : Context} (released : c.event = Handle.null) :
    c.release = done (.ok (), c.withoutEvent) := if_pos released

theorem drop_of_released {c : Context} (released : c.event = Handle.null) :
    c.drop = done () := by
  rw [drop, release_of_released released]
  rfl

/-- The token of the event of a context that is not released. -/
def tokens (c : Context) : Multiset Token := c.handles.map (Token.mk .event)

theorem tokens_of_live {c : Context} (h : c.event ≠ Handle.null) :
    c.tokens = {⟨.event, c.event⟩} := by
  rw [tokens, handles_of_live h, Multiset.map_singleton]

theorem tokens_of_released {c : Context} (h : c.event = Handle.null) : c.tokens = 0 := by
  rw [tokens, handles_of_released h, Multiset.map_zero]

theorem map_tokens (c : Context) : c.tokens.map Token.handle = c.handles := by
  rw [tokens, Multiset.map_map]
  exact Multiset.map_id _

/-! ### What the operations move -/

variable {σ : Type} {C : Contract σ} {s : σ} (B : Books C) {out : Multiset Token}

theorem create_booked (shows : B.Shows s out) :
    create.Fulfils C (B.Made tokens (fun c => c.event ≠ Handle.null) out) s := by
  refine fulfils_ask_bind.mpr ⟨B.owes shows trivial, fun reply promised => ?_⟩
  cases reply with
  | error e => exact B.keeps shows rfl rfl
  | ok h =>
    obtain ⟨proper, granted⟩ := B.grants shows promised rfl
    have live : (Context.mk (.withEvent h)).event ≠ Handle.null := proper
    refine ⟨live, ?_⟩
    rw [tokens_of_live live, Multiset.singleton_add]
    exact granted

theorem release_booked (c : Context) (shows : B.Shows s (c.tokens + out)) :
    c.release.Fulfils C (fun r now => r.2.event = Handle.null ∧ B.Shows now out) s := by
  unfold release
  split
  · rename_i released
    rw [tokens_of_released released, zero_add] at shows
    exact ⟨rfl, shows⟩
  · rename_i live
    rw [tokens_of_live live, Multiset.singleton_add] at shows
    have owed := B.owes shows (c := .closeHandle c.event) ⟨.event, Multiset.mem_cons_self _ _⟩
    refine fulfils_ask_bind.mpr ⟨owed, fun reply promised => ⟨rfl, ?_⟩⟩
    exact B.releases shows promised rfl

theorem drop_booked (c : Context) (shows : B.Shows s (c.tokens + out)) :
    c.drop.Fulfils C (fun _ now => B.Shows now out) s := by
  refine fulfils_bind.mpr ((release_booked B c shows).mono ?_)
  intro r now released
  obtain ⟨answer, rest⟩ := r
  obtain ⟨-, released⟩ := released
  cases answer with
  | error e => exact released
  | ok _ => exact released

variable {handle : Handle}

/-- A request moves no handle. -/
theorem issue_booked (c : Context) (request : Request) (m : Memory) (shows : B.Shows s out)
    (hhandle : ⟨.session, handle⟩ ∈ out) (hevent : ⟨.event, c.event⟩ ∈ out ∨ B.Spare c.event) :
    (c.issue handle request m).Fulfils C
      (fun r now => r.context.event = c.event ∧ B.Shows now out) s := by
  have owed := B.owes shows (c := .control handle request c.prepare.overlapped) ⟨hhandle, hevent⟩
  refine fulfils_ask_bind.mpr ⟨owed, fun first _ => ?_⟩
  have taken := B.keeps shows (e := ⟨.control handle request c.prepare.overlapped, first⟩) rfl rfl
  dsimp only
  split
  · exact ⟨rfl, taken⟩
  · split
    · have owedNow := B.owes taken (c := .result handle c.event true) ⟨hhandle, hevent⟩
      refine fulfils_report_bind.mpr (fulfils_ask_bind.mpr ⟨owedNow, fun done _ => ?_⟩)
      have ended := B.keeps taken (e := ⟨.result handle c.event true, done⟩) rfl rfl
      dsimp only
      split
      · exact ⟨rfl, ended⟩
      · exact ⟨rfl, ended⟩
      · exact ⟨rfl, ended⟩
    · exact ⟨rfl, taken⟩
  · exact ⟨rfl, taken⟩

/-- A single request gives back the event that it was given. -/
theorem issueOnce_booked (request : Request) (m : Memory) (shows : B.Shows s out)
    (hhandle : ⟨.session, handle⟩ ∈ out) :
    (issueOnce handle request m).Fulfils C (fun _ now => B.Shows now out) s := by
  refine fulfils_bind.mpr ((create_booked B shows).mono ?_)
  intro reply now made
  cases reply with
  | error e => exact made
  | ok c =>
    obtain ⟨live, made⟩ := made
    have hmem : ⟨.session, handle⟩ ∈ c.tokens + out := Multiset.mem_add.mpr (.inr hhandle)
    have hevent : ⟨.event, c.event⟩ ∈ c.tokens + out := by
      rw [tokens_of_live live]
      exact Multiset.mem_add.mpr (.inl (Multiset.mem_singleton_self _))
    refine fulfils_bind.mpr ((issue_booked B c request m made hmem (.inl hevent)).mono ?_)
    intro ended now moved
    obtain ⟨same, moved⟩ := moved
    have hsame : c.tokens = ended.context.tokens := by
      simp only [tokens, handles, same]
    rw [hsame] at moved
    split
    · exact fulfils_bind.mpr ((drop_booked B ended.context moved).mono fun _ _ h => h)
    · refine fulfils_bind.mpr ((release_booked B ended.context moved).mono ?_)
      intro r now released
      obtain ⟨answer, rest⟩ := r
      obtain ⟨hnull, released⟩ := released
      have hdrop : rest.drop = done () := drop_of_released hnull
      simp only [hdrop, done_bind]
      cases answer with
      | error e => exact released
      | ok _ => exact released

end Context

end PacketDiversion
