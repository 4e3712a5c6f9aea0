import Cryptoki.Proofs.Module.Requests
import Cryptoki.Proofs.Module.Stranding

/-!
Sessions are used while they are tracked, and closed once.

What a module tracks decides which of its calls reach the library. A session that is not tracked for
the very slot it is addressed under does not, whatever the call. A session that is tracked leaves
the table when it is closed, so as long as the library opens none under a number that is still
tracked, the books of every number balance: what was opened was closed once, or is still there.
-/

namespace Cryptoki

open Program

variable {σ : Type}

/-- The session that a call works with. Opening one works with none. -/
def Call.session? : Call → Option SessionId
  | .closeSession session | .login session _ _ _ | .logout session => some session
  | _ => none

def Request.session? : Request → Option SessionId
  | .call _ c => c.session?
  | _ => none

/-- The session that was opened. -/
def Event.opened? : Event → Option SessionId
  | .opened _ _ (.ok session) => some session
  | _ => none

/-- Writing down what a program answered asks nothing more. -/
lemma Program.requests_bind_pure {α β : Type} (env : Environment σ) (p : Program α) (f : α → β)
    (w : World σ) : (p >>= fun a => pure (f a)).requests env w = p.requests env w := by
  rw [requests_bind, requests_pure, List.append_nil]

namespace Demand

def slot : Demand → SlotId
  | .openSession slot _ | .closeSession slot _ | .login slot _ _ _ | .logout slot _ => slot

/-- The call of the library that is to be made. -/
def aim : Demand → Call
  | .openSession slot readWrite =>
    .openSession slot (Module.sessionFlags readWrite) false false true
  | .closeSession _ session => .closeSession session
  | .login _ session user secret => .login session user.code (Module.pinOf secret)
      (UInt64.ofNat ((Module.pinOf secret).getD []).length)
  | .logout _ session => .logout session

/-- The session it works with is tracked for its slot. -/
def Backed (t : Sessions) (d : Demand) : Prop :=
  ∀ session, d.aim.session? = some session → (t.find d.slot session).isSome

lemma backed_iff {t : Sessions} {d : Demand} {session : SessionId}
    (hd : d.aim.session? = some session) : d.Backed t ↔ (t.find d.slot session).isSome := by
  simp only [Backed, hd, Option.some.injEq, forall_eq']

instance (t : Sessions) (d : Demand) : Decidable (d.Backed t) :=
  match h : d.aim.session? with
  | none => isTrue fun session hs => by
    rw [h] at hs
    cases hs
  | some _ => decidable_of_iff _ (backed_iff h).symm

variable (env : Environment σ) (m : Module) (w : World σ)

/-- **What reaches the library.** The one call is made if the session is tracked for the slot. -/
lemma requests_program (d : Demand) : (d.program m).requests env w =
    if d.Backed (w.process.sessionsOf m.id) then [.call m.id d.aim] else [] := by
  cases d with
  | openSession slot readWrite =>
    obtain ⟨opened, hasked, -⟩ := Module.asked_openSession env m slot w readWrite
    have hbacked : (openSession slot readWrite).Backed (w.process.sessionsOf m.id) := by
      intro session hs
      cases hs
    rw [program, requests_bind_pure, requests_eq_asked, hasked, if_pos hbacked]
    rfl
  | closeSession slot session =>
    obtain ⟨code, hasked⟩ := Module.asked_closeSession env m slot session w
    rw [program, requests_bind_pure, requests_eq_asked, hasked]
    simp only [backed_iff (d := .closeSession slot session) rfl, Demand.slot]
    split_ifs <;> rfl
  | login slot session user secret =>
    obtain ⟨code, hasked, -⟩ := Module.asked_login env m slot session w user secret
    rw [program, requests_bind_pure, requests_eq_asked, hasked]
    simp only [backed_iff (d := .login slot session user secret) rfl, Demand.slot,
      Option.isNone_iff_eq_none, Option.isSome_iff_ne_none, ne_eq, ite_not]
    split_ifs <;> rfl
  | logout slot session =>
    obtain ⟨code, hasked⟩ := Module.asked_logout env m slot session w
    rw [program, requests_bind_pure, requests_eq_asked, hasked]
    simp only [backed_iff (d := .logout slot session) rfl, Demand.slot,
      Option.isNone_iff_eq_none, Option.isSome_iff_ne_none, ne_eq, ite_not]
    split_ifs <;> rfl

variable {env m w} {session : SessionId}

lemma run_serve_cons (d : Demand) (ds : List Demand) : (serve m (d :: ds)).run env w =
    (((d.program m).run env w).1 :: ((serve m ds).run env ((d.program m).run env w).2).1,
      ((serve m ds).run env ((d.program m).run env w).2).2) := by
  rw [serve, run_bind, run_bind, run_pure]

lemma requests_serve_cons (d : Demand) (ds : List Demand) :
    (serve m (d :: ds)).requests env w = (d.program m).requests env w ++
      (serve m ds).requests env ((d.program m).run env w).2 := by
  rw [serve, requests_bind, requests_bind, requests_pure, List.append_nil]

/-- A request of several calls is one of a single call, in the world that those before it left. -/
lemma exists_of_mem_requests_serve {ds : List Demand} {r : Request}
    (hr : r ∈ (serve m ds).requests env w) : ∃ before d after, ds = before ++ d :: after ∧
      r ∈ (d.program m).requests env ((serve m before).run env w).2 := by
  induction ds generalizing w with
  | nil => cases hr
  | cons d ds ih =>
    rw [requests_serve_cons] at hr
    rcases List.mem_append.mp hr with hr | hr
    · exact ⟨[], d, ds, rfl, hr⟩
    · obtain ⟨before, e, after, rfl, hmem⟩ := ih hr
      refine ⟨d :: before, e, after, rfl, ?_⟩
      rw [run_serve_cons]
      exact hmem

/-- A library is asked to work with sessions that are tracked for the slot. -/
lemma find_of_mem_requests {d : Demand} {r : Request} (hr : r ∈ (d.program m).requests env w)
    (hsession : r.session? = some session) :
    ((w.process.sessionsOf m.id).find d.slot session).isSome := by
  rw [requests_program] at hr
  split_ifs at hr with hbacked
  · obtain rfl := List.mem_singleton.mp hr
    exact hbacked session hsession
  · cases hr

end Demand

/-! ### Sessions that are not tracked -/

/-- The program makes no request and changes nothing, apart from writing these lines. -/
structure Program.Idle {α : Type} (env : Environment σ) (p : Program α) (w : World σ)
    (lines : List Log.Line) : Prop where
  requests : p.requests env w = []
  outside : (p.run env w).2.outside = w.outside
  process : w.process.Same (p.run env w).2.process
  journal : (p.run env w).2.journal = lines ++ w.journal

section Untracked

variable {α : Type} {env : Environment σ} {m : Module} {slot : SlotId} {session : SessionId}
  {w : World σ} {lines : List Log.Line}

lemma Program.idle_of_run {p : Program α} (a : α) {q : Process} (hsame : w.process.Same q)
    (hrequests : p.requests env w = [])
    (hrun : p.run env w = (a, ⟨q, w.outside, lines ++ w.journal⟩)) : p.Idle env w lines where
  requests := hrequests
  outside := by rw [hrun]
  process := by
    rw [hrun]
    exact hsame
  journal := by rw [hrun]

/-- A session that is not tracked cannot be forgotten. -/
lemma Process.same_forget {p : Process} {j : ModuleId}
    (h : (p.sessionsOf j).find slot session = none) :
    p.Same (Access.apply p (.sessions j (.forget slot session))).2 := by
  refine same_sessions ?_
  rw [Sessions.Access.apply, Sessions.forget_of_isNone (by rw [h, Option.isSome_none])]

lemma idle_closeSession (h : (w.process.sessionsOf m.id).find slot session = none) :
    (m.closeSession slot session).Idle env w
      [⟨.warn, .session, "Ignoring close of unknown " ++ m.onSlot slot session⟩] := by
  have hknown : (Process.Access.apply w.process (.sessions m.id (.forget slot session))).1 =
      false := by
    refine (Sessions.forget_fst (w.process.sessionsOf m.id) slot session).trans ?_
    rw [h, Option.isSome_none]
  refine idle_of_run () (Process.same_forget h) ?_ ?_
  · rw [Module.closeSession, requests_bind, run_touch, hknown]
    rfl
  · rw [Module.closeSession, run_bind, run_touch, hknown]
    rfl

lemma idle_logout (h : (w.process.sessionsOf m.id).find slot session = none) :
    (m.logout slot session).Idle env w
      [⟨.warn, .session, "Ignoring logout of unknown " ++ m.onSlot slot session⟩] := by
  have hknown : (Process.Access.apply w.process (.sessions m.id (.find slot session))).1 = none := h
  refine idle_of_run () (w.process.same_find m.id slot session) ?_ ?_
  · rw [Module.logout, requests_bind, run_touch, hknown]
    rfl
  · rw [Module.logout, run_bind, run_touch, hknown]
    rfl

lemma idle_login (h : (w.process.sessionsOf m.id).find slot session = none) (user : User)
    (secret : Option Bytes) : ((m.login slot session user secret).run env w).1 =
        .error (.invalidHandle s!"session {session} for slot {slot} of {m.name}") ∧
      (m.login slot session user secret).Idle env w [] := by
  have hknown : (Process.Access.apply w.process (.sessions m.id (.find slot session))).1 = none := h
  have hrun : (m.login slot session user secret).run env w =
      (.error (.invalidHandle s!"session {session} for slot {slot} of {m.name}"),
        ⟨(Process.Access.apply w.process (.sessions m.id (.find slot session))).2, w.outside,
          [] ++ w.journal⟩) := by
    rw [Module.login, run_bind, run_touch, hknown]
    rfl
  refine ⟨congrArg Prod.fst hrun, idle_of_run _ (w.process.same_find m.id slot session) ?_ hrun⟩
  rw [Module.login, requests_bind, run_touch, hknown]
  rfl

end Untracked

/-! ### The books of a number -/

namespace Sessions

variable {t u : Sessions} {slot : SlotId} {session h : SessionId}

/-- One if the number is tracked. -/
def holds (t : Sessions) (h : SessionId) : ℕ := if (t.tracked.get? h).isSome then 1 else 0

/-- The event takes the number out of the table. -/
def closes (t : Sessions) (h : SessionId) : Event → Bool
  | .closed slot session => session = h ∧ (t.find slot session).isSome
  | _ => false

lemma holds_of_tracked (htracked : u.tracked = t.tracked) : u.holds h = t.holds h := by
  rw [holds, holds, htracked]

lemma holds_track (readWrite : Bool) (hunused : session = h → t.tracked.get? h = none) :
    (t.track session slot readWrite).holds h = (if session = h then 1 else 0) + t.holds h := by
  rw [holds, get?_track, holds]
  by_cases hsession : session = h
  · rw [if_pos hsession.symm, hunused hsession, if_pos hsession]
    rfl
  · rw [if_neg (Ne.symm hsession), if_neg hsession, Nat.zero_add]

lemma holds_forget (hfound : (t.find slot session).isSome) :
    t.holds h = (if session = h then 1 else 0) + (t.forget slot session).2.holds h := by
  rw [holds, holds, get?_forget hfound]
  by_cases hsession : session = h
  · obtain ⟨known, hknown⟩ := exists_get?_of_find hfound
    rw [if_pos hsession.symm, if_pos hsession, ← hsession, hknown]
    rfl
  · rw [if_neg (Ne.symm hsession), if_neg hsession, Nat.zero_add]

/-- **One event.** What is opened is tracked from then on, and what is closed was tracked and is no
more. -/
lemma holds_follow (t : Sessions) (e : Event)
    (hunused : e.opened? = some h → t.tracked.get? h = none) :
    (if e.opened? = some h then 1 else 0) + t.holds h =
      (if t.closes h e then 1 else 0) + (t.follow e).holds h := by
  cases e with
  | opened slot readWrite answer =>
    rcases answer with f | session
    · rfl
    · have hnew : session = h → t.tracked.get? h = none := fun hs => hunused (congrArg some hs)
      simp only [Event.opened?, Option.some.injEq, follow, holds_track readWrite hnew, closes,
        Bool.false_eq_true, if_false, Nat.zero_add]
  | closed slot session =>
    simp only [Event.opened?, follow, closes, reduceCtorEq, if_false, Nat.zero_add,
      Bool.decide_and, Bool.and_eq_true, decide_eq_true_eq]
    by_cases hfound : (t.find slot session).isSome
    · simp only [hfound, and_true]
      exact holds_forget hfound
    · have hnone : (t.find slot session).isSome = false := by simpa using hfound
      simp [hnone, forget_of_isNone]
  | loggedIn slot session user answer =>
    rcases answer with f | _
    · rfl
    · simp only [Event.opened?, follow, closes, reduceCtorEq, Bool.false_eq_true, if_false]
      rw [holds_of_tracked (tracked_logIn t slot user)]
  | loggedOut slot session =>
    simp only [Event.opened?, follow, closes, reduceCtorEq, Bool.false_eq_true, if_false]
    split_ifs
    · rw [holds_of_tracked (tracked_logOut t slot)]
    · rfl

end Sessions

namespace Demand

variable {env : Environment σ} {m : Module} {w : World σ} {h : SessionId}

/-- The call that closes the session. -/
abbrev closing (m : Module) (h : SessionId) : Request := .call m.id (.closeSession h)

lemma count_closing_of_ne {d : Demand} (hd : d.aim ≠ .closeSession h) :
    ((d.program m).requests env w).count (closing m h) = 0 := by
  rw [requests_program]
  split_ifs
  · rw [List.count_singleton, if_neg]
    simpa using hd
  · rfl

/-- A library is asked to close what is taken out of the table. -/
lemma count_closing (d : Demand) : ((d.program m).requests env w).count (closing m h) =
    if (w.process.sessionsOf m.id).closes h ((d.program m).run env w).1 then 1 else 0 := by
  cases d with
  | openSession slot readWrite =>
    rw [count_closing_of_ne (by simp [aim]), program, run_bind, run_pure]
    rfl
  | closeSession slot session =>
    rw [requests_program, program, run_bind, run_pure]
    simp only [Sessions.closes, backed_iff (d := .closeSession slot session) rfl, Demand.slot, aim]
    by_cases hfound : ((w.process.sessionsOf m.id).find slot session).isSome
    · simp [hfound, List.count_singleton]
    · simp [hfound]
  | login slot session user secret =>
    rw [count_closing_of_ne (by simp [aim]), program, run_bind, run_pure]
    rfl
  | logout slot session =>
    rw [count_closing_of_ne (by simp [aim]), program, run_bind, run_pure]
    rfl

/-! ### All calls -/

/-- No call opens the session while its number is still tracked. -/
def Unused (env : Environment σ) (m : Module) (h : SessionId) : List Demand → World σ → Prop
  | [], _ => True
  | d :: ds, w =>
    (((d.program m).run env w).1.opened? = some h →
        (w.process.sessionsOf m.id).tracked.get? h = none) ∧
      Unused env m h ds ((d.program m).run env w).2

lemma count_opened_cons (e : Event) (hist : History) :
    ((e :: hist).filterMap Event.opened?).count h =
      (if e.opened? = some h then 1 else 0) + (hist.filterMap Event.opened?).count h := by
  rw [List.filterMap_cons]
  rcases e.opened? with _ | session
  · simp
  · rw [List.count_cons, Nat.add_comm]
    simp

/-- What was opened, or was there before, was closed or is still tracked. -/
lemma balance_serve {ds : List Demand} (hunused : Unused env m h ds w) :
    (((serve m ds).run env w).1.filterMap Event.opened?).count h +
        (w.process.sessionsOf m.id).holds h =
      ((serve m ds).requests env w).count (closing m h) +
        (((serve m ds).run env w).2.process.sessionsOf m.id).holds h := by
  induction ds generalizing w with
  | nil => rfl
  | cons d ds ih =>
    obtain ⟨hfirst, hrest⟩ := hunused
    have hone := (w.process.sessionsOf m.id).holds_follow ((d.program m).run env w).1 hfirst
    have hlater := ih hrest
    have htable := (d.follows env m w).sessions
    rw [id_eq] at htable
    rw [← htable, ← count_closing] at hone
    rw [run_serve_cons, requests_serve_cons, List.count_append]
    dsimp only
    rw [count_opened_cons]
    omega

end Demand

/-- **Sessions are used while they are tracked, and closed once.** Whatever calls are made to a
module and whatever its library answers: the library is asked to close a session, or to log in or
out through one, only if it is tracked for the very slot that is addressed when the call begins. For
any other session a close and a logout write one warning and do nothing else, and a login is
refused. If the library opens no session under a number that is still tracked, that number was
closed as often as it was opened, but for once if it is tracked in the end and was not before. -/
theorem sessions_closed_once (env : Environment σ) (m : Module) (w : World σ) (ds : List Demand) :
    (∀ r ∈ (Demand.serve m ds).requests env w, ∀ session, r.session? = some session →
      ∃ before d after, ds = before ++ d :: after ∧
        let v := ((Demand.serve m before).run env w).2
        r ∈ (d.program m).requests env v ∧
          ((v.process.sessionsOf m.id).find d.slot session).isSome) ∧
    (∀ slot session,
      let v := ((Demand.serve m ds).run env w).2
      (v.process.sessionsOf m.id).find slot session = none →
        (m.closeSession slot session).Idle env v
            [⟨.warn, .session, "Ignoring close of unknown " ++ m.onSlot slot session⟩] ∧
          (m.logout slot session).Idle env v
            [⟨.warn, .session, "Ignoring logout of unknown " ++ m.onSlot slot session⟩] ∧
          ∀ user secret, ((m.login slot session user secret).run env v).1 =
              .error (.invalidHandle s!"session {session} for slot {slot} of {m.name}") ∧
            (m.login slot session user secret).Idle env v []) ∧
    ∀ h, Demand.Unused env m h ds w →
      let (hist, v) := (Demand.serve m ds).run env w
      let opens := (hist.filterMap Event.opened?).count h
      let closes := ((Demand.serve m ds).requests env w).count (.call m.id (.closeSession h))
      opens + (w.process.sessionsOf m.id).holds h =
          closes + (v.process.sessionsOf m.id).holds h ∧
        (w.process.sessionsOf m.id = .empty → opens = closes +
          if ((v.process.sessionsOf m.id).tracked.get? h).isSome then 1 else 0) := by
  refine ⟨fun r hr session hsession => ?_, fun slot session hnone => ?_, fun h hunused => ?_⟩
  · obtain ⟨before, d, after, hds, hmem⟩ := Demand.exists_of_mem_requests_serve hr
    exact ⟨before, d, after, hds, hmem, Demand.find_of_mem_requests hmem hsession⟩
  · exact ⟨idle_closeSession hnone, idle_logout hnone, idle_login hnone⟩
  · have hbalance := Demand.balance_serve hunused
    generalize (Demand.serve m ds).run env w = r at hbalance ⊢
    obtain ⟨hist, v⟩ := r
    refine ⟨hbalance, fun hempty => ?_⟩
    rw [hempty] at hbalance
    exact hbalance

/-! ### A number that is given out again -/

/-- A session that is used and closed under the wrong slot, then closed with a failure and closed
again, and whose number is given out once more. -/
def recycling : List Demand :=
  [.openSession 0 false, .login 1 5 .normal none, .closeSession 1 5, .closeSession 0 5,
    .closeSession 0 5, .openSession 1 true]

def recyclingScript : Scripted.State :=
  { issuing [5, 5] with codes := [(.closeSession, [⟨0x30⟩])] }

/-- The outcome of these calls. -/
def recycled : History × World Scripted.State :=
  (Demand.serve simulated recycling).run Scripted.environment (.initial recyclingScript)

lemma unused_recycling :
    Demand.Unused Scripted.environment simulated 5 recycling (.initial recyclingScript) := by
  refine ⟨fun _ => rfl, ?_, ?_, ?_, ?_, fun _ => rfl, trivial⟩
  all_goals
    intro hopened
    cases hopened

/-- The hypotheses hold of a number that is opened twice, closed once and tracked in the end. -/
theorem sessions_closed_once_of_reissue :
    let requests := (Demand.serve simulated recycling).requests Scripted.environment
      (.initial recyclingScript)
    .call 0 (.closeSession 5) ∈ requests ∧
      (∃ before d after, recycling = before ++ d :: after ∧
        ((((Demand.serve simulated before).run Scripted.environment
          (.initial recyclingScript)).2.process.sessionsOf simulated.id).find d.slot 5).isSome) ∧
      (recycled.2.process.sessionsOf simulated.id).find 0 5 = none ∧
      (simulated.closeSession 0 5).requests Scripted.environment recycled.2 = [] ∧
      Demand.Unused Scripted.environment simulated 5 recycling (.initial recyclingScript) ∧
      (World.initial recyclingScript).process.sessionsOf simulated.id = .empty ∧
      requests.count (.call 0 (.closeSession 5)) = 1 ∧
      (recycled.1.filterMap Event.opened?).count 5 = 2 := by
  intro requests
  obtain ⟨hnamed, hidle, hbooks⟩ := sessions_closed_once Scripted.environment simulated
    (.initial recyclingScript) recycling
  have hcloses : requests.count (.call 0 (.closeSession 5)) = 1 := by decide +kernel
  have hmem : .call 0 (.closeSession 5) ∈ requests :=
    List.count_pos_iff.mp (by rw [hcloses]; exact Nat.one_pos)
  have hnone : (recycled.2.process.sessionsOf simulated.id).find 0 5 = none := by decide +kernel
  have hstart : (World.initial recyclingScript).process.sessionsOf simulated.id = .empty := rfl
  have hopens : (recycled.1.filterMap Event.opened?).count 5 =
    requests.count (.call 0 (.closeSession 5)) + 1 := (hbooks 5 unused_recycling).2 hstart
  obtain ⟨before, d, after, hsplit, -, hfound⟩ := hnamed _ hmem 5 rfl
  exact ⟨hmem, ⟨before, d, after, hsplit, hfound⟩, hnone, (hidle 0 5 hnone).1.requests,
    unused_recycling, hstart, hcloses, by rw [hopens, hcloses]⟩

end Cryptoki
