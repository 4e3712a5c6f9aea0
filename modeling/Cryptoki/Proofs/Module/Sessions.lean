import Cryptoki.Library.Simulated
import Cryptoki.Proofs.Process.Accounting
import Cryptoki.Proofs.Session.Tracking

/-!
Session states are what the history of the slot says.

A module is sent calls, one after the other, and every answer is written down. From what is
written down alone one can tell which sessions there are, who is logged in to each slot, and what
the module lists.
-/

namespace Cryptoki

open Program History

/-- A call that concerns sessions. -/
inductive Demand where
  | openSession (slot : SlotId) (readWrite : Bool)
  | closeSession (slot : SlotId) (session : SessionId)
  | login (slot : SlotId) (session : SessionId) (user : User) (secret : Option Bytes)
  | logout (slot : SlotId) (session : SessionId)
  deriving DecidableEq, Repr

namespace Demand

/-- Makes the call and writes down how it ended. -/
def program (m : Module) : Demand → Program Event
  | .openSession slot readWrite => return .opened slot readWrite (← m.openSession slot readWrite)
  | .closeSession slot session => do
    m.closeSession slot session
    return .closed slot session
  | .login slot session user secret =>
    return .loggedIn slot session user (← m.login slot session user secret)
  | .logout slot session => do
    m.logout slot session
    return .loggedOut slot session

/-- Makes the calls in their order. -/
def serve (m : Module) : List Demand → Program History
  | [] => return []
  | d :: ds => do
    let e ← d.program m
    let later ← serve m ds
    return e :: later

end Demand

variable {σ : Type}

/-! ### One call -/

lemma Process.sessionsOf_touch (p : Process) (m : ModuleId) (a : Sessions.Access) :
    (Access.apply p (.sessions m a)).2.sessionsOf m = (a.apply (p.sessionsOf m)).2 := by
  rw [sessionsOf, Access.apply, share_put, if_pos rfl]
  rfl

/-- A call answers and leaves a table such that the event made of the answer was one the table
allowed, and the table is the one the event leaves. -/
structure Follows {α : Type} (m : Module) (w : World σ) (event : α → Event) (r : α × World σ) :
    Prop where
  sessions : r.2.process.sessionsOf m.id = (w.process.sessionsOf m.id).follow (event r.1)
  allows : (w.process.sessionsOf m.id).Allows (event r.1)

variable (env : Environment σ) (m : Module) (slot : SlotId) (session : SessionId) (w : World σ)

lemma openSession_follows (readWrite : Bool) :
    Follows m w (.opened slot readWrite) ((m.openSession slot readWrite).run env w) := by
  rw [Module.openSession, run_bind, run_call]
  generalize env.answer _ w.outside = told
  obtain ⟨opened, outside⟩ : Reply SessionId × σ := told
  dsimp only
  split_ifs with hcode hzero
  · exact ⟨rfl, trivial⟩
  · exact ⟨rfl, trivial⟩
  · rw [run_bind, run_touch, run_bind, run_say, run_pure]
    exact ⟨Process.sessionsOf_touch w.process m.id
      (.track (opened.written.getD 0) slot readWrite), hzero⟩

lemma closeSession_follows :
    Follows m w (fun _ => .closed slot session) ((m.closeSession slot session).run env w) := by
  rw [Module.closeSession, run_bind, run_touch]
  refine ⟨?_, trivial⟩
  have htable := Process.sessionsOf_touch w.process m.id (.forget slot session)
  split_ifs
  · rw [run_bind, run_call]
    split_ifs
    · exact htable
    · exact htable
  · exact htable

lemma login_follows (user : User) (secret : Option Bytes) :
    Follows m w (.loggedIn slot session user)
      ((m.login slot session user secret).run env w) := by
  have hfound := Process.sessionsOf_touch w.process m.id (.find slot session)
  rw [Module.login, run_bind, run_touch]
  generalize (Process.Access.apply w.process (.sessions m.id (.find slot session))).2 = p
    at hfound ⊢
  split_ifs with hnone
  · exact ⟨hfound, trivial⟩
  rw [run_bind, run_call]
  generalize env.answer _ _ = told
  obtain ⟨code, outside⟩ : Code × σ := told
  dsimp only
  split_ifs with hcode
  · exact ⟨hfound, trivial⟩
  · rw [run_bind, run_touch, run_bind, run_say, run_pure]
    refine ⟨(Process.sessionsOf_touch p m.id (.logIn slot user)).trans ?_, ?_⟩
    · rw [hfound]
      rfl
    · have hknown : ¬ ((w.process.sessionsOf m.id).find slot session).isNone = true := hnone
      simpa [Sessions.Allows, Option.isSome_iff_ne_none] using hknown

lemma logout_follows :
    Follows m w (fun _ => .loggedOut slot session) ((m.logout slot session).run env w) := by
  have hfound := Process.sessionsOf_touch w.process m.id (.find slot session)
  rw [Module.logout, run_bind, run_touch]
  refine ⟨?_, trivial⟩
  rw [Sessions.follow]
  have hknown : (Process.Access.apply w.process (.sessions m.id (.find slot session))).1 =
    (w.process.sessionsOf m.id).find slot session := rfl
  rw [hknown]
  generalize (Process.Access.apply w.process (.sessions m.id (.find slot session))).2 = p
    at hfound ⊢
  rcases (w.process.sessionsOf m.id).find slot session with _ | known
  · exact hfound
  have hlogOut := Process.sessionsOf_touch p m.id (.logOut slot)
  rw [hfound] at hlogOut
  simp only [Option.isNone_some, Bool.false_eq_true, if_false, Option.isSome_some, if_true]
  rw [run_bind, run_call]
  split_ifs
  · exact hlogOut
  · exact hlogOut

lemma Demand.follows (d : Demand) : Follows m w id ((d.program m).run env w) := by
  cases d with
  | openSession slot readWrite =>
    have h := openSession_follows env m slot w readWrite
    rw [program, run_bind]
    exact ⟨h.sessions, h.allows⟩
  | closeSession slot session =>
    have h := closeSession_follows env m slot session w
    rw [program, run_bind]
    exact ⟨h.sessions, h.allows⟩
  | login slot session user secret =>
    have h := login_follows env m slot session w user secret
    rw [program, run_bind]
    exact ⟨h.sessions, h.allows⟩
  | logout slot session =>
    have h := logout_follows env m slot session w
    rw [program, run_bind]
    exact ⟨h.sessions, h.allows⟩

/-! ### All calls -/

variable {env m slot session w}

lemma tells_serve {hist : History} (ds : List Demand)
    (hw : Tells hist (w.process.sessionsOf m.id))
    (hfresh : Fresh (hist ++ ((Demand.serve m ds).run env w).1)) :
    Tells (hist ++ ((Demand.serve m ds).run env w).1)
      (((Demand.serve m ds).run env w).2.process.sessionsOf m.id) := by
  induction ds generalizing hist w with
  | nil => simpa [Demand.serve] using hw
  | cons d ds ih =>
    have hrun : (Demand.serve m (d :: ds)).run env w =
        (((d.program m).run env w).1 ::
            ((Demand.serve m ds).run env ((d.program m).run env w).2).1,
          ((Demand.serve m ds).run env ((d.program m).run env w).2).2) := by
      rw [Demand.serve, run_bind, run_bind, run_pure]
    rw [hrun] at hfresh ⊢
    generalize hd : (d.program m).run env w = r at hfresh ⊢
    obtain ⟨e, v⟩ := r
    have hfollows : Follows m w id (e, v) := hd ▸ d.follows env m w
    rw [← List.singleton_append, ← List.append_assoc] at hfresh ⊢
    refine ih ?_ hfresh
    rw [hfollows.sessions]
    exact hw.follow hfollows.allows (fresh_of_append hfresh)

/-- What a module answers when it is asked for its sessions is what a history says. -/
structure Reports (env : Environment σ) (m : Module) (w : World σ) (hist : History) : Prop where
  present : ∀ slot session,
    ((m.sessionState slot session).run env w).1.isSome ↔ Present hist slot session
  authenticated : ∀ slot session user,
    ((m.sessionState slot session).run env w).1 = some (.authenticated user) ↔
      Present hist slot session ∧ LoggedIn slot user hist
  unauthenticated : ∀ slot session,
    ((m.sessionState slot session).run env w).1 = some .unauthenticated ↔
      Present hist slot session ∧ ∀ user, ¬ LoggedIn slot user hist
  listed : ∀ i, i ∈ (m.openSessions.run env w).1 ↔
    i.session ≠ 0 ∧ Opened i.slot i.session i.readWrite hist ∧
      ((m.sessionState i.slot i.session).run env w).1 = some i.state
  ascending : (m.openSessions.run env w).1.Pairwise fun i j => i.session < j.session

lemma run_sessionState : ((m.sessionState slot session).run env w).1 =
    ((w.process.sessionsOf m.id).find slot session).map SessionInfo.state := rfl

lemma run_openSessions : (m.openSessions.run env w).1 = (w.process.sessionsOf m.id).list := rfl

lemma Tells.reports {hist : History} (hw : Tells hist (w.process.sessionsOf m.id)) :
    Reports env m w hist where
  present slot session := by
    rw [run_sessionState, Option.isSome_map]
    exact hw.present
  authenticated slot session user := by
    rw [run_sessionState, hw.find_eq_some, Sessions.stateOf_eq_authenticated, hw.logins]
  unauthenticated slot session := by
    rw [run_sessionState, hw.find_eq_some, Sessions.stateOf_eq_unauthenticated]
    simp only [hw.logins, ne_eq]
  listed i := by
    rw [run_openSessions, Sessions.mem_list hw.distinct, hw.tracked, run_sessionState,
      hw.find_eq_some]
    constructor
    · rintro ⟨⟨hsession, hopened⟩, hstate⟩
      exact ⟨hsession, hopened, ⟨hsession, _, hopened⟩, hstate.symm⟩
    · rintro ⟨hsession, hopened, -, hstate⟩
      exact ⟨⟨hsession, hopened⟩, hstate.symm⟩
  ascending := by
    rw [run_openSessions]
    exact Sessions.pairwise_list hw.distinct

/-- An inert event changes no state. -/
lemma Tells.state_eq {hist : History} {e : Event} {t u : Sessions} (ht : Tells hist t)
    (hu : Tells (hist ++ [e]) u) (hinert : Inert slot hist e) :
    (u.find slot session).map SessionInfo.state = (t.find slot session).map SessionInfo.state := by
  have hpresent : Present (hist ++ [e]) slot session ↔ Present hist slot session := by
    refine and_congr_right fun hsession => exists_congr fun readWrite => ?_
    exact hinert.opened_append hsession
  have hstate : u.stateOf slot = t.stateOf slot := by
    have hlogins : u.logins.get? slot = t.logins.get? slot := by
      refine Option.ext fun user => ?_
      rw [hu.logins, ht.logins, hinert.loggedIn_append]
    rw [Sessions.stateOf, Sessions.stateOf, hlogins]
  refine Option.ext fun state => ?_
  rw [hu.find_eq_some, ht.find_eq_some, hpresent, hstate]

/-- **Session states are what the history says.** Whatever calls are made to a module that has no
session yet, and whatever its library answers, as long as it opens no session under a number that
is taken: a session is there exactly if it was opened on the slot and not closed since, somebody is
logged in exactly if the latest decisive event of the slot was their login, the sessions listed are
exactly those that are there, and an inert event changes no state. -/
theorem reports_history (env : Environment σ) (m : Module) (w : World σ) (ds : List Demand)
    (hstart : w.process.sessionsOf m.id = .empty)
    (hfresh : Fresh ((Demand.serve m ds).run env w).1) :
    let (hist, v) := (Demand.serve m ds).run env w
    Reports env m v hist ∧ ∀ d slot session,
      let (e, u) := ((d : Demand).program m).run env v
      Fresh (hist ++ [e]) → Inert slot hist e →
        ((m.sessionState slot session).run env u).1 =
          ((m.sessionState slot session).run env v).1 := by
  have htells : Tells ([] ++ ((Demand.serve m ds).run env w).1)
      (((Demand.serve m ds).run env w).2.process.sessionsOf m.id) :=
    tells_serve ds (by rw [hstart]; exact tells_nil) hfresh
  rw [List.nil_append] at htells
  generalize (Demand.serve m ds).run env w = r at htells ⊢
  obtain ⟨hist, v⟩ := r
  refine ⟨htells.reports, fun d slot session => ?_⟩
  have hfollows := d.follows env m v
  generalize (d.program m).run env v = r at hfollows ⊢
  obtain ⟨e, u⟩ := r
  intro hmore hinert
  have hafter : Tells (hist ++ [e]) (u.process.sessionsOf m.id) := by
    rw [hfollows.sessions]
    exact htells.follow hfollows.allows hmore
  exact htells.state_eq hafter hinert

/-! ### Two sessions and a login -/

/-- A module made of a library that exists in memory only. -/
def simulated : Module :=
  ⟨0, "libmock.so", Simulated.functionList .standard,
    LibraryInfo.ofRecord (Simulated.libraryRecord .standard)⟩

def loaded : Except Fault Module × World Simulated.Timeline :=
  (Module.load .supplied "libmock.so").run Simulated.environment
    (.initial (Simulated.Timeline.start .standard))

/-- A login through a session that is then closed, while another one goes on. -/
def inheritance : List Demand :=
  [.openSession 0 false, .login 0 0x5e55 .normal none, .openSession 0 true,
    .closeSession 0 0x5e55]

lemma sessionsOf_loaded : loaded.2.process.sessionsOf simulated.id = .empty :=
  (Module.numbered_load _ _ _ _).sessions simulated rfl

lemma serve_inheritance :
    ((Demand.serve simulated inheritance).run Simulated.environment loaded.2).1 =
      [.opened 0 false (.ok 0x5e55), .loggedIn 0 0x5e55 .normal (.ok ()),
        .opened 0 true (.ok 0x5e56), .closed 0 0x5e55] := rfl

lemma fresh_inheritance :
    Fresh ((Demand.serve simulated inheritance).run Simulated.environment loaded.2).1 := by
  rw [serve_inheritance]
  change Fresh (((([] ++ [_]) ++ [_]) ++ [_]) ++ [_])
  simp only [fresh_append, fresh_nil, Present, opened_append, opened_nil]
  simp

/-- The hypotheses hold of a run after a load in which one session inherits the login of
another. -/
theorem reports_history_of_inheritance :
    let r := (Demand.serve simulated inheritance).run Simulated.environment loaded.2
    loaded.2.process.sessionsOf simulated.id = .empty ∧ Fresh r.1 ∧
      Reports Simulated.environment simulated r.2 r.1 ∧
      Present r.1 0 0x5e56 ∧ LoggedIn 0 .normal r.1 := by
  have hreports := (reports_history Simulated.environment simulated loaded.2 inheritance
    sessionsOf_loaded fresh_inheritance).1
  have hstate := (hreports.authenticated 0 0x5e56 .normal).mp rfl
  exact ⟨sessionsOf_loaded, fresh_inheritance, hreports, hstate.1, hstate.2⟩

end Cryptoki
