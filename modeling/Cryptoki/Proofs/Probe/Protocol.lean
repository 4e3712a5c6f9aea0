import Cryptoki.Proofs.Host.Conduct
import Cryptoki.Proofs.Module.Sessions
import Cryptoki.Proofs.Probe.Selection

/-!
The protocol of a session.

The probe opens one session on the slot it has chosen. Once it is open there are three ways to go
on, and each of them closes it: without a login, with a login that fails, and with a login that is
followed by a logout. What the library answers to the logout and to the close makes no difference,
because the session that was opened is tracked until it is closed.
-/

namespace Cryptoki

open Process Program

namespace Module

variable (m : Module)

/-- Opening a session. -/
abbrev opening (slot : SlotId) (readWrite : Bool) (opened : Reply SessionId) : Deed :=
  .asked (.call m.id (.openSession slot (sessionFlags readWrite) false false true)) opened

/-- Logging the user in. -/
abbrev entering (session : SessionId) (secret : Option Bytes) (code : Code) : Deed :=
  .asked (.call m.id (.login session User.normal.code (pinOf secret)
    (UInt64.ofNat ((pinOf secret).getD []).length))) code

/-- Logging out. -/
abbrev leaving (session : SessionId) (code : Code) : Deed :=
  .asked (.call m.id (.logout session)) code

/-- Closing a session. -/
abbrev closing (session : SessionId) (code : Code) : Deed :=
  .asked (.call m.id (.closeSession session)) code

/-- Finalizing the library and closing it. -/
abbrev finishing (code : Code) : List Deed :=
  [.asked (.call m.id (.finalize false)) code, .asked (.closeLibrary m.id) ()]

end Module

namespace Probe

open Host

variable {α σ : Type} {env : Environment σ} {w : World σ} {held : List Module} {h s : Handle}
  {m : Module} {id : SlotId} {session : SessionId} {p q : Process}

/-! ### In a session -/

/-- There is a session on the slot. -/
structure InSession (held : List Module) (h s : Handle) (m : Module) (id : SlotId)
    (session : SessionId) (p : Process) : Prop extends AtSlot held h s m id p where
  tracked : ((p.sessionsOf m.id).find id session).isSome

/-- An operation on the slot does what its effect does, and leaves module and slot registered. -/
lemma AtSlot.operate (env : Environment σ) (hw : AtSlot held h s m id w.process) (o : SlotOp)
    (ho : o ≠ .close) :
    (o.program h s).Agree env Same (o.effect s m id) w w ∧
      AtSlot held h s m id ((o.program h s).run env w).2.process ∧
      ((o.program h s).run env w).2.process.sessionsOf m.id =
        ((o.effect s m id).run env w).2.process.sessionsOf m.id := by
  have hagree : (o.program h s).Agree env Same (o.effect s m id) w w :=
    o.agree hw.module (hw.accounted.alive hw.module) hw.slot
  obtain ⟨hmodules, hslots⟩ := Site.registries_owns env (o.owns_effect s m id ho) w
  have hsame := hagree.world.process
  refine ⟨hagree, ⟨accounted_slotOp h s o hw.accounted, ?_, ?_⟩, ?_⟩
  · rw [← hsame.modules, hmodules]
    exact hw.module
  · rw [← hsame.slots, hslots]
    exact hw.slot
  · exact (congrArg Share.sessions (hsame.share m.id)).symm

/-- Opening asks once, and answers a session that is there, or the fault of the library. -/
lemma AtSlot.openSession (env : Environment σ) (hw : AtSlot held h s m id w.process)
    (readWrite : Bool) : ∃ opened,
    (Host.openSession h s readWrite).asked env w = [m.opening id readWrite opened] ∧
      ((Host.openSession h s readWrite).run env w).1 = Module.sessionOf id opened ∧
      ∀ session, Module.sessionOf id opened = .ok session →
        InSession held h s m id session
          ((Host.openSession h s readWrite).run env w).2.process := by
  obtain ⟨hagree, hafter, hsessions⟩ := hw.operate env (.openSession readWrite) (by simp)
  obtain ⟨opened, hasked, hanswer, -⟩ := Module.asked_openSession env m id w readWrite
  have hfollows := (openSession_follows env m id w readWrite).sessions
  refine ⟨opened, (hagree.asked_eq rfl).trans hasked, hagree.answer.trans hanswer,
    fun session hsession => ⟨hafter, ?_⟩⟩
  rw [hanswer, hsession] at hfollows
  have htable : ((Host.openSession h s readWrite).run env w).2.process.sessionsOf m.id =
      (w.process.sessionsOf m.id).track session id readWrite := hsessions.trans hfollows
  rw [htable]
  exact Sessions.find_isSome.mpr
    ⟨readWrite, (Sessions.get?_track _ session id readWrite session).trans (if_pos rfl)⟩

namespace InSession

lemma known (hw : InSession held h s m id session p) :
    ((p.sessionsOf m.id).find id session).isNone = false := by
  rw [Option.isNone_eq_false_iff]
  exact hw.tracked

/-- An operation that tracks the same sessions leaves it there. -/
lemma operate (env : Environment σ) (hw : InSession held h s m id session w.process) (o : SlotOp)
    (ho : o ≠ .close)
    (htracked : (((o.effect s m id).run env w).2.process.sessionsOf m.id).tracked =
      (w.process.sessionsOf m.id).tracked) :
    InSession held h s m id session ((o.program h s).run env w).2.process := by
  obtain ⟨-, hafter, hsessions⟩ := hw.toAtSlot.operate env o ho
  refine ⟨hafter, ?_⟩
  rw [hsessions]
  exact (Sessions.find_of_tracked htracked id session).mpr hw.tracked

/-- The login of the user. -/
lemma login (env : Environment σ) (hw : InSession held h s m id session w.process)
    (secret : Option Bytes) : ∃ code,
    (Host.login h s session .normal secret).asked env w = [m.entering session secret code] ∧
      ((Host.login h s session .normal secret).run env w).1 =
        (if code ≠ .ok then .error (.pkcs11 code s!"C_Login for PKCS#11 slot {id} failed")
        else .ok ()) ∧
      InSession held h s m id session
        ((Host.login h s session .normal secret).run env w).2.process ∧
      (code = .ok → (((Host.login h s session .normal secret).run env
        w).2.process.sessionsOf m.id).stateOf id = .authenticated .normal) := by
  obtain ⟨hagree, -, hsessions⟩ :=
    hw.toAtSlot.operate env (.login session .normal secret) (by simp)
  obtain ⟨code, hasked, hanswer, -⟩ := Module.asked_login env m id session w .normal secret
  rw [if_neg (by simp [hw.known])] at hasked hanswer
  have hfollows := (login_follows env m id session w .normal secret).sessions
  rw [hanswer] at hfollows
  refine ⟨code, (hagree.asked_eq rfl).trans hasked, hagree.answer.trans hanswer,
    hw.operate env (.login session .normal secret) (by simp) ?_, fun hcode => ?_⟩
  · refine (congrArg Sessions.tracked hfollows).trans ?_
    split_ifs
    · rfl
    · exact Sessions.tracked_logIn _ _ _
  · rw [if_neg (not_not.mpr hcode)] at hfollows
    have htable : ((Host.login h s session .normal secret).run env w).2.process.sessionsOf m.id =
        (w.process.sessionsOf m.id).logIn id .normal := hsessions.trans hfollows
    rw [htable, Sessions.stateOf_eq_authenticated, Sessions.logins_logIn, if_pos ⟨rfl, by simp⟩]

/-- The state of the session is that of its slot, and nothing is asked for it. -/
lemma sessionState (env : Environment σ) (hw : InSession held h s m id session w.process) :
    (Host.sessionState h s session).asked env w = [] ∧
      ((Host.sessionState h s session).run env w).1 =
        .ok ((w.process.sessionsOf m.id).stateOf id) ∧
      InSession held h s m id session ((Host.sessionState h s session).run env w).2.process := by
  obtain ⟨hagree, -, -⟩ := hw.toAtSlot.operate env (.sessionState session) (by simp)
  have hstate : ((m.sessionState id session).run env w).1 =
      some ((w.process.sessionsOf m.id).stateOf id) := Sessions.state_of_find hw.tracked
  have hasked : ((SlotOp.sessionState session).effect s m id).asked env w = [] := by
    rw [SlotOp.effect, asked_bind, hstate]
    rfl
  have hanswer : (((SlotOp.sessionState session).effect s m id).run env w).1 =
      .ok ((w.process.sessionsOf m.id).stateOf id) := by
    rw [SlotOp.effect, run_bind, hstate]
    rfl
  refine ⟨(hagree.asked_eq rfl).trans hasked, hagree.answer.trans hanswer,
    hw.operate env (.sessionState session) (by simp) ?_⟩
  rw [SlotOp.effect, run_bind, hstate]
  exact congrArg Sessions.tracked (Process.sessionsOf_touch w.process m.id (.find id session))

/-- Logging out never fails. -/
lemma logout (env : Environment σ) (hw : InSession held h s m id session w.process) :
    ∃ code, (Host.logout h s session).asked env w = [m.leaving session code] ∧
      ((Host.logout h s session).run env w).1 = .ok () ∧
      InSession held h s m id session ((Host.logout h s session).run env w).2.process := by
  obtain ⟨hagree, -, -⟩ := hw.toAtSlot.operate env (.logout session) (by simp)
  obtain ⟨code, hasked⟩ := Module.asked_logout env m id session w
  rw [if_neg (by simp [hw.known])] at hasked
  have hfollows := (logout_follows env m id session w).sessions
  refine ⟨code, (hagree.asked_eq rfl).trans ?_, hagree.answer.trans ?_,
    hw.operate env (.logout session) (by simp) ?_⟩
  · rw [SlotOp.effect, asked_bind, hasked, asked_pure, List.append_nil]
  · rw [SlotOp.effect, run_bind, run_pure]
  · rw [SlotOp.effect, run_bind, run_pure]
    refine (congrArg Sessions.tracked hfollows).trans ?_
    rw [Sessions.follow, if_pos hw.tracked, Sessions.tracked_logOut]

/-- Closing never fails. -/
lemma closeSession (env : Environment σ) (hw : InSession held h s m id session w.process) :
    ∃ code, (Host.closeSession h s session).asked env w = [m.closing session code] ∧
      ((Host.closeSession h s session).run env w).1 = .ok () := by
  obtain ⟨hagree, -, -⟩ := hw.toAtSlot.operate env (.closeSession session) (by simp)
  obtain ⟨code, hasked⟩ := Module.asked_closeSession env m id session w
  rw [if_pos hw.tracked] at hasked
  refine ⟨code, (hagree.asked_eq rfl).trans ?_, hagree.answer.trans ?_⟩
  · rw [SlotOp.effect, asked_bind, hasked, asked_pure, List.append_nil]
  · rw [SlotOp.effect, run_bind, run_pure]

end InSession

/-! ### The session -/

/-- What is done with the slot that was chosen, and what comes of it: the session is refused, or
it is opened and closed, and in between there is no login, one that fails, or one that is followed
by a logout. -/
inductive Used (m : Module) (id : SlotId) (readWrite login : Bool) (secret : Option Bytes) :
    List Deed → Except Failure Report → Prop
  | refused (opened : Reply SessionId) {f : Fault} (hopen : Module.sessionOf id opened = .error f) :
      Used m id readWrite login secret [m.opening id readWrite opened] (.error (.fault f))
  | anonymous (opened : Reply SessionId) {session : SessionId}
      (hopen : Module.sessionOf id opened = .ok session) (hlogin : login = false) (closed : Code) :
      Used m id readWrite login secret
        [m.opening id readWrite opened, m.closing session closed]
        (.ok [s!"Opened {Module.accessName readWrite} session {session}", "Closed session"])
  | rejected (opened : Reply SessionId) {session : SessionId}
      (hopen : Module.sessionOf id opened = .ok session) (hlogin : login = true) (code : Code)
      (hcode : code ≠ .ok) (closed : Code) :
      Used m id readWrite login secret
        [m.opening id readWrite opened, m.entering session secret code, m.closing session closed]
        (.error (.fault (.pkcs11 code s!"C_Login for PKCS#11 slot {id} failed")))
  | authenticated (opened : Reply SessionId) {session : SessionId}
      (hopen : Module.sessionOf id opened = .ok session) (hlogin : login = true)
      (left closed : Code) :
      Used m id readWrite login secret
        [m.opening id readWrite opened, m.entering session secret .ok, m.leaving session left,
          m.closing session closed]
        (.ok [s!"Opened {Module.accessName readWrite} session {session}",
          "Session state: " ++ (SessionState.authenticated .normal).text, "Logged out",
          "Closed session"])

variable {β : Type} {next : α → Program (Except Failure β)} {a : α}

/-! A part that did not fail, and what follows it. -/

lemma run_attempt {p : Program (Except Fault α)} (h : (p.run env w).1 = .ok a) :
    (attempt p next).run env w = (next a).run env (p.run env w).2 := by
  rw [attempt, run_bind, h]

lemma asked_attempt {p : Program (Except Fault α)} (h : (p.run env w).1 = .ok a) :
    (attempt p next).asked env w = p.asked env w ++ (next a).asked env (p.run env w).2 := by
  rw [attempt, asked_bind, h]

/-- The close at the end, whatever is answered with it. -/
lemma InSession.close (env : Environment σ) (hw : InSession held h s m id session w.process)
    (r : Except Failure Report) : ∃ closed,
    (attempt (Host.closeSession h s session) fun _ => pure r).asked env w =
        [m.closing session closed] ∧
      ((attempt (Host.closeSession h s session) fun _ => pure r).run env w).1 = r := by
  obtain ⟨closed, hasked, hanswer⟩ := hw.closeSession env
  refine ⟨closed, ?_, ?_⟩
  · rw [asked_attempt hanswer, hasked]
    rfl
  · rw [run_attempt hanswer, run_pure]

/-- A login that fails ends with a close, and one that does not with a logout. -/
lemma InSession.logInAndOut (env : Environment σ)
    (hw : InSession held h s m id session w.process) (pin : Option String) :
    (∃ code closed, code ≠ .ok ∧
      (Probe.logInAndOut h s session pin).asked env w =
        [m.entering session (pin.map Text.utf8) code, m.closing session closed] ∧
      ((Probe.logInAndOut h s session pin).run env w).1 =
        .error (.fault (.pkcs11 code s!"C_Login for PKCS#11 slot {id} failed"))) ∨
    ∃ left,
      (Probe.logInAndOut h s session pin).asked env w =
        [m.entering session (pin.map Text.utf8) .ok, m.leaving session left] ∧
      ((Probe.logInAndOut h s session pin).run env w).1 =
        .ok ["Session state: " ++ (SessionState.authenticated .normal).text, "Logged out"] ∧
      InSession held h s m id session
        ((Probe.logInAndOut h s session pin).run env w).2.process := by
  obtain ⟨code, hasked, hanswer, hthere, hstate⟩ := hw.login env (pin.map Text.utf8)
  rw [Probe.logInAndOut, run_bind, asked_bind, hasked, hanswer]
  by_cases hcode : code = .ok
  · rw [if_neg (not_not.mpr hcode)]
    dsimp only
    obtain ⟨hnone, hread, hstill⟩ := hthere.sessionState env
    rw [hstate hcode] at hread
    obtain ⟨left, hleave, hleft, hlast⟩ := hstill.logout env
    refine .inr ⟨left, ?_, ?_, ?_⟩
    · rw [asked_attempt hread, asked_attempt hleft, hnone, hleave, hcode]
      rfl
    · rw [run_attempt hread, run_attempt hleft, run_pure]
    · rw [run_attempt hread, run_attempt hleft, run_pure]
      exact hlast
  · rw [if_pos hcode]
    obtain ⟨closed, hclose, hclosed⟩ := hthere.close env
      (.error (.fault (.pkcs11 code s!"C_Login for PKCS#11 slot {id} failed")))
    exact .inl ⟨code, closed, hcode, congrArg (_ :: ·) hclose, hclosed⟩

/-- A session command chooses a slot and uses it. -/
lemma Ready.performs (env : Environment σ) (hw : Ready held h m w.process) (settings : Settings)
    (readWrite noLogin : Bool) :
    (∃ f, Selected m settings.slot ((Probe.session h settings readWrite noLogin).asked env w)
        (.error f) ∧ ((Probe.session h settings readWrite noLogin).run env w).1 = .error f) ∨
    ∃ e u id, (Probe.session h settings readWrite noLogin).asked env w = e ++ u ∧
      Selected m settings.slot e (.ok id) ∧
      Used m id (readWrite || settings.readWrite) (settings.login && !noLogin)
        (settings.userPin.map Text.utf8) u
        ((Probe.session h settings readWrite noLogin).run env w).1 := by
  obtain ⟨choice, hselected, hplaced⟩ := hw.selectSlot env settings.slot
  rw [Probe.session, run_bind, asked_bind]
  generalize (Probe.selectSlot h settings.slot).asked env w = e at hselected ⊢
  generalize (Probe.selectSlot h settings.slot).run env w = r at hplaced ⊢
  obtain ⟨answer, v⟩ := r
  dsimp only at hplaced ⊢
  cases hplaced with
  | nowhere f =>
    rw [asked_pure, List.append_nil]
    exact .inl ⟨f, hselected, rfl⟩
  | @here s id hslot =>
    refine .inr ⟨e, _, id, rfl, hselected, ?_⟩
    dsimp only
    obtain ⟨opened, hasked, hanswer, hopened⟩ :=
      hslot.openSession env (readWrite || settings.readWrite)
    -- A session that was refused is the end of it, and one that was opened is there from now on.
    rcases hsession : Module.sessionOf id opened with f | session
    · rw [hsession] at hanswer
      rw [attempt, run_bind, asked_bind, hanswer, hasked]
      exact .refused opened hsession
    have hthere := hopened session hsession
    rw [hsession] at hanswer
    rw [run_attempt hanswer, asked_attempt hanswer, hasked]
    by_cases hlogin : (settings.login && !noLogin) = true
    · simp only [hlogin, if_true]
      rw [run_bind, asked_bind]
      obtain ⟨code, closed, hcode, hask, hrejected⟩ | ⟨left, hask, hreport, hstill⟩ :=
        hthere.logInAndOut env settings.userPin
      · rw [hask, hrejected]
        exact .rejected opened hsession rfl code hcode closed
      · obtain ⟨closed, hclose, hclosed⟩ := hstill.close env _
        rw [hask, hreport]
        dsimp only
        rw [hclose, hclosed]
        exact .authenticated opened hsession rfl left closed
    · rw [Bool.not_eq_true] at hlogin
      simp only [hlogin, Bool.false_eq_true, if_false]
      obtain ⟨closed, hclose, hclosed⟩ := hthere.close env _
      rw [hclose, hclosed]
      exact .anonymous opened hsession rfl closed

end Probe

/-! ### Calls that have nothing to do with sessions -/

/-- A call that has to do with sessions. -/
def Call.concernsSession : Call → Bool
  | .openSession .. | .closeSession _ | .login .. | .logout _ => true
  | _ => false

/-- A library was called to do something with a session. -/
def Deed.concernsSession : Deed → Bool
  | .asked (.call _ c) _ => c.concernsSession
  | _ => false

lemma Deed.Undoes.aside {x : Deed} (hx : x.Undoes) : x.concernsSession = false := by
  cases x with
  | accessed a x => exact hx.elim
  | asked r x =>
    cases r with
    | call j c =>
      cases c with
      | finalize reserved => rfl
      | _ => exact hx.elim
    | closeLibrary j => rfl
    | _ => exact hx.elim

namespace Module

variable {loader : Loader} {id : ModuleId} {path label : String} {stages : List Stage}
  {flag : UInt8} {attempts : ℕ} {ids : List SlotId} {m : Module} {d : List Deed}

/-- A load and what undoes it have nothing to do with sessions. -/
lemma Course.aside {last : Option (Stage × Fault)}
    (h : Course loader id path (Stage.undoing id) stages d last) :
    d.filter Deed.concernsSession = [] := by
  induction h with
  | through => rfl
  | passed s x hpass hrest ih => cases s <;> exact ih
  | @refused s stages x f undone hrefused hundone =>
    have hnone : undone.filter Deed.concernsSession = [] := by
      refine List.filter_eq_nil_iff.mpr fun y hy => ?_
      rw [(Host.undoes_of_undoing s hundone y hy).aside]
      exact Bool.false_ne_true
    cases s <;> exact hnone

lemma Fetched.aside {r : Except Fault (List SlotId)} (h : Fetched m flag attempts d r) :
    d.filter Deed.concernsSession = [] := by
  induction h with
  | grown counted filled hcounted hfilled hrest ih => exact ih
  | _ => rfl

lemma Listed.aside {tokenPresent : Bool} {r : Except Fault (List SlotId)}
    (h : m.Listed tokenPresent d r) : d.filter Deed.concernsSession = [] := by
  obtain ⟨-, rfl, -⟩ | hfetched := h
  · rfl
  · exact hfetched.aside

lemma Searched.aside {r : Except Fault (Option SlotId)} (h : m.Searched label ids d r) :
    d.filter Deed.concernsSession = [] := by
  induction h with
  | other id told hcode hlabel hrest ih => exact ih
  | gone id told hcode hrest ih => exact ih
  | _ => rfl

lemma Checked.aside {slot : SlotId} {choice : Except Fault SlotId} (h : m.Checked slot d choice) :
    d.filter Deed.concernsSession = [] := by
  obtain ⟨-, rfl, -⟩ | ⟨told, rfl, -⟩ := h
  · rfl
  · rfl

lemma Labelled.aside {choice : Except Fault SlotId} (h : m.Labelled label d choice) :
    d.filter Deed.concernsSession = [] := by
  cases h with
  | unlisted hlist => exact hlist.aside
  | unsearched hlist hsearch => rw [List.filter_append, hlist.aside, hsearch.aside]; rfl
  | unfound hlist hsearch => rw [List.filter_append, hlist.aside, hsearch.aside]; rfl
  | found hlist hsearch => rw [List.filter_append, hlist.aside, hsearch.aside]; rfl

end Module

namespace Probe

open Host

variable {σ : Type} {env : Environment σ} {w : World σ} {held : List Module} {h : Handle}
  {m : Module} {id : SlotId} {d : List Deed}

lemma Selected.aside {selector : Option SlotSelector} {choice : Except Failure SlotId}
    (h : Selected m selector d choice) : d.filter Deed.concernsSession = [] := by
  cases h with
  | byNumber hcheck => exact hcheck.aside
  | byLabel hlabel => exact hlabel.aside
  | unlisted hlist => exact hlist.aside
  | tokenless hlist => exact hlist.aside
  | first hlist hcheck => rw [List.filter_append, hlist.aside, hcheck.aside]; rfl

/-- All that is done with a slot concerns the session. -/
lemma Used.concerns {readWrite login : Bool} {secret : Option Bytes} {r : Except Failure Report}
    (h : Used m id readWrite login secret d r) : d.filter Deed.concernsSession = d := by
  cases h <;> rfl

/-! ### The whole run -/

/-- A library was loaded and made a module of. -/
structure Loaded (loader : Loader) (id : ModuleId) (path : String) (d : List Deed) (m : Module) :
    Prop where
  course : Module.Course loader id path (Module.Stage.undoing id) Module.Stage.all d none
  made : m.MadeIn id path d

/-- What a run of the session command asks, what of that concerns the session, and what comes of it.
There is nothing to load, the load is refused, no slot is chosen, or a slot is used; and what was
loaded is finalized and closed in the end. -/
inductive Protocol (loader : Loader) (settings : Settings) (readWrite noLogin : Bool)
    (id : ModuleId) : List Deed → List Deed → Except Failure Report → Prop
  | unnamed (hpath : settings.libraryPath = "") :
      Protocol loader settings readWrite noLogin id [] []
        (.error (.fault (.invalidArgument "no PKCS#11 module path given")))
  | unloaded (hpath : settings.libraryPath ≠ "") {d : List Deed} {stage : Module.Stage} {f : Fault}
      (hload : Module.Course loader id settings.libraryPath (Module.Stage.undoing id)
        Module.Stage.all d (some (stage, f))) :
      Protocol loader settings readWrite noLogin id d [] (.error (.fault f))
  | unselected (hpath : settings.libraryPath ≠ "") {m : Module} {d e : List Deed} {f : Failure}
      (hload : Loaded loader id settings.libraryPath d m)
      (hselect : Selected m settings.slot e (.error f)) (code : Code) :
      Protocol loader settings readWrite noLogin id (d ++ (e ++ m.finishing code)) [] (.error f)
  | used (hpath : settings.libraryPath ≠ "") {m : Module} {d e u : List Deed} {slot : SlotId}
      {r : Except Failure Report} (hload : Loaded loader id settings.libraryPath d m)
      (hselect : Selected m settings.slot e (.ok slot))
      (hused : Used m slot (readWrite || settings.readWrite) (settings.login && !noLogin)
        (settings.userPin.map Text.utf8) u r) (code : Code) :
      Protocol loader settings readWrite noLogin id (d ++ (e ++ u ++ m.finishing code)) u r

/-- Nothing else concerns the session. -/
lemma Protocol.concerns {loader : Loader} {settings : Settings} {readWrite noLogin : Bool}
    {j : ModuleId} {u : List Deed} {r : Except Failure Report}
    (h : Protocol loader settings readWrite noLogin j d u r) :
    d.filter Deed.concernsSession = u := by
  cases h with
  | unnamed hpath => rfl
  | unloaded hpath hload => exact hload.aside
  | unselected hpath hload hselect code =>
    rw [List.filter_append, List.filter_append, hload.course.aside, hselect.aside]
    rfl
  | used hpath hload hselect hused code =>
    rw [List.filter_append, List.filter_append, List.filter_append, hload.course.aside,
      hselect.aside, hused.concerns]
    exact List.append_nil _

lemma unnamed_of_refused {loader : Loader} {f : Fault}
    (h : ((load loader "").run env w).1 = .error f) :
    f = .invalidArgument "no PKCS#11 module path given" := by
  cases h
  rfl

lemma loaded_joined {loader : Loader} {path : String} {v : World σ} (hpath : path ≠ "")
    (hload : (load loader path).run env w = (.ok h, v))
    (hmade : ((Module.load loader path).run env w).1 = .ok m)
    (hjoined : Joined w.process v.process h m) :
    Loaded loader w.process.attempts path ((load loader path).asked env w) m where
  course := by
    obtain ⟨last, hcourse, hanswer⟩ := course_load env loader hpath w
    rw [hload] at hanswer
    obtain rfl : last = none := Option.map_eq_none_iff.mp hanswer.symm
    exact hcourse
  made := by
    obtain ⟨-, hname, hfunctions, told, htold, hinfo⟩ := Module.madeIn_load env loader path w hmade
    rw [asked_load env loader hpath]
    exact ⟨hjoined.id, hname, List.mem_filter.mpr ⟨hfunctions, rfl⟩, told,
      List.mem_filter.mpr ⟨htold, rfl⟩, hinfo⟩

lemma run_sessionCommand (env : Environment σ) (h : Handle) (settings : Settings) (patience : ℕ)
    (readWrite noLogin : Bool) (w : World σ) :
    (command h settings patience (.session readWrite noLogin)).run env w =
      (some ((session h settings readWrite noLogin).run env w).1,
        ((session h settings readWrite noLogin).run env w).2) := by
  rw [command]
  exact run_bind env _ _ w

lemma asked_sessionCommand (env : Environment σ) (h : Handle) (settings : Settings) (patience : ℕ)
    (readWrite noLogin : Bool) (w : World σ) :
    (command h settings patience (.session readWrite noLogin)).asked env w =
      (session h settings readWrite noLogin).asked env w := by
  rw [command]
  exact (asked_bind env _ _ w).trans (List.append_nil _)

lemma protocol_run (env : Environment σ) (loader : Loader) (settings : Settings)
    (readWrite noLogin : Bool) (patience : ℕ) (hw : Accounted w.process held)
    (hmodules : w.process.modules.entries.size < Handle.Table.capacity)
    (hslots : w.process.slots.entries.size < Handle.Table.capacity) :
    ∃ r u, ((run loader settings (.session readWrite noLogin) patience).run env w).1 = some r ∧
      Protocol loader settings readWrite noLogin w.process.attempts
        ((run loader settings (.session readWrite noLogin) patience).asked env w) u r := by
  have hwent := went_run env loader settings (.session readWrite noLogin) patience hw hmodules
  have haccounted : Accounted ((load loader settings.libraryPath).run env w).2.process held :=
    accounted_load loader settings.libraryPath hw
  generalize (run loader settings (.session readWrite noLogin) patience).run env w = ended
    at hwent ⊢
  generalize (run loader settings (.session readWrite noLogin) patience).asked env w = d
    at hwent ⊢
  cases hwent with
  | @refused f v hload =>
    refine ⟨_, [], rfl, ?_⟩
    by_cases hpath : settings.libraryPath = ""
    · have hf := unnamed_of_refused (congrArg Prod.fst (hpath ▸ hload))
      rw [hf, hpath]
      exact .unnamed hpath
    · obtain ⟨last, hcourse, hanswer⟩ := course_load env loader hpath w
      rw [hload] at hanswer
      obtain ⟨⟨stage, g⟩, rfl, rfl⟩ := Option.map_eq_some_iff.mp hanswer.symm
      exact .unloaded hpath hcourse
  | waiting hload hcommand =>
    -- Only the command that waits for a slot has no result yet.
    rw [run_sessionCommand] at hcommand
    cases hcommand
  | @done h m v u t r code hload hmade hjoined hcommand hsteady hunload hparted =>
    have hpath : settings.libraryPath ≠ "" := by
      intro hpath
      rw [hpath] at hload
      cases hload
    have hloaded := loaded_joined hpath hload hmade hjoined
    rw [hload] at haccounted
    have hready : Ready held h m v.process :=
      ⟨haccounted, hjoined.find hw hmodules, by rw [hjoined.slots]; exact hslots⟩
    rw [run_sessionCommand] at hcommand
    cases hcommand
    rw [asked_sessionCommand]
    obtain ⟨f, hselect, hanswer⟩ | ⟨e, calls, slot, hasked, hselect, hused⟩ :=
      hready.performs env settings readWrite noLogin
    · rw [hanswer]
      exact ⟨_, [], rfl, .unselected hpath hloaded hselect code⟩
    · rw [hasked]
      exact ⟨_, calls, rfl, .used hpath hloaded hselect hused code⟩

/-- **The session command keeps to the protocol.** In a process that has been used in any way
before, with any settings and options and whatever the library answers, a run ends with a result,
asks what the protocol says, and nothing else that concerns sessions. -/
theorem session_keeps_protocol (env : Environment σ) (start : σ) (steps : List (Step σ))
    (loader : Loader) (settings : Settings) (readWrite noLogin : Bool) (patience : ℕ) :
    let w := ((Site.initial start).after env steps).world
    let p := run loader settings (.session readWrite noLogin) patience
    w.process.modules.entries.size < Handle.Table.capacity →
      w.process.slots.entries.size < Handle.Table.capacity →
      ∃ r u, (p.run env w).1 = some r ∧
        Protocol loader settings readWrite noLogin w.process.attempts (p.asked env w) u r ∧
        (p.asked env w).filter Deed.concernsSession = u := by
  intro w p hmodules hslots
  have hw := Site.accounted_after env (s := .initial start) accounted_initial steps
  suffices hprotocol : ∃ r u, (p.run env w).1 = some r ∧
      Protocol loader settings readWrite noLogin w.process.attempts (p.asked env w) u r by
    obtain ⟨r, u, hr, hprotocol⟩ := hprotocol
    exact ⟨r, u, hr, hprotocol, hprotocol.concerns⟩
  exact protocol_run env loader settings readWrite noLogin patience hw hmodules hslots

/-! ### A login that fails -/

/-- A library with the token in its third slot, which takes no pin and reports that it could not
close the session. -/
def locked : Simulated.Behaviour :=
  { Simulated.Behaviour.standard with
    loginCode := ⟨0xa0⟩, closeSessionCode := ⟨0x30⟩,
    places := [⟨0, some "first"⟩, ⟨1, none⟩, ⟨2, some "mine"⟩] }

/-- Settings that ask for a token by its label. -/
def labelled : Settings :=
  { Settings.forLibrary ⟨none, none⟩ "libmock.so" with
    slot := some (.label "mine"), userPin := some "12" }

/-- The session is opened for writing on the third slot, and closed after the failure. -/
theorem session_keeps_protocol_of_rejected_login :
    let w := (Site.initial (Simulated.Timeline.start locked)).world
    let p := run .supplied labelled (.session true false) 0
    w.process.modules.entries.size < Handle.Table.capacity ∧
      w.process.slots.entries.size < Handle.Table.capacity ∧
      (p.run Simulated.environment w).1 = some (.error (.fault
        (.pkcs11 ⟨0xa0⟩ "C_Login for PKCS#11 slot 2 failed"))) ∧
      Protocol .supplied labelled true false 0 (p.asked Simulated.environment w)
        [.asked (.call 0 (.openSession 2 6 false false true)) ⟨.ok, some 0x5e55⟩,
          .asked (.call 0 (.login 0x5e55 1 (some [0x31, 0x32]) 2)) ⟨0xa0⟩,
          .asked (.call 0 (.closeSession 0x5e55)) ⟨0x30⟩]
        (.error (.fault (.pkcs11 ⟨0xa0⟩ "C_Login for PKCS#11 slot 2 failed"))) := by
  intro w p
  have hmodules : w.process.modules.entries.size < Handle.Table.capacity := by decide
  have hslots : w.process.slots.entries.size < Handle.Table.capacity := by decide
  have hrun : (p.run Simulated.environment w).1 = some (.error (.fault
      (.pkcs11 ⟨0xa0⟩ "C_Login for PKCS#11 slot 2 failed"))) := by decide
  obtain ⟨r, u, hr, hprotocol, hu⟩ := session_keeps_protocol Simulated.environment
    (Simulated.Timeline.start locked) [] .supplied labelled true false 0 hmodules hslots
  obtain rfl : _ = r := Option.some.inj (hrun.symm.trans hr)
  obtain rfl : _ = u := hu
  exact ⟨hmodules, hslots, hrun, hprotocol⟩

end Probe

end Cryptoki
