import Cryptoki.Library.Scripted
import Cryptoki.Proofs.Module.Sessions

/-!
Logins that outlive the sessions of their slot.

A library may end a session of its own accord and give the number to the next session that is
opened, while the module still tracks it. If that one is of another slot, the module moves the
number there and takes nobody's login away: the slot it came from may be left with a login and no
session.
This is the only way for that to happen, and the next session that is opened on the slot is where it
shows.
-/

namespace Cryptoki

open Program History

namespace Sessions

/-- No session of the slot is tracked. -/
def Bare (t : Sessions) (slot : SlotId) : Prop := ∀ session, ¬ (t.find slot session).isSome

/-- The table that a history leads to when there was no session before. -/
def ofHistory (hist : History) : Sessions := hist.foldl follow .empty

lemma ofHistory_append (hist : History) (e : Event) :
    ofHistory (hist ++ [e]) = (ofHistory hist).follow e := by
  rw [ofHistory, List.foldl_append]
  rfl

variable {t : Sessions} {slot other : SlotId} {session : SessionId}

lemma find_track_self (readWrite : Bool) :
    ((t.track session slot readWrite).find slot session).isSome :=
  find_isSome.mpr ⟨readWrite, by rw [get?_track, if_pos rfl]⟩

/-- A session that is tracked for one slot is found on no other. -/
lemma find_track_of_ne (readWrite : Bool) (hother : other ≠ slot) (h : SessionId) :
    ((t.track session other readWrite).find slot h).isSome ↔
      h ≠ session ∧ (t.find slot h).isSome := by
  by_cases hh : h = session
  · subst hh
    exact iff_of_false (fun hf => hother (slot_eq_of_find hf (find_track_self readWrite)))
      fun hf => hf.1 rfl
  · rw [find_track readWrite hh]
    simp [hh]

lemma bare_forget_of_ne (hf : (t.find other session).isSome) (hother : other ≠ slot) :
    (t.forget other session).2.Bare slot ↔ t.Bare slot := by
  refine forall_congr' fun h => not_congr ?_
  by_cases hh : h = session
  · subst hh
    refine iff_of_false (fun hg => ?_) fun hg => hother (slot_eq_of_find hg hf)
    rw [find_isSome, get?_forget hf, if_pos rfl] at hg
    simp at hg
  · exact find_forget hf hh

end Sessions

namespace History

/-- The only session of the slot was opened again, on another slot, while the user was logged in. -/
def TakenAway (slot : SlotId) (user : User) (hist : History) (e : Event) : Prop :=
  ∃ other readWrite session, e = .opened other readWrite (.ok session) ∧ other ≠ slot ∧
    (∀ h, ((Sessions.ofHistory hist).find slot h).isSome ↔ h = session) ∧
    (Sessions.ofHistory hist).logins.get? slot = some user

/-- A session was opened on the slot. -/
def OpenedOn (slot : SlotId) (_ : History) (e : Event) : Prop :=
  ∃ readWrite session, e = .opened slot readWrite (.ok session)

/-- The last session of the slot was taken away while the user was logged in, and no session was
opened on the slot since. -/
def Stranded (slot : SlotId) (user : User) : History → Prop :=
  Since (TakenAway slot user) (OpenedOn slot)

lemma stranded_append {slot : SlotId} {user : User} (hist : History) (e : Event) :
    Stranded slot user (hist ++ [e]) ↔
      TakenAway slot user hist e ∨ Stranded slot user hist ∧ ¬ OpenedOn slot hist e :=
  since_append _ _ hist e

end History

/-! ### What a history leaves on a slot -/

/-- The table is the one of the history, and as soon as it has no session of the slot, the logins it
has left there are those that were stranded. -/
structure Leaves (slot : SlotId) (hist : History) (t : Sessions) : Prop where
  table : Sessions.ofHistory hist = t
  distinct : t.tracked.Distinct
  bare : ∀ user, Stranded slot user hist → t.Bare slot
  logins : t.Bare slot → ∀ user, t.logins.get? slot = some user ↔ Stranded slot user hist

variable {slot : SlotId} {hist : History} {t : Sessions} {session : SessionId}

lemma leaves_nil (slot : SlotId) : Leaves slot [] .empty where
  table := rfl
  distinct := List.nodup_nil
  bare user h := absurd h (since_nil _ _)
  logins _ user := by
    have hnot : ¬ Stranded slot user [] := since_nil _ _
    simp [Sessions.empty, Assoc.get?, hnot]

/-- An event that opens no session. -/
lemma Leaves.pass (ht : Leaves slot hist t) {e : Event}
    (hopens : ∀ other readWrite h, e ≠ .opened other readWrite (.ok h))
    (hdistinct : (t.follow e).tracked.Distinct) (hbare : t.Bare slot → (t.follow e).Bare slot)
    (hlogins : (t.follow e).Bare slot → ∀ user, (t.follow e).logins.get? slot = some user ↔
      t.Bare slot ∧ t.logins.get? slot = some user) :
    Leaves slot (hist ++ [e]) (t.follow e) := by
  have hsame : ∀ user, Stranded slot user (hist ++ [e]) ↔ Stranded slot user hist := by
    intro user
    rw [stranded_append]
    constructor
    · rintro (⟨other, readWrite, h, rfl, -⟩ | ⟨hold, -⟩)
      · exact absurd rfl (hopens _ _ _)
      · exact hold
    · refine fun hold => .inr ⟨hold, ?_⟩
      rintro ⟨readWrite, h, rfl⟩
      exact hopens _ _ _ rfl
  refine ⟨by rw [Sessions.ofHistory_append, ht.table], hdistinct, fun user h => ?_,
    fun hnow user => ?_⟩
  · exact hbare (ht.bare user ((hsame user).mp h))
  · rw [hlogins hnow, hsame]
    exact ⟨fun h => (ht.logins h.1 user).mp h.2,
      fun h => ⟨ht.bare user h, (ht.logins (ht.bare user h) user).mpr h⟩⟩

lemma Leaves.unchanged (ht : Leaves slot hist t) {e : Event}
    (hopens : ∀ other readWrite h, e ≠ .opened other readWrite (.ok h)) (hsame : t.follow e = t) :
    Leaves slot (hist ++ [e]) (t.follow e) := by
  refine ht.pass hopens (by rw [hsame]; exact ht.distinct) (fun h => by rwa [hsame])
    fun h user => ?_
  rw [hsame] at h ⊢
  exact (and_iff_right h).symm

/-- Logging in or out through a session that there is. -/
lemma Leaves.relogged (ht : Leaves slot hist t) {e : Event} {other : SlotId}
    (hopens : ∀ other readWrite h, e ≠ .opened other readWrite (.ok h))
    (htracked : (t.follow e).tracked = t.tracked) (hfound : (t.find other session).isSome)
    (hlogins : other ≠ slot → (t.follow e).logins.get? slot = t.logins.get? slot) :
    Leaves slot (hist ++ [e]) (t.follow e) := by
  have hbare : (t.follow e).Bare slot ↔ t.Bare slot :=
    forall_congr' fun h => not_congr (Sessions.find_of_tracked htracked slot h)
  refine ht.pass hopens (htracked ▸ ht.distinct) hbare.mpr fun hnow user => ?_
  have hother : other ≠ slot := by
    rintro rfl
    exact hbare.mp hnow session hfound
  rw [hlogins hother]
  exact (and_iff_right (hbare.mp hnow)).symm

lemma Leaves.closed (ht : Leaves slot hist t) {other : SlotId}
    (hfound : (t.find other session).isSome) :
    Leaves slot (hist ++ [.closed other session]) (t.forget other session).2 := by
  have hgoes := Sessions.logins_forget ht.distinct hfound slot
  refine ht.pass (by simp) (Sessions.distinct_forget ht.distinct _ _) (fun hbare => ?_)
    fun hnow user => ?_
  · by_cases hother : other = slot
    · exact absurd (hother ▸ hfound) (hbare session)
    · exact (Sessions.bare_forget_of_ne hfound hother).mpr hbare
  · refine (hgoes user).trans ?_
    by_cases hother : other = slot
    · -- No session of the slot is left, so the one that was closed was the last.
      subst hother
      have hlast : ∀ h, (t.find other h).isSome → h = session := by
        intro h hh
        by_contra hne
        exact hnow h ((Sessions.find_forget hfound hne).mpr hh)
      exact iff_of_false (fun h => h.2 ⟨rfl, hlast⟩) fun h => h.1 session hfound
    · have hbare := (Sessions.bare_forget_of_ne hfound hother).mp hnow
      simp [hbare, Ne.symm hother]

/-- The one event that may leave a login behind. -/
lemma Leaves.opened (ht : Leaves slot hist t) (other : SlotId) (readWrite : Bool)
    (session : SessionId) : Leaves slot (hist ++ [.opened other readWrite (.ok session)])
      (t.track session other readWrite) := by
  have htable : Sessions.ofHistory (hist ++ [.opened other readWrite (.ok session)]) =
      t.track session other readWrite := by
    rw [Sessions.ofHistory_append, ht.table]
    rfl
  have hdistinct : (t.track session other readWrite).tracked.Distinct :=
    ht.distinct.put session _
  by_cases hother : other = slot
  · subst hother
    have hnot : ∀ user, ¬ Stranded other user
        (hist ++ [.opened other readWrite (.ok session)]) := by
      intro user h
      obtain ⟨_, _, _, heq, hne, -⟩ | ⟨-, hnone⟩ := (stranded_append _ _).mp h
      · cases heq
        exact hne rfl
      · exact hnone ⟨_, _, rfl⟩
    exact ⟨htable, hdistinct, fun user h => absurd h (hnot user),
      fun h => absurd (Sessions.find_track_self readWrite) (h session)⟩
  have hfind : ∀ h, ((t.track session other readWrite).find slot h).isSome ↔
      h ≠ session ∧ (t.find slot h).isSome := Sessions.find_track_of_ne readWrite hother
  have hstranded : ∀ user, Stranded slot user (hist ++ [.opened other readWrite (.ok session)]) ↔
      ((∀ h, (t.find slot h).isSome ↔ h = session) ∧ t.logins.get? slot = some user) ∨
        Stranded slot user hist := by
    intro user
    rw [stranded_append]
    refine or_congr ?_ (and_iff_left ?_)
    · simp [TakenAway, ht.table, hother]
    · rintro ⟨_, _, heq⟩
      cases heq
      exact hother rfl
  refine ⟨htable, hdistinct, fun user h => ?_, fun hnow user => ?_⟩
  · intro h' hh
    obtain ⟨hne, hwas⟩ := (hfind h').mp hh
    obtain ⟨hsole, -⟩ | hold := (hstranded user).mp h
    · exact hne ((hsole h').mp hwas)
    · exact ht.bare user hold h' hwas
  · rw [hstranded, Sessions.logins_track]
    by_cases hbare : t.Bare slot
    · have hnot : ¬ ∀ h, (t.find slot h).isSome ↔ h = session :=
        fun hsole => hbare session ((hsole session).mpr rfl)
      simp [hnot, ht.logins hbare]
    · -- Whatever session the slot had is not there any more, so it was the one taken away.
      have hsole : ∀ h, (t.find slot h).isSome ↔ h = session := by
        have hall : ∀ h, (t.find slot h).isSome → h = session := fun h hh =>
          by_contra fun hne => hnow h ((hfind h).mpr ⟨hne, hh⟩)
        obtain ⟨h, hh⟩ := not_forall_not.mp hbare
        exact fun k => ⟨hall k, fun hk => hk ▸ hall h hh ▸ hh⟩
      have hnot : ¬ Stranded slot user hist := fun h => hbare (ht.bare user h)
      simp only [hsole, implies_true, true_and, hnot, or_false]

/-- **One event.** -/
lemma Leaves.follow (ht : Leaves slot hist t) {e : Event} (hallows : t.Allows e) :
    Leaves slot (hist ++ [e]) (t.follow e) := by
  cases e with
  | opened other readWrite answer =>
    rcases answer with f | session
    · exact ht.unchanged (by simp) rfl
    · exact ht.opened other readWrite session
  | closed other session =>
    by_cases hfound : (t.find other session).isSome
    · exact ht.closed hfound
    · refine ht.unchanged (by simp) ?_
      rw [Sessions.follow, Sessions.forget_of_isNone (Bool.eq_false_iff.mpr hfound)]
  | loggedIn other session user answer =>
    rcases answer with f | _
    · exact ht.unchanged (by simp) rfl
    · refine ht.relogged (by simp) (Sessions.tracked_logIn t other user) hallows fun hother => ?_
      rw [Sessions.follow, Sessions.logins_logIn, if_neg fun h => hother h.1.symm]
  | loggedOut other session =>
    by_cases hfound : (t.find other session).isSome
    · have hfollow : t.follow (.loggedOut other session) = t.logOut other := if_pos hfound
      refine ht.relogged (by simp) (by rw [hfollow]; rfl) hfound fun hother => ?_
      rw [hfollow, Sessions.logins_logOut, if_neg hother.symm]
    · exact ht.unchanged (by simp) (if_neg hfound)

/-- The state in which a session begins that is the only one of the slot. -/
lemma Leaves.unauthenticated_iff (ht : Leaves slot hist t)
    (honly : ∀ h, (t.find slot h).isSome → h = session) :
    t.stateOf slot = .unauthenticated ↔ (∀ user, ¬ Stranded slot user hist) ∧
      ∀ user, (t.find slot session).map SessionInfo.state ≠ some (.authenticated user) := by
  rw [Sessions.stateOf_eq_unauthenticated]
  by_cases hbare : t.Bare slot
  · have hnone : t.find slot session = none := by simpa using hbare session
    simp [hnone, ht.logins hbare]
  · obtain ⟨h, hh⟩ := not_forall_not.mp hbare
    have hnot : ∀ user, ¬ Stranded slot user hist := fun user hs => hbare (ht.bare user hs)
    rw [Sessions.state_of_find (honly h hh ▸ hh)]
    simp [hnot, Sessions.stateOf_eq_authenticated]

/-! ### All calls -/

variable {σ : Type} {env : Environment σ} {m : Module} {w : World σ}

lemma leaves_serve (ds : List Demand) (hw : Leaves slot hist (w.process.sessionsOf m.id)) :
    Leaves slot (hist ++ ((Demand.serve m ds).run env w).1)
      (((Demand.serve m ds).run env w).2.process.sessionsOf m.id) := by
  induction ds generalizing hist w with
  | nil => simpa [Demand.serve] using hw
  | cons d ds ih =>
    rw [Demand.serve, run_bind, run_bind, run_pure]
    have hfollows := d.follows env m w
    generalize (d.program m).run env w = r at hfollows ⊢
    obtain ⟨e, v⟩ := r
    rw [← List.singleton_append, ← List.append_assoc]
    refine ih ?_
    rw [hfollows.sessions]
    exact hw.follow hfollows.allows

/-- **When a login outlives the sessions of its slot.** Whatever calls are made to a module that has
no session yet, and whatever its library answers: a slot without a session has a login left exactly
if the login was stranded there, and a session that is opened on a slot without another one begins
unauthenticated unless a login was stranded or the number is the one of an authenticated session of
the slot. -/
theorem login_left_iff_stranded (env : Environment σ) (m : Module) (w : World σ)
    (ds : List Demand) (hstart : w.process.sessionsOf m.id = .empty) :
    let (hist, v) := (Demand.serve m ds).run env w
    ∀ slot, ((∀ session, ((m.sessionState slot session).run env v).1 = none) → ∀ user,
        ((v.process.sessionsOf m.id).logins.get? slot = some user ↔ Stranded slot user hist)) ∧
      ∀ readWrite session, let (answer, u) := (m.openSession slot readWrite).run env v
        answer = .ok session →
          (∀ other, ((m.sessionState slot other).run env u).1.isSome → other = session) →
            (((m.sessionState slot session).run env u).1 = some .unauthenticated ↔
              (∀ user, ¬ Stranded slot user hist) ∧
                ∀ user, ((m.sessionState slot session).run env v).1 ≠
                  some (.authenticated user)) := by
  have hleaves (slot : SlotId) : Leaves slot ([] ++ ((Demand.serve m ds).run env w).1)
      (((Demand.serve m ds).run env w).2.process.sessionsOf m.id) :=
    leaves_serve ds (by rw [hstart]; exact leaves_nil slot)
  generalize (Demand.serve m ds).run env w = r at hleaves ⊢
  obtain ⟨hist, v⟩ := r
  refine fun slot => ⟨fun hnone => (hleaves slot).logins fun session => ?_, ?_⟩
  · have hstate := hnone session
    rw [run_sessionState, Option.map_eq_none_iff] at hstate
    simp [hstate]
  intro readWrite session
  have hfollows := openSession_follows env m slot v readWrite
  generalize (m.openSession slot readWrite).run env v = r at hfollows ⊢
  obtain ⟨answer, u⟩ := r
  rintro rfl honly
  have htable : u.process.sessionsOf m.id =
    (v.process.sessionsOf m.id).track session slot readWrite := hfollows.sessions
  simp only [run_sessionState, Option.isSome_map, htable] at honly ⊢
  rw [Sessions.state_of_find (Sessions.find_track_self readWrite), Option.some_inj]
  refine (hleaves slot).unauthenticated_iff fun h hh => ?_
  by_contra hne
  exact hne (honly h ((Sessions.find_track readWrite hne).mpr hh))

/-! ### A number that is given to another slot -/

/-- A script in which every call succeeds and these are the numbers of the sessions. -/
def issuing (sessions : List SessionId) : Scripted.State where
  openFault := none
  lookUpFault := none
  functions := none
  codes := []
  info := .blank
  slots := []
  tokens := []
  listings := []
  sessions := sessions
  events := []
  trace := []

/-- A login on one slot, the session of which the library then gives to another slot. -/
def losing : List Demand := [.openSession 0 false, .login 0 5 .normal none, .openSession 1 false]

/-- The outcome of these calls. -/
def lost : History × World Scripted.State :=
  (Demand.serve simulated losing).run Scripted.environment (.initial (issuing [5, 5, 6]))

lemma sessionsOf_lost : lost.2.process.sessionsOf simulated.id =
    ⟨[(5, ⟨1, false⟩)], [(0, .normal)]⟩ := rfl

lemma sessionState_lost (session : SessionId) :
    ((simulated.sessionState 0 session).run Scripted.environment lost.2).1 = none := by
  rw [run_sessionState, sessionsOf_lost]
  by_cases hs : 5 = session <;> simp [Sessions.find, Assoc.get?, hs]

/-- The hypothesis holds of a module that was just loaded, and logins do get stranded. -/
theorem login_left_iff_stranded_of_reissue :
    (World.initial (issuing [5, 5, 6])).process.sessionsOf simulated.id = .empty ∧
      (∀ session, ((simulated.sessionState 0 session).run Scripted.environment lost.2).1 = none) ∧
      Stranded 0 .normal lost.1 := by
  have hiff := login_left_iff_stranded Scripted.environment simulated
    (.initial (issuing [5, 5, 6])) losing rfl 0
  exact ⟨rfl, sessionState_lost, (hiff.1 sessionState_lost .normal).mp rfl⟩

/-- A slot without a session has a login, and the next session that is opened there, the only one
of the slot, is taken to be authenticated although nobody has logged in through it. -/
theorem session_begins_authenticated :
    let o := (simulated.openSession 0 false).run Scripted.environment lost.2
    (∀ session, ((simulated.sessionState 0 session).run Scripted.environment lost.2).1 = none) ∧
      (lost.2.process.sessionsOf simulated.id).logins.get? 0 = some .normal ∧ o.1 = .ok 6 ∧
      (∀ other, ((simulated.sessionState 0 other).run Scripted.environment o.2).1.isSome →
        other = 6) ∧
      ((simulated.sessionState 0 6).run Scripted.environment o.2).1 =
        some (.authenticated .normal) := by
  intro o
  refine ⟨sessionState_lost, rfl, rfl, fun other hother => ?_, rfl⟩
  have htable : o.2.process.sessionsOf simulated.id =
    ⟨[(6, ⟨0, false⟩), (5, ⟨1, false⟩)], [(0, .normal)]⟩ := rfl
  rw [run_sessionState, htable] at hother
  by_contra hne
  by_cases hs : 5 = other <;> simp [Sessions.find, Assoc.get?, hs, Ne.symm hne] at hother

end Cryptoki
