import Cryptoki.Proofs.Session.History
import Cryptoki.Proofs.Session.Table

/-!
The table of sessions tells the history of calls.

Two lookups have to be right together. The session under a number is the one that was opened last
and not closed since, and the user under a slot is the one of the latest decisive event. Neither
can be shown alone: whether a login counts depends on the sessions there were at the time, and the
login of a slot goes when the table has no session of the slot left.
-/

namespace Cryptoki

open History

/-- The table after an event. -/
def Sessions.follow (t : Sessions) : Event → Sessions
  | .opened slot readWrite (.ok session) => t.track session slot readWrite
  | .closed slot session => (t.forget slot session).2
  | .loggedIn slot _ user (.ok ()) => t.logIn slot user
  | .loggedOut slot session => if (t.find slot session).isSome then t.logOut slot else t
  | _ => t

/-- An event that can come of a call to a module with this table: what is opened has a number, and
who logs in does so through a session of the slot. -/
def Sessions.Allows (t : Sessions) : Event → Prop
  | .opened _ _ (.ok session) => session ≠ 0
  | .loggedIn slot session _ (.ok ()) => (t.find slot session).isSome
  | _ => True

/-- What the table says is what the history says. -/
structure Tells (hist : History) (t : Sessions) : Prop where
  distinct : t.tracked.Distinct
  tracked : ∀ slot session readWrite, t.tracked.get? session = some ⟨slot, readWrite⟩ ↔
    session ≠ 0 ∧ Opened slot session readWrite hist
  logins : ∀ slot user, t.logins.get? slot = some user ↔ LoggedIn slot user hist

lemma tells_nil : Tells [] .empty where
  distinct := List.nodup_nil
  tracked slot session readWrite := by
    have hnot : ¬ Opened slot session readWrite [] := since_nil _ _
    simp [Sessions.empty, Assoc.get?, hnot]
  logins slot user := by
    have hnot : ¬ LoggedIn slot user [] := since_nil _ _
    simp [Sessions.empty, Assoc.get?, hnot]

variable {hist : History} {t : Sessions} {slot : SlotId} {session : SessionId}

lemma Tells.present (ht : Tells hist t) :
    (t.find slot session).isSome ↔ Present hist slot session := by
  rw [Sessions.find_isSome, Present]
  simp only [ht.tracked, exists_and_left]

lemma Tells.find_eq_some (ht : Tells hist t) {state : SessionState} :
    (t.find slot session).map SessionInfo.state = some state ↔
      Present hist slot session ∧ t.stateOf slot = state := by
  rw [← ht.present, Sessions.find_eq]
  rcases t.tracked.get? session with _ | ⟨k, b⟩
  · simp
  · by_cases hk : k = slot
    · simp [hk, Option.filter, Sessions.describe]
    · simp [hk, Option.filter]

/-- Of two slots that have a session of one number, both are the same. -/
lemma Tells.slot_eq (ht : Tells hist t) {other : SlotId} {readWrite : Bool}
    (hpresent : Present hist slot session) (hopened : Opened other session readWrite hist) :
    other = slot := by
  obtain ⟨hsession, mode, hslot⟩ := hpresent
  have hfirst := (ht.tracked slot session mode).mpr ⟨hsession, hslot⟩
  have hsecond := (ht.tracked other session readWrite).mpr ⟨hsession, hopened⟩
  rw [hfirst] at hsecond
  cases hsecond
  rfl

/-- An event that is inert on every slot, and opens and closes nothing, changes neither lookup. -/
lemma Tells.unchanged (ht : Tells hist t) {e : Event} (hinert : ∀ slot, Inert slot hist e) :
    Tells (hist ++ [e]) t where
  distinct := ht.distinct
  tracked slot session readWrite := by
    rw [ht.tracked]
    exact and_congr_right fun hsession => ((hinert slot).opened_append hsession).symm
  logins slot user := by rw [ht.logins, (hinert slot).loggedIn_append]

lemma Tells.opened (ht : Tells hist t) {readWrite : Bool} (hsession : session ≠ 0)
    (hfresh : ∀ other, ¬ Present hist other session) :
    Tells (hist ++ [.opened slot readWrite (.ok session)]) (t.track session slot readWrite) where
  distinct := ht.distinct.put session _
  tracked other number mode := by
    rw [Sessions.get?_track, opened_append]
    by_cases hnumber : number = session
    · subst hnumber
      have hnot : ¬ Opened other number mode hist := fun h => hfresh other ⟨hsession, mode, h⟩
      simp [hnot, hsession]
    · have hne : (Event.opened slot readWrite (.ok session)) ≠ .opened other mode (.ok number) := by
        simp [Ne.symm hnumber]
      simp [hnumber, hne, ht.tracked]
  logins other user := by
    rw [Sessions.logins_track, loggedIn_append, ht.logins]
    simp [decisive_opened, LoginAs]

lemma Tells.closed (ht : Tells hist t) (hpresent : Present hist slot session) :
    Tells (hist ++ [.closed slot session]) (t.forget slot session).2 where
  distinct := Sessions.distinct_forget ht.distinct slot session
  tracked other number mode := by
    rw [Sessions.get?_forget (ht.present.mpr hpresent), opened_append]
    by_cases hnumber : number = session
    · -- There is one session of this number, so no other slot has one that stays.
      subst hnumber
      rw [if_pos rfl]
      constructor
      · intro h
        cases h
      · rintro ⟨-, heq | ⟨hopened, hne⟩⟩
        · cases heq
        · exact absurd (by rw [ht.slot_eq hpresent hopened]) hne
    · have hne : Event.closed slot session ≠ .closed other number := by simp [Ne.symm hnumber]
      simp [hnumber, hne, ht.tracked]
  logins other user := by
    have hdecisive : Decisive other hist (.closed slot session) ↔
        other = slot ∧ ∀ h, (t.find slot h).isSome → h = session := by
      rw [decisive_closed]
      constructor
      · rintro ⟨rfl, -, hlast⟩
        exact ⟨rfl, fun h hsome => hlast h (ht.present.mp hsome)⟩
      · rintro ⟨rfl, hlast⟩
        exact ⟨rfl, hpresent, fun h hh => hlast h (ht.present.mpr hh)⟩
    rw [Sessions.logins_forget ht.distinct (ht.present.mpr hpresent), loggedIn_append, hdecisive,
      ht.logins]
    simp [LoginAs]

lemma Tells.loggedIn (ht : Tells hist t) {user : User} (hpresent : Present hist slot session)
    (huser : user ≠ .contextSpecific) :
    Tells (hist ++ [.loggedIn slot session user (.ok ())]) (t.logIn slot user) where
  distinct := by
    rw [Sessions.tracked_logIn]
    exact ht.distinct
  tracked other number mode := by
    rw [Sessions.tracked_logIn, opened_append, ht.tracked]
    simp
  logins other u := by
    rw [Sessions.logins_logIn, loggedIn_append, loginAs_loggedIn, decisive_loggedIn]
    by_cases hother : other = slot
    · subst hother
      have hlasting : user = u → u ≠ .contextSpecific := fun h => h ▸ huser
      simpa [huser, hpresent] using hlasting
    · simp [hother, Ne.symm hother, ht.logins]

lemma Tells.loggedOut (ht : Tells hist t) (hpresent : Present hist slot session) :
    Tells (hist ++ [.loggedOut slot session]) (t.logOut slot) where
  distinct := ht.distinct
  tracked other number mode := by
    rw [Sessions.tracked_logOut, opened_append, ht.tracked]
    simp
  logins other user := by
    rw [Sessions.logins_logOut, loggedIn_append, decisive_loggedOut]
    by_cases hother : other = slot
    · subst hother
      simp [hpresent, LoginAs]
    · simp [hother, Ne.symm hother, ht.logins, LoginAs]

/-- **One event.** The table goes on telling the history. -/
lemma Tells.follow (ht : Tells hist t) {e : Event} (hallows : t.Allows e)
    (hfresh : Fresh (hist ++ [e])) : Tells (hist ++ [e]) (t.follow e) := by
  cases e with
  | opened slot readWrite answer =>
    rcases answer with f | session
    · exact ht.unchanged fun slot => .inl rfl
    · exact ht.opened hallows (hfresh hist slot readWrite session [] rfl)
  | closed slot session =>
    by_cases hpresent : Present hist slot session
    · exact ht.closed hpresent
    · have hnone : (t.find slot session).isSome = false := by
        rw [← Bool.not_eq_true, ht.present]
        exact hpresent
      rw [Sessions.follow, Sessions.forget_of_isNone hnone]
      exact ht.unchanged fun slot => .inl hpresent
  | loggedIn slot session user answer =>
    rcases answer with f | _
    · exact ht.unchanged fun slot => .inl rfl
    by_cases huser : user = .contextSpecific
    · have hsame : t.follow (.loggedIn slot session user (.ok ())) = t := by
        simp [Sessions.follow, Sessions.logIn, huser]
      rw [hsame]
      exact ht.unchanged fun slot => .inr (.inl huser)
    · exact ht.loggedIn (ht.present.mp hallows) huser
  | loggedOut slot session =>
    rw [Sessions.follow]
    split_ifs with hsome
    · exact ht.loggedOut (ht.present.mp hsome)
    · exact ht.unchanged fun slot => .inl fun hpresent => hsome (ht.present.mpr hpresent)

end Cryptoki
