import Mathlib.Tactic
import Cryptoki.Fault
import Cryptoki.Session.User
import Cryptoki.Word

/-!
Histories of session calls, and what they say of sessions and logins.

An event is a call together with how it ended, as far as it matters to whoever looks at it from
outside. Which sessions there are and who is logged in is said in terms of events alone, with no
table in sight: something happened, and since then nothing that undoes it.
-/

namespace Cryptoki

/-- A call that was made, and what it answered. -/
inductive Event where
  | opened (slot : SlotId) (readWrite : Bool) (answer : Except Fault SessionId)
  | closed (slot : SlotId) (session : SessionId)
  | loggedIn (slot : SlotId) (session : SessionId) (user : User) (answer : Except Fault Unit)
  | loggedOut (slot : SlotId) (session : SessionId)

/-- The events so far, the latest last. -/
abbrev History := List Event

namespace History

/-- At some time an event was one of `P`, and since then none was one of `Q`. Both look at what
had happened up to the event. -/
def Since (P Q : History → Event → Prop) (hist : History) : Prop :=
  ∃ before e later, hist = before ++ e :: later ∧ P before e ∧
    ∀ between f rest, later = between ++ f :: rest → ¬ Q (before ++ e :: between) f

lemma since_nil (P Q : History → Event → Prop) : ¬ Since P Q [] := by
  rintro ⟨before, e, later, hist, -⟩
  simp at hist

/-- What happened is the latest event, or it is older and the latest event does not undo it. -/
lemma since_append (P Q : History → Event → Prop) (hist : History) (e : Event) :
    Since P Q (hist ++ [e]) ↔ P hist e ∨ Since P Q hist ∧ ¬ Q hist e := by
  constructor
  · rintro ⟨before, f, later, heq, hP, hQ⟩
    rcases List.eq_nil_or_concat later with rfl | ⟨later, g, rfl⟩
    · obtain ⟨rfl, hef⟩ := List.append_inj' heq rfl
      cases hef
      exact .inl hP
    · rw [List.concat_eq_append] at heq hQ
      have hsplit : hist ++ [e] = (before ++ f :: later) ++ [g] := by simpa using heq
      obtain ⟨rfl, heg⟩ := List.append_inj' hsplit rfl
      cases heg
      refine .inr ⟨⟨before, f, later, rfl, hP, fun between x rest hx => ?_⟩, ?_⟩
      · exact hQ between x (rest ++ [e]) (by rw [hx]; simp)
      · exact hQ later e [] rfl
  · rintro (hP | ⟨⟨before, f, later, rfl, hP, hQ⟩, hnot⟩)
    · refine ⟨hist, e, [], rfl, hP, fun between f rest hx => ?_⟩
      simp at hx
    · refine ⟨before, f, later ++ [e], by simp, hP, fun between x rest hx => ?_⟩
      rcases List.eq_nil_or_concat rest with rfl | ⟨rest, y, rfl⟩
      · obtain ⟨rfl, hex⟩ := List.append_inj' hx rfl
        cases hex
        exact hnot
      · rw [List.concat_eq_append] at hx
        have hsplit : later ++ [e] = (between ++ x :: rest) ++ [y] := by simpa using hx
        exact hQ between x rest (List.append_inj' hsplit rfl).1

/-! ### Sessions -/

/-- The session was opened on the slot in this mode, and has not been passed to a close with the
slot since. -/
def Opened (slot : SlotId) (session : SessionId) (readWrite : Bool) : History → Prop :=
  Since (fun _ e => e = .opened slot readWrite (.ok session)) fun _ e => e = .closed slot session

/-- There is a session of this number on the slot. -/
def Present (hist : History) (slot : SlotId) (session : SessionId) : Prop :=
  session ≠ 0 ∧ ∃ readWrite, Opened slot session readWrite hist

/-- No session was opened under a number that there was a session of, on whatever slot. -/
def Fresh (hist : History) : Prop :=
  ∀ before slot readWrite session later,
    hist = before ++ .opened slot readWrite (.ok session) :: later →
      ∀ other, ¬ Present before other session

lemma opened_append {slot : SlotId} {session : SessionId} {readWrite : Bool} (hist : History)
    (e : Event) : Opened slot session readWrite (hist ++ [e]) ↔
      e = .opened slot readWrite (.ok session) ∨
        Opened slot session readWrite hist ∧ e ≠ .closed slot session :=
  since_append _ _ hist e

lemma opened_nil {slot : SlotId} {session : SessionId} {readWrite : Bool} :
    ¬ Opened slot session readWrite [] := since_nil _ _

lemma fresh_nil : Fresh [] := by
  intro before slot readWrite session later heq
  simp at heq

lemma fresh_of_append {hist more : History} (h : Fresh (hist ++ more)) : Fresh hist := by
  intro before slot readWrite session later heq
  refine h before slot readWrite session (later ++ more) ?_
  rw [heq]
  simp

lemma fresh_append {hist : History} {e : Event} : Fresh (hist ++ [e]) ↔ Fresh hist ∧
    ∀ slot readWrite session, e = .opened slot readWrite (.ok session) →
      ∀ other, ¬ Present hist other session := by
  constructor
  · intro h
    refine ⟨fresh_of_append h, ?_⟩
    rintro slot readWrite session rfl
    exact h hist slot readWrite session [] rfl
  · rintro ⟨hold, hnew⟩ before slot readWrite session later heq
    rcases List.eq_nil_or_concat later with rfl | ⟨later, f, rfl⟩
    · obtain ⟨rfl, he⟩ := List.append_inj' heq rfl
      cases he
      exact hnew slot readWrite session rfl
    · rw [List.concat_eq_append] at heq
      have hsplit : hist ++ [e] =
          (before ++ .opened slot readWrite (.ok session) :: later) ++ [f] := by simpa using heq
      exact hold before slot readWrite session later (List.append_inj' hsplit rfl).1

/-! ### Logins -/

/-- A login that lasts, made through a session of the slot. -/
def LoginAs (slot : SlotId) (user : User) (hist : History) (e : Event) : Prop :=
  user ≠ .contextSpecific ∧
    ∃ session, e = .loggedIn slot session user (.ok ()) ∧ Present hist slot session

/-- A logout through a session of the slot. -/
def LogoutOf (slot : SlotId) (hist : History) (e : Event) : Prop :=
  ∃ session, e = .loggedOut slot session ∧ Present hist slot session

/-- The close of the last session of the slot. -/
def LastClosed (slot : SlotId) (hist : History) (e : Event) : Prop :=
  ∃ session, e = .closed slot session ∧ Present hist slot session ∧
    ∀ other, Present hist slot other → other = session

/-- Whatever decides who is logged in to the slot. -/
def Decisive (slot : SlotId) (hist : History) (e : Event) : Prop :=
  (∃ user, LoginAs slot user hist e) ∨ LogoutOf slot hist e ∨ LastClosed slot hist e

section Deciding

variable {hist : History} {slot other : SlotId} {session : SessionId} {user u : User}

lemma loginAs_loggedIn {answer : Except Fault Unit} :
    LoginAs slot u hist (.loggedIn other session user answer) ↔ other = slot ∧ user = u ∧
      u ≠ .contextSpecific ∧ answer = .ok () ∧ Present hist slot session := by
  constructor
  · rintro ⟨hu, session, heq, hpresent⟩
    cases heq
    exact ⟨rfl, rfl, hu, rfl, hpresent⟩
  · rintro ⟨rfl, rfl, hu, rfl, hpresent⟩
    exact ⟨hu, session, rfl, hpresent⟩

lemma decisive_opened {readWrite : Bool} {answer : Except Fault SessionId} :
    ¬ Decisive slot hist (.opened other readWrite answer) := by
  simp [Decisive, LoginAs, LogoutOf, LastClosed]

lemma decisive_closed : Decisive slot hist (.closed other session) ↔
    other = slot ∧ Present hist slot session ∧
      ∀ h, Present hist slot h → h = session := by
  constructor
  · rintro (⟨u, -, h, heq, -⟩ | ⟨h, heq, -⟩ | ⟨h, heq, hpresent, hlast⟩)
    · cases heq
    · cases heq
    · cases heq
      exact ⟨rfl, hpresent, hlast⟩
  · rintro ⟨rfl, hpresent, hlast⟩
    exact .inr (.inr ⟨session, rfl, hpresent, hlast⟩)

lemma decisive_loggedOut : Decisive slot hist (.loggedOut other session) ↔
    other = slot ∧ Present hist slot session := by
  constructor
  · rintro (⟨u, -, h, heq, -⟩ | ⟨h, heq, hpresent⟩ | ⟨h, heq, -⟩)
    · cases heq
    · cases heq
      exact ⟨rfl, hpresent⟩
    · cases heq
  · rintro ⟨rfl, hpresent⟩
    exact .inr (.inl ⟨session, rfl, hpresent⟩)

lemma decisive_loggedIn {answer : Except Fault Unit} :
    Decisive slot hist (.loggedIn other session user answer) ↔ other = slot ∧
      user ≠ .contextSpecific ∧ answer = .ok () ∧ Present hist slot session := by
  constructor
  · rintro (⟨u, hu⟩ | ⟨h, heq, -⟩ | ⟨h, heq, -⟩)
    · obtain ⟨hslot, rfl, huser, hanswer, hpresent⟩ := loginAs_loggedIn.mp hu
      exact ⟨hslot, huser, hanswer, hpresent⟩
    · cases heq
    · cases heq
  · rintro ⟨hslot, huser, hanswer, hpresent⟩
    exact .inl ⟨user, loginAs_loggedIn.mpr ⟨hslot, rfl, huser, hanswer, hpresent⟩⟩

end Deciding

/-- The latest decisive event was a login as this user. -/
def LoggedIn (slot : SlotId) (user : User) : History → Prop :=
  Since (LoginAs slot user) (Decisive slot)

lemma loggedIn_append {slot : SlotId} {user : User} (hist : History) (e : Event) :
    LoggedIn slot user (hist ++ [e]) ↔
      LoginAs slot user hist e ∨ LoggedIn slot user hist ∧ ¬ Decisive slot hist e :=
  since_append _ _ hist e

/-- An event that can have no bearing on a slot: a failure, a login for a single operation, a call
for what is no session, or a call for another slot. -/
def Inert (slot : SlotId) (hist : History) : Event → Prop
  | .opened other _ answer => answer.toBool = false ∨ other ≠ slot
  | .closed other session => ¬ Present hist other session ∨ other ≠ slot
  | .loggedIn other session user answer =>
    answer.toBool = false ∨ user = .contextSpecific ∨ ¬ Present hist other session ∨ other ≠ slot
  | .loggedOut other session => ¬ Present hist other session ∨ other ≠ slot

lemma Inert.not_decisive {slot : SlotId} {hist : History} {e : Event} (h : Inert slot hist e) :
    ¬ Decisive slot hist e := by
  intro hdecisive
  cases e with
  | opened other readWrite answer => exact decisive_opened hdecisive
  | closed other session =>
    obtain ⟨rfl, hpresent, -⟩ := decisive_closed.mp hdecisive
    exact h.elim (fun h => h hpresent) fun h => h rfl
  | loggedIn other session user answer =>
    obtain ⟨rfl, huser, rfl, hpresent⟩ := decisive_loggedIn.mp hdecisive
    rcases h with h | h | h | h
    · cases h
    · exact huser h
    · exact h hpresent
    · exact h rfl
  | loggedOut other session =>
    obtain ⟨rfl, hpresent⟩ := decisive_loggedOut.mp hdecisive
    exact h.elim (fun h => h hpresent) fun h => h rfl

lemma Inert.loggedIn_append {slot : SlotId} {user : User} {hist : History} {e : Event}
    (h : Inert slot hist e) : LoggedIn slot user (hist ++ [e]) ↔ LoggedIn slot user hist := by
  have hnot := h.not_decisive
  rw [History.loggedIn_append]
  exact ⟨fun hc => hc.elim (fun hl => absurd (.inl ⟨user, hl⟩) hnot) fun hc => hc.1,
    fun hl => .inr ⟨hl, hnot⟩⟩

lemma Inert.opened_append {slot : SlotId} {session : SessionId} {readWrite : Bool}
    {hist : History} {e : Event} (h : Inert slot hist e) (hsession : session ≠ 0) :
    Opened slot session readWrite (hist ++ [e]) ↔ Opened slot session readWrite hist := by
  rw [History.opened_append]
  constructor
  · rintro (rfl | ⟨hopened, -⟩)
    · rcases h with h | h
      · cases h
      · exact absurd rfl h
    · exact hopened
  · intro hopened
    refine .inr ⟨hopened, ?_⟩
    rintro rfl
    rcases h with h | h
    · exact h ⟨hsession, readWrite, hopened⟩
    · exact h rfl

end History

end Cryptoki
