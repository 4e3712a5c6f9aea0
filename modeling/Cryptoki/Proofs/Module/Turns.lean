import Cryptoki.Proofs.Module.Sessions
import Cryptoki.Proofs.Program.Deeds

/-!
Calls that concern sessions, turn by turn.

A call passes through phases, and each deed of it is a turn from one phase to the next. Between two
turns anything may happen in other calls, so a phase says only what the call itself has come to: the
session it has in hand, or that it has found its session tracked.
-/

namespace Cryptoki

open Program

namespace Demand

/-- The session a call is on, and the slot it is said to be of. -/
def session? : Demand → Option (SlotId × SessionId)
  | .openSession .. => none
  | .closeSession slot session | .login slot session .. | .logout slot session =>
    some (slot, session)

/-- Both calls are on a session, and on the same one. -/
def SameSession (d e : Demand) : Prop := d.session? ≠ none ∧ d.session? = e.session?

instance (d e : Demand) : Decidable (d.SameSession e) := inferInstanceAs (Decidable (_ ∧ _))

lemma SameSession.symm {d e : Demand} (h : d.SameSession e) : e.SameSession d :=
  ⟨h.2 ▸ h.1, h.2.symm⟩

inductive Phase where
  | fresh
  /-- A session has been opened that is not tracked yet. -/
  | toTrack (session : SessionId)
  /-- A session has been forgotten that is not closed yet. -/
  | toClose (session : SessionId)
  /-- The session of the call was there. -/
  | found
  /-- There is nothing left to do but to write a line. -/
  | over
  deriving DecidableEq, Repr

/-- The session that is in the hands of a call. -/
def Phase.hand? : Phase → Option SessionId
  | .toTrack session | .toClose session => some session
  | .fresh | .found | .over => none

/-- A deed of a call to the module, and the phases before and after it. -/
inductive Turn (m : ModuleId) : Demand → Phase → Deed → Phase → Prop
  | opens (slot : SlotId) (readWrite : Bool) (flags : Flags) (application notify place : Bool)
      (reply : Reply SessionId) (hcode : reply.code = .ok) :
      Turn m (.openSession slot readWrite) .fresh
        (.asked (.call m (.openSession slot flags application notify place)) reply)
        (.toTrack (reply.written.getD 0))
  | refuses (slot : SlotId) (readWrite : Bool) (flags : Flags) (application notify place : Bool)
      (reply : Reply SessionId) (hnone : reply.code = .ok → reply.written.getD 0 = 0) :
      Turn m (.openSession slot readWrite) .fresh
        (.asked (.call m (.openSession slot flags application notify place)) reply) .over
  | tracks (slot : SlotId) (readWrite : Bool) (session : SessionId) :
      Turn m (.openSession slot readWrite) (.toTrack session)
        (.accessed (.sessions m (.track session slot readWrite)) ()) .over
  | forgets (slot : SlotId) (session : SessionId) :
      Turn m (.closeSession slot session) .fresh
        (.accessed (.sessions m (.forget slot session)) true) (.toClose session)
  | ignores (slot : SlotId) (session : SessionId) :
      Turn m (.closeSession slot session) .fresh
        (.accessed (.sessions m (.forget slot session)) false) .over
  | closes (slot : SlotId) (session : SessionId) (code : Code) :
      Turn m (.closeSession slot session) (.toClose session)
        (.asked (.call m (.closeSession session)) code) .over
  | finds (d : Demand) (slot : SlotId) (session : SessionId) (i : SessionInfo)
      (hd : d.session? = some (slot, session)) :
      Turn m d .fresh (.accessed (.sessions m (.find slot session)) (some i)) .found
  | strays (d : Demand) (slot : SlotId) (session : SessionId) :
      Turn m d .fresh (.accessed (.sessions m (.find slot session)) none) .over
  | logsIn (slot : SlotId) (session : SessionId) (user : User) (secret pin : Option Bytes)
      (length : Word) (code : Code) :
      Turn m (.login slot session user secret) .found
        (.asked (.call m (.login session user.code pin length)) code)
        (if code = .ok then .found else .over)
  | notesLogin (slot : SlotId) (session : SessionId) (user : User) (secret : Option Bytes) :
      Turn m (.login slot session user secret) .found
        (.accessed (.sessions m (.logIn slot user)) ()) .over
  | logsOut (slot : SlotId) (session : SessionId) (code : Code) :
      Turn m (.logout slot session) .found (.asked (.call m (.logout session)) code) .found
  | notesLogout (slot : SlotId) (session : SessionId) :
      Turn m (.logout slot session) .found (.accessed (.sessions m (.logOut slot)) ()) .over

/-! ### Programs that make turns only -/

variable {α β : Type}

/-- Whatever it is answered, a program begun in the phase makes turns of the call only, writes no
line while it has a session in hand, and ends in a phase that its answer allows. -/
def Along (d : Demand) (m : ModuleId) : Phase → Program α → (α → Phase → Prop) → Prop
  | phase, .done a, ending => ending a phase
  | phase, .request r next, ending =>
    ∀ x, ∃ after, d.Turn m phase (.asked r x) after ∧ Along d m after (next x) ending
  | phase, .access a next, ending =>
    ∀ x, ∃ after, d.Turn m phase (.accessed a x) after ∧ Along d m after (next x) ending
  | phase, .log _ next, ending => phase.hand? = none ∧ Along d m phase next ending

variable {d : Demand} {m : ModuleId} {phase : Phase}

lemma along_pure {a : α} {ending : α → Phase → Prop} :
    d.Along m phase (pure a) ending ↔ ending a phase := Iff.rfl

lemma along_touch {a : Process.Access} {ending : a.Answer → Phase → Prop} :
    d.Along m phase (touch a) ending ↔
      ∀ x, ∃ after, d.Turn m phase (.accessed a x) after ∧ ending x after := Iff.rfl

lemma along_call {n : ModuleId} {c : Call} {ending : c.Answer → Phase → Prop} :
    d.Along m phase (call n c) ending ↔
      ∀ x, ∃ after, d.Turn m phase (.asked (.call n c) x) after ∧ ending x after := Iff.rfl

lemma along_bind {p : Program β} {f : β → Program α} {ending : α → Phase → Prop} :
    d.Along m phase (p >>= f) ending ↔
      d.Along m phase p fun b after => d.Along m after (f b) ending := by
  show d.Along m phase (p.bind f) ending ↔ _
  induction p generalizing phase with
  | done b => exact Iff.rfl
  | request r next ih =>
    exact forall_congr' fun x => exists_congr fun after => and_congr_right fun _ => ih x
  | access a next ih =>
    exact forall_congr' fun x => exists_congr fun after => and_congr_right fun _ => ih x
  | log l next ih => exact and_congr_right fun _ => ih

/-- What is left of a call that has come to a phase. -/
def Obeys (d : Demand) (m : ModuleId) (phase : Phase) (p : Program Event) : Prop :=
  d.Along m phase p fun _ after => after = .over

variable (m : Module) (slot : SlotId) (session : SessionId)

lemma obeys_openSession (readWrite : Bool) :
    (openSession slot readWrite).Obeys m.id .fresh ((openSession slot readWrite).program m) := by
  rw [Obeys, program, along_bind, Module.openSession, along_bind, along_call]
  intro reply
  by_cases hcode : reply.code = .ok
  · by_cases hzero : reply.written.getD 0 = 0
    · refine ⟨.over, .refuses _ _ _ _ _ _ reply fun _ => hzero, ?_⟩
      simp [hcode, hzero, along_pure]
    · refine ⟨_, .opens _ _ _ _ _ _ reply hcode, ?_⟩
      simp only [hcode, hzero, ne_eq, not_true_eq_false, if_false, along_bind]
      exact fun _ => ⟨.over, .tracks .., rfl, rfl⟩
  · refine ⟨.over, .refuses _ _ _ _ _ _ reply fun h => absurd h hcode, ?_⟩
    simp [hcode, along_pure]

lemma obeys_closeSession :
    (closeSession slot session).Obeys m.id .fresh ((closeSession slot session).program m) := by
  rw [Obeys, program, along_bind, Module.closeSession, along_bind, along_touch]
  rintro (_ | _)
  · exact ⟨.over, .ignores .., rfl, rfl⟩
  · refine ⟨_, .forgets .., ?_⟩
    rw [if_pos rfl, along_bind, along_call]
    refine fun code => ⟨.over, .closes .., ?_⟩
    split_ifs
    · exact ⟨rfl, rfl⟩
    · exact ⟨rfl, rfl⟩

lemma obeys_login (user : User) (secret : Option Bytes) :
    (login slot session user secret).Obeys m.id .fresh
      ((login slot session user secret).program m) := by
  rw [Obeys, program, along_bind, Module.login, along_bind, along_touch]
  rintro (_ | i)
  · exact ⟨.over, .strays .., rfl⟩
  · refine ⟨.found, .finds _ _ _ i rfl, ?_⟩
    simp only [Option.isNone_some, Bool.false_eq_true, if_false]
    rw [along_bind, along_call]
    refine fun code => ⟨_, .logsIn .., ?_⟩
    by_cases hcode : code = .ok
    · rw [if_pos hcode, if_neg (not_not.mpr hcode), along_bind, along_touch]
      exact fun _ => ⟨.over, .notesLogin .., rfl, rfl⟩
    · rw [if_neg hcode, if_pos hcode]
      rfl

lemma obeys_logout :
    (logout slot session).Obeys m.id .fresh ((logout slot session).program m) := by
  rw [Obeys, program, along_bind, Module.logout, along_bind, along_touch]
  rintro (_ | i)
  · exact ⟨.over, .strays .., rfl, rfl⟩
  · refine ⟨.found, .finds _ _ _ i rfl, ?_⟩
    simp only [Option.isNone_some, Bool.false_eq_true, if_false]
    rw [along_bind, along_call]
    refine fun code => ⟨.found, .logsOut .., ?_⟩
    split_ifs
    · exact ⟨rfl, fun _ => ⟨.over, .notesLogout .., rfl⟩⟩
    · exact fun _ => ⟨.over, .notesLogout .., rfl⟩

/-- **Calls make turns only.** Whatever it is answered, a call goes through its phases from the
first to the last. -/
theorem obeys_program (d : Demand) : d.Obeys m.id .fresh (d.program m) := by
  cases d with
  | openSession slot readWrite => exact obeys_openSession m slot readWrite
  | closeSession slot session => exact obeys_closeSession m slot session
  | login slot session user secret => exact obeys_login m slot session user secret
  | logout slot session => exact obeys_logout m slot session

end Demand

end Cryptoki
