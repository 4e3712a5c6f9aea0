import Cryptoki.Host
import Cryptoki.Proofs.Program.Deeds

/-!
What a thread does that runs rounds of opening, logging in and out, and closing.

Between two steps of a thread the others go on, so what is known of a thread is what it has come to
itself: the sessions it has opened, whether it refers to the module, and where it is in its round. A
thread whose deeds all succeed makes turns from one such state to the next, writes only lines for
those who debug, and is through with a round after a fixed number of steps.
-/

namespace Cryptoki.Host

open Program

variable {α β : Type}

/-- A slot of a module, and the handles of both. -/
structure Spot where
  module : Handle
  slot : Handle
  m : Module
  id : SlotId

namespace Errand

/-- Where a thread is in its round. -/
inductive Stage where
  | idle
  /-- A session has been opened that is not tracked yet. -/
  | toTrack (session : SessionId)
  /-- The session is tracked, and the thread is not logged in. -/
  | noted (session : SessionId)
  | loggedIn (session : SessionId)
  /-- A session has been forgotten that is not closed yet. -/
  | toClose (session : SessionId)

end Errand

/-- What a thread has come to. -/
structure Errand where
  /-- The sessions it has opened, in their order. -/
  got : List SessionId
  /-- It has a reference to the module. -/
  holding : Bool
  stage : Errand.Stage
  /-- It has logged out once at least. -/
  loggedOut : Bool

/-- A thread that has done nothing yet. -/
def Errand.fresh : Errand := ⟨[], false, .idle, false⟩

namespace Errand

/-- A deed of a thread that succeeds, and what the thread has come to before and after it. A thread
opens no more than `limit` sessions. -/
inductive Turn (c : Spot) (limit : ℕ) : Errand → Deed → Errand → Prop
  | takes (got : List SessionId) (stage : Stage) (out : Bool) :
    Turn c limit ⟨got, false, stage, out⟩ (.accessed (.resolveModule c.module) (.ok c.m))
      ⟨got, true, stage, out⟩
  | looks (e : Errand) :
    Turn c limit e (.accessed (.resolveSlot c.slot) (.ok ⟨c.id, c.module⟩)) e
  | gives (got : List SessionId) (stage : Stage) (out : Bool) :
    Turn c limit ⟨got, true, stage, out⟩ (.accessed (.release c.m.id) false)
      ⟨got, false, stage, out⟩
  | opens (got : List SessionId) (holding out : Bool) (session : SessionId) (given : session ≠ 0)
      (room : got.length < limit) :
    Turn c limit ⟨got, holding, .idle, out⟩
      (.asked (.call c.m.id (.openSession c.id serialSession false false true))
        ⟨.ok, some session⟩)
      ⟨got ++ [session], holding, .toTrack session, out⟩
  | tracks (got : List SessionId) (holding out : Bool) (session : SessionId) :
    Turn c limit ⟨got, holding, .toTrack session, out⟩
      (.accessed (.sessions c.m.id (.track session c.id false)) ())
      ⟨got, holding, .noted session, out⟩
  | finds (e : Errand) (session : SessionId) (i : SessionInfo)
      (known : e.stage = .noted session ∨ e.stage = .loggedIn session) :
    Turn c limit e (.accessed (.sessions c.m.id (.find c.id session)) (some i)) e
  | logsIn (got : List SessionId) (holding out : Bool) (session : SessionId) (pin : Option Bytes)
      (length : Word) :
    Turn c limit ⟨got, holding, .noted session, out⟩
      (.asked (.call c.m.id (.login session User.normal.code pin length)) Code.ok)
      ⟨got, holding, .noted session, out⟩
  | notesLogin (got : List SessionId) (holding out : Bool) (session : SessionId) :
    Turn c limit ⟨got, holding, .noted session, out⟩
      (.accessed (.sessions c.m.id (.logIn c.id .normal)) ())
      ⟨got, holding, .loggedIn session, out⟩
  | logsOut (got : List SessionId) (holding out : Bool) (session : SessionId) :
    Turn c limit ⟨got, holding, .loggedIn session, out⟩
      (.asked (.call c.m.id (.logout session)) Code.ok) ⟨got, holding, .loggedIn session, out⟩
  | notesLogout (got : List SessionId) (holding out : Bool) (session : SessionId) :
    Turn c limit ⟨got, holding, .loggedIn session, out⟩
      (.accessed (.sessions c.m.id (.logOut c.id)) ()) ⟨got, holding, .noted session, true⟩
  | forgets (got : List SessionId) (holding out : Bool) (session : SessionId) :
    Turn c limit ⟨got, holding, .noted session, out⟩
      (.accessed (.sessions c.m.id (.forget c.id session)) true)
      ⟨got, holding, .toClose session, out⟩
  | closes (got : List SessionId) (holding out : Bool) (session : SessionId) :
    Turn c limit ⟨got, holding, .toClose session, out⟩
      (.asked (.call c.m.id (.closeSession session)) Code.ok) ⟨got, holding, .idle, out⟩

variable {c : Spot} {limit n k l : ℕ} {e : Errand} {p : Program α} {f : α → Program β}

/-- As long as its deeds are turns, the program ends after this many steps, and never comes to a
deed that can be none. -/
def Goes (c : Spot) (limit : ℕ) : ℕ → Errand → Program α → (α → Errand → Prop) → Prop
  | n, e, .done a, ending => n = 0 ∧ ending a e
  | n, e, .request r next, ending => ∃ k, n = k + 1 ∧
    (∃ x after, Turn c limit e (.asked r x) after) ∧
      ∀ x after, Turn c limit e (.asked r x) after → Goes c limit k after (next x) ending
  | n, e, .access a next, ending => ∃ k, n = k + 1 ∧
    (∃ x after, Turn c limit e (.accessed a x) after) ∧
      ∀ x after, Turn c limit e (.accessed a x) after → Goes c limit k after (next x) ending
  | n, e, .log line next, ending => ∃ k, n = k + 1 ∧ line.level = .debug ∧
    Goes c limit k e next ending

lemma Goes.bind {mid : α → Errand → Prop} {ending : β → Errand → Prop}
    (hp : Goes c limit n e p mid) (hl : n + k = l)
    (hf : ∀ a after, mid a after → Goes c limit k after (f a) ending) :
    Goes c limit l e (p >>= f) ending := by
  subst hl
  show Goes c limit (n + k) e (p.bind f) ending
  induction p generalizing n e with
  | done a =>
    obtain ⟨rfl, hmid⟩ := hp
    rw [Nat.zero_add]
    exact hf a e hmid
  | request r next ih =>
    obtain ⟨j, rfl, hturn, hnext⟩ := hp
    exact ⟨j + k, by omega, hturn, fun x after ht => ih x (hnext x after ht)⟩
  | access a next ih =>
    obtain ⟨j, rfl, hturn, hnext⟩ := hp
    exact ⟨j + k, by omega, hturn, fun x after ht => ih x (hnext x after ht)⟩
  | log line next ih =>
    obtain ⟨j, rfl, hlevel, hnext⟩ := hp
    exact ⟨j + k, by omega, hlevel, ih hnext⟩

lemma goes_pure {a : α} {ending : α → Errand → Prop} (h : ending a e) :
    Goes c limit 0 e (pure a) ending := ⟨rfl, h⟩

lemma goes_touch {a : Process.Access} {f : a.Answer → Program β} {ending : β → Errand → Prop}
    (hturn : ∃ x after, Turn c limit e (.accessed a x) after)
    (h : ∀ x after, Turn c limit e (.accessed a x) after → Goes c limit k after (f x) ending) :
    Goes c limit (k + 1) e (touch a >>= f) ending := ⟨k, rfl, hturn, h⟩

lemma goes_call {m : ModuleId} {d : Call} {f : d.Answer → Program β} {ending : β → Errand → Prop}
    (hturn : ∃ x after, Turn c limit e (.asked (.call m d) x) after)
    (h : ∀ x after, Turn c limit e (.asked (.call m d) x) after →
      Goes c limit k after (f x) ending) :
    Goes c limit (k + 1) e (call m d >>= f) ending := ⟨k, rfl, hturn, h⟩

lemma goes_say {source : Log.Source} {text : String} {f : Unit → Program β}
    {ending : β → Errand → Prop} (h : Goes c limit k e (f ()) ending) :
    Goes c limit (k + 1) e (say .debug source text >>= f) ending := ⟨k, rfl, rfl, h⟩

/-! ### Calls to the module -/

variable {got : List SessionId} {holding out : Bool} {session : SessionId} {stage : Stage}

lemma goes_openSession {ending : Except Fault SessionId → Errand → Prop}
    (hroom : got.length < limit)
    (h : ∀ session, ending (.ok session) ⟨got ++ [session], holding, .noted session, out⟩) :
    Goes c limit 3 ⟨got, holding, .idle, out⟩ (c.m.openSession c.id false) ending := by
  refine goes_call ⟨_, _, .opens got holding out 1 (by decide) hroom⟩ fun r after ht => ?_
  cases ht with
  | opens _ _ _ session given =>
    simp only [Option.getD_some, ne_eq, not_true_eq_false, if_false, given]
    refine goes_touch ⟨_, _, .tracks _ _ _ _⟩ fun _ after ht => ?_
    cases ht
    exact goes_say (goes_pure (h session))

lemma goes_login {ending : Except Fault Unit → Errand → Prop} (secret : Bytes)
    (h : ending (.ok ()) ⟨got, holding, .loggedIn session, out⟩) :
    Goes c limit 4 ⟨got, holding, .noted session, out⟩
      (c.m.login c.id session .normal (some secret)) ending := by
  refine goes_touch ⟨_, _, .finds _ _ ⟨session, c.id, false, .unauthenticated⟩ (.inl rfl)⟩
    fun r after ht => ?_
  cases ht with
  | finds _ _ i =>
    simp only [Option.isNone_some, Bool.false_eq_true, if_false]
    refine goes_call ⟨_, _, .logsIn _ _ _ _ _ _⟩ fun code after ht => ?_
    cases ht
    simp only [ne_eq, not_true_eq_false, if_false]
    refine goes_touch ⟨_, _, .notesLogin _ _ _ _⟩ fun _ after ht => ?_
    cases ht
    exact goes_say (goes_pure h)

lemma goes_logout {ending : Unit → Errand → Prop}
    (h : ending () ⟨got, holding, .noted session, true⟩) :
    Goes c limit 3 ⟨got, holding, .loggedIn session, out⟩ (c.m.logout c.id session) ending := by
  refine goes_touch ⟨_, _, .finds _ _ ⟨session, c.id, false, .unauthenticated⟩ (.inr rfl)⟩
    fun r after ht => ?_
  cases ht with
  | finds _ _ i =>
    simp only [Option.isNone_some, Bool.false_eq_true, if_false]
    refine goes_call ⟨_, _, .logsOut _ _ _ _⟩ fun code after ht => ?_
    cases ht
    simp only [ne_eq, not_true_eq_false, if_false]
    refine goes_touch (f := pure) ⟨_, _, .notesLogout _ _ _ _⟩ fun _ after ht => ?_
    cases ht
    exact goes_pure h

lemma goes_closeSession {ending : Unit → Errand → Prop}
    (h : ending () ⟨got, holding, .idle, out⟩) :
    Goes c limit 3 ⟨got, holding, .noted session, out⟩ (c.m.closeSession c.id session) ending := by
  refine goes_touch ⟨_, _, .forgets _ _ _ _⟩ fun r after ht => ?_
  cases ht
  rw [if_pos rfl]
  refine goes_call ⟨_, _, .closes _ _ _ _⟩ fun code after ht => ?_
  cases ht
  exact goes_say (f := pure) (goes_pure h)

/-! ### Calls of the host -/

/-- The answer of a call that succeeds, and what the thread has then come to, apart from the
reference that the call has taken. -/
def Ends (ending : α → Errand → Prop) (r : α) (after : Errand) : Prop :=
  after.holding = true ∧ ending r { after with holding := false }

/-- A call takes two steps more: it takes a reference to the module and gives it back. -/
lemma goes_withModule {body : Module → Program (Except Fault α)}
    {ending : Except Fault α → Errand → Prop}
    (hbody : Goes c limit n ⟨got, true, stage, out⟩ (body c.m) (Ends ending)) :
    Goes c limit (n + 2) ⟨got, false, stage, out⟩ (withModule c.module body) ending := by
  refine goes_touch ⟨_, _, .takes _ _ _⟩ fun r after ht => ?_
  cases ht
  refine hbody.bind (k := 1) rfl ?_
  rintro r ⟨got, _, stage, out⟩ ⟨rfl, hending⟩
  refine goes_touch ⟨_, _, .gives _ _ _⟩ fun last after ht => ?_
  cases ht
  exact goes_pure hending

/-- In a call on a slot there is a third one, which looks for the slot. -/
lemma goes_withSlot {body : Module → SlotId → Program (Except Fault α)}
    {ending : Except Fault α → Errand → Prop}
    (hbody : Goes c limit n ⟨got, true, stage, out⟩ (body c.m c.id) (Ends ending)) :
    Goes c limit (n + 3) ⟨got, false, stage, out⟩ (withSlot c.module c.slot body) ending := by
  have hslot : Goes c limit 1 ⟨got, true, stage, out⟩ (slotOf c.module c.slot) fun r after =>
      r = .ok c.id ∧ after = ⟨got, true, stage, out⟩ := by
    refine goes_touch ⟨_, _, .looks _⟩ fun r after ht => ?_
    cases ht
    dsimp only
    rw [if_pos rfl]
    exact goes_pure ⟨rfl, rfl⟩
  refine goes_withModule (n := n + 1) (hslot.bind (Nat.add_comm 1 n) ?_)
  rintro _ _ ⟨rfl, rfl⟩
  exact hbody

lemma goes_opens (hroom : got.length < limit) :
    Goes c limit 6 ⟨got, false, .idle, out⟩ (Host.openSession c.module c.slot false) fun r after =>
      ∃ session, r = .ok session ∧ after = ⟨got ++ [session], false, .noted session, out⟩ :=
  goes_withSlot (n := 3) (goes_openSession hroom fun session => ⟨rfl, session, rfl, rfl⟩)

lemma goes_logsIn (secret : Bytes) :
    Goes c limit 7 ⟨got, false, .noted session, out⟩
      (Host.login c.module c.slot session .normal (some secret)) fun r after =>
      r = .ok () ∧ after = ⟨got, false, .loggedIn session, out⟩ :=
  goes_withSlot (n := 4) (goes_login secret ⟨rfl, rfl, rfl⟩)

lemma goes_logsOut :
    Goes c limit 6 ⟨got, false, .loggedIn session, out⟩ (Host.logout c.module c.slot session)
      fun r after => r = .ok () ∧ after = ⟨got, false, .noted session, true⟩ := by
  have hlogout : Goes c limit 3 ⟨got, true, .loggedIn session, out⟩ (c.m.logout c.id session)
      fun _ after => after = ⟨got, true, .noted session, true⟩ := goes_logout rfl
  refine goes_withSlot (n := 3) (hlogout.bind (k := 0) rfl ?_)
  rintro _ _ rfl
  exact goes_pure ⟨rfl, rfl, rfl⟩

lemma goes_closes :
    Goes c limit 6 ⟨got, false, .noted session, out⟩ (Host.closeSession c.module c.slot session)
      fun r after => r = .ok () ∧ after = ⟨got, false, .idle, out⟩ := by
  have hclose : Goes c limit 3 ⟨got, true, .noted session, out⟩ (c.m.closeSession c.id session)
      fun _ after => after = ⟨got, true, .idle, out⟩ := goes_closeSession rfl
  refine goes_withSlot (n := 3) (hclose.bind (k := 0) rfl ?_)
  rintro _ _ rfl
  exact goes_pure ⟨rfl, rfl, rfl⟩

/-- **A round takes 25 steps**, in which a session is opened and closed and the thread logs in and
out. -/
theorem goes_sessionRounds (secret : Bytes) (rounds : ℕ) (hroom : got.length + rounds ≤ limit) :
    Goes c limit (25 * rounds) ⟨got, false, .idle, out⟩
      (sessionRounds c.module c.slot secret rounds) fun r after =>
      ∃ sessions, r = .ok sessions ∧ sessions.length = rounds ∧
        after = ⟨got ++ sessions, false, .idle, out || decide (0 < rounds)⟩ := by
  induction rounds generalizing got out with
  | zero => exact goes_pure ⟨[], rfl, rfl, by simp⟩
  | succ rounds ih =>
    refine (goes_opens (by omega)).bind (k := 25 * rounds + 19) (by omega) ?_
    rintro _ _ ⟨session, rfl, rfl⟩
    refine (goes_logsIn secret).bind (k := 25 * rounds + 12) (by omega) ?_
    rintro _ _ ⟨rfl, rfl⟩
    refine goes_logsOut.bind (k := 25 * rounds + 6) (by omega) ?_
    rintro _ _ ⟨rfl, rfl⟩
    refine goes_closes.bind (k := 25 * rounds) (by omega) ?_
    rintro _ _ ⟨rfl, rfl⟩
    have hrest : (got ++ [session]).length + rounds ≤ limit := by
      rw [List.length_append, List.length_singleton]
      omega
    refine (ih hrest).bind (k := 0) rfl ?_
    rintro _ _ ⟨sessions, rfl, hlength, rfl⟩
    exact goes_pure ⟨session :: sessions, rfl, by rw [List.length_cons, hlength], by simp⟩

end Errand

end Cryptoki.Host
