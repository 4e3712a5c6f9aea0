import Cryptoki.Proofs.Host.Agreement
import Cryptoki.Proofs.Host.Balance
import Cryptoki.Proofs.Host.Rounds
import Cryptoki.Proofs.Module.Sessions

/-!
What holds while many threads work on one slot of the library in memory.

The registries, the library and the table of sessions each have their own relation to what the
threads have come to: a thread that holds a reference is one of those counted, the sessions of the
threads are the numbers given out so far, no two threads have the same one, and the table tracks
what it tracked before and the sessions that threads have noted. Every deed that a thread can come
to succeeds, and keeps all three.
-/

namespace Cryptoki

open Process Program

/-- The library lets anybody open sessions of the slot, log in and out, and close them. -/
structure Simulated.State.Serves (s : Simulated.State) (slot : SlotId) : Prop where
  running : s.running = true
  opens : s.behaviour.openSessionCode = .ok
  closes : s.behaviour.closeSessionCode = .ok
  logsIn : s.behaviour.loginCode = .ok
  logsOut : s.behaviour.logoutCode = .ok
  place : (s.place? slot).isSome

namespace Simulated.State.Serves

variable {s : Simulated.State} {slot : SlotId} {session : SessionId}

/-- Neither the record of the calls nor the sessions decide what the library lets anybody do. -/
lemma goes (h : s.Serves slot) (calls : Simulated.Calls) (nextSession : SessionId)
    (sessions : List SessionId) : State.Serves { s with calls, nextSession, sessions } slot :=
  ⟨h.running, h.opens, h.closes, h.logsIn, h.logsOut, h.place⟩

lemma openSession (h : s.Serves slot) :
    Simulated.openSession slot serialSession false false true s =
      (⟨.ok, some s.nextSession⟩, { s with
        calls.openSession := ⟨slot, serialSession, false, false⟩ :: s.calls.openSession
        nextSession := s.nextSession + 1
        sessions := s.sessions ++ [s.nextSession] }) := by
  have hplace : (s.place? slot).isNone = false := by
    rw [← Option.not_isSome, h.place]
    rfl
  have hserial : Flags.has serialSession serialSession = true := by decide
  have hstill : (State.place? { s with
      calls.openSession := ⟨slot, serialSession, false, false⟩ :: s.calls.openSession }
      slot).isNone = false := hplace
  simp [Simulated.openSession, h.running, hstill, hserial, h.opens]

lemma closeSession (h : s.Serves slot) (hsession : session ∈ s.sessions) :
    Simulated.closeSession session s = (.ok, { s with
      calls.closeSession := session :: s.calls.closeSession
      sessions := s.sessions.erase session }) := by
  simp [Simulated.closeSession, h.closes, hsession]

lemma login (h : s.Serves slot) (hsession : session ∈ s.sessions) (user : Word)
    (pin : Option Bytes) (length : Word) : (Simulated.login session user pin length s).1 = .ok := by
  simp [Simulated.login, h.logsIn, hsession]

end Simulated.State.Serves

/-- Whoever is logged in after a session was forgotten was logged in before. -/
lemma Sessions.isSome_logins_of_forget {t : Sessions} {slot other : SlotId} {session : SessionId}
    (h : ((t.forget slot session).2.logins.get? other).isSome) :
    (t.logins.get? other).isSome := by
  unfold forget at h
  rcases hfind : t.find slot session with _ | i
  · rwa [hfind] at h
  simp only [hfind] at h
  split_ifs at h
  · exact h
  · by_cases hother : other = slot
    · rw [hother, Assoc.get?_erase_self] at h
      cases h
    · rwa [Assoc.get?_erase_of_ne _ hother] at h

namespace Host

namespace Errand

/-- The session that a thread has to do with. -/
def Stage.session? : Stage → Option SessionId
  | .idle => none
  | .toTrack x | .noted x | .loggedIn x | .toClose x => some x

/-- The session that a thread has had tracked. -/
def Stage.noted? : Stage → Option SessionId
  | .noted x | .loggedIn x => some x
  | .idle | .toTrack _ | .toClose _ => none

def Stage.isLoggedIn : Stage → Bool
  | .loggedIn _ => true
  | _ => false

lemma Stage.session?_of_noted? {stage : Stage} {x : SessionId} (h : stage.noted? = some x) :
    stage.session? = some x := by
  cases stage <;> first | exact h | cases h

end Errand

/-- Both handles are good, and the module is alive. -/
structure Spot.Live (c : Spot) (p : Process) : Prop where
  module : p.modules.find? c.module = some c.m
  slot : p.slots.find? c.slot = some ⟨c.id, c.module⟩
  alive : 0 < p.references c.m.id

namespace Crowd

/-- The sessions that a crew of threads has opened. -/
def given (crew : List Errand) : List SessionId := crew.flatMap Errand.got

@[simp] lemma given_cons (e : Errand) (rest : List Errand) :
    given (e :: rest) = e.got ++ given rest := List.flatMap_cons

lemma given_fresh (n : ℕ) : given (List.replicate n .fresh) = [] := by
  simp [given, Errand.fresh]

lemma forall_fresh {P : Errand → Prop} (n : ℕ) (h : P .fresh) :
    ∀ e ∈ List.replicate n .fresh, P e :=
  fun _ he => List.eq_of_mem_replicate he ▸ h

/-! ### Registries -/

/-- The handles are good, and nobody but the threads has given up a reference to the module. -/
structure Posted (c : Spot) (crew : List Errand) (p : Process) : Prop where
  module : p.modules.find? c.module = some c.m
  slot : p.slots.find? c.slot = some ⟨c.id, c.module⟩
  references : crew.countP Errand.holding < p.references c.m.id

variable {c : Spot} {limit first : ℕ} {e after : Errand} {crew rest : List Errand} {p : Process}
  {x : SessionId}

lemma Posted.init (h : c.Live p) (n : ℕ) : Posted c (List.replicate n .fresh) p where
  module := h.module
  slot := h.slot
  references := by
    rw [List.countP_replicate]
    exact h.alive

lemma Posted.perm (h : Posted c crew p) {other : List Errand} (hperm : crew.Perm other) :
    Posted c other p :=
  { h with references := hperm.countP_eq _ ▸ h.references }

lemma Posted.head (h : Posted c (e :: rest) p) (hsame : after.holding = e.holding) :
    Posted c (after :: rest) p :=
  { h with
    references := by
      have hcount := h.references
      rw [List.countP_cons] at hcount ⊢
      rwa [hsame] }

/-- An access to sessions leaves the registries and the references alone. -/
lemma Posted.sessions (h : Posted c crew p) (j : ModuleId) (a : Sessions.Access) :
    Posted c crew (Access.apply p (.sessions j a)).2 :=
  { h with references := (steady_apply p (.sessions j a) trivial).references c.m.id ▸ h.references }

lemma Posted.takes {got : List SessionId} {stage : Errand.Stage} {out : Bool}
    (h : Posted c (⟨got, false, stage, out⟩ :: rest) p) :
    Posted c (⟨got, true, stage, out⟩ :: rest) (Access.retain p c.m.id) :=
  { h with
    references := by
      have hcount := h.references
      rw [references_retain, one, if_pos rfl]
      simp only [List.countP_cons] at hcount ⊢
      simp only [Bool.false_eq_true, if_false, if_true] at hcount ⊢
      omega }

/-- A reference that a thread gives back is not the last. -/
lemma Posted.gives {got : List SessionId} {stage : Errand.Stage} {out : Bool}
    (h : Posted c (⟨got, true, stage, out⟩ :: rest) p) :
    (Access.apply p (.release c.m.id)).1 = false ∧
      Posted c (⟨got, false, stage, out⟩ :: rest) (Access.apply p (.release c.m.id)).2 := by
  have hcount := h.references
  simp only [List.countP_cons, if_true] at hcount
  constructor
  · show (p.references c.m.id - 1 == 0) = false
    rw [beq_eq_false_iff_ne]
    omega
  · refine { h with references := ?_ }
    rw [references_release, one, if_pos rfl]
    simp only [List.countP_cons, Bool.false_eq_true, if_false]
    omega

/-! ### The library -/

/-- The numbers given to the threads are those from `first` on, and what a thread has to do with
is open. -/
structure Served (slot : SlotId) (limit first : ℕ) (crew : List Errand) (s : Simulated.State) :
    Prop where
  serves : s.Serves slot
  positive : 0 < first
  room : first + crew.length * limit ≤ 2 ^ 64
  next : s.nextSession = UInt64.ofNat (first + (given crew).length)
  numbers : ((given crew).map UInt64.toNat).Perm (List.range' first (given crew).length)
  modest : ∀ e ∈ crew, e.got.length ≤ limit
  own : ∀ e ∈ crew, ∀ x, e.stage.session? = some x → x ∈ e.got
  opened : ∀ e ∈ crew, ∀ x, e.stage.session? = some x → x ∈ s.sessions

variable {slot : SlotId} {s : Simulated.State}

lemma Served.init (h : s.Serves slot) (hnext : s.nextSession ≠ 0) {n : ℕ}
    (hroom : s.nextSession.toNat + n * limit ≤ 2 ^ 64) :
    Served slot limit s.nextSession.toNat (List.replicate n .fresh) s where
  serves := h
  positive := Nat.pos_of_ne_zero fun hzero => hnext (UInt64.toNat_inj.mp hzero)
  room := by rwa [List.length_replicate]
  next := by
    rw [given_fresh, List.length_nil, Nat.add_zero, UInt64.ofNat_toNat]
  numbers := by
    rw [given_fresh]
    exact List.Perm.refl _
  modest := forall_fresh n (Nat.zero_le _)
  own := forall_fresh n fun x hx => by cases hx
  opened := forall_fresh n fun x hx => by cases hx

lemma Served.perm (h : Served slot limit first crew s) {other : List Errand}
    (hperm : crew.Perm other) : Served slot limit first other s := by
  have hgiven : (given crew).Perm (given other) := hperm.flatMap_right _
  exact {
    serves := h.serves
    positive := h.positive
    room := hperm.length_eq ▸ h.room
    next := hgiven.length_eq ▸ h.next
    numbers := (hgiven.map _).symm.trans (hgiven.length_eq ▸ h.numbers)
    modest := fun e he => h.modest e (hperm.mem_iff.mpr he)
    own := fun e he => h.own e (hperm.mem_iff.mpr he)
    opened := fun e he => h.opened e (hperm.mem_iff.mpr he) }

lemma Served.nodup (h : Served slot limit first crew s) : (given crew).Nodup :=
  List.Nodup.of_map _ (h.numbers.nodup_iff.mpr List.nodup_range')

lemma Served.first_le (h : Served slot limit first crew s) (he : e ∈ crew) (hx : x ∈ e.got) :
    first ≤ x.toNat := by
  have hmem : x.toNat ∈ (given crew).map UInt64.toNat :=
    List.mem_map_of_mem (List.mem_flatMap.mpr ⟨e, he, hx⟩)
  obtain ⟨i, -, hi⟩ := List.mem_range'.mp (h.numbers.mem_iff.mp hmem)
  omega

/-- No other thread has to do with the session of a thread. -/
lemma Served.apart (h : Served slot limit first (e :: rest) s) (hx : e.stage.session? = some x) :
    ∀ f ∈ rest, f.stage.session? ≠ some x := by
  intro f hf hfx
  have hnodup := h.nodup
  rw [given_cons, List.nodup_append'] at hnodup
  have hmine : x ∈ e.got := h.own e List.mem_cons_self x hx
  have htheirs : x ∈ given rest :=
    List.mem_flatMap.mpr ⟨f, hf, h.own f (List.mem_cons_of_mem _ hf) x hfx⟩
  exact hnodup.2.2 hmine htheirs

lemma Served.head (h : Served slot limit first (e :: rest) s) (hgot : after.got = e.got)
    (hsession : ∀ x, after.stage.session? = some x → e.stage.session? = some x) :
    Served slot limit first (after :: rest) s := by
  obtain ⟨hserves, hpositive, hroom, hnext, hnumbers, hmodest, hown, hopened⟩ := h
  have hgiven : given (after :: rest) = given (e :: rest) := by
    simp [given, hgot]
  simp only [List.forall_mem_cons] at hmodest hown hopened
  refine ⟨hserves, hpositive, hroom, hgiven ▸ hnext, hgiven ▸ hnumbers, ?_, ?_, ?_⟩
  · exact List.forall_mem_cons.mpr ⟨hgot ▸ hmodest.1, hmodest.2⟩
  · exact List.forall_mem_cons.mpr ⟨fun x hx => hgot ▸ hown.1 x (hsession x hx), hown.2⟩
  · exact List.forall_mem_cons.mpr ⟨fun x hx => hopened.1 x (hsession x hx), hopened.2⟩

/-- The record of the calls may go on. -/
lemma Served.recorded (h : Served slot limit first crew s) (calls : Simulated.Calls) :
    Served slot limit first crew { s with calls } :=
  ⟨h.serves.goes calls _ _, h.positive, h.room, h.next, h.numbers, h.modest, h.own, h.opened⟩

lemma length_given_le (h : ∀ e ∈ crew, e.got.length ≤ limit) :
    (given crew).length ≤ crew.length * limit := by
  induction crew with
  | nil => exact Nat.zero_le _
  | cons e rest ih =>
    obtain ⟨hself, hrest⟩ := List.forall_mem_cons.mp h
    have hlater := ih hrest
    rw [given_cons, List.length_append, List.length_cons, Nat.succ_mul]
    omega

/-- The next number is one that fits. -/
lemma Served.toNat_next (h : Served slot limit first (e :: rest) s) (hgot : e.got.length < limit) :
    s.nextSession.toNat = first + (given (e :: rest)).length := by
  have hroom := h.room
  have hlater := length_given_le (List.forall_mem_cons.mp h.modest).2
  rw [List.length_cons, Nat.succ_mul] at hroom
  have hcount : (given (e :: rest)).length = e.got.length + (given rest).length := by
    rw [given_cons, List.length_append]
  rw [h.next, UInt64.toNat_ofNat']
  exact Nat.mod_eq_of_lt (by omega)

/-- A thread that may still open a session is given the next number. -/
lemma Served.opens {got : List SessionId} {holding out : Bool}
    (h : Served slot limit first (⟨got, holding, .idle, out⟩ :: rest) s)
    (hgot : got.length < limit) :
    s.nextSession ≠ 0 ∧ ∀ calls, Served slot limit first
      (⟨got ++ [s.nextSession], holding, .toTrack s.nextSession, out⟩ :: rest)
      { s with
        calls
        nextSession := s.nextSession + 1
        sessions := s.sessions ++ [s.nextSession] } := by
  have hnumber := h.toNat_next hgot
  obtain ⟨hserves, hpositive, hroom, hnext, hnumbers, hmodest, hown, hopened⟩ := h
  simp only [List.forall_mem_cons] at hmodest hown hopened
  set x := s.nextSession
  set before := given (⟨got, holding, .idle, out⟩ :: rest)
  have hperm : (given (⟨got ++ [x], holding, .toTrack x, out⟩ :: rest)).Perm (before ++ [x]) := by
    simp only [before, given_cons, List.append_assoc]
    exact List.Perm.append_left got List.perm_append_comm
  have hlength := hperm.length_eq
  rw [List.length_append, List.length_singleton] at hlength
  refine ⟨fun hzero => ?_, fun calls => ?_⟩
  · rw [hzero] at hnumber
    have hpos : 0 < (0 : SessionId).toNat := by omega
    simp at hpos
  refine ⟨hserves.goes calls _ _, hpositive, hroom, ?_, ?_, ?_, ?_, ?_⟩
  · show x + 1 = _
    rw [hlength, ← Nat.add_assoc, UInt64.ofNat_add, hnext]
    rfl
  · rw [hlength, List.range'_concat]
    refine (hperm.map _).trans ?_
    rw [List.map_append]
    refine hnumbers.append ?_
    rw [List.map_singleton, hnumber, Nat.one_mul]
  · refine List.forall_mem_cons.mpr ⟨?_, hmodest.2⟩
    rw [List.length_append, List.length_singleton]
    omega
  · refine List.forall_mem_cons.mpr ⟨fun y hy => ?_, hown.2⟩
    obtain rfl := Option.some.inj hy
    exact List.mem_append_right _ List.mem_cons_self
  · refine List.forall_mem_cons.mpr ⟨fun y hy => ?_, fun f hf y hy => ?_⟩
    · obtain rfl := Option.some.inj hy
      exact List.mem_append_right _ List.mem_cons_self
    · exact List.mem_append_left _ (hopened.2 f hf y hy)

/-- A thread closes a session of its own, and the others keep theirs. -/
lemma Served.closes {got : List SessionId} {holding out : Bool}
    (h : Served slot limit first (⟨got, holding, .toClose x, out⟩ :: rest) s)
    (calls : Simulated.Calls) : Served slot limit first (⟨got, holding, .idle, out⟩ :: rest)
      { s with calls, sessions := s.sessions.erase x } := by
  have hothers := h.apart rfl
  have hstill : Served slot limit first (⟨got, holding, .idle, out⟩ :: rest) s :=
    h.head rfl fun y hy => by cases hy
  refine { hstill with
    serves := hstill.serves.goes calls _ _
    opened := ?_ }
  refine List.forall_mem_cons.mpr ⟨fun y hy => (by cases hy), fun f hf y hy => ?_⟩
  have hne : y ≠ x := by
    rintro rfl
    exact hothers f hf hy
  exact (List.mem_erase_of_ne hne).mpr (hstill.opened f (List.mem_cons_of_mem _ hf) y hy)

/-! ### The table -/

/-- The table tracks what it tracked at the start and what the threads have noted. Once a thread has
logged out, nobody is logged in to the slot but a thread that is going to log out. -/
structure Kept (slot : SlotId) (first : ℕ) (start : Sessions) (crew : List Errand) (t : Sessions) :
    Prop where
  old : ∀ x k, start.tracked.get? x = some k → x.toNat < first
  noted : ∀ e ∈ crew, ∀ x, e.stage.noted? = some x → t.tracked.get? x = some ⟨slot, false⟩
  others : ∀ x, (∀ e ∈ crew, e.stage.noted? ≠ some x) → t.tracked.get? x = start.tracked.get? x
  logins : (∃ e ∈ crew, e.loggedOut) → (t.logins.get? slot).isSome → ∃ e ∈ crew, e.stage.isLoggedIn

variable {start t : Sessions}

lemma Kept.init (hold : ∀ x k, start.tracked.get? x = some k → x.toNat < first) (n : ℕ) :
    Kept slot first start (List.replicate n .fresh) start where
  old := hold
  noted := forall_fresh n fun x hx => by cases hx
  others _ _ := rfl
  logins := by
    rintro ⟨e, he, hout⟩
    rw [List.eq_of_mem_replicate he] at hout
    cases hout

lemma Kept.perm (h : Kept slot first start crew t) {other : List Errand}
    (hperm : crew.Perm other) : Kept slot first start other t where
  old := h.old
  noted e he := h.noted e (hperm.mem_iff.mpr he)
  others x hx := h.others x fun e he => hx e (hperm.mem_iff.mp he)
  logins := by
    have hlogins := h.logins
    simp only [hperm.mem_iff] at hlogins
    exact hlogins

lemma Kept.head (h : Kept slot first start (e :: rest) t)
    (hnoted : after.stage.noted? = e.stage.noted?) (hout : after.loggedOut = e.loggedOut)
    (hin : after.stage.isLoggedIn = e.stage.isLoggedIn) :
    Kept slot first start (after :: rest) t := by
  obtain ⟨hold, hall, hothers, hlogins⟩ := h
  simp only [List.forall_mem_cons, List.exists_mem_cons_iff] at hall hothers hlogins
  refine ⟨hold, ?_, ?_, ?_⟩
  · simpa only [List.forall_mem_cons, hnoted] using hall
  · simpa only [List.forall_mem_cons, hnoted] using hothers
  · simpa only [List.exists_mem_cons_iff, hout, hin] using hlogins

/-- A session that a thread was given is not one that was tracked before. -/
lemma Kept.fresh (h : Kept slot first start crew t) (hx : first ≤ x.toNat) :
    start.tracked.get? x = none := by
  rcases hget : start.tracked.get? x with _ | k
  · rfl
  · have := h.old x k hget
    omega

variable {got : List SessionId} {holding out : Bool}

lemma Kept.tracks (h : Kept slot first start (⟨got, holding, .toTrack x, out⟩ :: rest) t)
    (hapart : ∀ f ∈ rest, f.stage.session? ≠ some x) :
    Kept slot first start (⟨got, holding, .noted x, out⟩ :: rest) (t.track x slot false) := by
  obtain ⟨hold, hall, hothers, hlogins⟩ := h
  simp only [List.forall_mem_cons, List.exists_mem_cons_iff] at hall hothers hlogins
  refine ⟨hold, ?_, fun y hy => ?_, ?_⟩
  · refine List.forall_mem_cons.mpr ⟨fun y hy => ?_, fun f hf y hy => ?_⟩
    · obtain rfl := Option.some.inj hy
      rw [Sessions.get?_track, if_pos rfl]
    · have hne : y ≠ x := by
        rintro rfl
        exact hapart f hf (Errand.Stage.session?_of_noted? hy)
      rw [Sessions.get?_track, if_neg hne]
      exact hall.2 f hf y hy
  · obtain ⟨hself, hrest⟩ := List.forall_mem_cons.mp hy
    have hne : y ≠ x := by
      rintro rfl
      exact hself rfl
    rw [Sessions.get?_track, if_neg hne]
    exact hothers y ⟨by simp [Errand.Stage.noted?], hrest⟩
  · rw [List.exists_mem_cons_iff, List.exists_mem_cons_iff, Sessions.logins_track]
    exact hlogins

lemma Kept.forgets (h : Kept slot first start (⟨got, holding, .noted x, out⟩ :: rest) t)
    (hx : first ≤ x.toNat) (hapart : ∀ f ∈ rest, f.stage.session? ≠ some x) :
    (t.forget slot x).1 = true ∧
      Kept slot first start (⟨got, holding, .toClose x, out⟩ :: rest) (t.forget slot x).2 := by
  have hfresh := h.fresh hx
  obtain ⟨hold, hall, hothers, hlogins⟩ := h
  simp only [List.forall_mem_cons, List.exists_mem_cons_iff] at hall hothers hlogins
  have hfind : (t.find slot x).isSome := Sessions.find_isSome.mpr ⟨false, hall.1 x rfl⟩
  refine ⟨(t.forget_fst slot x).trans hfind, ⟨hold, ?_, fun y hy => ?_, fun hout hin => ?_⟩⟩
  · refine List.forall_mem_cons.mpr ⟨fun y hy => (by cases hy), fun f hf y hy => ?_⟩
    have hne : y ≠ x := by
      rintro rfl
      exact hapart f hf (Errand.Stage.session?_of_noted? hy)
    rw [Sessions.get?_forget hfind, if_neg hne]
    exact hall.2 f hf y hy
  · rw [Sessions.get?_forget hfind]
    split_ifs with hyx
    · rw [hyx, hfresh]
    · refine hothers y ⟨fun hc => hyx (Option.some.inj hc).symm, (List.forall_mem_cons.mp hy).2⟩
  · rw [List.exists_mem_cons_iff] at hout ⊢
    exact hlogins hout (Sessions.isSome_logins_of_forget hin)

lemma Kept.notesLogin (h : Kept slot first start (⟨got, holding, .noted x, out⟩ :: rest) t) :
    Kept slot first start (⟨got, holding, .loggedIn x, out⟩ :: rest) (t.logIn slot .normal) where
  old := h.old
  noted := by
    simpa only [List.forall_mem_cons, Sessions.tracked_logIn, Errand.Stage.noted?] using h.noted
  others := by
    simpa only [List.forall_mem_cons, Sessions.tracked_logIn, Errand.Stage.noted?] using h.others
  logins _ _ := ⟨_, List.mem_cons_self, rfl⟩

lemma Kept.notesLogout (h : Kept slot first start (⟨got, holding, .loggedIn x, out⟩ :: rest) t) :
    Kept slot first start (⟨got, holding, .noted x, true⟩ :: rest) (t.logOut slot) where
  old := h.old
  noted := by
    simpa only [List.forall_mem_cons, Sessions.tracked_logOut, Errand.Stage.noted?] using h.noted
  others := by
    simpa only [List.forall_mem_cons, Sessions.tracked_logOut, Errand.Stage.noted?] using h.others
  logins _ hin := by
    rw [Sessions.logins_logOut, if_pos rfl] at hin
    cases hin

/-! ### All together -/

/-- The threads have come to these states, in a world of the library in memory. -/
structure Working (c : Spot) (limit first : ℕ) (start : Sessions) (crew : List Errand)
    (w : World (Installed.Beside Simulated.Timeline)) : Prop where
  posted : Posted c crew w.process
  served : Served c.id limit first crew w.outside.supplied.library
  kept : Kept c.id first start crew (w.process.sessionsOf c.m.id)

variable {w : World (Installed.Beside Simulated.Timeline)}

lemma Working.perm (h : Working c limit first start crew w) {other : List Errand}
    (hperm : crew.Perm other) : Working c limit first start other w :=
  ⟨h.posted.perm hperm, h.served.perm hperm, h.kept.perm hperm⟩

/-- An access to the sessions of the module concerns nothing but the table. -/
lemma Working.touches (h : Working c limit first start (e :: rest) w) (a : Sessions.Access)
    (hgot : after.got = e.got) (hholding : after.holding = e.holding)
    (hsession : ∀ x, after.stage.session? = some x → e.stage.session? = some x)
    (hkept : Kept c.id first start (after :: rest) (a.apply (w.process.sessionsOf c.m.id)).2) :
    Working c limit first start (after :: rest)
      { w with process := (Access.apply w.process (.sessions c.m.id a)).2 } where
  posted := (h.posted.sessions c.m.id a).head hholding
  served := h.served.head hgot hsession
  kept := by
    rw [sessionsOf_touch]
    exact hkept

/-- **An access that a thread can come to succeeds**, and all stays in order. -/
lemma Working.accessed (h : Working c limit first start (e :: rest) w) {a : Access} {y : a.Answer}
    (ht : Errand.Turn c limit e (.accessed a y) after) :
    ∃ after, Errand.Turn c limit e (.accessed a (a.apply w.process).1) after ∧
      Working c limit first start (after :: rest)
        { w with process := (a.apply w.process).2 } := by
  have ⟨hposted, hserved, hkept⟩ := h
  cases ht with
  | takes got stage out =>
    have happly : Access.apply w.process (.resolveModule c.module) =
        (.ok c.m, Access.retain w.process c.m.id) := by
      simp [Access.apply, resolve_some hposted.module]
    have hsessions := sessionsOf_retain w.process c.m.id c.m.id
    rw [happly]
    exact ⟨_, .takes got stage out, hposted.takes, hserved.head rfl fun _ hx => hx,
      hsessions ▸ hkept.head rfl rfl rfl⟩
  | looks =>
    have happly : Access.apply w.process (.resolveSlot c.slot) =
        (.ok ⟨c.id, c.module⟩, w.process) := by
      simp [Access.apply, resolve_some hposted.slot]
    rw [happly]
    exact ⟨_, .looks e, hposted, hserved, hkept⟩
  | gives got stage out =>
    obtain ⟨hlast, hafter⟩ := hposted.gives
    have hsessions := sessionsOf_apply_release w.process c.m.id c.m.id
    rw [hlast]
    exact ⟨_, .gives got stage out, hafter, hserved.head rfl fun _ hx => hx,
      hsessions ▸ hkept.head rfl rfl rfl⟩
  | tracks got holding out session =>
    exact ⟨_, .tracks got holding out session, h.touches _ rfl rfl (fun _ hx => hx)
      (hkept.tracks (hserved.apart rfl))⟩
  | finds _ session _ known =>
    have hnoted : e.stage.noted? = some session := by
      rcases known with hstage | hstage <;> rw [hstage] <;> rfl
    have htracked := hkept.noted e List.mem_cons_self session hnoted
    obtain ⟨i, hfound⟩ := Option.isSome_iff_exists.mp (Sessions.find_isSome.mpr ⟨false, htracked⟩)
    have hanswer : (Access.apply w.process (.sessions c.m.id (.find c.id session))).1 = some i :=
      hfound
    rw [hanswer]
    exact ⟨_, .finds e session i known, h.touches _ rfl rfl (fun _ hx => hx) hkept⟩
  | notesLogin got holding out session =>
    exact ⟨_, .notesLogin got holding out session, h.touches _ rfl rfl (fun _ hx => hx)
      hkept.notesLogin⟩
  | notesLogout got holding out session =>
    exact ⟨_, .notesLogout got holding out session, h.touches _ rfl rfl (fun _ hx => hx)
      hkept.notesLogout⟩
  | forgets got holding out session =>
    have hmine := hserved.own _ List.mem_cons_self session rfl
    obtain ⟨hknown, hafter⟩ :=
      hkept.forgets (hserved.first_le List.mem_cons_self hmine) (hserved.apart rfl)
    have hanswer : (Access.apply w.process (.sessions c.m.id (.forget c.id session))).1 = true :=
      hknown
    rw [hanswer]
    exact ⟨_, .forgets got holding out session, h.touches _ rfl rfl (fun _ hx => hx) hafter⟩

/-- **A request that a thread can come to succeeds**, and all stays in order. -/
lemma Working.asked (h : Working c limit first start (e :: rest) w) {r : Request} {y : r.Answer}
    (ht : Errand.Turn c limit e (.asked r y) after) :
    ∃ after, Errand.Turn c limit e (.asked r (Site.mock.answer r w.outside).1) after ∧
      Working c limit first start (after :: rest)
        { w with outside := (Site.mock.answer r w.outside).2 } := by
  obtain ⟨hposted, hserved, hkept⟩ := h
  set lib := w.outside.supplied.library with hlib
  cases ht with
  | opens got holding out session hgiven hroom =>
    obtain ⟨hnonzero, hopens⟩ := hserved.opens hroom
    have hreply := hserved.serves.openSession
    refine ⟨⟨got ++ [lib.nextSession], holding, .toTrack lib.nextSession, out⟩, ?_, ?_⟩
    · have hanswer : (Site.mock.answer (.call c.m.id
          (.openSession c.id serialSession false false true)) w.outside).1 =
          ⟨.ok, some lib.nextSession⟩ := congrArg Prod.fst hreply
      rw [hanswer]
      exact .opens got holding out lib.nextSession hnonzero hroom
    · refine ⟨hposted.head rfl, ?_, hkept.head rfl rfl rfl⟩
      show Served _ _ _ _ (Simulated.openSession c.id serialSession false false true lib).2
      rw [hreply]
      exact hopens _
  | logsIn got holding out session pin length =>
    have hopen := hserved.opened _ List.mem_cons_self session rfl
    have hanswer : (Site.mock.answer (.call c.m.id (.login session User.normal.code pin length))
        w.outside).1 = Code.ok :=
      hserved.serves.login hopen User.normal.code pin length
    rw [hanswer]
    exact ⟨_, .logsIn got holding out session pin length, hposted, hserved.recorded _, hkept⟩
  | logsOut got holding out session =>
    have hanswer : (Site.mock.answer (.call c.m.id (.logout session)) w.outside).1 = Code.ok :=
      hserved.serves.logsOut
    rw [hanswer]
    exact ⟨_, .logsOut got holding out session, hposted, hserved.recorded _, hkept⟩
  | closes got holding out session =>
    have hreply := hserved.serves.closeSession (hserved.opened _ List.mem_cons_self session rfl)
    have hanswer : (Site.mock.answer (.call c.m.id (.closeSession session)) w.outside).1 =
        Code.ok := congrArg Prod.fst hreply
    rw [hanswer]
    refine ⟨_, .closes got holding out session, hposted.head rfl, ?_, hkept.head rfl rfl rfl⟩
    show Served _ _ _ _ (Simulated.closeSession session lib).2
    rw [hreply]
    exact hserved.closes _

end Crowd

end Host

end Cryptoki
