import Cryptoki.Proofs.Module.Bounds
import Cryptoki.Proofs.Module.Callers

/-!
Logins and logouts that overtake each other.

The library serves a login or a logout, and the module notes it in its table afterwards. In between
another call on the slot may be served and noted. Nothing is lost by that: every call that was
served is noted once. But the state of the slot is that of the call that was noted last, and that
need not be the one that was served last.
-/

namespace Cryptoki

open Program
open scoped List

variable {α β σ : Type} {m : ModuleId} {slot : SlotId}

/-! ### What is served and what is noted -/

/-- The state of the slot that an access to the table of a module notes, if it notes one. -/
def Process.Access.notes? (m : ModuleId) (slot : SlotId) : Process.Access → Option SessionState
  | .sessions n (.logIn k user) =>
    if n = m ∧ k = slot ∧ user ≠ .contextSpecific then some (.authenticated user) else none
  | .sessions n (.logOut k) => if n = m ∧ k = slot then some .unauthenticated else none
  | _ => none

/-- Accesses to the table of a module that find sessions, and note logins and logouts. -/
def Process.Access.Relogs (m : ModuleId) : Process.Access → Prop
  | .sessions n (.find ..) | .sessions n (.logIn ..) | .sessions n (.logOut _) => n = m
  | _ => False

namespace Deed

/-- The state of the token that a call of the library leaves, if it is a login that lasts or a
logout and was served. -/
def serves? (m : ModuleId) : Deed → Option SessionState
  | .asked (.call n (.login _ code _ _)) answer =>
    if n = m ∧ answer = .ok then
      match User.ofCode code with
      | .ok user => if user = .contextSpecific then none else some (.authenticated user)
      | .error _ => none
    else none
  | .asked (.call n (.logout _)) answer =>
    if n = m ∧ answer = .ok then some .unauthenticated else none
  | _ => none

def notes? (m : ModuleId) (slot : SlotId) : Deed → Option SessionState
  | .accessed a _ => a.notes? m slot
  | .asked .. => none

/-- It is no login and no logout that the library of the module refused. -/
def Granted (m : ModuleId) : Deed → Prop
  | .asked (.call n (.login ..)) answer => n = m → answer = .ok
  | .asked (.call n (.logout _)) answer => n = m → answer = .ok
  | _ => True

end Deed

/-- What an access notes is the state of the slot from then on, and no session comes or goes. -/
lemma Process.Access.Relogs.apply {a : Process.Access} (ha : a.Relogs m) (p : Process) :
    ((a.apply p).2.sessionsOf m).stateOf slot =
        (a.notes? m slot).getD ((p.sessionsOf m).stateOf slot) ∧
      ((a.apply p).2.sessionsOf m).tracked = (p.sessionsOf m).tracked := by
  rcases a with _ | _ | _ | _ | _ | _ | _ | _ | _ | _ | _ | ⟨n, b⟩ | _ | _
  case sessions =>
    rcases b with _ | _ | _ | ⟨k, user⟩ | ⟨k⟩ | _ | _
    case find =>
      obtain rfl : n = m := ha
      rw [sessionsOf_touch]
      exact ⟨rfl, rfl⟩
    case logIn =>
      obtain rfl : n = m := ha
      rw [sessionsOf_touch]
      refine ⟨?_, Sessions.tracked_logIn _ _ _⟩
      show ((p.sessionsOf n).logIn k user).stateOf slot = _
      rw [Sessions.stateOf, Sessions.logins_logIn]
      by_cases hnotes : slot = k ∧ user ≠ .contextSpecific
      · simp [notes?, hnotes]
      · rw [if_neg hnotes, notes?, if_neg fun h => hnotes ⟨h.2.1.symm, h.2.2⟩]
        rfl
    case logOut =>
      obtain rfl : n = m := ha
      rw [sessionsOf_touch]
      refine ⟨?_, rfl⟩
      show ((p.sessionsOf n).logOut k).stateOf slot = _
      rw [Sessions.stateOf, Sessions.logins_logOut]
      by_cases hslot : slot = k
      · simp [notes?, hslot]
      · rw [if_neg hslot, notes?, if_neg fun h => hslot h.2.symm]
        rfl
    all_goals exact ha.elim
  all_goals exact ha.elim

/-! ### Programs that note what is served -/

namespace Program

/-- What the first step notes. -/
def toNote? (m : ModuleId) (slot : SlotId) : Program α → Option SessionState
  | .access a _ => a.notes? m slot
  | _ => none

/-- As long as logins and logouts are granted, the program notes each of them in the step that
follows it, and notes nothing else. -/
def Settles (m : ModuleId) (slot : SlotId) : Program α → Prop
  | .done _ => True
  | .request r next => ∀ x, (Deed.asked r x).Granted m →
    (next x).toNote? m slot = (Deed.asked r x).serves? m ∧ (next x).Settles m slot
  | .access a next =>
    a.Relogs m ∧ ∀ x, (next x).toNote? m slot = none ∧ (next x).Settles m slot
  | .log _ next => next.toNote? m slot = none ∧ next.Settles m slot

lemma settles_touch_bind {a : Process.Access} {f : a.Answer → Program α} :
    (touch a >>= f).Settles m slot ↔
      a.Relogs m ∧ ∀ x, (f x).toNote? m slot = none ∧ (f x).Settles m slot := Iff.rfl

lemma settles_call_bind {n : ModuleId} {c : Call} {f : c.Answer → Program α} :
    (call n c >>= f).Settles m slot ↔ ∀ x, (Deed.asked (.call n c) x).Granted m →
      (f x).toNote? m slot = (Deed.asked (.call n c) x).serves? m ∧ (f x).Settles m slot := Iff.rfl

lemma toNote?_map (p : Program α) (f : α → β) :
    (p >>= fun a => pure (f a)).toNote? m slot = p.toNote? m slot := by
  cases p <;> rfl

lemma Settles.map {p : Program α} (hp : p.Settles m slot) (f : α → β) :
    (p >>= fun a => pure (f a)).Settles m slot := by
  induction p with
  | done a => trivial
  | request r next ih =>
    exact fun x hx => ⟨(toNote?_map (next x) f).trans (hp x hx).1, ih x (hp x hx).2⟩
  | access a next ih =>
    exact ⟨hp.1, fun x => ⟨(toNote?_map (next x) f).trans (hp.2 x).1, ih x (hp.2 x).2⟩⟩
  | log l next ih => exact ⟨(toNote?_map next f).trans hp.1, ih hp.2⟩

/-- **One step** of such a program. What it serves is to be noted next, and what was to be noted is
noted. -/
lemma Settles.step {p : Program α} (hp : p.Settles m slot) (env : Environment σ) (w : World σ)
    (hgranted : ∀ x ∈ p.deed? env w, x.Granted m) :
    (p.step env w).1.Settles m slot ∧
      (p.step env w).1.toNote? m slot = (p.deed? env w).bind (Deed.serves? m) ∧
      p.toNote? m slot = (p.deed? env w).bind (Deed.notes? m slot) ∧
      ((p.step env w).2.process.sessionsOf m).stateOf slot =
        (p.toNote? m slot).getD ((w.process.sessionsOf m).stateOf slot) ∧
      ((p.step env w).2.process.sessionsOf m).tracked = (w.process.sessionsOf m).tracked := by
  cases p with
  | done a => exact ⟨trivial, rfl, rfl, rfl, rfl⟩
  | request r next =>
    obtain ⟨hnote, hnext⟩ := hp _ (hgranted _ rfl)
    exact ⟨hnext, hnote, rfl, rfl, rfl⟩
  | access a next =>
    obtain ⟨hnote, hnext⟩ := hp.2 (a.apply w.process).1
    exact ⟨hnext, hnote, rfl, hp.1.apply w.process⟩
  | log l next => exact ⟨hp.2, hp.1, rfl, rfl, rfl⟩

lemma toNote?_of_quiet {p : Program α} (hp : p.quiet = true) : p.toNote? m slot = none := by
  cases p with
  | access a next => cases hp
  | _ => rfl

end Program

/-- A login or a logout on the slot. -/
def Demand.Relogs (slot : SlotId) : Demand → Prop
  | .login k .. | .logout k _ => k = slot
  | _ => False

lemma settles_login (m : Module) (slot : SlotId) (session : SessionId) (user : User)
    (secret : Option Bytes) : (m.login slot session user secret).Settles m.id slot := by
  refine settles_touch_bind.mpr ⟨rfl, fun known => ?_⟩
  split_ifs
  · exact ⟨rfl, trivial⟩
  refine ⟨rfl, settles_call_bind.mpr fun code hcode => ?_⟩
  obtain rfl : code = .ok := hcode rfl
  refine ⟨?_, settles_touch_bind.mpr ⟨rfl, fun _ => ⟨rfl, rfl, trivial⟩⟩⟩
  show Process.Access.notes? m.id slot (.sessions m.id (.logIn slot user)) = _
  rw [Deed.serves?, User.ofCode_code]
  by_cases huser : user = .contextSpecific <;> simp [Process.Access.notes?, huser]

lemma settles_logout (m : Module) (slot : SlotId) (session : SessionId) :
    (m.logout slot session).Settles m.id slot := by
  refine settles_touch_bind.mpr ⟨rfl, fun known => ?_⟩
  split_ifs
  · exact ⟨rfl, rfl, trivial⟩
  refine ⟨rfl, settles_call_bind.mpr fun code hcode => ?_⟩
  obtain rfl : code = .ok := hcode rfl
  refine ⟨?_, rfl, fun _ => ⟨rfl, trivial⟩⟩
  show Process.Access.notes? m.id slot (.sessions m.id (.logOut slot)) = _
  simp [Process.Access.notes?, Deed.serves?]

lemma Demand.Relogs.settles {d : Demand} (hd : d.Relogs slot) (m : Module) :
    (d.program m).toNote? m.id slot = none ∧ (d.program m).Settles m.id slot := by
  cases d with
  | login k session user secret =>
    obtain rfl : k = slot := hd
    exact ⟨rfl, (settles_login m k session user secret).map _⟩
  | logout k session =>
    obtain rfl : k = slot := hd
    exact ⟨rfl, (settles_logout m k session).map _⟩
  | _ => exact hd.elim

/-! ### All calls -/

namespace Callers

/-- The states that the calls left of which the library has served, in the order of the serving. -/
def served (m : Module) (s : Callers σ) : List SessionState := s.trace.filterMap (Deed.serves? m.id)

/-- The states of the slot that were noted, in the order of the noting. -/
def noted (m : Module) (slot : SlotId) (s : Callers σ) : List SessionState :=
  s.trace.filterMap (Deed.notes? m.id slot)

/-- The states that were served and are about to be noted. -/
def toNote (m : Module) (slot : SlotId) (s : Callers σ) : List SessionState :=
  s.calls.filterMap fun c => c.2.toNote? m.id slot

/-- What was served was noted or is about to be, and what was noted last is the state of the
slot. -/
structure Settled (m : Module) (slot : SlotId) (start : Sessions) (s : Callers σ) : Prop where
  settles : ∀ c ∈ s.calls, c.2.Settles m.id slot
  served : (s.served m).Perm (s.noted m slot ++ s.toNote m slot)
  state : (s.table m).stateOf slot = ((s.noted m slot).getLast?).getD (start.stateOf slot)
  tracked : (s.table m).tracked = start.tracked

variable {env : Environment σ} {m : Module} {s : Callers σ} {start : Sessions}

lemma filterMap_cons_toList {γ δ : Type} (f : γ → Option δ) (a : γ) (l : List γ) :
    (a :: l).filterMap f = (f a).toList ++ l.filterMap f := by
  rw [List.filterMap_cons]
  cases f a <;> rfl

/-- Replacing one element, and what is made of it. -/
lemma perm_filterMap_set {γ δ : Type} {l : List γ} {i : ℕ} {c : γ} (hi : l[i]? = some c) (c' : γ)
    (f : γ → Option δ) :
    (l.filterMap f ++ (f c').toList).Perm ((l.set i c').filterMap f ++ (f c).toList) := by
  obtain ⟨hlt, rfl⟩ := List.getElem?_eq_some_iff.mp hi
  have hold := ((List.getElem_cons_eraseIdx_perm hlt).filterMap f).symm
  have hnew := (List.set_perm_cons_eraseIdx hlt c').filterMap f
  rw [filterMap_cons_toList] at hold hnew
  calc l.filterMap f ++ (f c').toList
      ~ (f l[i]).toList ++ (l.eraseIdx i).filterMap f ++ (f c').toList := hold.append_right _
    _ ~ (f c').toList ++ ((f l[i]).toList ++ (l.eraseIdx i).filterMap f) :=
        List.perm_append_comm
    _ ~ (f c').toList ++ ((l.eraseIdx i).filterMap f ++ (f l[i]).toList) :=
        List.perm_append_comm.append_left _
    _ ~ (l.set i c').filterMap f ++ (f l[i]).toList := by
        rw [← List.append_assoc]
        exact hnew.symm.append_right _

lemma toNote_call {d : Demand} (hd : d.Relogs slot) :
    toNote m slot { s with calls := s.calls ++ [(d, d.program m)] } = s.toNote m slot := by
  simp [toNote, (hd.settles m).1]

lemma Settled.call (hs : s.Settled m slot start) {d : Demand} (hd : d.Relogs slot) :
    Settled m slot start { s with calls := s.calls ++ [(d, d.program m)] } where
  settles c hc := by
    obtain hold | hnew := List.mem_append.mp hc
    · exact hs.settles c hold
    · rw [List.mem_singleton.mp hnew]
      exact (hd.settles m).2
  served := by
    rw [toNote_call hd]
    exact hs.served
  state := hs.state
  tracked := hs.tracked

/-- What a step of a call makes of the books. It serves something or notes something, and not
both. -/
structure Moved (m : Module) (slot : SlotId) (s t : Callers σ) (serves notes : Option SessionState) :
    Prop where
  served : t.served m = s.served m ++ serves.toList
  noted : t.noted m slot = s.noted m slot ++ notes.toList
  toNote : (s.toNote m slot ++ serves.toList).Perm (t.toNote m slot ++ notes.toList)
  apart : serves = none ∨ notes = none
  settles : ∀ c ∈ t.calls, c.2.Settles m.id slot
  state : (t.table m).stateOf slot = notes.getD ((s.table m).stateOf slot)
  tracked : (t.table m).tracked = (s.table m).tracked

lemma moved_resume (hsettles : ∀ c ∈ s.calls, c.2.Settles m.id slot) (i : ℕ)
    (hgranted : ∀ x ∈ (s.step env m (.resume i)).trace, x.Granted m.id) :
    ∃ serves notes, Moved m slot s (s.step env m (.resume i)) serves notes := by
  rcases hcall : s.calls[i]? with _ | ⟨d, p⟩
  · rw [step, hcall]
    exact ⟨none, none, by simp, by simp, by simp, .inl rfl, hsettles, rfl, rfl⟩
  have hstep : s.step env m (.resume i) =
      { calls := s.calls.set i (d, (p.step env s.world).1)
        world := (p.step env s.world).2
        trace := s.trace ++ (p.deed? env s.world).toList } := by rw [step, hcall]
  rw [hstep] at hgranted ⊢
  have hp : p.Settles m.id slot := hsettles _ (List.mem_of_getElem? hcall)
  obtain ⟨hnext, hserves, hnotes, hstate, htracked⟩ := hp.step env s.world fun x hx =>
    hgranted x (List.mem_append_right _ (Option.mem_toList.mpr hx))
  have htrace {f : Deed → Option SessionState} :
      (s.trace ++ (p.deed? env s.world).toList).filterMap f =
        s.trace.filterMap f ++ ((p.deed? env s.world).bind f).toList := by
    rw [List.filterMap_append]
    rcases p.deed? env s.world with _ | x
    · rfl
    · rw [Option.toList_some, filterMap_cons_toList, List.filterMap_nil, List.append_nil,
        Option.bind_some]
  have hmoved := perm_filterMap_set hcall (d, (p.step env s.world).1)
    fun c => c.2.toNote? m.id slot
  dsimp only at hmoved
  rw [hserves, hnotes] at hmoved
  refine ⟨_, _, htrace, htrace, hmoved, ?_, fun c hc => ?_, hnotes ▸ hstate, htracked⟩
  · rcases p.deed? env s.world with _ | ⟨r, x⟩ | ⟨a, x⟩
    · exact .inl rfl
    · exact .inr rfl
    · exact .inl rfl
  · obtain hold | rfl := List.mem_or_eq_of_mem_set hc
    · exact hsettles c hold
    · exact hnext

lemma Settled.moved (hs : s.Settled m slot start) {t : Callers σ}
    {serves notes : Option SessionState} (hmoved : Moved m slot s t serves notes) :
    t.Settled m slot start where
  settles := hmoved.settles
  served := by
    rw [hmoved.served, hmoved.noted]
    calc s.served m ++ serves.toList
        ~ s.noted m slot ++ s.toNote m slot ++ serves.toList := hs.served.append_right _
      _ ~ s.noted m slot ++ (t.toNote m slot ++ notes.toList) := by
          rw [List.append_assoc]
          exact hmoved.toNote.append_left _
      _ ~ s.noted m slot ++ (notes.toList ++ t.toNote m slot) :=
          List.perm_append_comm.append_left _
      _ = s.noted m slot ++ notes.toList ++ t.toNote m slot := (List.append_assoc _ _ _).symm
  state := by
    rw [hmoved.state, hmoved.noted, hs.state]
    cases notes <;> simp
  tracked := hmoved.tracked.trans hs.tracked

lemma Settled.step (hs : s.Settled m slot start) {move : Move}
    (hmove : ∀ d, move = .call d → d.Relogs slot)
    (hgranted : ∀ x ∈ (s.step env m move).trace, x.Granted m.id) :
    (s.step env m move).Settled m slot start := by
  cases move with
  | call d =>
    rw [Callers.step]
    split_ifs
    · exact hs.call (hmove d rfl)
    · exact hs
  | resume i =>
    obtain ⟨serves, notes, hmoved⟩ := moved_resume hs.settles i hgranted
    exact hs.moved hmoved

/-- What has been done stays done. -/
lemma trace_subset_step (env : Environment σ) (m : Module) (s : Callers σ) (move : Move) :
    s.trace ⊆ (s.step env m move).trace := by
  cases move with
  | call d =>
    rw [step]
    split_ifs
    · exact List.Subset.refl _
    · exact List.Subset.refl _
  | resume i =>
    rw [step]
    rcases s.calls[i]? with _ | ⟨d, p⟩
    · exact List.Subset.refl _
    · exact List.subset_append_left _ _

lemma settled_after (env : Environment σ) (w : World σ) (moves : List Move)
    (hcalls : ∀ d, .call d ∈ moves → d.Relogs slot)
    (hgranted : ∀ x ∈ (Callers.after env m w moves).trace, x.Granted m.id) :
    (Callers.after env m w moves).Settled m slot (w.process.sessionsOf m.id) := by
  induction moves using List.reverseRecOn with
  | nil => exact ⟨fun c hc => absurd hc List.not_mem_nil, .refl _, rfl, rfl⟩
  | append_singleton moves move ih =>
    rw [Callers.after, List.foldl_append] at hgranted ⊢
    refine (ih (fun d hd => hcalls d (List.mem_append_left _ hd)) fun x hx => ?_).step ?_ hgranted
    · exact hgranted x (trace_subset_step env m _ move hx)
    · rintro d rfl
      exact hcalls d (List.mem_append_right _ List.mem_cons_self)

/-- When all calls are over, a session that is tracked is reported to be in the state that was noted
last. -/
lemma Settled.reported (env : Environment σ) (hs : s.Settled m slot start)
    (hover : ∀ c ∈ s.calls, c.2.quiet = true) :
    (s.served m).Perm (s.noted m slot) ∧ ∀ session, (start.find slot session).isSome →
      ((m.sessionState slot session).run env s.world).1 =
        some (((s.noted m slot).getLast?).getD (start.stateOf slot)) := by
  have hnone : s.toNote m slot = [] :=
    List.filterMap_eq_nil_iff.mpr fun c hc => toNote?_of_quiet (hover c hc)
  have hperm := hs.served
  rw [hnone, List.append_nil] at hperm
  refine ⟨hperm, fun session hsession => ?_⟩
  rw [run_sessionState, ← hs.state]
  exact Sessions.state_of_find ((Sessions.find_of_tracked hs.tracked slot session).mpr hsession)

/-- **The state of a slot is that of the call that was noted last.** Logins and logouts on one slot
begin, go on and end in any order, and the library grants all of them. When all are over, every call
that was served has been noted once; a session that is tracked is reported to be in the state that
was noted last; and that is the state left by the call that was served last exactly if that state
was noted last as well. -/
theorem reports_last_noted (env : Environment σ) (m : Module) (w : World σ) (slot : SlotId)
    (moves : List Move) (hcalls : ∀ d, .call d ∈ moves → d.Relogs slot)
    (hgranted : ∀ x ∈ (Callers.after env m w moves).trace, x.Granted m.id)
    (hover : ∀ c ∈ (Callers.after env m w moves).calls, c.2.quiet = true) :
    let s := Callers.after env m w moves
    let start := (w.process.sessionsOf m.id).stateOf slot
    (s.served m).Perm (s.noted m slot) ∧
      ∀ session, ((m.sessionState slot session).run env w).1.isSome →
        ((m.sessionState slot session).run env s.world).1 =
            some (((s.noted m slot).getLast?).getD start) ∧
          (((m.sessionState slot session).run env s.world).1 =
              some (((s.served m).getLast?).getD start) ↔
            (s.noted m slot).getLast? = (s.served m).getLast?) := by
  intro s start
  obtain ⟨hperm, hreported⟩ := (settled_after env w moves hcalls hgranted).reported env hover
  refine ⟨hperm, fun session hsession => ?_⟩
  rw [run_sessionState, Option.isSome_map] at hsession
  have hstate := hreported session hsession
  refine ⟨hstate, ?_⟩
  rw [hstate, Option.some_inj]
  rcases hnoted : s.noted m slot with _ | ⟨state, rest⟩
  · have hserved : s.served m = [] := by rw [hnoted] at hperm; exact hperm.eq_nil
    simp [hserved, start]
  · have hserved : s.served m ≠ [] := by
      intro h
      rw [h, hnoted] at hperm
      exact List.cons_ne_nil _ _ hperm.symm.eq_nil
    rw [List.getLast?_eq_some_getLast hserved, List.getLast?_eq_some_getLast (List.cons_ne_nil _ _)]
    simp

/-! ### Calls that do not overtake each other -/

/-- At no moment have two calls been served that are both still to be noted. -/
def OneByOne (env : Environment σ) (m : Module) (slot : SlotId) (w : World σ) (moves : List Move) :
    Prop :=
  ∀ now, now <+: moves → ((Callers.after env m w now).toNote m slot).length ≤ 1

lemma eq_of_perm_of_length_le_one {γ : Type} {l k : List γ} (h : l.Perm k) (hl : l.length ≤ 1) :
    l = k := by
  rcases l with _ | ⟨a, _ | ⟨b, l⟩⟩
  · exact h.nil_eq
  · exact List.singleton_perm.mp h
  · simp at hl

lemma Moved.in_order {t : Callers σ} {serves notes : Option SessionState}
    (h : Moved m slot s t serves notes) (hs : (s.toNote m slot).length ≤ 1)
    (ht : (t.toNote m slot).length ≤ 1) :
    s.toNote m slot ++ serves.toList = notes.toList ++ t.toNote m slot := by
  refine eq_of_perm_of_length_le_one (h.toNote.trans List.perm_append_comm) ?_
  rcases h.apart with rfl | rfl
  · simpa using hs
  · rw [h.toNote.length_eq]
    simpa using ht

lemma OneByOne.served_eq {env : Environment σ} {w : World σ} {moves : List Move}
    (hone : OneByOne env m slot w moves) (hcalls : ∀ d, .call d ∈ moves → d.Relogs slot)
    (hgranted : ∀ x ∈ (Callers.after env m w moves).trace, x.Granted m.id) :
    (Callers.after env m w moves).served m = (Callers.after env m w moves).noted m slot ++
      (Callers.after env m w moves).toNote m slot := by
  induction moves using List.reverseRecOn with
  | nil => rfl
  | append_singleton moves move ih =>
    have hstep : Callers.after env m w (moves ++ [move]) =
        (Callers.after env m w moves).step env m move := by
      rw [Callers.after, List.foldl_append]
      rfl
    have hearlier : ∀ x ∈ (Callers.after env m w moves).trace, x.Granted m.id := fun x hx =>
      hgranted x (hstep ▸ trace_subset_step env m _ move hx)
    have hcalls' : ∀ d, .call d ∈ moves → d.Relogs slot :=
      fun d hd => hcalls d (List.mem_append_left _ hd)
    have hserved := ih (fun now hnow => hone now (hnow.trans (List.prefix_append _ _))) hcalls'
      hearlier
    have hsettles := (settled_after env w moves hcalls' hearlier).settles
    have hbefore := hone moves (List.prefix_append _ _)
    have hafter := hone _ (List.prefix_refl _)
    rw [hstep] at hgranted hafter ⊢
    cases move with
    | call d =>
      rw [Callers.step]
      split_ifs
      · rw [toNote_call (hcalls d (List.mem_append_right _ List.mem_cons_self))]
        exact hserved
      · exact hserved
    | resume i =>
      obtain ⟨serves, notes, hmoved⟩ := moved_resume hsettles i hgranted
      rw [hmoved.served, hmoved.noted, hserved, List.append_assoc, List.append_assoc,
        hmoved.in_order hbefore hafter]

/-- **The state follows the token as long as calls are noted before the next is served.** -/
theorem OneByOne.reports_last_served {env : Environment σ} {w : World σ} {moves : List Move}
    (hone : OneByOne env m slot w moves) (hcalls : ∀ d, .call d ∈ moves → d.Relogs slot)
    (hgranted : ∀ x ∈ (Callers.after env m w moves).trace, x.Granted m.id)
    (hover : ∀ c ∈ (Callers.after env m w moves).calls, c.2.quiet = true) {session : SessionId}
    (hsession : ((m.sessionState slot session).run env w).1.isSome) :
    ((m.sessionState slot session).run env (Callers.after env m w moves).world).1 =
      some ((((Callers.after env m w moves).served m).getLast?).getD
        ((w.process.sessionsOf m.id).stateOf slot)) := by
  have hnone : (Callers.after env m w moves).toNote m slot = [] :=
    List.filterMap_eq_nil_iff.mpr fun c hc => toNote?_of_quiet (hover c hc)
  rw [run_sessionState, Option.isSome_map] at hsession
  rw [hone.served_eq hcalls hgranted, hnone, List.append_nil]
  exact ((settled_after env w moves hcalls hgranted).reported env hover).2 session hsession

/-! ### A logout that overtakes a login -/

/-- Two sessions on one slot, of a library that grants all logins and logouts. -/
def twoSessions : World (List SessionId) :=
  ((simulated.openSession 0 true).run reissuing
    ((simulated.openSession 0 false).run reissuing (.initial [])).2).2

/-- The login through one session is served. Before it is noted, the logout through the other one is
served and noted. -/
def overtaking : List Move :=
  [.call (.login 0 1 .normal none), .resume 0, .resume 0, .call (.logout 0 2), .resume 1, .resume 1,
    .resume 1, .resume 0]

lemma trace_overtaking : (Callers.after reissuing simulated twoSessions overtaking).trace =
    [.accessed (.sessions 0 (.find 0 1)) (some ⟨1, 0, false, .unauthenticated⟩),
      .asked (.call 0 (.login 1 1 none 0)) .ok,
      .accessed (.sessions 0 (.find 0 2)) (some ⟨2, 0, true, .unauthenticated⟩),
      .asked (.call 0 (.logout 2)) .ok, .accessed (.sessions 0 (.logOut 0)) (),
      .accessed (.sessions 0 (.logIn 0 .normal)) ()] := rfl

/-- The hypotheses hold of two calls of which the second overtakes the first. -/
theorem reports_last_noted_of_overtaking :
    let s := Callers.after reissuing simulated twoSessions overtaking
    (∀ d, .call d ∈ overtaking → d.Relogs 0) ∧ (∀ x ∈ s.trace, x.Granted simulated.id) ∧
      (∀ c ∈ s.calls, c.2.quiet = true) ∧ (s.served simulated).Perm (s.noted simulated 0) ∧
      ((simulated.sessionState 0 1).run reissuing s.world).1 = (s.noted simulated 0).getLast? := by
  intro s
  have hcalls : ∀ d, .call d ∈ overtaking → d.Relogs 0 := by
    intro d hd
    simp only [overtaking, List.mem_cons, Move.call.injEq, reduceCtorEq, List.not_mem_nil, false_or,
      or_false] at hd
    rcases hd with rfl | rfl
    · exact rfl
    · exact rfl
  have hgranted : ∀ x ∈ s.trace, x.Granted simulated.id := by
    rw [trace_overtaking]
    simp [Deed.Granted]
  have hover : ∀ c ∈ s.calls, c.2.quiet = true := by decide
  obtain ⟨hperm, hstate⟩ := reports_last_noted reissuing simulated twoSessions 0 overtaking hcalls
    hgranted hover
  exact ⟨hcalls, hgranted, hover, hperm, (hstate 1 rfl).1⟩

/-- All calls are over and the library has served a login and then a logout, and still both sessions
are reported to be authenticated. -/
theorem login_noted_after_logout :
    let s := Callers.after reissuing simulated twoSessions overtaking
    (∀ c ∈ s.calls, c.2.quiet = true) ∧
      s.served simulated = [.authenticated .normal, .unauthenticated] ∧
      ((simulated.sessionState 0 1).run reissuing s.world).1 = some (.authenticated .normal) ∧
      ((simulated.sessionState 0 2).run reissuing s.world).1 = some (.authenticated .normal) := by
  decide

end Callers

/-! ### Two modules of one library -/

open Callers (reissuing)

/-- **Modules do not hear of each other.** Nothing that is done with one module changes the state
that another one reports, even if both have been made of one library and the token has been logged
in to or out of. -/
theorem Module.sessionState_of_other (env : Environment σ) (w : World σ) {m n : Module}
    (hne : m.id ≠ n.id) (o : Module.Method) (slot : SlotId) (session : SessionId) :
    ((m.sessionState slot session).run env ((o.program n).run env w).2).1 =
      ((m.sessionState slot session).run env w).1 := by
  have hkept := (n.owns_method o).run_keeps
    (P := fun p => p.sessionsOf m.id = w.process.sessionsOf m.id) env (fun a p ha hp => ?_) w rfl
  · rw [run_sessionState, run_sessionState, hkept]
  · cases a with
    | sessions j a =>
      obtain rfl : j = n.id := ha
      exact (Process.sessionsOf_sessions_of_ne p a hne).trans hp
    | _ => exact ha.elim

/-- A module made of the same library as the simulated one. -/
def twin : Module := { simulated with id := 1 }

/-- A logout through the other module is served, and still this one reports the login. -/
example :
    let opened := ((twin.openSession 0 false).run reissuing
      ((simulated.openSession 0 false).run reissuing (.initial [])).2).2
    let loggedIn := (simulated.login 0 1 .normal none).run reissuing opened
    let loggedOut := ((twin.logout 0 2).run reissuing loggedIn.2).2
    loggedIn.1 = .ok () ∧
      (twin.logout 0 2).requests reissuing loggedIn.2 = [.call 1 (.logout 2)] ∧
      ((simulated.sessionState 0 1).run reissuing loggedOut).1 = some (.authenticated .normal) :=
  ⟨rfl, rfl, rfl⟩

end Cryptoki
