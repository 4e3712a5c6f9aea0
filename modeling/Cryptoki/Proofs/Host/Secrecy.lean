import Cryptoki.Proofs.Host.Steps
import Cryptoki.Proofs.Program.Twins

/-!
What a host does with the secrets it is given.

A secret is passed on in the login it was given for, as it is, and in no other request. Two runs
whose steps are the same but for their secrets cannot be told apart: what a step answers, what it
logs and what it makes of the process and of what is held does not depend on a secret, as long as
no answer of the library does.
-/

namespace Cryptoki

open Program

/-! ### What is passed -/

/-- The login that passes a secret: its bytes and their number, or nothing at all if there are
none. -/
def passing (session : SessionId) (user : User) : Option Bytes → Call
  | none | some [] => .login session user.code none 0
  | some secret => .login session user.code (some secret) (UInt64.ofNat secret.length)

lemma passing_eq (session : SessionId) (user : User) (secret : Option Bytes) :
    passing session user secret = .login session user.code (Module.pinOf secret)
      (UInt64.ofNat ((Module.pinOf secret).getD []).length) := by
  rcases secret with _ | _ | ⟨b, bytes⟩
  · rfl
  · rfl
  · rfl

/-- If the request is a login it is one of these. -/
def Request.Passes (P : Call → Prop) (r : Request) : Prop :=
  ∀ j c, r = .call j c → c.function = .login → P c

lemma Request.Withholds.passes {P : Call → Prop} {r : Request} (hr : r.Withholds) : r.Passes P := by
  rintro j c rfl hlogin
  exact absurd hlogin hr

/-- Every login that the program may make is one of these. -/
abbrev Program.Passes {α : Type} (P : Call → Prop) (p : Program α) : Prop :=
  p.Within (fun _ => True) (Request.Passes P)

lemma Program.Passes.requests {α σ : Type} {P : Call → Prop} {p : Program α} (hp : p.Passes P)
    (env : Environment σ) (w : World σ) :
    ∀ r ∈ (p.deeds env w).filterMap Deed.request?, r.Passes P := by
  intro r hr
  obtain ⟨d, hd, hrequest⟩ := List.mem_filterMap.mp hr
  have hwithin := hp.deeds env w d hd
  cases d with
  | asked q x =>
    cases hrequest
    exact hwithin
  | accessed a x => cases hrequest

namespace Loading

variable {P : Call → Prop}

lemma passes_acquire : acquire.Passes P := by
  refine within_bind (within_touch.mpr trivial) fun first => ?_
  split_ifs
  · exact within_say _ _ _
  · exact within_pure _

lemma passes_release : release.Passes P := by
  refine within_bind (within_touch.mpr trivial) fun last => ?_
  split_ifs
  · exact within_say _ _ _
  · exact within_pure _

end Loading

namespace Module

variable {α : Type} {P : Call → Prop} {m : Module} {p : Program α}

lemma Looks.passes (hp : m.Looks p) : p.Passes P := by
  refine hp.mono (fun _ _ => trivial) fun r hr => Request.Withholds.passes ?_
  cases r with
  | call j c =>
    obtain ⟨-, hlooking⟩ := hr
    show c.function ≠ .login
    cases c <;> first | exact hlooking.elim | exact (fun heq => by cases heq)
  | _ => trivial

lemma Asks.passes {c : Call} (hp : m.Asks c p) (hc : c.function = .login → P c) : p.Passes P := by
  refine hp.mono (fun _ _ => trivial) fun r hr => ?_
  rintro j d heq hlogin
  obtain ⟨-, rfl⟩ := Request.call.inj (hr.symm.trans heq)
  exact hc hlogin

lemma passes_release (m : Module) : m.release.Passes P := by
  refine (within_release m).mono (fun _ _ => trivial) fun r hr => Request.Withholds.passes ?_
  rcases hr with rfl | rfl
  · exact fun heq => by cases heq
  · trivial

lemma passes_call (id : ModuleId) (c : Call) (hc : c.function ≠ .login) :
    (call id c).Passes P :=
  within_call.mpr (Request.Withholds.passes hc)

lemma passes_begin (id : ModuleId) (name : String) (functions : FunctionList) :
    (begin id name functions).Passes P := by
  refine within_bind (passes_call _ _ (by simp [Call.function])) fun started => ?_
  split_ifs
  · exact within_pure _
  refine within_bind (passes_call _ _ (by simp [Call.function])) fun told => ?_
  split_ifs
  · exact within_bind (passes_call _ _ (by simp [Call.function])) fun _ => within_pure _
  · refine within_bind (within_say _ _ _) fun _ => ?_
    exact within_bind (within_touch.mpr trivial) fun _ => within_pure _

lemma passes_ofLibrary (id : ModuleId) (name : String) : (ofLibrary id name).Passes P := by
  refine within_bind (within_ask.mpr (Request.Withholds.passes trivial)) fun found => ?_
  rcases found with reason | _
  · exact within_bind (within_say _ _ _) fun _ => within_pure _
  refine within_bind (passes_call _ _ (by simp [Call.function])) fun listed => ?_
  split_ifs
  · exact within_pure _
  rcases checkFunctions name listed.written with f | functions
  · exact within_pure _
  · exact passes_begin id name functions

lemma passes_load (loader : Loader) (path : String) : (load loader path).Passes P := by
  refine within_bind Loading.passes_acquire fun _ => ?_
  refine within_bind (within_touch.mpr trivial) fun id => ?_
  refine within_bind (within_ask.mpr (Request.Withholds.passes trivial)) fun opened => ?_
  rcases opened with reason | _
  · exact within_bind (within_say _ _ _) fun _ =>
      within_bind Loading.passes_release fun _ => within_pure _
  refine within_bind (passes_ofLibrary id path) fun made => ?_
  rcases made with f | m
  · refine within_bind (within_ask.mpr (Request.Withholds.passes trivial)) fun _ => ?_
    exact within_bind Loading.passes_release fun _ => within_pure _
  · exact within_pure _

lemma passes_login (slot : SlotId) (session : SessionId) (user : User) (secret : Option Bytes) :
    (m.login slot session user secret).Passes
      (· = passing session user secret) :=
  (asks_login m slot session user secret).passes fun _ => (passing_eq session user secret).symm

end Module

namespace Host

variable {α : Type} {P : Call → Prop} {h s : Handle}

lemma passes_withModule {body : Module → Program (Except Fault α)}
    (hbody : ∀ m, (body m).Passes P) :
    (withModule h body).Passes P := by
  refine within_bind (within_touch.mpr trivial) fun found => ?_
  rcases found with f | m
  · exact within_pure _
  · exact within_bind (hbody m) fun _ => within_bind m.passes_release fun _ => within_pure _

lemma passes_withSlot {body : Module → SlotId → Program (Except Fault α)}
    (hbody : ∀ m id, (body m id).Passes P) :
    (withSlot h s body).Passes P := by
  refine passes_withModule fun m => ?_
  refine within_bind (within_slotOf.mono (fun _ _ => trivial) fun _ hr => hr) fun found => ?_
  rcases found with f | id
  · exact within_pure _
  · exact hbody m id

lemma ModuleOp.passes (o : ModuleOp) (h : Handle) : (o.program h).Passes P := by
  cases o with
  | info => exact passes_withModule fun m => within_pure _
  | unload =>
    refine within_bind (within_touch.mpr trivial) fun found => ?_
    rcases found with f | m
    · exact within_pure _
    · refine within_bind (within_touch.mpr trivial) fun slots => ?_
      exact within_bind (within_say _ _ _) fun _ => within_bind m.passes_release
        fun _ => within_pure _
  | slotList tokenPresent => exact passes_withModule fun m => (m.looks_slotList tokenPresent).passes
  | openSlot id =>
    refine within_bind (passes_withModule fun m => (m.looks_slotInfo id).passes) fun told => ?_
    rcases told with f | info
    · exact within_pure _
    · exact within_bind (within_touch.mpr trivial) fun _ => within_pure _
  | openSlotByLabel label =>
    refine passes_withModule fun m => within_bind (m.looks_findSlot label).passes fun found => ?_
    rcases found with f | _ | id
    · exact within_pure _
    · exact within_pure _
    · exact within_bind (within_touch.mpr trivial) fun _ => within_pure _
  | waitForSlot patience =>
    refine within_bind (passes_withModule fun m => (m.looks_waitForSlot patience).passes)
      fun event => ?_
    rcases event with f | _ | id
    · exact within_pure _
    · exact within_pure _
    · exact within_bind (within_touch.mpr trivial) fun _ => within_pure _
  | openSessions =>
    exact passes_withModule fun m => within_bind (within_touch.mpr trivial) fun _ => within_pure _

lemma passes_load (loader : Loader) (path : String) : (load loader path).Passes P := by
  unfold load
  split_ifs
  · exact within_pure _
  refine within_bind (Module.passes_load loader path) fun made => ?_
  rcases made with f | m
  · exact within_pure _
  · refine within_bind (within_touch.mpr trivial) fun handle => ?_
    exact within_bind (within_say _ _ _) fun _ => within_pure _

/-- The logins that the operation may make. -/
def SlotOp.Passes : SlotOp → Call → Prop
  | .login session user secret, c => c = passing session user secret
  | _, _ => False

lemma SlotOp.passes (o : SlotOp) (h s : Handle) :
    (o.program h s).Passes o.Passes := by
  cases o with
  | close =>
    refine within_bind (passes_withSlot fun _ _ => within_pure _) fun found => ?_
    rcases found with f | _
    · exact within_pure _
    · refine within_bind (within_touch.mpr trivial) fun gone => ?_
      rcases gone with f | slot
      · exact within_pure _
      · exact within_pure _
  | slotInfo => exact passes_withSlot fun m id => (m.looks_slotInfo id).passes
  | tokenInfo => exact passes_withSlot fun m id => (m.looks_tokenInfo id).passes
  | openSession readWrite =>
    exact passes_withSlot fun m id =>
      (m.asks_openSession id readWrite).passes (by simp [Call.function])
  | closeSession session =>
    exact passes_withSlot fun m id => within_bind
      ((m.asks_closeSession id session).passes (by simp [Call.function])) fun _ => within_pure _
  | login session user secret =>
    exact passes_withSlot fun m id => m.passes_login id session user secret
  | logout session =>
    exact passes_withSlot fun m id => within_bind
      ((m.asks_logout id session).passes (by simp [Call.function])) fun _ => within_pure _
  | sessionState session =>
    refine passes_withSlot fun m id => within_bind (within_bind (within_touch.mpr trivial)
      fun _ => within_pure _) fun state => ?_
    rcases state with _ | state
    · exact within_pure _
    · exact within_pure _

/-- The logins that the operation may make. -/
def Operation.Passes : Operation → Call → Prop
  | .onSlot _ _ o => o.Passes
  | _ => fun _ => False

lemma Operation.passes (o : Operation) :
    o.program.Passes o.Passes := by
  cases o with
  | load loader path => exact passes_load loader path
  | onModule h o => exact o.passes h
  | onSlot h s o => exact o.passes h s

end Host

/-- The logins that the method may make. -/
def Module.Method.Passes : Module.Method → Call → Prop
  | .login _ session user secret, c => c = passing session user secret
  | _, _ => False

lemma Module.Method.passes (o : Module.Method) (m : Module) :
    (o.program m).Passes o.Passes := by
  cases o with
  | slotList tokenPresent => exact (m.looks_slotList tokenPresent).passes
  | slotInfo id => exact (m.looks_slotInfo id).passes
  | tokenInfo id => exact (m.looks_tokenInfo id).passes
  | findSlot label => exact (m.looks_findSlot label).passes
  | waitForSlot patience => exact (m.looks_waitForSlot patience).passes
  | openSession slot readWrite =>
    exact (m.asks_openSession slot readWrite).passes (by simp [Call.function])
  | closeSession slot session =>
    exact (m.asks_closeSession slot session).passes (by simp [Call.function])
  | login slot session user secret => exact m.passes_login slot session user secret
  | logout slot session => exact (m.asks_logout slot session).passes (by simp [Call.function])
  | sessionState slot session =>
    exact within_bind (within_touch.mpr trivial) fun _ => within_pure _
  | openSessions => exact within_touch.mpr trivial

namespace Host

variable {σ : Type} {env : Environment σ}

/-- The logins that the step may make. -/
def Step.Passes : Step σ → Call → Prop
  | .call o => o.Passes
  | .use _ o => o.Passes
  | _ => fun _ => False

/-- Every login that a step makes passes the secret of the step. -/
theorem Site.passes_step (env : Environment σ) (s : Site σ) (st : Step σ) :
    ∀ r ∈ s.requests env st, r.Passes st.Passes := by
  have hnone : ∀ r ∈ ([] : List Deed).filterMap Deed.request?, r.Passes st.Passes :=
    fun r hr => absurd hr List.not_mem_nil
  rw [Site.requests]
  cases st with
  | call o => exact o.passes.requests env s.world
  | hold h =>
    exact Program.Passes.requests (p := Host.hold h) (within_touch.mpr trivial) env s.world
  | use k o =>
    rcases hk : s.held[k]? with _ | m
    · simpa only [Site.deeds, hk] using hnone
    · simp only [Site.deeds, hk]
      exact (o.passes m).requests env s.world
  | letGo k =>
    rcases hk : s.held[k]? with _ | m
    · simpa only [Site.deeds, hk] using hnone
    · simpa only [Site.deeds, hk] using m.passes_release.requests env s.world
  | acquire => exact Loading.passes_acquire.requests env s.world
  | giveBack =>
    rw [Site.deeds]
    split_ifs
    · exact hnone
    · exact Loading.passes_release.requests env s.world
  | change f => exact hnone

/-! ### Steps that differ in their secrets -/

/-- A step that changes the outside takes outsides that are related to such ones. -/
def Step.Respects (S : σ → σ → Prop) : Step σ → Prop
  | .change f => ∀ u v, S u v → S (f u) (f v)
  | _ => True

/-- The steps are the same but for the secrets of their logins. -/
inductive Step.Twins (S : σ → σ → Prop) : Step σ → Step σ → Prop
  | same (st : Step σ) (h : st.Respects S) : Twins S st st
  | login (h s : Handle) (session : SessionId) (user : User) (secret other : Option Bytes) :
      Twins S (.call (.onSlot h s (.login session user secret)))
        (.call (.onSlot h s (.login session user other)))
  | use (k : ℕ) (slot : SlotId) (session : SessionId) (user : User)
      (secret other : Option Bytes) :
      Twins S (.use k (.login slot session user secret)) (.use k (.login slot session user other))

/-- The same host, in worlds that are the same but for what lies outside. -/
structure Site.Twins (S : σ → σ → Prop) (s t : Site σ) : Prop where
  world : s.world.Twins S t.world
  held : s.held = t.held
  acquired : s.acquired = t.acquired

@[reducible] def Step.Answer : Step σ → Type
  | .call o => Except Fault o.Answer
  | .hold _ => Except Fault Module
  | .use _ o => Option o.Answer
  | .letGo _ | .acquire | .giveBack | .change _ => Unit

namespace Site

/-- What a step is answered. A module that is not held answers nothing. -/
def answer (env : Environment σ) (s : Site σ) : (st : Step σ) → st.Answer
  | .call o => (o.program.run env s.world).1
  | .hold h => ((Host.hold h).run env s.world).1
  | .use k o => s.held[k]?.map fun m => ((o.program m).run env s.world).1
  | .letGo _ | .acquire | .giveBack | .change _ => ()

/-- What the steps of a run are answered, one after the other. -/
def answers (env : Environment σ) (s : Site σ) : List (Step σ) → List (Σ α : Type, α)
  | [] => []
  | st :: steps => ⟨st.Answer, s.answer env st⟩ :: (s.step env st).answers env steps

end Site

end Host

lemma Module.twins_login (m : Module) (slot : SlotId) (session : SessionId) (user : User)
    (secret other : Option Bytes) :
    (m.login slot session user secret).Twins (m.login slot session user other) := by
  refine Program.Twins.bind (.refl _) fun known => ?_
  split_ifs
  · exact .refl _
  · exact .login _ _ _ _ _ _ _ fun code => .refl _

namespace Host

variable {σ : Type} {env : Environment σ} {S : σ → σ → Prop}

lemma twins_login (h s : Handle) (session : SessionId) (user : User)
    (secret other : Option Bytes) :
    (Host.login h s session user secret).Twins (Host.login h s session user other) := by
  refine Program.Twins.bind (.refl _) fun found => ?_
  rcases found with f | m
  · exact .refl _
  refine Program.Twins.bind ?_ fun r => .refl _
  refine Program.Twins.bind (.refl _) fun found => ?_
  rcases found with f | id
  · exact .refl _
  · exact m.twins_login id session user secret other

namespace Site

variable {s t : Site σ} {st other : Step σ}

/-- Two hosts run programs that are twins. -/
lemma twins_run {α : Type} {p q : Program α} {v w : World σ} (henv : env.Discreet S)
    (hp : p.Twins q) (hworld : v.Twins S w) (held : List Module) (acquired : ℕ) :
    (p.run env v).1 = (q.run env w).1 ∧
      Site.Twins S ⟨(p.run env v).2, held, acquired⟩ ⟨(q.run env w).2, held, acquired⟩ := by
  obtain ⟨hanswer, hnext⟩ := hp.run henv hworld
  exact ⟨hanswer, hnext, rfl, rfl⟩

lemma twins_step_same (henv : env.Discreet S) (h : s.Twins S t) (hst : st.Respects S) :
    s.answer env st = t.answer env st ∧ (s.step env st).Twins S (t.step env st) := by
  obtain ⟨v, held, acquired⟩ := s
  obtain ⟨w, _, _⟩ := t
  obtain ⟨hworld, rfl, rfl⟩ := h
  cases st with
  | call o => exact twins_run henv (.refl o.program) hworld held acquired
  | hold handle =>
    obtain ⟨hanswer, hnext⟩ := (Program.Twins.refl (Host.hold handle)).run henv hworld
    refine ⟨hanswer, ?_⟩
    simp only [step, hanswer]
    rcases ((Host.hold handle).run env w).1 with f | m
    · exact ⟨hnext, rfl, rfl⟩
    · exact ⟨hnext, rfl, rfl⟩
  | use k o =>
    simp only [answer, step]
    rcases held[k]? with _ | m
    · exact ⟨rfl, hworld, rfl, rfl⟩
    · obtain ⟨hanswer, hnext⟩ := twins_run henv (.refl (o.program m)) hworld held acquired
      exact ⟨congrArg some hanswer, hnext⟩
  | letGo k =>
    simp only [answer, step]
    rcases held[k]? with _ | m
    · exact ⟨trivial, hworld, rfl, rfl⟩
    · exact ⟨trivial, (twins_run henv (.refl m.release) hworld _ acquired).2⟩
  | acquire => exact ⟨rfl, (twins_run henv (.refl Loading.acquire) hworld held _).2⟩
  | giveBack =>
    simp only [answer, step]
    split_ifs
    · exact ⟨trivial, hworld, rfl, rfl⟩
    · exact ⟨trivial, (twins_run henv (.refl Loading.release) hworld held _).2⟩
  | change f => exact ⟨rfl, ⟨hworld.process, hworld.journal, hst _ _ hworld.outside⟩, rfl, rfl⟩

lemma twins_step (henv : env.Discreet S) (h : s.Twins S t) (hst : st.Twins S other) :
    (⟨st.Answer, s.answer env st⟩ : Σ α : Type, α) = ⟨other.Answer, t.answer env other⟩ ∧
      (s.step env st).Twins S (t.step env other) := by
  cases hst with
  | same _ hst =>
    obtain ⟨hanswer, hnext⟩ := twins_step_same henv h hst
    exact ⟨congrArg (Sigma.mk _) hanswer, hnext⟩
  | login handle slot session user secret given =>
    obtain ⟨hworld, hheld, hacquired⟩ := h
    obtain ⟨hanswer, hnext⟩ := (twins_login handle slot session user secret given).run henv hworld
    exact ⟨congrArg (Sigma.mk _) hanswer, hnext, hheld, hacquired⟩
  | use k slot session user secret given =>
    obtain ⟨v, held, acquired⟩ := s
    obtain ⟨w, _, _⟩ := t
    obtain ⟨hworld, rfl, rfl⟩ := h
    simp only [answer, step]
    rcases held[k]? with _ | m
    · exact ⟨rfl, hworld, rfl, rfl⟩
    · obtain ⟨hanswer, hnext⟩ :=
        twins_run henv (m.twins_login slot session user secret given) hworld held acquired
      exact ⟨congrArg (fun r => (⟨Option (Except Fault Unit), some r⟩ : Σ α : Type, α)) hanswer,
        hnext⟩

/-- **Two runs that differ in their secrets cannot be told apart.** -/
theorem twins_after (henv : env.Discreet S) {steps others : List (Step σ)}
    (hsteps : List.Forall₂ (Step.Twins S) steps others) (h : s.Twins S t) :
    s.answers env steps = t.answers env others ∧
      (s.after env steps).Twins S (t.after env others) := by
  induction hsteps generalizing s t with
  | nil => exact ⟨rfl, h⟩
  | cons hst _ ih =>
    obtain ⟨hanswer, hnext⟩ := twins_step henv h hst
    obtain ⟨hrest, hafter⟩ := ih hnext
    exact ⟨congrArg₂ List.cons hanswer hrest, hafter⟩

end Site

end Host

end Cryptoki
