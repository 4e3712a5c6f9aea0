import Cryptoki.Proofs.Host.Registries
import Cryptoki.Proofs.Module.Requests

/-!
How an operation goes on from call to call.

A library may fail any call with any code. Every operation goes on until a call fails, undoes what
has to be undone and answers the code as it is. There are few failures that it goes on after, and
they are listed here.
-/

namespace Cryptoki

open Process Program

/-! ### Failing calls -/

/-- The code with which an answer says that the call failed, if it did. A session that is opened
without a number counts as a general error. -/
def Call.failure : (c : Call) → c.Answer → Option Code
  | .openSession .., told =>
    if told.code ≠ .ok then some told.code
    else if told.written.getD 0 = 0 then some .generalError else none
  | .getFunctionList _, told => if told.code ≠ .ok then some told.code else none
  | .getInfo _, told => if told.code ≠ .ok then some told.code else none
  | .getSlotList .., told => if told.code ≠ .ok then some told.code else none
  | .getSlotInfo .., told => if told.code ≠ .ok then some told.code else none
  | .getTokenInfo .., told => if told.code ≠ .ok then some told.code else none
  | .waitForSlotEvent .., told => if told.code ≠ .ok then some told.code else none
  | .init _, code => if code ≠ .ok then some code else none
  | .finalize _, code => if code ≠ .ok then some code else none
  | .closeSession _, code => if code ≠ .ok then some code else none
  | .login .., code => if code ≠ .ok then some code else none
  | .logout _, code => if code ≠ .ok then some code else none

namespace Deed

/-- The call that failed, and its code. -/
def failure? : Deed → Option (Call × Code)
  | .asked (.call _ c) x => (c.failure x).map (c, ·)
  | _ => none

/-- It takes back what a load did. -/
def Undoes : Deed → Prop
  | .asked (.call _ (.finalize _)) _ | .asked (.closeLibrary _) _ => True
  | _ => False

end Deed

namespace Host

variable {α β σ : Type} {env : Environment σ} {w : World σ} {held : List Module} {h s : Handle}
  {m : Module} {o : Operation}

/-- After which failures an operation goes on, given what is asked after them: closing, logging out
and finalizing never fail an operation, a slot list that has grown is fetched again, a label is
looked for in the slots that still hold a token, and a library that reports no events is polled. -/
inductive Excused : Operation → Call → Code → List Deed → Prop
  | closing (h s : Handle) (session : SessionId) (code : Code) (after : List Deed) :
      Excused (.onSlot h s (.closeSession session)) (.closeSession session) code after
  | leaving (h s : Handle) (session : SessionId) (code : Code) (after : List Deed) :
      Excused (.onSlot h s (.logout session)) (.logout session) code after
  | ending (o : Operation) (reserved : Bool) (code : Code) (after : List Deed) :
      Excused o (.finalize reserved) code after
  | grown (o : Operation) (flag : UInt8) (room count : Option Word) (j : ModuleId)
      (x : Reply SlotListing) (after : List Deed) :
      Excused o (.getSlotList flag true room) .bufferTooSmall
        (.asked (.call j (.getSlotList flag false count)) x :: after)
  | gone (h : Handle) (label : String) (id : SlotId) (place : Bool) (after : List Deed) :
      Excused (.onModule h (.openSlotByLabel label)) (.getTokenInfo id place) .tokenNotPresent after
  | eventless (h : Handle) (patience : ℕ) (flags : Flags) (place : Bool) (after : List Deed) :
      Excused (.onModule h (.waitForSlot patience)) (.waitForSlotEvent flags place)
        .functionNotSupported after

lemma Excused.append {c : Call} {code : Code} {d : List Deed} (h : Excused o c code d)
    (e : List Deed) : Excused o c code (d ++ e) := by
  cases h <;> constructor

/-- A fault that no failing call is behind: it has no code, or the library lacks a function. -/
inductive Homemade : Fault → Prop
  | codeless {f : Fault} (hf : f.code = none) : Homemade f
  | unprovided (m : Module) (f : Function) (hf : m.functions.provides f = false) :
      Homemade (m.notProvided f)

/-- How an operation comes to its answer, deed by deed. It goes on after a call that did not fail or
whose failure is excused, and the first other failure is answered as it is. -/
inductive Conduct (o : Operation) {α : Type} : List Deed → Except Fault α → Prop
  | answered (a : α) : Conduct o [] (.ok a)
  | refused (f : Fault) (hf : Homemade f) : Conduct o [] (.error f)
  | went (x : Deed) {d : List Deed} {r : Except Fault α}
      (hx : ∀ c code, x.failure? = some (c, code) → Excused o c code d) (hrest : Conduct o d r) :
      Conduct o (x :: d) r
  | failed (x : Deed) {d : List Deed} {c : Call} {code : Code} (message : String)
      (hx : x.failure? = some (c, code)) (hnot : ¬ Excused o c code d)
      (hundo : ∀ y ∈ d, y.Undoes) : Conduct o (x :: d) (.error (.pkcs11 code message))

/-- Whatever the answer, it is not the end of the operation. -/
def Harmless (o : Operation) (x : Deed) : Prop :=
  ∀ c code, x.failure? = some (c, code) → ∀ after, Excused o c code after

lemma harmless_call {j : ModuleId} {c : Call} (x : c.Answer)
    (hc : ∀ code after, Excused o c code after) : Harmless o (.asked (.call j c) x) := by
  intro c' code hfail after
  obtain ⟨_, -, hcall⟩ := Option.map_eq_some_iff.mp hfail
  cases hcall
  exact hc _ _

lemma Harmless.of_undoes {x : Deed} (hx : x.Undoes) : Harmless o x := by
  cases x with
  | accessed a x => exact hx.elim
  | asked r x =>
    cases r with
    | call j c =>
      cases c with
      | finalize reserved => exact harmless_call x (.ending o reserved)
      | _ => exact hx.elim
    | closeLibrary j => exact fun c code hfail => by cases hfail
    | _ => exact hx.elim

namespace Conduct

variable {d e : List Deed} {r : Except Fault α} {q : Except Fault β}

/-- What is done after a fault is answered changes nothing about it, so one part of an operation
may follow the other. -/
lemma bind (hd : Conduct o d r) (hok : ∀ a, r = .ok a → Conduct o e q)
    (herror : ∀ f, r = .error f → e = [] ∧ q = .error f) : Conduct o (d ++ e) q := by
  induction hd with
  | answered a => exact hok a rfl
  | refused f hf =>
    obtain ⟨rfl, rfl⟩ := herror f rfl
    exact .refused f hf
  | went x hx hrest ih =>
    exact .went x (fun c code hfail => (hx c code hfail).append e) (ih hok herror)
  | failed x message hx hnot hundo =>
    obtain ⟨rfl, rfl⟩ := herror _ rfl
    rw [List.append_nil]
    exact .failed x message hx hnot hundo

/-- **Verbatim.** A failure that is not excused is answered as it is, and nothing is asked after it
but what undoes a load. -/
lemma verbatim (h : Conduct o d r) {before after : List Deed} {x : Deed} {c : Call} {code : Code}
    (hd : d = before ++ x :: after) (hx : x.failure? = some (c, code)) :
    Excused o c code after ∨
      (∀ y ∈ after, y.Undoes) ∧ ∃ message, r = .error (.pkcs11 code message) := by
  induction h generalizing before with
  | answered a => simp at hd
  | refused f hf => simp at hd
  | went y hy hrest ih =>
    rcases before with _ | ⟨z, before⟩
    · obtain ⟨rfl, rfl⟩ := List.cons.inj hd
      exact .inl (hy c code hx)
    · exact ih (List.cons.inj hd).2
  | failed y message hy hnot hundo =>
    rcases before with _ | ⟨z, before⟩
    · obtain ⟨rfl, rfl⟩ := List.cons.inj hd
      obtain ⟨rfl, rfl⟩ : _ ∧ _ := by simpa using hy.symm.trans hx
      exact .inr ⟨hundo, message, rfl⟩
    · obtain ⟨-, rfl⟩ := List.cons.inj hd
      have hundoes := hundo x (List.mem_append_right _ List.mem_cons_self)
      exact .inl (Harmless.of_undoes hundoes c code hx after)

/-- Every fault is homemade or the failure of a call that was not excused. -/
lemma caused (h : Conduct o d r) {f : Fault} (hr : r = .error f) :
    Homemade f ∨ ∃ before x after c code message, d = before ++ x :: after ∧
      x.failure? = some (c, code) ∧ ¬ Excused o c code after ∧ f = .pkcs11 code message := by
  induction h with
  | answered a => cases hr
  | refused g hg =>
    cases hr
    exact .inl hg
  | went y hy hrest ih =>
    obtain hhome | ⟨before, x, after, c, code, message, rfl, hx⟩ := ih hr
    · exact .inl hhome
    · exact .inr ⟨y :: before, x, after, c, code, message, rfl, hx⟩
  | failed y message hy hnot hundo =>
    cases hr
    exact .inr ⟨[], y, _, _, _, message, rfl, hy, hnot, rfl⟩

end Conduct

/-! ### Parts of operations -/

open Cryptoki.Module

variable {d e : List Deed}

/-- A call that did not fail is no reason to end. -/
lemma Conduct.passed {r : Except Fault α} {j : ModuleId} {c : Call} {x : c.Answer}
    (hx : c.failure x = none) (hrest : Conduct o d r) :
    Conduct o (.asked (.call j c) x :: d) r :=
  .went _ (fun c code hfail => by simp [Deed.failure?, hx] at hfail) hrest

/-- A failure that the operation goes on after. -/
lemma Conduct.excused {r : Except Fault α} {j : ModuleId} {c : Call} {x : c.Answer} {code : Code}
    (hx : c.failure x = some code) (hexcused : Excused o c code d) (hrest : Conduct o d r) :
    Conduct o (.asked (.call j c) x :: d) r :=
  .went _ (fun c code hfail => by
    simp only [Deed.failure?, hx, Option.map_some, Option.some.injEq, Prod.mk.injEq] at hfail
    obtain ⟨rfl, rfl⟩ := hfail
    exact hexcused) hrest

/-- A failure that is the end of the operation. -/
lemma Conduct.ended {j : ModuleId} {c : Call} {x : c.Answer} {code : Code}
    (hx : c.failure x = some code) (hnot : ¬ Excused o c code []) (message : String) :
    Conduct o [.asked (.call j c) x] (.error (.pkcs11 code message) : Except Fault α) :=
  .failed _ message (by simp [Deed.failure?, hx]) hnot fun y hy => absurd hy List.not_mem_nil

/-- What follows an answer, if it is not a fault, and has no say in it if it is. -/
lemma Conduct.andThen {p : Program (Except Fault α)} {k : Except Fault α → Program (Except Fault β)}
    (hp : Conduct o (p.asked env w) (p.run env w).1) (hk : ∀ f, k (.error f) = pure (.error f))
    (hok : ∀ a v, Conduct o ((k (.ok a)).asked env v) ((k (.ok a)).run env v).1) :
    Conduct o ((p >>= k).asked env w) ((p >>= k).run env w).1 := by
  rw [asked_bind, run_bind]
  refine hp.bind (fun a ha => ?_) fun f hf => ?_
  · rw [ha]
    exact hok a _
  · rw [hf, hk]
    exact ⟨rfl, rfl⟩

/-- An answer is made of what a call returned, or is its failure. -/
def Faithful (c : Call) (answer : c.Answer → Except Fault α) : Prop :=
  ∀ x, (c.failure x = none ∧ ∃ a, answer x = .ok a) ∨
    ∃ code message, c.failure x = some code ∧ answer x = .error (.pkcs11 code message)

lemma Faithful.conduct {c : Call} {answer : c.Answer → Except Fault α} (h : Faithful c answer)
    (hnot : ∀ code, ¬ Excused o c code []) (j : ModuleId) (x : c.Answer) :
    Conduct o [.asked (.call j c) x] (answer x) := by
  obtain ⟨hpassed, a, ha⟩ | ⟨code, message, hfailed, hmessage⟩ := h x
  · rw [ha]
    exact .passed hpassed (.answered a)
  · rw [hmessage]
    exact .ended hfailed (hnot code) message

lemma Faithful.conduct_told {f : Function} {c : Call} {answer : c.Answer → Except Fault α}
    {r : Except Fault α} (h : Faithful c answer) (hnot : ∀ code, ¬ Excused o c code [])
    (htold : m.Told f c answer d r) : Conduct o d r := by
  obtain ⟨hlacks, rfl, rfl⟩ | ⟨x, rfl, rfl⟩ := htold
  · exact .refused _ (.unprovided m f hlacks)
  · exact h.conduct hnot m.id x

lemma faithful_slotInfoOf (id : SlotId) : Faithful (.getSlotInfo id true) (slotInfoOf id) := by
  intro told
  by_cases hcode : told.code ≠ .ok
  · exact .inr ⟨told.code, _, if_pos hcode, if_pos hcode⟩
  · exact .inl ⟨if_neg hcode, _, if_neg hcode⟩

lemma faithful_tokenInfoOf (id : SlotId) : Faithful (.getTokenInfo id true) (tokenInfoOf id) := by
  intro told
  by_cases hcode : told.code ≠ .ok
  · exact .inr ⟨told.code, _, if_pos hcode, if_pos hcode⟩
  · exact .inl ⟨if_neg hcode, _, if_neg hcode⟩

lemma faithful_sessionOf (slot : SlotId) (flags : Flags) (application notify place : Bool) :
    Faithful (.openSession slot flags application notify place) (sessionOf slot) := by
  intro opened
  by_cases hcode : opened.code ≠ .ok
  · exact .inr ⟨opened.code, _, if_pos hcode, if_pos hcode⟩
  by_cases hzero : opened.written.getD 0 = 0
  · exact .inr ⟨.generalError, _, (if_neg hcode).trans (if_pos hzero),
      (if_neg hcode).trans (if_pos hzero)⟩
  · exact .inl ⟨(if_neg hcode).trans (if_neg hzero), _, (if_neg hcode).trans (if_neg hzero)⟩

lemma not_excused_getSlotList {flag : UInt8} {list : Bool} {count : Option Word} {code : Code} :
    ¬ Excused o (.getSlotList flag list count) code [] := by
  rintro ⟨⟩

lemma conduct_fetched {flag : UInt8} {attempts : ℕ} {r : Except Fault (List SlotId)}
    (h : Fetched m flag attempts d r) (hattempts : 0 < attempts) : Conduct o d r := by
  induction h with
  | exhausted => exact absurd hattempts (lt_irrefl 0)
  | uncounted attempts counted hcounted =>
    exact .ended (c := .getSlotList flag false _) (if_pos hcounted) not_excused_getSlotList _
  | filled attempts counted filled hcounted hfilled =>
    exact .passed (if_neg (not_not.mpr hcounted))
      (.passed (if_neg (not_not.mpr hfilled)) (.answered _))
  | unfilled attempts counted filled hcounted hfilled hgrown =>
    exact .passed (if_neg (not_not.mpr hcounted))
      (.ended (c := .getSlotList flag true _) (if_pos hfilled) not_excused_getSlotList _)
  | @grown attempts counted filled d r hcounted hfilled hrest ih =>
    refine .passed (if_neg (not_not.mpr hcounted)) ?_
    have hfailed : (Call.getSlotList flag true (some (room counted))).failure filled =
        some .bufferTooSmall := by
      simp only [Call.failure, hfilled]
      decide
    cases hrest with
    | exhausted => exact .ended hfailed not_excused_getSlotList _
    | uncounted => exact .excused hfailed (.grown _ _ _ _ _ _ _) (ih (Nat.succ_pos _))
    | filled => exact .excused hfailed (.grown _ _ _ _ _ _ _) (ih (Nat.succ_pos _))
    | grown => exact .excused hfailed (.grown _ _ _ _ _ _ _) (ih (Nat.succ_pos _))
    | unfilled => exact .excused hfailed (.grown _ _ _ _ _ _ _) (ih (Nat.succ_pos _))

lemma conduct_listed {tokenPresent : Bool} {r : Except Fault (List SlotId)}
    (h : m.Listed tokenPresent d r) : Conduct o d r := by
  obtain ⟨hlacks, rfl, rfl⟩ | hfetched := h
  · exact .refused _ (.unprovided m _ hlacks)
  · exact conduct_fetched hfetched (by decide)

lemma conduct_searched {label : String} {ids : List SlotId} {r : Except Fault (Option SlotId)}
    (h : Searched m label ids d r) (k : Handle) :
    Conduct (.onModule k (.openSlotByLabel label)) d r := by
  induction h with
  | nowhere => exact .answered none
  | unprovided id rest hlacks => exact .refused _ (.unprovided m _ hlacks)
  | found id rest told hcode hlabel =>
    exact .passed (if_neg (not_not.mpr hcode)) (.answered _)
  | other id told hcode hlabel hrest ih => exact .passed (if_neg (not_not.mpr hcode)) ih
  | @gone id rest told d r hcode hrest ih =>
    have hfailed : (Call.getTokenInfo id true).failure told = some .tokenNotPresent := by
      simp only [Call.failure, hcode]
      decide
    exact .excused hfailed (.gone k label id true d) ih
  | failed id rest told hcode hgone =>
    have hfailed : (Call.getTokenInfo id true).failure told = some told.code := if_pos hcode
    refine .ended hfailed ?_ _
    generalize told.code = code at hgone
    rintro ⟨⟩
    exact hgone rfl

lemma Conduct.harmless {r : Except Fault α} (hd : ∀ x ∈ d, Harmless o x) (h : Conduct o e r) :
    Conduct o (d ++ e) r := by
  induction d with
  | nil => exact h
  | cons x d ih =>
    obtain ⟨hx, hrest⟩ := List.forall_mem_cons.mp hd
    exact .went x (fun c code hfail => hx c code hfail _) (ih hrest)

lemma conduct_of_harmless (hd : ∀ x ∈ d, Harmless o x) (a : α) : Conduct o d (.ok a) := by
  simpa using Conduct.harmless hd (.answered a)

lemma conduct_poll (patience : ℕ) (w : World σ) :
    Conduct o ((m.poll patience).asked env w) ((m.poll patience).run env w).1 := by
  induction patience generalizing w with
  | zero => exact .answered none
  | succ patience ih =>
    rw [poll, asked_bind, run_bind, asked_ask]
    refine .went _ (fun c code hfail => by cases hfail) ?_
    refine Conduct.andThen (conduct_listed (listed_slotList env m true _)) (fun _ => rfl) ?_
    rintro (_ | ⟨id, rest⟩) v
    · exact ih v
    · exact .answered _

lemma conduct_waitForSlot (k : Handle) (patience : ℕ) (w : World σ) :
    Conduct (.onModule k (.waitForSlot patience)) ((m.waitForSlot patience).asked env w)
      ((m.waitForSlot patience).run env w).1 := by
  have hpoll : ∀ v, Conduct (.onModule k (.waitForSlot patience))
      ((m.pollInstead patience).asked env v) ((m.pollInstead patience).run env v).1 := by
    intro v
    rw [pollInstead, asked_bind, run_bind, asked_say]
    exact conduct_poll patience _
  unfold Module.waitForSlot
  split_ifs
  · rw [asked_bind, run_bind, asked_call, run_call]
    generalize env.answer (.call m.id (.waitForSlotEvent 0 true)) w.outside = told
    obtain ⟨event, outside⟩ : Reply SlotId × σ := told
    dsimp only
    split_ifs with hcode hevents
    · exact .passed (if_neg (not_not.mpr hcode)) (.answered _)
    · refine .excused (if_pos hcode) ?_ (hpoll _)
      rw [hevents]
      exact .eventless _ _ _ _ _
    · refine .ended (c := .waitForSlotEvent 0 true) (if_pos hcode) ?_ _
      generalize event.code = code at hevents
      rintro ⟨⟩
      exact hevents rfl
  · exact hpoll w

lemma conduct_openSession (slot : SlotId) (readWrite : Bool) (w : World σ) :
    Conduct o ((m.openSession slot readWrite).asked env w)
      ((m.openSession slot readWrite).run env w).1 := by
  obtain ⟨opened, hasked, hanswer, -⟩ := asked_openSession env m slot w readWrite
  rw [hasked, hanswer]
  exact (faithful_sessionOf _ _ _ _ _).conduct (by rintro code ⟨⟩) m.id opened

lemma conduct_login (slot : SlotId) (session : SessionId) (user : User) (secret : Option Bytes)
    (w : World σ) : Conduct o ((m.login slot session user secret).asked env w)
      ((m.login slot session user secret).run env w).1 := by
  obtain ⟨code, hasked, hanswer, -⟩ := asked_login env m slot session w user secret
  rw [hasked, hanswer]
  split_ifs with hnone hcode
  · exact .refused _ (.codeless rfl)
  · exact .ended (c := .login ..) (if_pos hcode) (by rintro ⟨⟩) _
  · exact .passed (if_neg hcode) (.answered ())

/-! ### Whole operations -/

lemma ModuleOp.conduct_effect (h : Handle) (m : Module) (o : ModuleOp) (w : World σ) :
    Conduct (.onModule h o) ((o.effect h m).asked env w) ((o.effect h m).run env w).1 := by
  cases o with
  | info => exact .answered _
  | unload =>
    have hanswer : ((ModuleOp.unload.effect h m).run env w).1 = .ok () := by
      rw [effect, run_bind, run_bind, run_bind, run_bind, run_pure]
    have hwithin : (ModuleOp.unload.effect h m).Within (fun _ => True) fun r =>
        r = .call m.id (.finalize false) ∨ r = .closeLibrary m.id :=
      within_bind (within_touch.mpr trivial) fun _ => within_bind (within_touch.mpr trivial)
        fun _ => within_bind (within_say _ _ _) fun _ => within_bind (within_release m)
        fun _ => within_pure _
    rw [hanswer]
    refine conduct_of_harmless (fun x hx => .of_undoes ?_) ()
    obtain ⟨r, y, rfl, rfl | rfl⟩ := hwithin.asked env w x hx <;> trivial
  | slotList tokenPresent => exact conduct_listed (listed_slotList env m tokenPresent w)
  | openSlot id =>
    refine Conduct.andThen ((faithful_slotInfoOf id).conduct_told (by rintro code ⟨⟩)
      (told_slotInfo env m id w)) (fun _ => rfl) fun info v => ?_
    exact .answered _
  | openSlotByLabel label =>
    refine Conduct.andThen ?_ (fun _ => rfl) ?_
    · exact Conduct.andThen (conduct_listed (listed_slotList env m true w)) (fun _ => rfl)
        fun ids v => conduct_searched (searched_firstLabelled env m label ids v) h
    · rintro (_ | id) v
      · exact .refused _ (.codeless rfl)
      · exact .answered _
  | waitForSlot patience =>
    refine Conduct.andThen (conduct_waitForSlot h patience w) (fun _ => rfl) ?_
    rintro (_ | id) v
    · exact .answered _
    · exact .answered _
  | openSessions => exact .answered _

lemma SlotOp.conduct_effect (h s : Handle) (m : Module) (id : SlotId) (o : SlotOp) (w : World σ) :
    Conduct (.onSlot h s o) ((o.effect s m id).asked env w) ((o.effect s m id).run env w).1 := by
  cases o with
  | close => exact .answered ()
  | slotInfo =>
    exact (faithful_slotInfoOf id).conduct_told (by rintro code ⟨⟩) (told_slotInfo env m id w)
  | tokenInfo =>
    exact (faithful_tokenInfoOf id).conduct_told (by rintro code ⟨⟩) (told_tokenInfo env m id w)
  | openSession readWrite => exact conduct_openSession id readWrite w
  | closeSession session =>
    obtain ⟨code, hasked⟩ := asked_closeSession env m id session w
    rw [effect, asked_bind, run_bind, hasked, asked_pure, run_pure, List.append_nil]
    refine conduct_of_harmless (fun x hx => ?_) ()
    split_ifs at hx
    · obtain rfl := List.mem_singleton.mp hx
      exact harmless_call code (.closing h s session)
    · cases hx
  | login session user secret => exact conduct_login id session user secret w
  | logout session =>
    obtain ⟨code, hasked⟩ := asked_logout env m id session w
    rw [effect, asked_bind, run_bind, hasked, asked_pure, run_pure, List.append_nil]
    refine conduct_of_harmless (fun x hx => ?_) ()
    split_ifs at hx
    · cases hx
    · obtain rfl := List.mem_singleton.mp hx
      exact harmless_call code (.leaving h s session)
  | sessionState session =>
    rw [effect, asked_bind, run_bind]
    rcases ((m.sessionState id session).run env w).1 with _ | state
    · exact .refused _ (.codeless rfl)
    · exact .answered state

/-! ### Loads -/

section Load

variable {loader : Loader} {id : ModuleId} {path : String} {stages : List Stage}
  {last : Option (Stage × Fault)}

lemma failure_of_call {j : ModuleId} {c : Call} {x : c.Answer} {code : Code}
    (hx : c.failure x = some code) : (Deed.asked (.call j c) x).failure? = some (c, code) := by
  rw [Deed.failure?, hx]
  rfl

/-- An answer that refuses a stage is the failure of a call, or no call failed and the fault has no
code. -/
lemma refusal_cases (s : Stage) {x : (s.request loader id path).Answer} {f : Fault}
    (hrefused : s.refusal loader id path x = some f) :
    (f.code = none ∧ (Deed.asked (s.request loader id path) x).failure? = none) ∨
      ∃ c code message, (Deed.asked (s.request loader id path) x).failure? = some (c, code) ∧
        f = .pkcs11 code message ∧ ∀ d, ¬ Excused (.load loader path) c code d := by
  cases s with
  | opening =>
    rcases x with reason | _
    · cases hrefused
      exact .inl ⟨rfl, rfl⟩
    · cases hrefused
  | finding =>
    rcases x with reason | _
    · cases hrefused
      exact .inl ⟨rfl, rfl⟩
    · cases hrefused
  | listing =>
    obtain ⟨code, written⟩ : Reply FunctionList := x
    by_cases hcode : code ≠ .ok
    · obtain rfl : _ = f := Option.some.inj ((if_pos hcode).symm.trans hrefused)
      exact .inr ⟨_, code, _, failure_of_call (if_pos hcode), rfl, by rintro d ⟨⟩⟩
    · have hpassed : (Deed.asked (Stage.listing.request loader id path) ⟨code, written⟩).failure? =
          none := by
        rw [Deed.failure?, Call.failure, if_neg hcode]
        rfl
      have hwritten := (if_neg hcode).symm.trans hrefused
      rcases written with _ | list
      · cases hwritten
        exact .inl ⟨rfl, hpassed⟩
      · obtain ⟨missing, -, rfl⟩ := Option.map_eq_some_iff.mp hwritten
        exact .inl ⟨rfl, hpassed⟩
  | starting =>
    by_cases hcode : (x : Code) ≠ .ok
    · obtain rfl : _ = f := Option.some.inj ((if_pos hcode).symm.trans hrefused)
      exact .inr ⟨_, x, _, failure_of_call (if_pos hcode), rfl, by rintro d ⟨⟩⟩
    · cases (if_neg hcode).symm.trans hrefused
  | telling =>
    by_cases hcode : (x : Reply Record.Library).code ≠ .ok
    · obtain rfl : _ = f := Option.some.inj ((if_pos hcode).symm.trans hrefused)
      exact .inr ⟨_, _, _, failure_of_call (if_pos hcode), rfl, by rintro d ⟨⟩⟩
    · cases (if_neg hcode).symm.trans hrefused

lemma failure_of_passed (s : Stage) {x : (s.request loader id path).Answer}
    (hpass : s.refusal loader id path x = none) :
    (Deed.asked (s.request loader id path) x).failure? = none := by
  cases s with
  | opening => rfl
  | finding => rfl
  | listing =>
    obtain ⟨code, written⟩ : Reply FunctionList := x
    by_cases hcode : code ≠ .ok
    · cases (if_pos hcode).symm.trans hpass
    · rw [Deed.failure?, Call.failure, if_neg hcode]
      rfl
  | starting =>
    by_cases hcode : (x : Code) ≠ .ok
    · cases (if_pos hcode).symm.trans hpass
    · rw [Deed.failure?, Call.failure, if_neg hcode]
      rfl
  | telling =>
    by_cases hcode : (x : Reply Record.Library).code ≠ .ok
    · cases (if_pos hcode).symm.trans hpass
    · rw [Deed.failure?, Call.failure, if_neg hcode]
      rfl

lemma undoes_of_undoing (s : Stage) {undone : List Deed}
    (hundone : undone.map Deed.request? = (s.undoing id).map some) : ∀ x ∈ undone, x.Undoes := by
  intro x hx
  have hmem : x.request? ∈ (s.undoing id).map some := hundone ▸ List.mem_map_of_mem hx
  obtain ⟨r, hr, hrequest⟩ := List.mem_map.mp hmem
  have hundoing : r = .call id (.finalize false) ∨ r = .closeLibrary id := by
    cases s <;> simp_all [Stage.undoing, Stage.finalizing]
  cases x with
  | accessed a x => cases hrequest
  | asked q x =>
    cases hrequest
    obtain rfl | rfl := hundoing <;> trivial

lemma conduct_course {r : Except Fault α}
    (h : Course loader id path (Stage.undoing id) stages d last)
    (hok : last = none → ∃ a, r = .ok a) (herror : ∀ s f, last = some (s, f) → r = .error f) :
    Conduct (.load loader path) d r := by
  induction h with
  | through =>
    obtain ⟨a, rfl⟩ := hok rfl
    exact .answered a
  | passed s x hpass hrest ih =>
    refine .went _ (fun c code hfail => ?_) (ih hok herror)
    rw [failure_of_passed s hpass] at hfail
    cases hfail
  | refused s x f undone hrefused hundone =>
    obtain rfl := herror s f rfl
    have hundo := undoes_of_undoing s hundone
    obtain ⟨hcode, hnone⟩ | ⟨c, code, message, hfailed, rfl, hnot⟩ := refusal_cases s hrefused
    · refine .went _ (fun c code hfail => ?_) ?_
      · rw [hnone] at hfail
        cases hfail
      · simpa using Conduct.harmless (fun y hy => .of_undoes (hundo y hy))
          (.refused f (.codeless hcode))
    · exact .failed _ message hfailed (hnot undone) hundo

end Load

lemma conduct_load (env : Environment σ) (loader : Loader) (path : String) (w : World σ) :
    Conduct (.load loader path) ((Host.load loader path).asked env w)
      ((Host.load loader path).run env w).1 := by
  by_cases hpath : path = ""
  · subst hpath
    exact .refused _ (.codeless rfl)
  obtain ⟨last, hcourse, hanswer⟩ := course_load env loader hpath w
  refine conduct_course hcourse ?_ ?_
  · rintro rfl
    exact fault?_eq_none.mp hanswer
  · rintro s f rfl
    exact fault?_eq_some.mp hanswer

/-! ### All operations -/

lemma Agree.conduct {p q : Program (Except Fault α)} (h : p.Agree env Same q w w)
    (hq : Conduct o (q.asked env w) (q.run env w).1) :
    Conduct o (p.asked env w) (p.run env w).1 := by
  rw [h.asked_eq rfl, h.answer]
  exact hq

lemma Refuses.conduct {p : Program (Except Fault α)} {f : Fault} (h : Refuses env w p f)
    (hf : f.code = none) : Conduct o (p.asked env w) (p.run env w).1 :=
  Agree.conduct h (.refused f (.codeless hf))

/-- **What an operation does.** It goes on until a call fails and answers the failure. -/
lemma Operation.conduct (hw : Accounted w.process held) (o : Operation) :
    Conduct o (o.program.asked env w) (o.program.run env w).1 := by
  cases o with
  | load loader path => exact conduct_load env loader path w
  | onModule h o =>
    obtain ⟨m, -, hagree⟩ | ⟨kind, hrefuses⟩ := o.agree_or_refuses env hw h
    · exact Agree.conduct hagree (o.conduct_effect h m w)
    · exact hrefuses.conduct rfl
  | onSlot h s o =>
    obtain ⟨m, id, -, -, hagree⟩ | ⟨kind, k, hrefuses⟩ := o.agree_or_refuses env hw h s
    · exact Agree.conduct hagree (o.conduct_effect h s m id w)
    · exact hrefuses.conduct rfl

end Host

end Cryptoki
