import Cryptoki.Proofs.Module.Bounds
import Cryptoki.Proofs.Program.Deeds
import Cryptoki.Proofs.Session.Table

/-!
What the operations on a module ask of its library, and what comes of it.

Most of them ask one thing, if anything. The loops have a relation between what was asked in them,
with the answers, and what they came to: fetching a list that may grow meanwhile, and looking for a
label in one slot after the other. A relation has one constructor for each way in which a round can
go.
-/

namespace Cryptoki

open Program

/-- An access that leaves the table of sessions as it is changes nothing. -/
lemma Process.same_sessions {p : Process} {j : ModuleId} {a : Sessions.Access}
    (ha : (a.apply (p.sessionsOf j)).2 = p.sessionsOf j) :
    p.Same (Access.apply p (.sessions j a)).2 := by
  refine same_iff.mpr ⟨rfl, rfl, rfl, rfl, fun k => ?_⟩
  rw [Access.apply, share_put]
  split_ifs with hk
  · rw [hk]
    exact congrArg (fun t => { Access.share p j with sessions := t }) ha
  · rfl

/-- Looking a session up changes nothing. -/
lemma Process.same_find (p : Process) (j : ModuleId) (slot : SlotId) (session : SessionId) :
    p.Same (Access.apply p (.sessions j (.find slot session))).2 :=
  same_sessions rfl

namespace Module

variable {σ : Type} {m : Module} {flag : UInt8} {label : String} {id : SlotId}

/-! ### Slots and tokens -/

/-- A function that a library may lack was called once, and the answer came of what it told; or the
library lacks it. -/
def Told {α : Type} (m : Module) (f : Function) (c : Call) (answer : c.Answer → Except Fault α)
    (d : List Deed) (r : Except Fault α) : Prop :=
  (m.functions.provides f = false ∧ d = [] ∧ r = .error (m.notProvided f)) ∨
    ∃ x, d = [.asked (.call m.id c) x] ∧ r = answer x

/-- What a library tells of a slot. -/
def slotInfoOf (id : SlotId) (told : Reply Record.Slot) : Except Fault SlotInfo :=
  if told.code ≠ .ok then .error (.pkcs11 told.code s!"C_GetSlotInfo for PKCS#11 slot {id} failed")
  else .ok (.ofRecord id (told.written.getD .blank))

/-- What a library tells of the token in a slot. -/
def tokenInfoOf (id : SlotId) (told : Reply Record.Token) : Except Fault TokenInfo :=
  if told.code ≠ .ok then
    .error (.pkcs11 told.code s!"C_GetTokenInfo for PKCS#11 slot {id} failed")
  else .ok (.ofRecord (told.written.getD .blank))

lemma told_slotInfo (env : Environment σ) (m : Module) (id : SlotId) (w : World σ) :
    m.Told .getSlotInfo (.getSlotInfo id true) (slotInfoOf id) ((m.slotInfo id).asked env w)
      ((m.slotInfo id).run env w).1 := by
  unfold slotInfo
  split_ifs with hprovided
  · rw [run_bind, asked_bind, run_call, asked_call]
    generalize (env.answer (.call m.id (.getSlotInfo id true)) w.outside).1 = told
    refine .inr ⟨told, ?_, ?_⟩
    · split_ifs <;> rfl
    · unfold slotInfoOf
      split_ifs <;> rfl
  · exact .inl ⟨by simpa using hprovided, rfl, rfl⟩

lemma told_tokenInfo (env : Environment σ) (m : Module) (id : SlotId) (w : World σ) :
    m.Told .getTokenInfo (.getTokenInfo id true) (tokenInfoOf id) ((m.tokenInfo id).asked env w)
      ((m.tokenInfo id).run env w).1 := by
  unfold tokenInfo
  split_ifs with hprovided
  · rw [run_bind, asked_bind, run_call, asked_call]
    generalize (env.answer (.call m.id (.getTokenInfo id true)) w.outside).1 = told
    refine .inr ⟨told, ?_, ?_⟩
    · split_ifs <;> rfl
    · unfold tokenInfoOf
      split_ifs <;> rfl
  · exact .inl ⟨by simpa using hprovided, rfl, rfl⟩

/-! ### Fetching a list -/

/-- Asking for the number of slots. -/
abbrev counting (m : Module) (flag : UInt8) (counted : Reply SlotListing) : Deed :=
  .asked (.call m.id (.getSlotList flag false (some 0))) counted

/-- The room that is made for the slots. -/
def room (counted : Reply SlotListing) : Word := (counted.written.getD ⟨[], 0⟩).count

/-- Asking for the slots themselves. -/
abbrev filling (m : Module) (flag : UInt8) (room : Word) (filled : Reply SlotListing) : Deed :=
  .asked (.call m.id (.getSlotList flag true (some room))) filled

/-- How a list was fetched in so many attempts: each asks for the number and then for the slots, and
only a list that has grown in between makes for another. -/
inductive Fetched (m : Module) (flag : UInt8) :
    ℕ → List Deed → Except Fault (List SlotId) → Prop
  | exhausted : Fetched m flag 0 [] (.error (failed m.name .getSlotList .bufferTooSmall))
  | uncounted (attempts : ℕ) (counted : Reply SlotListing) (hcounted : counted.code ≠ .ok) :
      Fetched m flag (attempts + 1) [m.counting flag counted]
        (.error (failed m.name .getSlotList counted.code))
  | filled (attempts : ℕ) (counted filled : Reply SlotListing) (hcounted : counted.code = .ok)
      (hfilled : filled.code = .ok) :
      Fetched m flag (attempts + 1) [m.counting flag counted, m.filling flag (room counted) filled]
        (.ok (listed (room counted) filled.written))
  | grown {attempts : ℕ} (counted filled : Reply SlotListing) {d : List Deed}
      {r : Except Fault (List SlotId)} (hcounted : counted.code = .ok)
      (hfilled : filled.code = .bufferTooSmall) (hrest : Fetched m flag attempts d r) :
      Fetched m flag (attempts + 1)
        (m.counting flag counted :: m.filling flag (room counted) filled :: d) r
  | unfilled (attempts : ℕ) (counted filled : Reply SlotListing) (hcounted : counted.code = .ok)
      (hfilled : filled.code ≠ .ok) (hgrown : filled.code ≠ .bufferTooSmall) :
      Fetched m flag (attempts + 1) [m.counting flag counted, m.filling flag (room counted) filled]
        (.error (failed m.name .getSlotList filled.code))

lemma fetched_fetchSlots (env : Environment σ) (m : Module) (flag : UInt8) (attempts : ℕ)
    (w : World σ) : Fetched m flag attempts ((m.fetchSlots flag attempts).asked env w)
      ((m.fetchSlots flag attempts).run env w).1 := by
  induction attempts generalizing w with
  | zero => exact .exhausted
  | succ attempts ih =>
    rw [fetchSlots, run_bind, asked_bind, run_call, asked_call]
    generalize env.answer (.call m.id (.getSlotList flag false (some 0))) w.outside = told
    obtain ⟨counted, outside⟩ : Reply SlotListing × σ := told
    dsimp only
    split_ifs with hcounted
    · exact .uncounted attempts counted hcounted
    have hcounted := not_not.mp hcounted
    rw [run_bind, asked_bind, run_call, asked_call]
    generalize env.answer (.call m.id (.getSlotList flag true (some _))) outside = told
    obtain ⟨filled, outside⟩ : Reply SlotListing × σ := told
    dsimp only
    split_ifs with hfilled hgrown
    · exact .filled attempts counted filled hcounted hfilled
    · rw [run_bind, asked_bind]
      exact .grown counted filled hcounted hgrown (ih _)
    · exact .unfilled attempts counted filled hcounted hfilled hgrown

/-- A list that was fetched, or that the library cannot give. -/
def Listed (m : Module) (tokenPresent : Bool) (d : List Deed) (r : Except Fault (List SlotId)) :
    Prop :=
  (m.functions.provides .getSlotList = false ∧ d = [] ∧ r = .error (m.notProvided .getSlotList)) ∨
    Fetched m (if tokenPresent then 1 else 0) listAttempts d r

lemma listed_slotList (env : Environment σ) (m : Module) (tokenPresent : Bool) (w : World σ) :
    m.Listed tokenPresent ((m.slotList tokenPresent).asked env w)
      ((m.slotList tokenPresent).run env w).1 := by
  unfold slotList
  split_ifs with hprovided htoken
  · subst htoken
    exact .inr (fetched_fetchSlots env m 1 listAttempts w)
  · rw [Bool.not_eq_true] at htoken
    subst htoken
    exact .inr (fetched_fetchSlots env m 0 listAttempts w)
  · exact .inl ⟨by simpa using hprovided, rfl, rfl⟩

/-! ### Looking for a label -/

/-- Asking for the token in a slot. -/
abbrev inspecting (m : Module) (id : SlotId) (told : Reply Record.Token) : Deed :=
  .asked (.call m.id (.getTokenInfo id true)) told

/-- How a label was looked for in some slots: their tokens were asked for in turn, up to the first
that bears the label, and slots whose token is gone by then were passed over. -/
inductive Searched (m : Module) (label : String) :
    List SlotId → List Deed → Except Fault (Option SlotId) → Prop
  | nowhere : Searched m label [] [] (.ok none)
  | unprovided (id : SlotId) (rest : List SlotId)
      (hlacks : m.functions.provides .getTokenInfo = false) :
      Searched m label (id :: rest) [] (.error (m.notProvided .getTokenInfo))
  | found (id : SlotId) (rest : List SlotId) (told : Reply Record.Token) (hcode : told.code = .ok)
      (hlabel : (TokenInfo.ofRecord (told.written.getD .blank)).label = label) :
      Searched m label (id :: rest) [m.inspecting id told] (.ok (some id))
  | other (id : SlotId) {rest : List SlotId} (told : Reply Record.Token) {d : List Deed}
      {r : Except Fault (Option SlotId)} (hcode : told.code = .ok)
      (hlabel : (TokenInfo.ofRecord (told.written.getD .blank)).label ≠ label)
      (hrest : Searched m label rest d r) :
      Searched m label (id :: rest) (m.inspecting id told :: d) r
  | gone (id : SlotId) {rest : List SlotId} (told : Reply Record.Token) {d : List Deed}
      {r : Except Fault (Option SlotId)} (hcode : told.code = .tokenNotPresent)
      (hrest : Searched m label rest d r) :
      Searched m label (id :: rest) (m.inspecting id told :: d) r
  | failed (id : SlotId) (rest : List SlotId) (told : Reply Record.Token) (hcode : told.code ≠ .ok)
      (hgone : told.code ≠ .tokenNotPresent) :
      Searched m label (id :: rest) [m.inspecting id told]
        (.error (.pkcs11 told.code s!"C_GetTokenInfo for PKCS#11 slot {id} failed"))

lemma searched_firstLabelled (env : Environment σ) (m : Module) (label : String)
    (ids : List SlotId) (w : World σ) :
    Searched m label ids ((m.firstLabelled label ids).asked env w)
      ((m.firstLabelled label ids).run env w).1 := by
  induction ids generalizing w with
  | nil => exact .nowhere
  | cons id rest ih =>
    rw [firstLabelled, run_bind, asked_bind]
    obtain ⟨hlacks, hasked, hanswer⟩ | ⟨told, hasked, hanswer⟩ := told_tokenInfo env m id w
    · rw [hasked, hanswer]
      exact .unprovided id rest hlacks
    rw [hasked, hanswer, tokenInfoOf]
    by_cases hcode : told.code = .ok
    · simp only [hcode, ne_eq, not_true_eq_false, if_false]
      split_ifs with hlabel
      · exact .found id rest told hcode hlabel
      · exact .other id told hcode hlabel (ih _)
    · simp only [ne_eq, hcode, not_false_eq_true, if_true, Fault.code, Option.some.injEq]
      split_ifs with hgone
      · exact .gone id told hgone (ih _)
      · exact .failed id rest told hcode hgone

/-! ### Sessions -/

/-- The session that was opened, unless the call failed or gave it no number. -/
def sessionOf (slot : SlotId) (opened : Reply SessionId) : Except Fault SessionId :=
  if opened.code ≠ .ok then
    .error (.pkcs11 opened.code s!"C_OpenSession for PKCS#11 slot {slot} failed")
  else if opened.written.getD 0 = 0 then
    .error (.pkcs11 .generalError s!"C_OpenSession for PKCS#11 slot {slot} returned no session")
  else .ok (opened.written.getD 0)

variable (env : Environment σ) (m : Module) (slot : SlotId) (session : SessionId) (w : World σ)

/-- The library is asked in any case, and a session that it refused leaves no trace. -/
lemma asked_openSession (readWrite : Bool) : ∃ opened,
    (m.openSession slot readWrite).asked env w =
        [.asked (.call m.id (.openSession slot (sessionFlags readWrite) false false true)) opened] ∧
      ((m.openSession slot readWrite).run env w).1 = sessionOf slot opened ∧
      ∀ f, sessionOf slot opened = .error f →
        ((m.openSession slot readWrite).run env w).2.process = w.process := by
  rw [openSession, run_bind, asked_bind, run_call, asked_call]
  refine ⟨(env.answer (.call m.id (.openSession slot (sessionFlags readWrite) false false true))
    w.outside).1, ?_⟩
  unfold sessionFlags sessionOf
  generalize env.answer _ w.outside = told
  obtain ⟨opened, outside⟩ : Reply SessionId × σ := told
  dsimp only
  by_cases hcode : opened.code ≠ .ok
  · simp only [if_pos hcode]
    exact ⟨rfl, rfl, fun _ _ => rfl⟩
  by_cases hzero : opened.written.getD 0 = 0
  · simp only [if_neg hcode, if_pos hzero]
    exact ⟨rfl, rfl, fun _ _ => rfl⟩
  · simp only [if_neg hcode, if_neg hzero]
    exact ⟨rfl, rfl, fun f hf => by cases hf⟩

/-- The library is asked to close what is tracked for the slot. -/
lemma asked_closeSession : ∃ code, (m.closeSession slot session).asked env w =
    if ((w.process.sessionsOf m.id).find slot session).isSome then
      [.asked (.call m.id (.closeSession session)) code]
    else [] := by
  have hknown : (Process.Access.apply w.process (.sessions m.id (.forget slot session))).1 =
      ((w.process.sessionsOf m.id).find slot session).isSome :=
    Sessions.forget_fst _ _ _
  rw [closeSession, asked_bind, asked_touch, run_touch, hknown, List.nil_append]
  split_ifs
  · refine ⟨(env.answer (.call m.id (.closeSession session)) w.outside).1, ?_⟩
    rw [asked_bind, asked_call]
    split_ifs <;> rfl
  · exact ⟨.ok, rfl⟩

/-- The library is asked to log in to what is tracked for the slot, and a login that failed leaves
no trace. -/
lemma asked_login (user : User) (secret : Option Bytes) : ∃ code,
    (m.login slot session user secret).asked env w =
        (if ((w.process.sessionsOf m.id).find slot session).isNone then []
        else [.asked (.call m.id (.login session user.code (pinOf secret)
          (UInt64.ofNat ((pinOf secret).getD []).length))) code]) ∧
      ((m.login slot session user secret).run env w).1 =
        (if ((w.process.sessionsOf m.id).find slot session).isNone then
          .error (.invalidHandle s!"session {session} for slot {slot} of {m.name}")
        else if code ≠ .ok then .error (.pkcs11 code s!"C_Login for PKCS#11 slot {slot} failed")
        else .ok ()) ∧
      ∀ f, ((m.login slot session user secret).run env w).1 = .error f →
        w.process.Same ((m.login slot session user secret).run env w).2.process := by
  have hknown : (Process.Access.apply w.process (.sessions m.id (.find slot session))).1 =
      (w.process.sessionsOf m.id).find slot session := rfl
  have hsame := w.process.same_find m.id slot session
  rw [login, asked_bind, run_bind, asked_touch, run_touch, hknown, List.nil_append]
  generalize (Process.Access.apply w.process (.sessions m.id (.find slot session))).2 = p at hsame ⊢
  by_cases hnone : ((w.process.sessionsOf m.id).find slot session).isNone = true
  · simp only [if_pos hnone]
    exact ⟨.ok, rfl, rfl, fun _ _ => hsame⟩
  · simp only [if_neg hnone]
    rw [run_bind, asked_bind, run_call, asked_call]
    generalize env.answer _ w.outside = told
    obtain ⟨code, outside⟩ : Code × σ := told
    refine ⟨code, ?_⟩
    by_cases hcode : code ≠ .ok
    · simp only [if_pos hcode]
      exact ⟨rfl, rfl, fun _ _ => hsame⟩
    · simp only [if_neg hcode]
      exact ⟨rfl, rfl, fun f hf => by cases hf⟩

/-- The library is asked to log out of what is tracked for the slot. -/
lemma asked_logout : ∃ code, (m.logout slot session).asked env w =
    if ((w.process.sessionsOf m.id).find slot session).isNone then []
    else [.asked (.call m.id (.logout session)) code] := by
  have hknown : (Process.Access.apply w.process (.sessions m.id (.find slot session))).1 =
      (w.process.sessionsOf m.id).find slot session := rfl
  rw [logout, asked_bind, asked_touch, run_touch, hknown, List.nil_append]
  split_ifs
  · exact ⟨.ok, rfl⟩
  · refine ⟨(env.answer (.call m.id (.logout session)) w.outside).1, ?_⟩
    rw [asked_bind, asked_call]
    split_ifs <;> rfl

end Module

end Cryptoki
